import PassChain.Pool

/-!
The drawing of one frame. Each pass samples what the pass before it drew, the first one the input
frame; each draws into a target of its own, except the last, which draws on the screen. A frame
that cannot be drawn to its end is dropped, and the ring of input frames stays where it is.
-/

namespace PassChain

/-- Where on the screen the chain draws, and the size of the screen. -/
structure Viewport where
  x : UInt32 := 0
  y : UInt32 := 0
  width : UInt32 := 0
  height : UInt32 := 0
  fullWidth : UInt32 := 0
  fullHeight : UInt32 := 0
deriving DecidableEq, Repr

namespace Viewport

def full (size : Size) : Viewport := ⟨0, 0, size.width, size.height, size.width, size.height⟩

def size (v : Viewport) : Size := ⟨v.width, v.height⟩

def rect (v : Viewport) : Rect := ⟨v.x, v.y, v.width, v.height⟩

end Viewport

/-- A pass that is ready to draw. -/
structure CompiledPass where
  label : String
  program : ProgramId
  table : BindingTable
  geometry : GeometryCache
  scale : ScaleRules
  format : TexelFormat
  vertexBuffer : BufferId
  uniformBuffer : BufferId
  /-- the contents of the uniform buffer as last written -/
  uniforms : List UInt8
deriving DecidableEq, Repr

/-- What the sequencer is doing. -/
inductive Phase where
  | idle
  | renderingPass (index : Nat)
  | renderingFinalPass
  | presented
deriving DecidableEq, Repr

def Phase.description : Phase → String
  | idle => "Idle"
  | renderingPass index => s!"RenderingPass({index})"
  | renderingFinalPass => "RenderingFinalPass"
  | presented => "Presented"

/-- What became of a frame. -/
inductive FrameOutcome where
  /-- all passes drew, and the frame is shown -/
  | presented
  /-- there was no new frame; the old picture stays -/
  | repeated
  /-- a pass failed; nothing is shown -/
  | aborted (pass : Nat) (reason : Error)
deriving DecidableEq, Repr

/-- The account of a frame. -/
structure FrameReport where
  passesDrawn : Nat
  outcome : FrameOutcome
deriving DecidableEq, Repr

namespace FrameReport

/-- The account when there is no new frame. -/
def repeated : FrameReport := ⟨0, .repeated⟩

def isPresented (r : FrameReport) : Bool := r.outcome == .presented

end FrameReport

/-- What all passes of a frame share from outside the pool. -/
structure FrameInputs where
  viewport : Viewport
  rotation : UInt32
  frameCount : Nat
  direction : Int
  tracked : List Single
deriving DecidableEq, Repr

/-- The input frames as all passes of a frame see them. -/
structure FrameTextures where
  /-- the frame to draw -/
  orig : TextureState
  /-- the frames before it, the last one first -/
  history : List TextureState
deriving DecidableEq, Repr

/-- The input frames that a ring holds. -/
def History.frameTextures (h : History) : FrameTextures :=
  let state (slot : HistorySlot) : TextureState := ⟨slot.texture, slot.size, h.texel⟩
  ⟨state h.current, h.previous.map state⟩

/-- The device, the textures and one pass, while the pass draws. -/
structure PassState (δ : Type) where
  device : δ
  pool : TexturePool
  pass : CompiledPass

/-- Where a pass draws, and how. -/
structure Canvas where
  destination : Destination
  rect : Rect
  clear : Bool
  /-- what later passes can sample, if anything -/
  produced : Option TextureState
deriving DecidableEq, Repr

/-- How far a frame was drawn, and the state it left. -/
structure DrawnPasses (δ : Type) where
  device : δ
  pool : TexturePool
  passes : List CompiledPass
  drawn : Nat
  phase : Phase
  /-- the error that stopped the frame -/
  failure : Option Error

section

variable {δ : Type} [GpuDevice δ]

namespace PassState

def onDevice {α : Type} (call : Attempt δ α) : Attempt (PassState δ) α :=
  call.on (·.device) fun device s => { s with device }

/-- The size of the output of a pass, its canvas and its projection. -/
def canvas (inputs : FrameInputs) (index : Nat) (final : Bool) (source : TextureState) :
    Attempt (PassState δ) (Size × Matrix4 Single × Canvas) := do
  if final then
    let size := inputs.viewport.size
    pure (size, projection size inputs.rotation,
      { destination := .backbuffer, rect := inputs.viewport.rect, clear := false,
        produced := none })
  else
    let s ← get
    let size ← Attempt.ofExcept .scale (s.pass.scale.resolve source.content inputs.viewport.size)
    let (target, status, pool) ← onDevice (s.pool.ensureTarget index size s.pass.format)
    modify fun s => { s with pool }
    pure (size, projection size 0, {
      destination := .texture target.texture
      rect := ⟨0, 0, size.width, size.height⟩
      clear := status.isFresh
      produced := some ⟨target.texture, size, target.texel⟩ })

/-- Brings the vertex buffer up to date. If that fails, the next frame tries again. -/
def uploadQuad (key : QuadKey) : Attempt (PassState δ) Unit := do
  let s ← get
  let (rebuilt, geometry) := s.pass.geometry.update key
  set { s with pass := { s.pass with geometry } }
  if rebuilt then
    try onDevice (GpuDevice.writeBuffer s.pass.vertexBuffer geometry.quad.toBytes)
    catch e =>
      modify fun s => { s with pass := { s.pass with geometry := s.pass.geometry.invalidate } }
      throw e

/-- Draws a pass, and answers what later passes can sample of it. -/
def draw (inputs : FrameInputs) (textures : FrameTextures) (index : Nat) (final : Bool)
    (source : TextureState) (outputs : List TextureState) :
    Attempt (PassState δ) (Option TextureState) := do
  let (size, mvp, canvas) ← canvas inputs index final source
  uploadQuad ⟨source.content, source.allocated, size⟩
  let s ← get
  let params : FrameParams := {
    mvp, source, outputs, outputSize := size
    frameCount := inputs.frameCount, direction := inputs.direction, tracked := inputs.tracked
    orig := textures.orig, history := textures.history, fallback := s.pool.fallback }
  let uniforms := s.pass.table.write params s.pass.uniforms
  set { s with pass := { s.pass with uniforms } }
  onDevice (GpuDevice.writeBuffer s.pass.uniformBuffer uniforms)
  onDevice (GpuDevice.draw {
    pass := index, program := s.pass.program
    destination := canvas.destination, viewport := canvas.rect, clear := canvas.clear
    vertices := s.pass.vertexBuffer, uniforms := s.pass.uniformBuffer
    textures := s.pass.table.bindings params })
  pure canvas.produced

end PassState

/-- Draws passes, the first of them at `index`, until one fails. -/
def drawPasses (inputs : FrameInputs) (textures : FrameTextures) (index : Nat)
    (source : TextureState) (outputs : List TextureState) (phase : Phase) :
    List CompiledPass → TexturePool → δ → DrawnPasses δ
  | [], pool, device => ⟨device, pool, [], index, phase, none⟩
  | pass :: rest, pool, device =>
    let phase := if rest.isEmpty then .renderingFinalPass else .renderingPass index
    match PassState.draw inputs textures index rest.isEmpty source outputs
        ⟨device, pool, pass⟩ with
    | .error e s => ⟨s.device, s.pool, s.pass :: rest, index, phase, some e⟩
    | .ok produced s =>
      let later := drawPasses inputs textures (index + 1) (produced.getD source)
        (outputs ++ produced.toList) phase rest s.pool s.device
      { later with passes := s.pass :: later.passes }

/-- What draws frames. -/
structure Sequencer where
  phase : Phase := .idle
deriving DecidableEq, Repr

namespace Sequencer

/-- Draws the passes of a frame on an open device, unless there is nowhere to draw. -/
def drawFrame (s : Sequencer) (inputs : FrameInputs) (passes : List CompiledPass)
    (pool : TexturePool) (device : δ) : DrawnPasses δ :=
  if inputs.viewport.width = 0 ∨ inputs.viewport.height = 0 then
    ⟨device, pool, passes, 0, s.phase, some .emptyViewport⟩
  else
    let textures := pool.history.frameTextures
    drawPasses inputs textures 0 textures.orig [] s.phase passes pool device

/-- Draws the frame in the pool's current slot and shows it, or drops it at the first failure.
Either way the stock program is left bound. -/
def run (s : Sequencer) (inputs : FrameInputs) (stock : ProgramId) (passes : List CompiledPass)
    (pool : TexturePool) (device : δ) : FrameReport × Sequencer × DrawnPasses δ :=
  let rest (d : DrawnPasses δ) : DrawnPasses δ :=
    { d with device := GpuDevice.bindResting stock d.device, phase := .idle }
  let abort (d : DrawnPasses δ) (pass : Nat) (e : Error) :=
    (⟨d.drawn, .aborted pass e⟩, { s with phase := .idle },
      rest { d with device := GpuDevice.abortFrame d.device })
  match (GpuDevice.beginFrame : Attempt δ Unit) device with
  | .error e device => abort ⟨device, pool, passes, 0, s.phase, none⟩ 0 e
  | .ok () device =>
    let d := s.drawFrame inputs passes pool device
    match d.failure with
    | some e => abort d d.drawn e
    | none => match (GpuDevice.endFrame : Attempt δ Unit) d.device with
      | .error e device => abort { d with device } (passes.length - 1) e
      | .ok () device =>
        (⟨d.drawn, .presented⟩, { s with phase := .idle },
          rest { d with device, pool := d.pool.advance, phase := .presented })

end Sequencer

end

end PassChain
