import PassChain.Sequencer
import PassChain.Settings
import PassChain.Wgsl.Bundled

/-!
A chain of passes on a device. It is built from a preset at once or not at all; then it takes
input frames one at a time and draws each through its passes.
-/

namespace PassChain

/-- The order of frames in time. -/
inductive Direction where
  | forward
  | rewind
deriving DecidableEq, Repr

/-- The direction as programs see it. -/
def Direction.sign : Direction → Int
  | forward => 1
  | rewind => -1

/-- A device, and what has been created on it for a chain that is not complete yet. -/
structure Assembly (δ : Type) where
  device : δ
  programs : List ProgramId := []
  buffers : List BufferId := []
  pool : Option TexturePool := none

/-- A pass whose program is on the device. -/
structure LinkedPass where
  label : String
  id : ProgramId
  program : Program
  scale : ScaleRules
  format : TexelFormat
  sampler : Sampler
  frameCountMod : UInt32
deriving DecidableEq, Repr

/-- The name of the program that passes its source through. -/
def stockName : String := "stock"

namespace Pass

/-- The label and the text of a pass's program. -/
def programText (p : Pass) (files : FileSystem) : Except BuildFault (String × String) :=
  match p.shader with
  | .file path => match files.readText path with
    | .ok text => .ok (path.text, text)
    | .error fault => .error (.unreadableShader path fault)
  | .builtin name => match Wgsl.Bundled.text? name with
    | some text => .ok (s!"builtin:{name}", text)
    | none => .error (.unknownBuiltin name)
  | .inline text => .ok ("inline", text)

/-- The format of a pass's target. -/
def format (p : Pass) : TexelFormat := if p.floatTarget then .rgba16Float else .rgba8

end Pass

namespace Assembly

variable {δ : Type} [GpuDevice δ]

def onDevice {α : Type} (call : Attempt δ α) : Attempt (Assembly δ) α :=
  call.on (·.device) fun device a => { a with device }

/-- Puts a program on the device, and answers its interface. -/
def link (label text : String) : Attempt (Assembly δ) (ProgramId × Program) := do
  let program ← Attempt.ofExcept (.program label) (Program.ofText label text)
  let id ← onDevice (GpuDevice.createProgram label text program)
  modify fun a => { a with programs := a.programs ++ [id] }
  pure (id, program)

/-- Links the program of a pass and settles what does not depend on other passes. -/
def linkPass (files : FileSystem) (smooth : Bool) (pass : Pass) (last : Bool) :
    Attempt (Assembly δ) LinkedPass := do
  let (label, text) ← Attempt.ofExcept .build (pass.programText files)
  let (id, program) ← link label text
  let scale := pass.scaleRules last
  Attempt.ofExcept .scale scale.validate
  pure {
    label, id, program, scale
    format := pass.format
    sampler := .resolve pass.filter pass.wrap smooth
    frameCountMod := pass.frameCountMod }

def linkPasses (files : FileSystem) (smooth : Bool) :
    List Pass → Attempt (Assembly δ) (List LinkedPass)
  | [] => pure []
  | pass :: rest => do
    let linked ← linkPass files smooth pass rest.isEmpty
    let later ← linkPasses files smooth rest
    pure (linked :: later)

/-- Loads the lookup textures of a preset into a pool that the assembly owns. -/
def loadLookups (files : FileSystem) :
    List LookupImage → TexturePool → Attempt (Assembly δ) TexturePool
  | [], pool => pure pool
  | image :: rest, pool => do
    let pool ← onDevice (pool.loadLookup files image)
    modify fun a => { a with pool := some pool }
    loadLookups files rest pool

def createBuffer (label : String) (kind : BufferKind) (size : Nat) :
    Attempt (Assembly δ) BufferId := do
  let id ← onDevice (GpuDevice.createBuffer label kind size)
  modify fun a => { a with buffers := a.buffers ++ [id] }
  pure id

/-- Ties a linked pass to its sources and creates its buffers. -/
def compilePass (context : BindContext) (align : Bool) (index : Nat) (linked : LinkedPass) :
    Attempt (Assembly δ) CompiledPass := do
  let table := BindingTable.ofProgram linked.program index linked.frameCountMod linked.sampler
    context
  let vertexBuffer ← createBuffer s!"pass{index}-vertices" .vertex Quad.byteSize
  let uniformBuffer ← createBuffer s!"pass{index}-uniforms" .uniform table.uniformSize
  pure {
    label := linked.label, program := linked.id, scale := linked.scale
    format := linked.format, geometry := { align }
    table, vertexBuffer, uniformBuffer
    uniforms := List.replicate table.uniformSize 0 }

/-- Compiles all passes in order, the first of them at `index`. -/
def compilePasses (context : BindContext) (align : Bool) (index : Nat) :
    List LinkedPass → Attempt (Assembly δ) (List CompiledPass)
  | [] => pure []
  | linked :: rest => do
    let pass ← compilePass context align index linked
    let later ← compilePasses context align (index + 1) rest
    pure (pass :: later)

/-- Builds everything a chain needs: the stock program, the pool and the passes. -/
def build (files : FileSystem) (preset : Preset) (settings : ChainSettings) :
    Attempt (Assembly δ) (ProgramId × TexturePool × List CompiledPass) := do
  Attempt.ofExcept .preset preset.validate
  let count := preset.passes.length
  if settings.maxPasses < count then
    throw (.build (.tooManyPasses count settings.maxPasses))
  let (stock, _) ← link stockName ((Wgsl.Bundled.text? stockName).getD "")
  let linked ← linkPasses files settings.smooth preset.passes
  let pool ← onDevice (TexturePool.create (count - 1) settings.maxInput settings.pow2Targets)
  modify fun a => { a with pool := some pool }
  let pool ← loadLookups files preset.lookups pool
  let context : BindContext := {
    lookups := pool.lookups, varIds := preset.vars.map (·.id)
    smooth := settings.smooth }
  let passes ← compilePasses context settings.texelAlignment 0 linked
  pure (stock, pool, passes)

/-- Releases all that has been created. -/
def release (a : Assembly δ) : δ :=
  let device := a.programs.foldl (fun d id => GpuDevice.releaseProgram id d) a.device
  let device := a.buffers.foldl (fun d id => GpuDevice.releaseBuffer id d) device
  match a.pool with
  | some pool => (pool.releaseAll device).2
  | none => device

end Assembly

/-- A chain, complete with its device. -/
structure Chain (δ : Type) where
  device : δ
  settings : ChainSettings
  descriptions : List Pass
  passes : List CompiledPass
  programs : List ProgramId
  /-- the program that stays bound between frames -/
  stock : ProgramId
  pool : TexturePool
  sequencer : Sequencer := {}
  viewport : Viewport := {}
  /-- quarter turns of the display, counter-clockwise -/
  rotation : UInt32 := 0
  direction : Direction := .forward
  /-- how many frames have been shown, a number of 64 bits in every run that comes to an end -/
  frameCount : Nat := 0
  /-- whether a frame waits to be drawn -/
  pending : Bool := false
  /-- the ids of the variables that programs can be shown -/
  varIds : List String
  tracker : Option Tracker := none
  /-- the last known values of the variables -/
  tracked : List Single
  report : Option FrameReport := none

/-- A chain that could not be built: why, and the device as it was handed over. -/
structure BuildError (δ : Type) where
  error : Error
  device : δ

namespace BuildError

variable {δ : Type}

def message (b : BuildError δ) : String := s!"failed to build render chain: {b.error.message}"

def description (b : BuildError δ) : String :=
  s!"BuildError \x7b error: {b.error.description} \x7d"

end BuildError

namespace Chain

variable {δ : Type} [GpuDevice δ]

/-- Builds a chain. On failure everything that was created is released again. -/
def build (device : δ) (files : FileSystem) (preset : Preset) (settings : ChainSettings) :
    Except (BuildError δ) (Chain δ) :=
  match Assembly.build files preset settings { device } with
  | .error error a => .error ⟨error, a.release⟩
  | .ok (stock, pool, passes) a => .ok {
      device := GpuDevice.bindResting stock a.device
      settings, passes, stock, pool
      descriptions := preset.passes
      programs := a.programs
      varIds := preset.vars.map (·.id)
      tracked := preset.vars.map fun _ => .ofNat 0 }

/-- A chain that shows frames unchanged. -/
def passthrough (device : δ) (files : FileSystem) (settings : ChainSettings) :
    Except (BuildError δ) (Chain δ) :=
  build device files (.single (.builtin stockName)) settings

/-- Hands in the next frame. A frame that still waits is replaced. -/
def submit (frame : Frame) : Attempt (Chain δ) Unit := do
  let c ← get
  let pool ← (c.pool.writeFrame frame).on (·.device) fun device c => { c with device }
  modify fun c => { c with pool, pending := true }

def setViewport (c : Chain δ) (viewport : Viewport) : Chain δ := { c with viewport }

def setRotation (c : Chain δ) (turns : UInt32) : Chain δ := { c with rotation := turns % 4 }

def setDirection (c : Chain δ) (direction : Direction) : Chain δ := { c with direction }

def setTracker (c : Chain δ) (tracker : Tracker) : Chain δ := { c with tracker := some tracker }

/-- Changes the memory that variables are tracked in. -/
def changeMemory (c : Chain δ) (change : MemoryTracker → MemoryTracker) : Chain δ :=
  match c.tracker with
  | some (.memory m) => { c with tracker := some (.memory (change m)) }
  | _ => c

/-- Changes the device, as its owner may between frames. -/
def mapDevice (c : Chain δ) (change : δ → δ) : Chain δ := { c with device := change c.device }

/-- Stores a value under its variable, if there is such a variable. -/
def storeValue (varIds : List String) (tracked : List Single) (v : TrackedValue) :
    List Single :=
  match varIds.findIdx? (· == v.id) with
  | some index => tracked.set index v.value
  | none => tracked

/-- Takes in this frame's values of the variables. -/
def refreshTracked (c : Chain δ) : Chain δ :=
  match c.tracker with
  | none => c
  | some tracker =>
    let (values, tracker) := tracker.refresh c.frameCount
    { c with
      tracker := some tracker
      tracked := values.foldl (storeValue c.varIds) c.tracked }

/-- What all passes share in the next frame. -/
def inputs (c : Chain δ) : FrameInputs where
  viewport := c.viewport
  rotation := c.rotation
  frameCount := c.frameCount
  direction := c.direction.sign
  tracked := c.tracked

/-- Draws the frame that waits; `false` if it could not be shown. Such a frame goes on waiting.
With no frame waiting, what is shown stays. -/
def render (c : Chain δ) : Bool × Chain δ :=
  if !c.pending then (true, { c with report := some .repeated })
  else
    let c := c.refreshTracked
    let (report, sequencer, drawn) := c.sequencer.run c.inputs c.stock c.passes c.pool c.device
    let c := { c with
      device := drawn.device, pool := drawn.pool, passes := drawn.passes
      sequencer, report := some report }
    if report.isPresented then
      (true, { c with pending := false, frameCount := c.frameCount + 1 })
    else (false, c)

/-- Releases all that the chain owns, and answers its device. -/
def close (c : Chain δ) : δ :=
  let device := c.passes.foldl (fun d pass =>
    GpuDevice.releaseBuffer pass.uniformBuffer (GpuDevice.releaseBuffer pass.vertexBuffer d))
    c.device
  let device := c.programs.foldl (fun d id => GpuDevice.releaseProgram id d) device
  (c.pool.releaseAll device).2

end Chain

end PassChain
