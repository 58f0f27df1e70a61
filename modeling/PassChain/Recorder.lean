import PassChain.Device

/-!
A device without a screen. It keeps account of everything it is told: what is alive, every draw
with the contents of its buffers, which frames were shown and which were dropped. It can be told
to refuse allocations and uploads by label.
-/

namespace PassChain

/-- Counts of the calls that a recorder has carried out. They stand for words of 64 bits, which no
run fills. -/
structure RecorderStats where
  texturesCreated : Nat := 0
  texturesReleased : Nat := 0
  textureWrites : Nat := 0
  clears : Nat := 0
  buffersCreated : Nat := 0
  bufferWrites : Nat := 0
  programsCreated : Nat := 0
  draws : Nat := 0
  framesSubmitted : Nat := 0
  framesAborted : Nat := 0
deriving DecidableEq, Repr

/-- A draw as it was received, with its buffers as they were then. -/
structure RecordedDraw where
  pass : Nat
  program : ProgramId
  programLabel : String
  destination : Destination
  viewport : Rect
  clear : Bool
  textures : List TextureBinding
  uniforms : List UInt8
  vertices : List UInt8
deriving DecidableEq, Repr

namespace RecordedDraw

/-- The texture at a binding. -/
def textureAt (d : RecordedDraw) (binding : Nat) : Option TextureId :=
  (d.textures.find? (·.binding == binding)).map (·.texture)

/-- The number at a byte offset of the uniform buffer. -/
def uniformAt (d : RecordedDraw) (offset : Nat) : Option Single :=
  match (d.uniforms.drop offset).take 4 with
  | [a, b, c, d] => some (.ofBytes a b c d)
  | _ => none

end RecordedDraw

structure Buffer where
  label : String
  kind : BufferKind
  data : List UInt8
deriving DecidableEq, Repr

/-- The state of a recorder. Textures, buffers and programs share one count of ids. Ids stand for
words of 32 bits and `generation` for one of 64; nothing is said of runs that use them up. -/
structure Recorder where
  nextId : Nat := 1
  textures : List (TextureId × TextureDesc) := []
  buffers : List (BufferId × Buffer) := []
  programs : List (ProgramId × String) := []
  inFrame : Bool := false
  /-- draws of the open frame -/
  pending : List RecordedDraw := []
  /-- draws of the frames shown, the first one first -/
  frames : List (List RecordedDraw) := []
  /-- how often the picture that is shown has changed -/
  generation : Nat := 0
  resting : Option ProgramId := none
  allocationFaults : List String := []
  uploadFaults : List String := []
  maxDimension : UInt32 := 8192
  stats : RecorderStats := {}
deriving DecidableEq, Repr

/-- Whether a text stands somewhere in another. -/
def occursIn (part : List Char) : List Char → Bool
  | [] => part.isEmpty
  | c :: rest => (after? part (c :: rest)).isSome || occursIn part rest

namespace Recorder

/-- Refuses a label that one of the patterns occurs in. -/
def checkFaults (patterns : List String) (label : String)
    (fault : String → String → DeviceFault) : Except DeviceFault Unit :=
  match patterns.find? fun p => occursIn p.toList label.toList with
  | some pattern => .error (fault label pattern)
  | none => .ok ()

/-- Refuses to create textures and buffers in whose label `pattern` occurs. -/
def failAllocations (r : Recorder) (pattern : String) : Recorder :=
  { r with allocationFaults := r.allocationFaults ++ [pattern] }

/-- Refuses to write buffers in whose label `pattern` occurs. -/
def failUploads (r : Recorder) (pattern : String) : Recorder :=
  { r with uploadFaults := r.uploadFaults ++ [pattern] }

def clearFaults (r : Recorder) : Recorder :=
  { r with allocationFaults := [], uploadFaults := [] }

def texture? (r : Recorder) (id : TextureId) : Option TextureDesc := r.textures.lookup id

def buffer? (r : Recorder) (id : BufferId) : Option Buffer := r.buffers.lookup id

def programLabel? (r : Recorder) (id : ProgramId) : Option String := r.programs.lookup id

def lastFrame? (r : Recorder) : Option (List RecordedDraw) := r.frames.getLast?

def createTexture (r : Recorder) (desc : TextureDesc) :
    Except DeviceFault (TextureId × Recorder) := do
  checkFaults r.allocationFaults desc.label .allocation
  let fits (edge : UInt32) : Bool := 1 ≤ edge && edge ≤ r.maxDimension
  if fits desc.size.width && fits desc.size.height then
    let id : TextureId := ⟨r.nextId⟩
    pure (id, { r with
      nextId := r.nextId + 1
      textures := r.textures ++ [(id, desc)]
      stats := { r.stats with texturesCreated := r.stats.texturesCreated + 1 } })
  else .error (.textureSize desc.label desc.size)

def releaseTexture (r : Recorder) (id : TextureId) : Recorder :=
  if (r.texture? id).isSome then
    { r with
      textures := r.textures.filter (·.1 != id)
      stats := { r.stats with texturesReleased := r.stats.texturesReleased + 1 } }
  else r

/-- Accepts rows for the top left of a texture. The number of bytes must be that of the pixels. -/
def writeTexture (r : Recorder) (id : TextureId) (size : Size) (data : List UInt8) :
    Except DeviceFault (Unit × Recorder) :=
  match r.texture? id with
  | none => .error (.writeToUnknownTexture id)
  | some desc =>
    let needed := size.width.toNat * size.height.toNat * desc.format.byteSize.toNat
    if desc.size.width < size.width ∨ desc.size.height < size.height then
      .error (.writeOutside size desc.size desc.label)
    else if UInt32.size ≤ needed then .error (.writeOverflow size)
    else if data.length ≠ needed then .error (.writeLength data.length size needed)
    else .ok ((), { r with
      stats := { r.stats with textureWrites := r.stats.textureWrites + 1 } })

def clearTexture (r : Recorder) (id : TextureId) : Except DeviceFault (Unit × Recorder) :=
  if (r.texture? id).isSome then
    .ok ((), { r with stats := { r.stats with clears := r.stats.clears + 1 } })
  else .error (.clearOfUnknownTexture id)

/-- Creates a buffer of zeros. -/
def createBuffer (r : Recorder) (label : String) (kind : BufferKind) (size : Nat) :
    Except DeviceFault (BufferId × Recorder) := do
  checkFaults r.allocationFaults label .allocation
  let id : BufferId := ⟨r.nextId⟩
  pure (id, { r with
    nextId := r.nextId + 1
    buffers := r.buffers ++ [(id, ⟨label, kind, List.replicate size 0⟩)]
    stats := { r.stats with buffersCreated := r.stats.buffersCreated + 1 } })

def writeBuffer (r : Recorder) (id : BufferId) (data : List UInt8) :
    Except DeviceFault (Unit × Recorder) := do
  match r.buffer? id with
  | none => .error (.writeToUnknownBuffer id)
  | some buffer =>
    checkFaults r.uploadFaults buffer.label .upload
    if buffer.data.length < data.length then
      .error (.writePastBuffer data.length buffer.data.length)
    else
      let written := { buffer with data := data ++ buffer.data.drop data.length }
      pure ((), { r with
        buffers := r.buffers.map fun entry => if entry.1 = id then (id, written) else entry
        stats := { r.stats with bufferWrites := r.stats.bufferWrites + 1 } })

def releaseBuffer (r : Recorder) (id : BufferId) : Recorder :=
  { r with buffers := r.buffers.filter (·.1 != id) }

/-- Creates a program, of which only the label is kept. -/
def createProgram (r : Recorder) (label : String) : ProgramId × Recorder :=
  let id : ProgramId := ⟨r.nextId⟩
  (id, { r with
    nextId := r.nextId + 1
    programs := r.programs ++ [(id, label)]
    stats := { r.stats with programsCreated := r.stats.programsCreated + 1 } })

/-- Releases a program; it rests no longer. -/
def releaseProgram (r : Recorder) (id : ProgramId) : Recorder :=
  { r with
    programs := r.programs.filter (·.1 != id)
    resting := if r.resting = some id then none else r.resting }

def beginFrame (r : Recorder) : Except DeviceFault (Unit × Recorder) :=
  if r.inFrame then .error .frameOpen
  else .ok ((), { r with inFrame := true, pending := [] })

/-- The contents of a buffer that a draw uses as one of `kind`. -/
def bufferData (r : Recorder) (id : BufferId) (kind : BufferKind) :
    Except DeviceFault (List UInt8) :=
  match r.buffer? id with
  | none => .error (.drawWithUnknownBuffer id)
  | some buffer =>
    if buffer.kind = kind then .ok buffer.data else .error (.bufferKind buffer.label kind)

/-- Refuses textures that no pass may draw into. -/
def checkDestination (r : Recorder) : Destination → Except DeviceFault Unit
  | .backbuffer => .ok ()
  | .texture id =>
    if (r.texture? id).any (·.target) then .ok () else .error (.notTarget id)

/-- Refuses bindings of textures that are not alive. -/
def checkBindings (r : Recorder) : List TextureBinding → Except DeviceFault Unit
  | [] => .ok ()
  | b :: rest =>
    if (r.texture? b.texture).isSome then r.checkBindings rest
    else .error (.releasedTexture b.binding b.texture)

def draw (r : Recorder) (call : DrawCall) : Except DeviceFault (Unit × Recorder) := do
  if !r.inFrame then .error .drawOutsideFrame
  match r.programLabel? call.program with
  | none => .error (.drawWithUnknownProgram call.program)
  | some programLabel =>
    r.checkDestination call.destination
    r.checkBindings call.textures
    let uniforms ← r.bufferData call.uniforms .uniform
    let vertices ← r.bufferData call.vertices .vertex
    let drawn : RecordedDraw := {
      pass := call.pass, program := call.program, programLabel
      destination := call.destination, viewport := call.viewport, clear := call.clear
      textures := call.textures, uniforms, vertices }
    pure ((), { r with
      pending := r.pending ++ [drawn]
      stats := { r.stats with draws := r.stats.draws + 1 } })

def endFrame (r : Recorder) : Except DeviceFault (Unit × Recorder) :=
  if !r.inFrame then .error .noFrame
  else
    let shown := r.pending.any (·.destination == .backbuffer)
    .ok ((), { r with
      inFrame := false
      pending := []
      frames := r.frames ++ [r.pending]
      generation := if shown then r.generation + 1 else r.generation
      stats := { r.stats with framesSubmitted := r.stats.framesSubmitted + 1 } })

def abortFrame (r : Recorder) : Recorder :=
  if r.inFrame then
    { r with
      inFrame := false
      pending := []
      stats := { r.stats with framesAborted := r.stats.framesAborted + 1 } }
  else r

def bindResting (r : Recorder) (id : ProgramId) : Recorder := { r with resting := some id }

end Recorder

instance : GpuDevice Recorder where
  createTexture desc := .ofStep .device (·.createTexture desc)
  releaseTexture id r := r.releaseTexture id
  writeTexture id size data := .ofStep .device (·.writeTexture id size data)
  clearTexture id := .ofStep .device (·.clearTexture id)
  createBuffer label kind size := .ofStep .device (·.createBuffer label kind size)
  writeBuffer id data := .ofStep .device (·.writeBuffer id data)
  releaseBuffer id r := r.releaseBuffer id
  createProgram label _ _ := .ofStep .device fun r => .ok (r.createProgram label)
  releaseProgram id r := r.releaseProgram id
  beginFrame := .ofStep .device (·.beginFrame)
  draw call := .ofStep .device (·.draw call)
  endFrame := .ofStep .device (·.endFrame)
  abortFrame r := r.abortFrame
  bindResting id r := r.bindResting id
  maxDimension r := r.maxDimension

end PassChain
