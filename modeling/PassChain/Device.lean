import PassChain.Error

/-!
The operations of a device, over any type of device states. A call that may fail leaves the
device in some state either way.
-/

namespace PassChain

/-- A call that may fail, over states of type `σ`. -/
abbrev Attempt (σ α : Type) := EStateM Error σ α

/-- A device that chains can draw with. A frame is what is drawn between `beginFrame` and either
`endFrame`, which shows it, or `abortFrame`, which drops it. -/
class GpuDevice (δ : Type) where
  createTexture : TextureDesc → Attempt δ TextureId
  releaseTexture : TextureId → δ → δ
  /-- overwrites the top left `size` pixels by rows packed tightly -/
  writeTexture : TextureId → Size → List UInt8 → Attempt δ Unit
  /-- sets the whole texture to zero -/
  clearTexture : TextureId → Attempt δ Unit
  createBuffer : String → BufferKind → Nat → Attempt δ BufferId
  /-- overwrites the front of the buffer -/
  writeBuffer : BufferId → List UInt8 → Attempt δ Unit
  releaseBuffer : BufferId → δ → δ
  /-- makes a program from a label, a text and the text's interface -/
  createProgram : String → String → Program → Attempt δ ProgramId
  releaseProgram : ProgramId → δ → δ
  beginFrame : Attempt δ Unit
  draw : DrawCall → Attempt δ Unit
  endFrame : Attempt δ Unit
  abortFrame : δ → δ
  /-- makes a program the one that stays bound between frames -/
  bindResting : ProgramId → δ → δ
  /-- the largest edge of a texture -/
  maxDimension : δ → UInt32

namespace Attempt

/-- Runs a call on a part of the state. -/
def on {σ δ α : Type} (part : σ → δ) (replace : δ → σ → σ) (call : Attempt δ α) : Attempt σ α :=
  fun s => match call (part s) with
    | .ok a d => .ok a (replace d s)
    | .error e d => .error e (replace d s)

/-- A call that fails with the fault of a plain result. -/
def ofExcept {σ ε α : Type} (wrap : ε → Error) : Except ε α → Attempt σ α
  | .ok a => pure a
  | .error e => throw (wrap e)

/-- A call given by a step that leaves the state alone where it fails. -/
def ofStep {σ ε α : Type} (wrap : ε → Error) (step : σ → Except ε (α × σ)) : Attempt σ α :=
  fun s => match step s with
    | .ok (a, s) => .ok a s
    | .error e => .error (wrap e) s

/-- The outcome of a call and the state after it. -/
def outcome {σ α : Type} (call : Attempt σ α) (s : σ) : Except Error α × σ :=
  match call s with
  | .ok a s => (.ok a, s)
  | .error e s => (.error e, s)

end Attempt

end PassChain
