import PassChain.Device

/-!
A device that refuses some calls and hands the others on.
-/

namespace PassChain

/-- Calls that can be refused. -/
inductive DeviceCall where
  | createTexture
  | writeTexture
  | clearTexture
  | createBuffer
  | writeBuffer
  | createProgram
  | beginFrame
  | draw
  | endFrame
deriving DecidableEq, Repr

/-- A device and the errors of the calls it refuses. -/
structure Refusing (δ : Type) where
  inner : δ
  refusals : List (DeviceCall × Error) := []

namespace Refusing

variable {δ : Type}

def refuse (d : Refusing δ) (call : DeviceCall) (e : Error) : Refusing δ :=
  { d with refusals := (call, e) :: d.refusals }

def clear (d : Refusing δ) : Refusing δ := { d with refusals := [] }

def map (f : δ → δ) (d : Refusing δ) : Refusing δ := { d with inner := f d.inner }

/-- Hands a call on unless it is refused; a refused call changes nothing. -/
def forward {α : Type} (call : DeviceCall) (attempt : Attempt δ α) : Attempt (Refusing δ) α := do
  match (← get).refusals.lookup call with
  | some e => throw e
  | none => attempt.on (·.inner) fun inner d => { d with inner }

end Refusing

instance {δ : Type} [GpuDevice δ] : GpuDevice (Refusing δ) where
  createTexture desc := Refusing.forward .createTexture (GpuDevice.createTexture desc)
  releaseTexture id := Refusing.map (GpuDevice.releaseTexture id)
  writeTexture id size data := Refusing.forward .writeTexture (GpuDevice.writeTexture id size data)
  clearTexture id := Refusing.forward .clearTexture (GpuDevice.clearTexture id)
  createBuffer label kind size :=
    Refusing.forward .createBuffer (GpuDevice.createBuffer label kind size)
  writeBuffer id data := Refusing.forward .writeBuffer (GpuDevice.writeBuffer id data)
  releaseBuffer id := Refusing.map (GpuDevice.releaseBuffer id)
  createProgram label text program :=
    Refusing.forward .createProgram (GpuDevice.createProgram label text program)
  releaseProgram id := Refusing.map (GpuDevice.releaseProgram id)
  beginFrame := Refusing.forward .beginFrame GpuDevice.beginFrame
  draw call := Refusing.forward .draw (GpuDevice.draw call)
  endFrame := Refusing.forward .endFrame GpuDevice.endFrame
  abortFrame := Refusing.map GpuDevice.abortFrame
  bindResting id := Refusing.map (GpuDevice.bindResting id)
  maxDimension d := GpuDevice.maxDimension d.inner

end PassChain
