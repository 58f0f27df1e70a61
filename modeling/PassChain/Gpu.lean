import PassChain.Binding

/-!
What a chain needs of a device: textures, buffers and programs by number, frames of draws
between a beginning and an end, and one program that stays bound between frames.
-/

namespace PassChain

structure ProgramId where
  index : Nat
deriving DecidableEq, Repr, Inhabited

structure BufferId where
  index : Nat
deriving DecidableEq, Repr, Inhabited

/-- Layouts of the pixels of a texture. -/
inductive TexelFormat where
  /-- input frames -/
  | bgra8
  /-- outputs of passes and lookup textures -/
  | rgba8
  /-- outputs of passes that ask for floating point numbers -/
  | rgba16Float
deriving DecidableEq, Repr

def TexelFormat.byteSize : TexelFormat → UInt32
  | bgra8 | rgba8 => 4
  | rgba16Float => 8

/-- Bytes from row to row when a texture is copied to a buffer: rows start at multiples of 256.
Beyond 32 bits there is no such number. -/
def paddedRow? (width byteSize : UInt32) : Option UInt32 :=
  let blocks := (width.toNat * byteSize.toNat + 255) / 256
  if blocks * 256 < UInt32.size then some (.ofNat (blocks * 256)) else none

structure TextureDesc where
  label : String
  size : Size
  format : TexelFormat
  /-- passes draw into it -/
  target : Bool
deriving DecidableEq, Repr

inductive BufferKind where
  | vertex
  | uniform
deriving DecidableEq, Repr

def BufferKind.description : BufferKind → String
  | vertex => "Vertex"
  | uniform => "Uniform"

/-- Where a draw lands. -/
inductive Destination where
  | texture (id : TextureId)
  /-- the picture that is shown -/
  | backbuffer
deriving DecidableEq, Repr

structure Rect where
  x : UInt32
  y : UInt32
  width : UInt32
  height : UInt32
deriving DecidableEq, Repr

structure DrawCall where
  pass : Nat
  program : ProgramId
  destination : Destination
  viewport : Rect
  /-- clear the destination first -/
  clear : Bool
  vertices : BufferId
  uniforms : BufferId
  textures : List TextureBinding
deriving DecidableEq, Repr

/-- Why a device refuses a call. -/
inductive DeviceFault where
  | allocation (label pattern : String)
  | upload (label pattern : String)
  | textureSize (label : String) (size : Size)
  | writeToUnknownTexture (id : TextureId)
  | writeOutside (write held : Size) (label : String)
  | writeLength (given : Nat) (size : Size) (needed : Nat)
  /-- 32 bits do not hold the number of bytes that a write takes -/
  | writeOverflow (size : Size)
  | clearOfUnknownTexture (id : TextureId)
  | writeToUnknownBuffer (id : BufferId)
  | writePastBuffer (given held : Nat)
  | frameOpen
  | drawOutsideFrame
  | drawWithUnknownProgram (id : ProgramId)
  | notTarget (id : TextureId)
  | releasedTexture (binding : Nat) (id : TextureId)
  | bufferKind (label : String) (kind : BufferKind)
  | drawWithUnknownBuffer (id : BufferId)
  | noFrame
deriving DecidableEq, Repr

namespace DeviceFault

/-- A shortage that may pass, as opposed to a call that is wrong. -/
def isShortage : DeviceFault → Bool
  | allocation .. | upload .. | textureSize .. => true
  | _ => false

/-- Whether the program stopped in the middle of the call, as opposed to refusing it. -/
def isCrash : DeviceFault → Bool
  | writeOverflow _ => true
  | _ => false

def message : DeviceFault → String
  | allocation label pattern =>
    s!"injected allocation failure for `{label}` (matched `{pattern}`)"
  | upload label pattern => s!"injected upload failure for `{label}` (matched `{pattern}`)"
  | textureSize label size => s!"texture `{label}` size {size.text} unsupported"
  | writeToUnknownTexture id => s!"write to unknown texture TextureId({id.index})"
  | writeOutside write held label => s!"write of {write.text} into {held.text} texture `{label}`"
  | writeLength given size needed => s!"write of {given} bytes, {size.text} needs {needed}"
  | writeOverflow size => s!"the number of bytes of {size.text} overflows"
  | clearOfUnknownTexture id => s!"clear of unknown texture TextureId({id.index})"
  | writeToUnknownBuffer id => s!"write to unknown buffer BufferId({id.index})"
  | writePastBuffer given held => s!"write of {given} bytes into {held}-byte buffer"
  | frameOpen => "begin_frame inside an open frame"
  | drawOutsideFrame => "draw outside a frame"
  | drawWithUnknownProgram id => s!"draw with unknown program ProgramId({id.index})"
  | notTarget id => s!"draw into TextureId({id.index}), which is not a live render target"
  | releasedTexture binding id =>
    s!"binding {binding} samples released texture TextureId({id.index})"
  | bufferKind label kind => s!"draw binds `{label}` as a {kind.description} buffer"
  | drawWithUnknownBuffer id => s!"draw uses unknown buffer BufferId({id.index})"
  | noFrame => "end_frame without begin_frame"

end DeviceFault

end PassChain
