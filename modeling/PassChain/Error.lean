import PassChain.Files
import PassChain.Frame
import PassChain.Gpu
import PassChain.Preset
import PassChain.Text.Quoted
import PassChain.Tracking

/-!
What can go wrong when a chain is built or run. Every error belongs to a kind; only a shortage
of resources lets the chain go on as if the frame had not been asked for.
-/

namespace PassChain

/-- Why the texture pool refuses a request. -/
inductive PoolFault where
  | inputLimit (size : Size) (limit : UInt32)
  | noTargetSlot (pass : Nat)
  | targetSize (pass : Nat) (size : Size) (limit : UInt32)
  | frameSize (size limit : Size)
  | duplicateLookup (id : String)
  | lookupSize (id : String) (size : Size) (limit : UInt32)
  /-- no power of two in 32 bits covers an edge -/
  | paddingOverflow (logical : Size)
deriving DecidableEq, Repr

/-- Whether the program stopped in the middle of the request, as opposed to refusing it. -/
def PoolFault.isCrash : PoolFault → Bool
  | paddingOverflow _ => true
  | _ => false

/-- Why a preset cannot become a chain. -/
inductive BuildFault where
  | tooManyPasses (count limit : Nat)
  | unreadableShader (path : Path) (fault : ReadFault)
  | unknownBuiltin (name : String)
deriving DecidableEq, Repr

inductive ErrorKind where
  /-- what was asked for makes no sense -/
  | config
  /-- a program cannot be used -/
  | compile
  /-- the device cannot supply what was asked for -/
  | resource
  /-- the chain or its host broke a rule of the device -/
  | internal
  /-- an image cannot be loaded -/
  | image
  /-- a preset describes nothing usable -/
  | preset
deriving DecidableEq, Repr

inductive Error where
  | scale (fault : ScaleFault)
  | frame (fault : FrameFault)
  | tracking (fault : TrackingFault)
  | program (label : String) (fault : ProgramFault)
  | device (fault : DeviceFault)
  | pool (fault : PoolFault)
  | build (fault : BuildFault)
  | preset (fault : PresetFault)
  | image (path : Path)
  | emptyViewport
  /-- a device refuses for a reason of its own -/
  | refused (recoverable : Bool) (text : String)
deriving DecidableEq, Repr

def PoolFault.message : PoolFault → String
  | inputLimit size limit => s!"maximum input size {size.text} outside 1..={limit}"
  | noTargetSlot pass => s!"no render target slot for pass {pass}"
  | targetSize pass size limit => s!"pass {pass} target {size.text} exceeds device limit {limit}"
  | frameSize size limit => s!"frame {size.text} outside the {limit.text} input limit"
  | duplicateLookup id => s!"lut `{id}` loaded twice"
  | lookupSize id size limit => s!"lut `{id}` size {size.text} unsupported (limit {limit})"
  | paddingOverflow logical => s!"padding of a {logical.text} target overflows"

def BuildFault.message : BuildFault → String
  | tooManyPasses count limit => s!"preset has {count} passes, limit is {limit}"
  | unreadableShader path fault => s!"cannot read shader {path.text}: {fault.message}"
  | unknownBuiltin name => s!"unknown builtin shader `{name}`"

namespace Error

def kind : Error → ErrorKind
  | scale _ | frame _ | tracking _ | build _ | emptyViewport => .config
  | program .. => .compile
  | device fault => if fault.isShortage then .resource else .internal
  | pool (.noTargetSlot _) => .internal
  | pool (.targetSize ..) | pool (.lookupSize ..) => .resource
  | pool _ => .config
  | preset _ => .preset
  | image _ => .image
  | refused recoverable _ => if recoverable then .resource else .config

/-- Whether there is nobody left to answer: the program has stopped where it was. A crash is handed
on and undone like any other error, so what a call leaves after one is nobody's to see. -/
def isCrash : Error → Bool
  | frame fault => fault.isCrash
  | pool fault => fault.isCrash
  | device fault => fault.isCrash
  | _ => false

/-- Whether the chain can simply skip the frame that met this error. -/
def isRecoverable (e : Error) : Bool := e.kind == .resource

/-- What went wrong, in words, without its kind. -/
def detail : Error → String
  | scale fault => fault.message
  | frame fault => fault.message
  | tracking fault => fault.message
  | program _ fault => fault.message
  | device fault => fault.message
  | pool fault => fault.message
  | build fault => fault.message
  | preset fault => fault.message
  | image path => s!"no image in {path.text}"
  | emptyViewport => "viewport has no area"
  | refused _ text => text

def message (e : Error) : String :=
  match e, e.kind with
  | program label _, _ => s!"shader `{label}` failed to compile: {e.detail}"
  | preset fault, _ => s!"invalid preset: {fault.message}"
  | _, .resource => s!"GPU resource error: {e.detail}"
  | _, .internal => s!"internal error: {e.detail}"
  | _, .image => s!"image error: {e.detail}"
  | _, _ => s!"configuration error: {e.detail}"

def description (e : Error) : String :=
  let text := quoted e.detail
  match e, e.kind with
  | program label _, _ => s!"Compile \x7b label: {quoted label}, message: {text} \x7d"
  | preset _, _ => s!"Preset(Invalid({text}))"
  | _, .resource => s!"Resource({text})"
  | _, .internal => s!"Logic({text})"
  | _, .image => s!"Image({text})"
  | _, _ => s!"Config({text})"

end Error

end PassChain
