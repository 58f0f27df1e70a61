import PassChain.Number.Decimal

/-!
Variables that a preset reads from the memory of the running machine.
-/

namespace PassChain

/-- What a variable reports. -/
inductive VariableKind where
  /-- the value now -/
  | capture
  /-- the value one refresh ago -/
  | capturePrev
  /-- the frame of the last change -/
  | transition
  /-- the number of changes -/
  | transitionCount
  /-- the frame of the change before the last -/
  | transitionPrev
deriving DecidableEq, Repr

def VariableKind.description : VariableKind → String
  | capture => "Capture"
  | capturePrev => "CapturePrev"
  | transition => "Transition"
  | transitionCount => "TransitionCount"
  | transitionPrev => "TransitionPrev"

/-- How many bytes a variable reads. -/
inductive VariableWidth where
  | u8
  | u16
deriving DecidableEq, Repr, Inhabited

def VariableWidth.byteSize : VariableWidth → Nat
  | u8 => 1
  | u16 => 2

/-- A variable: where it lies and how its value is taken. A mask or a comparison value of zero
is not applied. -/
structure Variable where
  id : String
  kind : VariableKind
  address : UInt32
  width : VariableWidth := .u8
  mask : UInt32 := 0
  equal : UInt32 := 0
deriving DecidableEq, Repr

/-- The hexadecimal digits of a number, with `0x` in front. -/
def hexText (n : Nat) : String := "0x" ++ String.ofList (Nat.toDigits 16 n)

end PassChain
