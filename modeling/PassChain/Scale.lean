import PassChain.Number.Decimal

/-!
Output sizes of passes. A scale rule gives one axis of a pass's output from its source, from the
viewport, or outright; resolving it rounds to the nearest pixel and refuses what is no size.
-/

namespace PassChain

/-- Width and height in pixels. -/
structure Size where
  width : UInt32
  height : UInt32
deriving DecidableEq, Repr, Inhabited

def Size.text (s : Size) : String := s!"{s.width}x{s.height}"

/-- How one axis of a pass's output is found. -/
inductive ScaleRule where
  /-- a multiple of the source's axis -/
  | input (factor : Single)
  /-- a multiple of the viewport's axis -/
  | viewport (factor : Single)
  /-- a fixed number of pixels -/
  | absolute (size : UInt32)
deriving DecidableEq, Repr, Inhabited

/-- Why a scale rule gives no size. -/
inductive ScaleFault where
  | zeroPixels
  | badFactor (factor : Single)
  | emptyAxis (rule : ScaleRule) (base : UInt32)
  | overflow (rule : ScaleRule) (base : UInt32)
deriving DecidableEq, Repr

namespace ScaleRule

def description : ScaleRule → String
  | input factor => s!"Input \x7b factor: {factor.explicitText} \x7d"
  | viewport factor => s!"Viewport \x7b factor: {factor.explicitText} \x7d"
  | absolute size => s!"Absolute \x7b size: {size} \x7d"

/-- The numerator and denominator of a usable factor: finite and above zero. -/
def ratio? (factor : Single) : Option (Nat × Int) :=
  match factor.value with
  | .finite false m q => if m = 0 then none else some (m, q)
  | _ => none

/-- Refuses rules that no size of source or viewport can satisfy. -/
def validate : ScaleRule → Except ScaleFault Unit
  | absolute size => if size = 0 then .error .zeroPixels else .ok ()
  | input factor | viewport factor =>
    if (ratio? factor).isSome then .ok () else .error (.badFactor factor)

/-- `m · 2^q · base` in pixels: the product keeps 53 leading bits, and is then rounded to the
nearest pixel, a half going up. -/
def pixels (m : Nat) (q : Int) (base : UInt32) : Nat :=
  let product := keepLeadingBits 53 (m * base.toNat)
  roundHalfUp (product * Nat.pow 2 q.toNat) (Nat.pow 2 (-q).toNat)

/-- The axis of the output, from the same axis of the source and of the viewport. -/
def resolveAxis (rule : ScaleRule) (source viewport : UInt32) : Except ScaleFault UInt32 :=
  let scaled (factor : Single) (base : UInt32) : Except ScaleFault UInt32 :=
    match ratio? factor with
    | none => .error (.badFactor factor)
    | some (m, q) =>
      let out := pixels m q base
      if out < 1 then .error (.emptyAxis rule base)
      else if out ≤ 4294967295 then .ok (.ofNat out)
      else .error (.overflow rule base)
  match rule with
  | .absolute size => if size = 0 then .error .zeroPixels else .ok size
  | .input factor => scaled factor source
  | .viewport factor => scaled factor viewport

end ScaleRule

/-- The rules of both axes. -/
structure ScaleRules where
  x : ScaleRule
  y : ScaleRule
deriving DecidableEq, Repr, Inhabited

namespace ScaleRules

/-- The output size for a source and a viewport; the horizontal axis is settled first. -/
def resolve (rules : ScaleRules) (source viewport : Size) : Except ScaleFault Size := do
  let width ← rules.x.resolveAxis source.width viewport.width
  let height ← rules.y.resolveAxis source.height viewport.height
  pure ⟨width, height⟩

/-- Refuses rules that can never be resolved. -/
def validate (rules : ScaleRules) : Except ScaleFault Unit := do
  rules.x.validate
  rules.y.validate

end ScaleRules

def ScaleFault.message : ScaleFault → String
  | zeroPixels => "absolute scale of 0 pixels"
  | badFactor factor => s!"scale factor must be positive, got {factor.plainText}"
  | emptyAxis rule base => s!"scale {rule.description} of {base} resolves to an empty axis"
  | overflow rule base => s!"scale {rule.description} of {base} overflows"

end PassChain
