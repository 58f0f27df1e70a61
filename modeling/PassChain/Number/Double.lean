import PassChain.Number.Decimal

/-!
Double-precision numbers, as configuration documents hold them.
-/

namespace PassChain

/-- A double-precision number, by its bits. -/
structure Double where
  bits : UInt64
deriving DecidableEq, Repr, Inhabited

namespace Double

/-- The number with these magnitude and sign bits. -/
def ofBits (bits : Nat) : Double := ⟨.ofNat bits⟩

/-- What the number stands for. -/
def value (x : Double) : Quantity := Format.double.decode x.bits.toNat

/-- The number nearest to `± digits · 10^exponent`. -/
def ofDecimal (neg : Bool) (digits : Nat) (exponent : Int) : Double :=
  ofBits (Format.double.ofDecimal neg digits exponent)

/-- Infinity with a sign. -/
def infinity (neg : Bool) : Double := ofBits (Format.double.ofQuantity (.infinite neg))

/-- The number that stands for no value, with a sign. -/
def nan (neg : Bool) : Double := ofBits (Format.double.ofQuantity (.nan neg))

/-- The same value; the sign of what is no number is dropped. -/
def ofSingle (x : Single) : Double :=
  match x.value with
  | .nan _ => nan false
  | v => ofBits (Format.double.ofQuantity v)

/-- The nearest single-precision number. -/
def toSingle (x : Double) : Single := .ofQuantity x.value

def documentText (x : Double) : String := NumberStyle.document.render .double x.value

end Double

end PassChain
