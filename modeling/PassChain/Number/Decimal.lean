import PassChain.Number.Single

/-!
Decimal text of binary numbers: the fewest digits that read back to the same number, found by
exact integer arithmetic, and the two layouts in which this library writes them.
-/

namespace PassChain

/-- The number `digits · 10^exponent`. -/
structure Decimal where
  digits : Nat
  exponent : Int
deriving DecidableEq, Repr

namespace Decimal

/-- Compares `a · 10^i` with `n · 2^j`. -/
def compareScaled (a : Nat) (i : Int) (n : Nat) (j : Int) : Ordering :=
  compare (a * Nat.pow 10 i.toNat * Nat.pow 2 (-j).toNat)
    (n * Nat.pow 2 j.toNat * Nat.pow 10 (-i).toNat)

/-- Whether the decimal rounds to `m · 2^q`: it lies between the midpoints to the neighbouring
numbers, the midpoints themselves belonging to an even `m`. Where `narrow` holds, the neighbour
below is half as far away as the one above. -/
def readsBack (m : Nat) (q : Int) (narrow : Bool) (d : Decimal) : Bool :=
  let low := if narrow then 4 * m - 1 else 4 * m - 2
  let below := compareScaled d.digits d.exponent low (q - 2)
  let above := compareScaled d.digits d.exponent (4 * m + 2) (q - 2)
  let closed := m % 2 == 0
  (below == .gt || closed && below == .eq) && (above == .lt || closed && above == .eq)

/-- The least `k` with `m · 2^q < 10^k`, for positive `m`. -/
def magnitude (m : Nat) (q : Int) : Int :=
  let k := (m.log2 + q) * 30103 / 100000
  let below (k : Int) := compareScaled 1 k m q == .gt
  if below k then k else if below (k + 1) then k + 1 else k + 2

/-- The point of the grid `10^g` that reads back to `m · 2^q` and is nearest to it, of two
equally near ones the larger. -/
def onGrid (m : Nat) (q : Int) (narrow : Bool) (g : Int) : Option Decimal :=
  let num := m * Nat.pow 2 q.toNat * Nat.pow 10 (-g).toNat
  let den := Nat.pow 2 (-q).toNat * Nat.pow 10 g.toNat
  let floor : Decimal := ⟨num / den, g⟩
  let next : Decimal := ⟨num / den + 1, g⟩
  match readsBack m q narrow floor, readsBack m q narrow next with
  | true, true => some (if 2 * (num % den) < den then floor else next)
  | true, false => some floor
  | false, true => some next
  | false, false => none

/-- The exact value of `m · 2^q`. -/
def exact (m : Nat) (q : Int) : Decimal :=
  ⟨m * Nat.pow 2 q.toNat * Nat.pow 5 (-q).toNat, min q 0⟩

/-- Moves up to `n` trailing zeros of the digits into the exponent. -/
def stripZeros : Nat → Decimal → Decimal
  | 0, d => d
  | n + 1, d => if d.digits % 10 = 0 then stripZeros n ⟨d.digits / 10, d.exponent + 1⟩ else d

/-- The decimal of fewest digits that reads back to the positive number `m · 2^q` of the format;
among those the nearest. Seventeen digits suffice for both formats of this library. -/
def shortest (F : Format) (m : Nat) (q : Int) : Decimal :=
  let narrow := m == Nat.pow 2 F.fractionBits && F.minExponent < q
  let k := magnitude m q
  let found := (List.range 17).findSome? fun n => onGrid m q narrow (k - (n + 1 : Nat))
  stripZeros 17 (found.getD (exact m q))

/-- The decimal digits of a number, most significant first. -/
def text (n : Nat) : String := String.ofList (Nat.toDigits 10 n)

/-- Digits without an exponent; a whole number gets `.0` where `pointZero` asks for it. -/
def positional (pointZero : Bool) (d : Decimal) : String :=
  let ds := Nat.toDigits 10 d.digits
  let point := d.exponent + ds.length
  let zeros (n : Int) := List.replicate n.toNat '0'
  String.ofList <|
    if point ≤ 0 then '0' :: '.' :: zeros (-point) ++ ds
    else if ds.length ≤ point then
      ds ++ zeros d.exponent ++ if pointZero then ['.', '0'] else []
    else ds.take point.toNat ++ '.' :: ds.drop point.toNat

/-- One digit, the others behind a point, and the exponent of the first digit. -/
def scientific (d : Decimal) : String :=
  let ds := Nat.toDigits 10 d.digits
  let fraction := if ds.length = 1 then [] else '.' :: ds.drop 1
  String.ofList (ds.take 1 ++ fraction) ++ s!"e{d.exponent + ds.length - 1}"

end Decimal

/-- How numbers are written: whether whole ones end in `.0`, whether very large and very small
ones use an exponent, and the word for what is not a number. -/
structure NumberStyle where
  pointZero : Bool
  scientific : Bool
  nan : String

namespace NumberStyle

/-- Plain numbers in messages: never an exponent, whole numbers without a point. -/
def plain : NumberStyle := ⟨false, false, "NaN"⟩

/-- Numbers that show their type: always a point or an exponent, the exponent from `10^16` on and
below `10^-4`. -/
def explicit : NumberStyle := ⟨true, true, "NaN"⟩

/-- Numbers of a configuration document. -/
def document : NumberStyle := ⟨true, false, "nan"⟩

/-- The text of a value of format `F`. -/
def render (N : NumberStyle) (F : Format) : Quantity → String
  | .nan _ => N.nan
  | .infinite neg => if neg then "-inf" else "inf"
  | .finite neg m q =>
    let sign := if neg then "-" else ""
    if m = 0 then sign ++ if N.pointZero then "0.0" else "0"
    else
      let d := Decimal.shortest F m q
      let leading := d.exponent + (Nat.toDigits 10 d.digits).length - 1
      if N.scientific && (leading < -4 || 16 ≤ leading) then sign ++ d.scientific
      else sign ++ d.positional N.pointZero

end NumberStyle

namespace Single

/-- The number as messages show it. -/
def plainText (x : Single) : String := NumberStyle.plain.render .single x.value

/-- The number as descriptions of values show it. -/
def explicitText (x : Single) : String := NumberStyle.explicit.render .single x.value

end Single

end PassChain
