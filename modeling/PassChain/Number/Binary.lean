/-!
Binary floating-point formats over exact integers: what a bit pattern stands for, and the
nearest bit pattern to an exact quotient. Nothing here rounds twice: every operation computes
an exact value first and rounds it once.
-/

namespace PassChain

/-- The quotient `num / den` rounded to the nearest integer, a tie going to the even neighbour. -/
def roundHalfEven (num den : Nat) : Nat :=
  let q := num / den
  let r := num % den
  if 2 * r < den then q
  else if den < 2 * r then q + 1
  else q + q % 2

/-- The quotient `num / den` rounded to the nearest integer, a tie going up. -/
def roundHalfUp (num den : Nat) : Nat :=
  let q := num / den
  if 2 * (num % den) < den then q else q + 1

/-- `m` with all but its `p` leading binary digits rounded away, a tie going to even. -/
def keepLeadingBits (p m : Nat) : Nat :=
  let dropped := m.log2 + 1 - p
  roundHalfEven m (Nat.pow 2 dropped) * Nat.pow 2 dropped

/-- A number of at most `p` binary digits keeps them all. -/
theorem keepLeadingBits_of_lt {p m : Nat} (h : m < Nat.pow 2 p) : keepLeadingBits p m = m := by
  by_cases hm : m = 0
  · simp [hm, keepLeadingBits, roundHalfEven]
  · have hd : m.log2 + 1 - p = 0 := by
      have := (Nat.log2_lt hm).2 h
      omega
    simp [keepLeadingBits, hd, roundHalfEven, Nat.mod_one]

/-- A binary interchange format: a sign bit, `exponentBits` of biased exponent, and
`fractionBits` of fraction. -/
structure Format where
  fractionBits : Nat
  exponentBits : Nat

/-- What a bit pattern stands for. A finite value is `± m · 2^q`. -/
inductive Quantity where
  | finite (neg : Bool) (m : Nat) (q : Int)
  | infinite (neg : Bool)
  | nan (neg : Bool)
deriving DecidableEq, Repr

namespace Format

/-- Thirty-two bit numbers. -/
def single : Format := ⟨23, 8⟩

/-- Sixty-four bit numbers. -/
def double : Format := ⟨52, 11⟩

variable (F : Format)

/-- The exponent of the last place of the smallest numbers. -/
def minExponent : Int :=
  2 - (Nat.pow 2 (F.exponentBits - 1) : Nat) - F.fractionBits

/-- The magnitude bits of infinity; all larger ones are not numbers. -/
def infinityBits : Nat := (Nat.pow 2 F.exponentBits - 1) * Nat.pow 2 F.fractionBits

/-- The place value of the sign bit. -/
def signBit : Nat := Nat.pow 2 (F.exponentBits + F.fractionBits)

/-- The bits of a magnitude with a sign in front. -/
def withSign (neg : Bool) (magnitude : Nat) : Nat :=
  if neg then F.signBit + magnitude else magnitude

/-- What the bits stand for. -/
def decode (bits : Nat) : Quantity :=
  let neg := bits / F.signBit % 2 == 1
  let e := bits / Nat.pow 2 F.fractionBits % Nat.pow 2 F.exponentBits
  let f := bits % Nat.pow 2 F.fractionBits
  if e = Nat.pow 2 F.exponentBits - 1 then
    if f = 0 then .infinite neg else .nan neg
  else if e = 0 then .finite neg f F.minExponent
  else .finite neg (Nat.pow 2 F.fractionBits + f) (F.minExponent + (e - 1))

/-- The exponent `k` with `2^k ≤ num / den < 2^(k+1)`, for positive `num` and `den`. -/
def exponentOf (num den : Nat) : Int :=
  let k : Int := num.log2 - den.log2
  if num * Nat.pow 2 (-k).toNat < den * Nat.pow 2 k.toNat then k - 1 else k

/-- The magnitude bits nearest to `num / den`, a tie going to the even neighbour and values
beyond the largest finite one to infinity. -/
def roundMagnitude (num den : Nat) : Nat :=
  if num = 0 then 0
  else
    let q := max (exponentOf num den - F.fractionBits) F.minExponent
    let m := roundHalfEven (num * Nat.pow 2 (-q).toNat) (den * Nat.pow 2 q.toNat)
    min ((q - F.minExponent).toNat * Nat.pow 2 F.fractionBits + m) F.infinityBits

/-- The bits nearest to `± num / den`. -/
def round (neg : Bool) (num den : Nat) : Nat := F.withSign neg (F.roundMagnitude num den)

/-- The bits nearest to a value of another format. -/
def ofQuantity : Quantity → Nat
  | .finite neg m q => F.round neg (m * Nat.pow 2 q.toNat) (Nat.pow 2 (-q).toNat)
  | .infinite neg => F.withSign neg F.infinityBits
  | .nan neg => F.withSign neg (F.infinityBits + Nat.pow 2 (F.fractionBits - 1))

/-- The bits nearest to `± digits · 10^exponent`. Exponents far outside the format's range are
settled by the number of digits alone, so that no huge power of ten is computed. -/
def ofDecimal (neg : Bool) (digits : Nat) (exponent : Int) : Nat :=
  let places : Int := (Nat.toDigits 10 digits).length + exponent
  let reach : Int := (Nat.pow 2 F.exponentBits : Nat)
  if digits = 0 ∨ places < -reach then F.withSign neg 0
  else if reach < places then F.withSign neg F.infinityBits
  else F.round neg (digits * Nat.pow 10 exponent.toNat) (Nat.pow 10 (-exponent).toNat)

end Format

end PassChain
