import PassChain.Number.Binary

/-!
Single-precision numbers as shaders see them: a bit pattern, with arithmetic that rounds the
exact result once, to nearest with ties to even.
-/

namespace PassChain

/-- A single-precision number, by its bits. -/
structure Single where
  bits : UInt32
deriving DecidableEq, Repr, Inhabited

namespace Single

/-- The number with these magnitude and sign bits. -/
def ofBits (bits : Nat) : Single := ⟨.ofNat bits⟩

/-- What the number stands for. -/
def value (x : Single) : Quantity := Format.single.decode x.bits.toNat

/-- The number nearest to an exact value. -/
def ofQuantity (x : Quantity) : Single := ofBits (Format.single.ofQuantity x)

/-- The number nearest to `n`. -/
def ofNat (n : Nat) : Single := ofBits (Format.single.round false n 1)

/-- The number nearest to `n`. -/
def ofInt (n : Int) : Single := ofBits (Format.single.round (n < 0) n.natAbs 1)

instance : NatCast Single := ⟨ofNat⟩

/-- The number that stands for no value. -/
def nan : Single := ofQuantity (.nan false)

/-- The same magnitude with the other sign. -/
def neg (x : Single) : Single := ⟨x.bits ^^^ 0x80000000⟩

/-- The exact sum of two finite values, over the smaller of their exponents. -/
def exactSum (neg₁ : Bool) (m₁ : Nat) (q₁ : Int) (neg₂ : Bool) (m₂ : Nat) (q₂ : Int) : Int × Int :=
  let q := min q₁ q₂
  let signed (neg : Bool) (m : Nat) (e : Int) : Int :=
    let n : Int := (m * Nat.pow 2 (e - q).toNat : Nat)
    if neg then -n else n
  (signed neg₁ m₁ q₁ + signed neg₂ m₂ q₂, q)

/-- The sum, rounded once. An exact zero is positive unless both terms are negative. -/
def add (x y : Single) : Single :=
  match x.value, y.value with
  | .nan _, _ | _, .nan _ => nan
  | .infinite a, .infinite b => if a = b then x else nan
  | .infinite _, _ => x
  | _, .infinite _ => y
  | .finite a m q, .finite b n r =>
    let (s, e) := exactSum a m q b n r
    if s = 0 then ofQuantity (.finite (a && b) 0 0) else ofQuantity (.finite (s < 0) s.natAbs e)

/-- The difference, rounded once. -/
def sub (x y : Single) : Single := x.add y.neg

/-- The product, rounded once. -/
def mul (x y : Single) : Single :=
  match x.value, y.value with
  | .nan _, _ | _, .nan _ => nan
  | .infinite a, .infinite b => ofQuantity (.infinite (a != b))
  | .infinite a, .finite b m _ | .finite b m _, .infinite a =>
    if m = 0 then nan else ofQuantity (.infinite (a != b))
  | .finite a m q, .finite b n r => ofQuantity (.finite (a != b) (m * n) (q + r))

/-- The quotient, rounded once. -/
def div (x y : Single) : Single :=
  match x.value, y.value with
  | .nan _, _ | _, .nan _ => nan
  | .infinite _, .infinite _ => nan
  | .infinite a, .finite b _ _ => ofQuantity (.infinite (a != b))
  | .finite a _ _, .infinite b => ofQuantity (.finite (a != b) 0 0)
  | .finite a m q, .finite b n r =>
    if n = 0 then
      if m = 0 then nan else ofQuantity (.infinite (a != b))
    else
      let e := q - r
      ofBits (Format.single.round (a != b) (m * Nat.pow 2 e.toNat) (n * Nat.pow 2 (-e).toNat))

instance : Neg Single := ⟨neg⟩
instance : Add Single := ⟨add⟩
instance : Sub Single := ⟨sub⟩
instance : Mul Single := ⟨mul⟩
instance : Div Single := ⟨div⟩

/-- The four bytes of the number, least significant first. -/
def toBytes (x : Single) : List UInt8 :=
  [x.bits.toUInt8, (x.bits >>> 8).toUInt8, (x.bits >>> 16).toUInt8, (x.bits >>> 24).toUInt8]

/-- The number whose bytes these are, least significant first. -/
def ofBytes (a b c d : UInt8) : Single :=
  ⟨a.toUInt32 ||| b.toUInt32 <<< 8 ||| c.toUInt32 <<< 16 ||| d.toUInt32 <<< 24⟩

theorem length_toBytes (x : Single) : x.toBytes.length = 4 := rfl

end Single

end PassChain
