import Mathlib.Algebra.Order.Field.Power
import Mathlib.Data.Rat.Floor
import Mathlib.Tactic.IntervalCases
import PassChain.Number.Double

/-! Rounding leaves alone what a format can hold, so a single-precision number comes back from
double precision as it was. -/

namespace PassChain

/-- A quotient without remainder is not rounded. -/
theorem roundHalfEven_mul {d : Nat} (hd : 0 < d) (m : Nat) : roundHalfEven (m * d) d = m := by
  simp [roundHalfEven, Nat.mul_div_cancel m hd, hd]

namespace Format

/-- Nonnegative and negative exponents share one power of two. -/
theorem two_pow_toNat (k : Int) : (2 : ℚ) ^ k.toNat = 2 ^ k * 2 ^ (-k).toNat := by
  rw [← zpow_natCast, ← zpow_natCast, ← zpow_add₀ two_ne_zero]
  congr 1
  omega

theorem mul_two_pow_toNat_lt_iff (num den : Nat) (k : Int) :
    num * Nat.pow 2 (-k).toNat < den * Nat.pow 2 k.toNat ↔ (num : ℚ) < den * 2 ^ k := by
  have hpos : (0 : ℚ) < 2 ^ (-k).toNat := by positivity
  rw [← Nat.cast_lt (α := ℚ)]
  simp only [Nat.pow_eq, Nat.cast_mul, Nat.cast_pow, Nat.cast_ofNat]
  rw [two_pow_toNat k, ← mul_assoc, mul_lt_mul_iff_left₀ hpos]

/-- A quotient lies between the powers of two at its exponent and at the next one. -/
theorem exponentOf_bounds {num den : Nat} (hnum : num ≠ 0) (hden : den ≠ 0) :
    (den : ℚ) * 2 ^ exponentOf num den ≤ num ∧ (num : ℚ) < den * 2 ^ (exponentOf num den + 1) := by
  have hnum_le : (2 : ℚ) ^ (num.log2 : Int) ≤ num := by
    exact_mod_cast Nat.log2_self_le hnum
  have hnum_lt : (num : ℚ) < 2 ^ (num.log2 + 1 : Int) := by
    exact_mod_cast Nat.lt_log2_self
  have hden_le : (2 : ℚ) ^ (den.log2 : Int) ≤ den := by
    exact_mod_cast Nat.log2_self_le hden
  have hden_lt : (den : ℚ) < 2 ^ (den.log2 + 1 : Int) := by
    exact_mod_cast Nat.lt_log2_self
  have hsplit (a b : Int) : (2 : ℚ) ^ b * 2 ^ a = 2 ^ (b + a) := (zpow_add₀ two_ne_zero b a).symm
  have hupper : (num : ℚ) < den * 2 ^ ((num.log2 : Int) - den.log2 + 1) := by
    calc (num : ℚ) < 2 ^ (num.log2 + 1 : Int) := hnum_lt
      _ = 2 ^ (den.log2 : Int) * 2 ^ ((num.log2 : Int) - den.log2 + 1) := by
        rw [hsplit]; congr 1; ring
      _ ≤ den * 2 ^ ((num.log2 : Int) - den.log2 + 1) := by gcongr
  have hlower : (den : ℚ) * 2 ^ ((num.log2 : Int) - den.log2 - 1) ≤ num := by
    calc (den : ℚ) * 2 ^ ((num.log2 : Int) - den.log2 - 1)
        ≤ 2 ^ (den.log2 + 1 : Int) * 2 ^ ((num.log2 : Int) - den.log2 - 1) := by gcongr
      _ = 2 ^ (num.log2 : Int) := by rw [hsplit]; congr 1; ring
      _ ≤ num := hnum_le
  unfold exponentOf
  simp only [mul_two_pow_toNat_lt_iff]
  split
  · rename_i h
    rw [sub_add_cancel]
    exact ⟨hlower, h⟩
  · rename_i h
    exact ⟨not_lt.mp h, hupper⟩

theorem exponentOf_eq {num den : Nat} (hden : den ≠ 0) {k : Int}
    (hle : (den : ℚ) * 2 ^ k ≤ num) (hlt : (num : ℚ) < den * 2 ^ (k + 1)) :
    exponentOf num den = k := by
  have hpos : (0 : ℚ) < den := by positivity
  have hnum : num ≠ 0 := by
    rintro rfl
    have : (0 : ℚ) < den * 2 ^ k := by positivity
    simp at hle
    linarith
  obtain ⟨hle', hlt'⟩ := exponentOf_bounds hnum hden
  have hupper : exponentOf num den < k + 1 :=
    (zpow_lt_zpow_iff_right₀ one_lt_two).mp (lt_of_mul_lt_mul_left (hle'.trans_lt hlt) hpos.le)
  have hlower : k < exponentOf num den + 1 :=
    (zpow_lt_zpow_iff_right₀ one_lt_two).mp (lt_of_mul_lt_mul_left (hle.trans_lt hlt') hpos.le)
  omega

variable {F : Format} {m : Nat} {q : Int}

/-- `m · 2^q` is the way in which the format writes a finite magnitude. -/
structure Canonical (F : Format) (m : Nat) (q : Int) : Prop where
  digits : m < 2 ^ (F.fractionBits + 1)
  place : F.minExponent ≤ q
  leading : q = F.minExponent ∨ 2 ^ F.fractionBits ≤ m

/-- The bits of a magnitude that the format writes as `m · 2^q`. -/
def magnitudeBits (F : Format) (m : Nat) (q : Int) : Nat :=
  (q - F.minExponent).toNat * 2 ^ F.fractionBits + m

/-- The last place of a canonical magnitude is found from its value alone. -/
theorem Canonical.place_eq (h : F.Canonical m q) (hm : m ≠ 0) {num den : Nat} (hden : den ≠ 0)
    (hvalue : (num : ℚ) = den * (m * 2 ^ q)) :
    max (exponentOf num den - F.fractionBits) F.minExponent = q := by
  have hexponent : exponentOf num den = m.log2 + q := by
    apply exponentOf_eq hden
    · rw [hvalue, zpow_add₀ two_ne_zero]
      have : (2 : ℚ) ^ (m.log2 : Int) ≤ m := by exact_mod_cast Nat.log2_self_le hm
      gcongr
    · have : (m : ℚ) < 2 ^ (m.log2 + 1 : Int) := by exact_mod_cast Nat.lt_log2_self
      rw [hvalue, add_right_comm, zpow_add₀ two_ne_zero]
      have hpos : (0 : ℚ) < den := by positivity
      gcongr
  have hupper : m.log2 < F.fractionBits + 1 := (Nat.log2_lt hm).mpr h.digits
  rw [hexponent]
  rcases h.leading with hq | hlead
  · subst hq
    omega
  · have hlower : F.fractionBits ≤ m.log2 := (Nat.le_log2 hm).mpr hlead
    have hplace := h.place
    omega

/-- A magnitude that the format can hold gets its own bits. -/
theorem Canonical.roundMagnitude_eq (h : F.Canonical m q) {num den : Nat} (hden : den ≠ 0)
    (hvalue : (num : ℚ) = den * (m * 2 ^ q)) (hfinite : F.magnitudeBits m q ≤ F.infinityBits) :
    F.roundMagnitude num den = F.magnitudeBits m q := by
  by_cases hm : m = 0
  · have hq : q = F.minExponent := by
      rcases h.leading with hq | hlead
      · exact hq
      · have hpos := Nat.two_pow_pos F.fractionBits
        omega
    have hnum : num = 0 := by simpa [hm] using hvalue
    simp [roundMagnitude, magnitudeBits, hnum, hm, hq]
  · have hnum : num ≠ 0 := by
      rintro rfl
      have hpos : (0 : ℚ) < den * (m * 2 ^ q) := by positivity
      rw [← hvalue] at hpos
      exact hpos.ne' Nat.cast_zero
    have hexact : num * Nat.pow 2 (-q).toNat = m * (den * Nat.pow 2 q.toNat) := by
      have : ((num * Nat.pow 2 (-q).toNat : Nat) : ℚ) = (m * (den * Nat.pow 2 q.toNat) : Nat) := by
        simp only [Nat.pow_eq, Nat.cast_mul, Nat.cast_pow, Nat.cast_ofNat]
        rw [hvalue, two_pow_toNat q]
        ring
      exact_mod_cast this
    rw [roundMagnitude, if_neg hnum]
    simp only [h.place_eq hm hden hvalue]
    have hpos : 0 < den * Nat.pow 2 q.toNat :=
      Nat.mul_pos (Nat.pos_of_ne_zero hden) (Nat.two_pow_pos _)
    rw [hexact, roundHalfEven_mul hpos]
    exact min_eq_left hfinite

/-- The bits with this sign, biased exponent and fraction. -/
def pack (F : Format) (neg : Bool) (e f : Nat) : Nat := F.withSign neg (e * 2 ^ F.fractionBits + f)

theorem pack_eq (neg : Bool) (e f : Nat) :
    F.pack neg e f = (neg.toNat * 2 ^ F.exponentBits + e) * 2 ^ F.fractionBits + f := by
  cases neg <;> simp [pack, withSign, signBit, pow_add, add_mul, add_assoc]

theorem decode_pack (neg : Bool) {e f : Nat} (he : e < 2 ^ F.exponentBits)
    (hf : f < 2 ^ F.fractionBits) : F.decode (F.pack neg e f) =
      if e = 2 ^ F.exponentBits - 1 then if f = 0 then .infinite neg else .nan neg
      else if e = 0 then .finite neg f F.minExponent
      else .finite neg (2 ^ F.fractionBits + f) (F.minExponent + (e - 1)) := by
  have hfraction : F.pack neg e f % 2 ^ F.fractionBits = f := by
    rw [pack_eq, Nat.mul_add_mod_self_right, Nat.mod_eq_of_lt hf]
  have hrest : F.pack neg e f / 2 ^ F.fractionBits = neg.toNat * 2 ^ F.exponentBits + e := by
    rw [pack_eq, Nat.mul_comm, Nat.mul_add_div (Nat.two_pow_pos _), Nat.div_eq_of_lt hf, add_zero]
  have hexponent : F.pack neg e f / 2 ^ F.fractionBits % 2 ^ F.exponentBits = e := by
    rw [hrest, Nat.mul_add_mod_self_right, Nat.mod_eq_of_lt he]
  have hsign : F.pack neg e f / F.signBit = neg.toNat := by
    rw [signBit, Nat.pow_eq, add_comm, pow_add, ← Nat.div_div_eq_div_mul, hrest, Nat.mul_comm,
      Nat.mul_add_div (Nat.two_pow_pos _), Nat.div_eq_of_lt he, add_zero]
  have hneg : (neg.toNat % 2 == 1) = neg := by cases neg <;> rfl
  simp only [decode, Nat.pow_eq, hfraction, hexponent, hsign, hneg]

theorem exists_pack {bits : Nat} (hbits : bits < 2 * F.signBit) :
    ∃ neg e f, e < 2 ^ F.exponentBits ∧ f < 2 ^ F.fractionBits ∧ bits = F.pack neg e f := by
  refine ⟨bits / F.signBit == 1, bits / 2 ^ F.fractionBits % 2 ^ F.exponentBits,
    bits % 2 ^ F.fractionBits, Nat.mod_lt _ (Nat.two_pow_pos _), Nat.mod_lt _ (Nat.two_pow_pos _),
    ?_⟩
  have hsign : (bits / F.signBit == 1).toNat = bits / F.signBit := by
    have hlt : bits / F.signBit < 2 := Nat.div_lt_of_lt_mul (by rwa [Nat.mul_comm])
    interval_cases bits / F.signBit <;> rfl
  rw [pack_eq, hsign, signBit, Nat.pow_eq, add_comm F.exponentBits, pow_add,
    ← Nat.div_div_eq_div_mul, Nat.div_add_mod', Nat.div_add_mod']

/-- A canonical magnitude as biased exponent and fraction. -/
theorem Canonical.fields (h : F.Canonical m q) :
    (q = F.minExponent ∧ m < 2 ^ F.fractionBits ∧
        F.magnitudeBits m q = 0 * 2 ^ F.fractionBits + m) ∨
      ∃ e f : Nat, f < 2 ^ F.fractionBits ∧ m = 2 ^ F.fractionBits + f ∧ q = F.minExponent + e ∧
        F.magnitudeBits m q = (e + 1) * 2 ^ F.fractionBits + f := by
  by_cases hm : m < 2 ^ F.fractionBits
  · have hq : q = F.minExponent := h.leading.resolve_right (not_le.mpr hm)
    exact .inl ⟨hq, hm, by simp [magnitudeBits, hq]⟩
  · obtain ⟨f, hf⟩ := Nat.exists_eq_add_of_le (not_lt.mp hm)
    have hplace := h.place
    have hdigits := h.digits
    rw [pow_succ] at hdigits
    refine .inr ⟨(q - F.minExponent).toNat, f, by omega, hf, by omega, ?_⟩
    rw [magnitudeBits, hf]
    ring

theorem lt_of_finite {e f : Nat} (h : e * 2 ^ F.fractionBits + f < F.infinityBits) :
    e < 2 ^ F.exponentBits - 1 :=
  Nat.lt_of_mul_lt_mul_right (Nat.lt_of_le_of_lt (Nat.le_add_right _ f) h)

/-- Bits with a sign in front stand for the magnitude with this sign. -/
theorem Canonical.decode_withSign (h : F.Canonical m q)
    (hfinite : F.magnitudeBits m q < F.infinityBits) (neg : Bool) :
    F.decode (F.withSign neg (F.magnitudeBits m q)) = .finite neg m q := by
  rcases h.fields with ⟨hq, hm, hbits⟩ | ⟨e, f, hf, hm, hq, hbits⟩
  · rw [hbits] at hfinite ⊢
    have he := lt_of_finite hfinite
    exact (decode_pack neg (Nat.two_pow_pos _) hm).trans (by rw [if_neg he.ne, if_pos rfl, hq])
  · rw [hbits] at hfinite ⊢
    have he := lt_of_finite hfinite
    refine (decode_pack neg (by omega) hf).trans ?_
    rw [if_neg he.ne, if_neg e.succ_ne_zero, hm, hq, Nat.cast_succ, add_sub_cancel_right]

theorem decode_infinity (F : Format) (neg : Bool) :
    F.decode (F.withSign neg F.infinityBits) = .infinite neg := by
  have hpack : F.withSign neg F.infinityBits = F.pack neg (2 ^ F.exponentBits - 1) 0 := rfl
  have hlt : 2 ^ F.exponentBits - 1 < 2 ^ F.exponentBits :=
    Nat.sub_lt (Nat.two_pow_pos _) Nat.one_pos
  rw [hpack, decode_pack neg hlt (Nat.two_pow_pos _), if_pos rfl, if_pos rfl]

/-- What bits stand for. -/
theorem decode_cases {bits : Nat} (hbits : bits < 2 * F.signBit) :
    (∃ neg m q, F.Canonical m q ∧ F.magnitudeBits m q < F.infinityBits ∧
      F.decode bits = .finite neg m q ∧ bits = F.withSign neg (F.magnitudeBits m q)) ∨
    (∃ neg, F.decode bits = .infinite neg ∧ bits = F.withSign neg F.infinityBits) ∨
    ∃ neg, F.decode bits = .nan neg := by
  obtain ⟨neg, e, f, he, hf, rfl⟩ := exists_pack hbits
  rw [decode_pack neg he hf]
  have hfinite (hne : e ≠ 2 ^ F.exponentBits - 1) :
      e * 2 ^ F.fractionBits + f < F.infinityBits := by
    have hle : e + 1 ≤ 2 ^ F.exponentBits - 1 := by omega
    have hmul : (e + 1) * 2 ^ F.fractionBits ≤ F.infinityBits := Nat.mul_le_mul_right _ hle
    rw [add_mul, one_mul] at hmul
    omega
  by_cases htop : e = 2 ^ F.exponentBits - 1
  · rw [if_pos htop]
    by_cases hf0 : f = 0
    · exact .inr (.inl ⟨neg, by rw [if_pos hf0], by rw [htop, hf0]; rfl⟩)
    · exact .inr (.inr ⟨neg, by rw [if_neg hf0]⟩)
  · have hbits := hfinite htop
    rw [if_neg htop]
    refine .inl ?_
    by_cases he0 : e = 0
    · subst he0
      have hm : F.magnitudeBits f F.minExponent = 0 * 2 ^ F.fractionBits + f := by
        simp [magnitudeBits]
      refine ⟨neg, f, F.minExponent, ⟨?_, le_rfl, .inl rfl⟩, hm ▸ hbits, if_pos rfl, hm ▸ rfl⟩
      rw [pow_succ]
      omega
    · have hm : F.magnitudeBits (2 ^ F.fractionBits + f) (F.minExponent + (e - 1)) =
          e * 2 ^ F.fractionBits + f := by
        obtain ⟨k, rfl⟩ := Nat.exists_eq_succ_of_ne_zero he0
        rw [magnitudeBits, Nat.cast_succ, add_sub_cancel_right, add_sub_cancel_left,
          Int.toNat_natCast, Nat.succ_eq_add_one]
        ring
      refine ⟨neg, 2 ^ F.fractionBits + f, F.minExponent + (e - 1), ⟨?_, by omega, .inr (by omega)⟩,
        hm ▸ hbits, if_neg he0, hm ▸ rfl⟩
      rw [pow_succ]
      omega

/-- A magnitude that the format can hold gets its own bits, whatever way it is written in. -/
theorem Canonical.ofQuantity_eq (h : F.Canonical m q)
    (hfinite : F.magnitudeBits m q < F.infinityBits) (neg : Bool) {m' : Nat} {q' : Int}
    (hvalue : (m' : ℚ) * 2 ^ q' = m * 2 ^ q) :
    F.ofQuantity (.finite neg m' q') = F.withSign neg (F.magnitudeBits m q) := by
  have hden : Nat.pow 2 (-q').toNat ≠ 0 := (Nat.two_pow_pos _).ne'
  have hround : F.roundMagnitude (m' * Nat.pow 2 q'.toNat) (Nat.pow 2 (-q').toNat) =
      F.magnitudeBits m q := by
    refine h.roundMagnitude_eq hden ?_ hfinite.le
    simp only [Nat.pow_eq, Nat.cast_mul, Nat.cast_pow, Nat.cast_ofNat]
    rw [← hvalue, two_pow_toNat q']
    ring
  rw [ofQuantity, round, hround]

theorem withSign_lt {magnitude : Nat} (h : magnitude < F.signBit) (neg : Bool) :
    F.withSign neg magnitude < 2 * F.signBit := by
  cases neg
  · show magnitude < 2 * F.signBit
    omega
  · show F.signBit + magnitude < 2 * F.signBit
    omega

end Format

/-- The exponents of single precision leave room for more digits in double precision. -/
theorem exponent_fits {q : Int} {m m' s : Nat} (h : (q - -149).toNat * 2 ^ 23 + m < 255 * 2 ^ 23)
    (hm' : m' < 2 ^ 53) : (q - s - -1074).toNat * 2 ^ 52 + m' < 2047 * 2 ^ 52 := by
  have hq : (q - -149).toNat < 255 :=
    Nat.lt_of_mul_lt_mul_right (Nat.lt_of_le_of_lt (Nat.le_add_right _ m) h)
  have hplaces : (q - s - -1074).toNat ≤ 1179 := by omega
  calc (q - s - -1074).toNat * 2 ^ 52 + m'
      ≤ 1179 * 2 ^ 52 + m' := Nat.add_le_add_right (Nat.mul_le_mul_right _ hplaces) m'
    _ < 1179 * 2 ^ 52 + 2 ^ 53 := Nat.add_lt_add_left hm' _
    _ < 2047 * 2 ^ 52 := by norm_num

/-- A magnitude in single precision, written with more digits. -/
theorem Format.Canonical.exists_double {m : Nat} {q : Int} (h : Format.single.Canonical m q)
    (hfinite : Format.single.magnitudeBits m q < Format.single.infinityBits) :
    ∃ m' q', Format.double.Canonical m' q' ∧
      Format.double.magnitudeBits m' q' < Format.double.infinityBits ∧
      (m' : ℚ) * 2 ^ q' = m * 2 ^ q := by
  have hmin : Format.single.minExponent = -149 := by decide
  have hmin' : Format.double.minExponent = -1074 := by decide
  have hinfinity : Format.single.infinityBits = 255 * 2 ^ 23 := by decide
  have hinfinity' : Format.double.infinityBits = 2047 * 2 ^ 52 := by decide
  have hdigits : m < 2 ^ 24 := h.digits
  have hplace := h.place
  have hbits : (q - -149).toNat * 2 ^ 23 + m < 255 * 2 ^ 23 := by
    rw [← hmin, ← hinfinity]
    exact hfinite
  rw [hmin] at hplace
  by_cases hm : m = 0
  · refine ⟨0, -1074, ⟨by decide, hmin'.le, .inl hmin'.symm⟩, ?_, by simp [hm]⟩
    rw [hinfinity', Format.magnitudeBits, hmin']
    decide
  · have hlog : m.log2 < 24 := (Nat.log2_lt hm).mpr hdigits
    have hlower : 2 ^ 52 ≤ m * 2 ^ (52 - m.log2) := by
      calc 2 ^ 52 = 2 ^ m.log2 * 2 ^ (52 - m.log2) := by rw [← pow_add]; congr 1; omega
        _ ≤ m * 2 ^ (52 - m.log2) := Nat.mul_le_mul_right _ (Nat.log2_self_le hm)
    have hupper : m * 2 ^ (52 - m.log2) < 2 ^ 53 := by
      calc m * 2 ^ (52 - m.log2) < 2 ^ (m.log2 + 1) * 2 ^ (52 - m.log2) :=
            Nat.mul_lt_mul_of_pos_right Nat.lt_log2_self (Nat.two_pow_pos _)
        _ = 2 ^ 53 := by rw [← pow_add]; congr 1; omega
    refine ⟨m * 2 ^ (52 - m.log2), q - (52 - m.log2 : Nat), ⟨hupper, ?_, .inr hlower⟩, ?_, ?_⟩
    · rw [hmin']
      omega
    · have hfraction : Format.double.fractionBits = 52 := rfl
      rw [hinfinity', Format.magnitudeBits, hmin', hfraction]
      exact exponent_fits hbits hupper
    · push_cast
      rw [zpow_sub₀ two_ne_zero, zpow_natCast]
      field_simp

namespace Double

theorem value_ofBits {bits : Nat} (h : bits < 2 * Format.double.signBit) :
    (ofBits bits).value = Format.double.decode bits := by
  have htoNat : (UInt64.ofNat bits).toNat = bits := UInt64.toNat_ofNat_of_lt' h
  rw [ofBits, value, htoNat]

/-- A single-precision number comes back from double precision as it was. -/
theorem toSingle_ofSingle {x : Single} (hx : ∀ neg, x.value ≠ .nan neg) :
    (ofSingle x).toSingle = x := by
  have hbits : x.bits.toNat < 2 * Format.single.signBit := x.bits.toNat_lt
  have hofBits : Single.ofBits x.bits.toNat = x := by
    rw [Single.ofBits, UInt32.ofNat_toNat]
  rcases Format.decode_cases hbits with ⟨neg, m, q, hm, hfinite, hdecode, heq⟩ |
    ⟨neg, hdecode, heq⟩ | ⟨neg, hdecode⟩
  · obtain ⟨m', q', hm', hfinite', hvalue⟩ := hm.exists_double hfinite
    have hofSingle : ofSingle x = ofBits (Format.double.withSign neg
        (Format.double.magnitudeBits m' q')) := by
      have hvalue' : x.value = .finite neg m q := hdecode
      rw [ofSingle, hvalue']
      exact congrArg ofBits (hm'.ofQuantity_eq hfinite' neg hvalue.symm)
    have hlt := Format.withSign_lt
      (hfinite'.trans (by decide : Format.double.infinityBits < Format.double.signBit)) neg
    rw [toSingle, hofSingle, value_ofBits hlt, hm'.decode_withSign hfinite', Single.ofQuantity,
      hm.ofQuantity_eq hfinite neg hvalue, ← heq, hofBits]
  · have hvalue' : x.value = .infinite neg := hdecode
    have hlt := @Format.withSign_lt Format.double Format.double.infinityBits (by decide) neg
    rw [toSingle, ofSingle, hvalue']
    show Single.ofQuantity
      (ofBits (Format.double.withSign neg Format.double.infinityBits)).value = x
    rw [value_ofBits hlt, Format.decode_infinity, ← hofBits, heq]
    rfl
  · exact absurd hdecode (hx neg)

end Double

end PassChain
