import PassChain.Proofs.ExactRounding

/-! What floating-point formats keep of whole numbers. -/
namespace PassChain

/-- The value of a finite number. -/
def Quantity.toRat? : Quantity → Option ℚ
  | .finite neg m q => some ((if neg then -1 else 1) * (m * 2 ^ q))
  | .infinite _ | .nan _ => none

section Quotients

variable {n n' d k : Nat}

theorem div_le_roundHalfEven (n d : Nat) : n / d ≤ roundHalfEven n d := by
  unfold roundHalfEven
  dsimp only
  split_ifs <;> omega

theorem roundHalfEven_le_div_add_one (n d : Nat) : roundHalfEven n d ≤ n / d + 1 := by
  unfold roundHalfEven
  dsimp only
  split_ifs <;> omega

/-- Rounding does not pass over whole quotients. -/
theorem le_roundHalfEven (hd : 0 < d) (h : k * d ≤ n) : k ≤ roundHalfEven n d :=
  ((Nat.le_div_iff_mul_le hd).mpr h).trans (div_le_roundHalfEven n d)

theorem roundHalfEven_le (hd : 0 < d) (h : n ≤ k * d) : roundHalfEven n d ≤ k := by
  rcases h.lt_or_eq with hlt | rfl
  · have hquotient : n / d < k := (Nat.div_lt_iff_lt_mul hd).mpr hlt
    exact (roundHalfEven_le_div_add_one n d).trans hquotient
  · exact (roundHalfEven_mul hd k).le

theorem roundHalfEven_mono (h : n ≤ n') : roundHalfEven n d ≤ roundHalfEven n' d := by
  rcases (Nat.div_le_div_right (c := d) h).lt_or_eq with hlt | heq
  · exact (roundHalfEven_le_div_add_one n d).trans
      (Nat.le_trans hlt (div_le_roundHalfEven n' d))
  · have hrest : n % d ≤ n' % d := by
      have hn := Nat.div_add_mod n d
      have hn' := Nat.div_add_mod n' d
      rw [heq] at hn
      omega
    unfold roundHalfEven
    rw [heq]
    dsimp only
    split_ifs <;> omega

/-- What is rounded off is half a divisor at most. -/
theorem roundHalfEven_near (hd : 0 < d) : 2 * n ≤ 2 * (roundHalfEven n d * d) + d ∧
    2 * (roundHalfEven n d * d) ≤ 2 * n + d := by
  have hn := Nat.div_add_mod' n d
  have hrest := Nat.mod_lt n hd
  have hup : (n / d + 1) * d = n / d * d + d := Nat.succ_mul _ d
  unfold roundHalfEven
  dsimp only
  split_ifs with hlow hhigh
  · omega
  · rw [hup]
    omega
  · rcases Nat.mod_two_eq_zero_or_one (n / d) with heven | hodd
    · rw [heven, Nat.add_zero]
      omega
    · rw [hodd, hup]
      omega

end Quotients

section LeadingBits

variable {p n n' : Nat}

theorem keepLeadingBits_eq (p n : Nat) : keepLeadingBits p n =
    roundHalfEven n (2 ^ (n.log2 + 1 - p)) * 2 ^ (n.log2 + 1 - p) := rfl

/-- A number is kept just when nothing but zeros is dropped. -/
theorem keepLeadingBits_eq_self_iff : keepLeadingBits p n = n ↔ 2 ^ (n.log2 + 1 - p) ∣ n := by
  rw [keepLeadingBits_eq]
  constructor
  · intro h
    exact ⟨_, h.symm.trans (Nat.mul_comm _ _)⟩
  · rintro ⟨k, hk⟩
    have hround := roundHalfEven_mul (Nat.two_pow_pos (n.log2 + 1 - p)) k
    rw [Nat.mul_comm, ← hk] at hround
    rw [hround, Nat.mul_comm, ← hk]

/-- What is dropped is half of the last place kept at most. -/
theorem keepLeadingBits_near (p n : Nat) :
    2 * n ≤ 2 * keepLeadingBits p n + 2 ^ (n.log2 + 1 - p) ∧
      2 * keepLeadingBits p n ≤ 2 * n + 2 ^ (n.log2 + 1 - p) :=
  roundHalfEven_near (Nat.two_pow_pos _)

theorem keepLeadingBits_zero (p : Nat) : keepLeadingBits p 0 = 0 :=
  keepLeadingBits_of_lt (Nat.two_pow_pos p)

theorem keepLeadingBits_of_le (hp : 0 < p) (h : n ≤ 2 ^ p) : keepLeadingBits p n = n := by
  rcases h.lt_or_eq with hlt | rfl
  · exact keepLeadingBits_of_lt hlt
  · rw [keepLeadingBits_eq_self_iff, Nat.log2_two_pow, Nat.add_sub_cancel_left]
    exact Nat.pow_dvd_pow 2 hp

/-- Rounding does not pass over the powers of two. -/
theorem keepLeadingBits_le (p n : Nat) : keepLeadingBits p n ≤ 2 ^ (n.log2 + 1) := by
  have hsplit : 2 ^ (n.log2 + 1) = 2 ^ (n.log2 + 1 - (n.log2 + 1 - p)) * 2 ^ (n.log2 + 1 - p) := by
    rw [← pow_add]
    congr 1
    omega
  have hlt : n ≤ 2 ^ (n.log2 + 1) := Nat.lt_log2_self.le
  rw [keepLeadingBits_eq, hsplit]
  rw [hsplit] at hlt
  exact Nat.mul_le_mul_right _ (roundHalfEven_le (Nat.two_pow_pos _) hlt)

theorem le_keepLeadingBits (hp : 0 < p) (hn : n ≠ 0) : 2 ^ n.log2 ≤ keepLeadingBits p n := by
  have hsplit : 2 ^ n.log2 = 2 ^ (n.log2 - (n.log2 + 1 - p)) * 2 ^ (n.log2 + 1 - p) := by
    rw [← pow_add]
    congr 1
    omega
  have hle : 2 ^ n.log2 ≤ n := Nat.log2_self_le hn
  rw [keepLeadingBits_eq, hsplit]
  rw [hsplit] at hle
  exact Nat.mul_le_mul_right _ (le_roundHalfEven (Nat.two_pow_pos _) hle)

/-- Larger numbers are not made smaller. -/
theorem keepLeadingBits_mono (hp : 0 < p) (h : n ≤ n') :
    keepLeadingBits p n ≤ keepLeadingBits p n' := by
  by_cases hn : n = 0
  · rw [hn, keepLeadingBits_zero]
    exact Nat.zero_le _
  · have hlog : n.log2 ≤ n'.log2 := (Nat.le_log2 (by omega)).mpr ((Nat.log2_self_le hn).trans h)
    rcases hlog.lt_or_eq with hlt | heq
    · calc keepLeadingBits p n ≤ 2 ^ (n.log2 + 1) := keepLeadingBits_le p n
        _ ≤ 2 ^ n'.log2 := Nat.pow_le_pow_right (by decide) hlt
        _ ≤ keepLeadingBits p n' := le_keepLeadingBits hp (by omega)
    · rw [keepLeadingBits_eq, keepLeadingBits_eq, heq]
      exact Nat.mul_le_mul_right _ (roundHalfEven_mono h)

end LeadingBits

namespace Format

variable {F : Format} {m n : Nat} {q : Int}

/-- Bits stand for the magnitude of which they are made, also where rounding has led to one digit
too many: then the carry moves into the exponent. -/
theorem toRat?_decode (digits : m ≤ 2 ^ (F.fractionBits + 1)) (place : F.minExponent ≤ q)
    (leading : q = F.minExponent ∨ 2 ^ F.fractionBits ≤ m)
    (hfinite : F.magnitudeBits m q < F.infinityBits) (neg : Bool) :
    (F.decode (F.withSign neg (F.magnitudeBits m q))).toRat? =
      some ((if neg then -1 else 1) * ((m : ℚ) * 2 ^ q)) := by
  rcases digits.lt_or_eq with hlt | rfl
  · rw [Canonical.decode_withSign ⟨hlt, place, leading⟩ hfinite]
    rfl
  · have hbits : F.magnitudeBits (2 ^ (F.fractionBits + 1)) q =
        F.magnitudeBits (2 ^ F.fractionBits) (q + 1) := by
      have hplace : (q + 1 - F.minExponent).toNat = (q - F.minExponent).toNat + 1 := by omega
      rw [magnitudeBits, magnitudeBits, hplace, pow_succ]
      ring
    have hcanonical : F.Canonical (2 ^ F.fractionBits) (q + 1) :=
      ⟨Nat.pow_lt_pow_right (by decide) (Nat.lt_succ_self _), by omega, .inr le_rfl⟩
    rw [hbits] at hfinite ⊢
    rw [hcanonical.decode_withSign hfinite, Quantity.toRat?, zpow_add_one₀ two_ne_zero]
    push_cast
    rw [pow_succ]
    congr 2
    ring

theorem exponentOf_one (hn : n ≠ 0) : exponentOf n 1 = n.log2 := by
  refine exponentOf_eq one_ne_zero ?_ ?_
  · rw [Nat.cast_one, one_mul]
    exact_mod_cast Nat.log2_self_le hn
  · rw [Nat.cast_one, one_mul]
    exact_mod_cast Nat.lt_log2_self

/-- A whole number is rounded to its leading digits. -/
theorem toRat?_round (hmin : F.minExponent + F.fractionBits ≤ 0)
    (hmax : (n.log2 : Int) - F.fractionBits - F.minExponent + 3 < (2 ^ F.exponentBits : Nat)) :
    (F.decode (F.round false n 1)).toRat? =
      some ((keepLeadingBits (F.fractionBits + 1) n : Nat) : ℚ) := by
  by_cases hn : n = 0
  · subst hn
    have hfinite : F.magnitudeBits 0 F.minExponent < F.infinityBits := by
      have hplaces : 0 < 2 ^ F.exponentBits - 1 := by omega
      have hpos : 0 < F.infinityBits := Nat.mul_pos hplaces (Nat.two_pow_pos _)
      simpa [magnitudeBits] using hpos
    have hzero := toRat?_decode (Nat.zero_le _) le_rfl (.inl rfl) hfinite false
    simpa [magnitudeBits, round, roundMagnitude, keepLeadingBits_zero] using hzero
  obtain ⟨q, hq⟩ : ∃ q : Int, q = n.log2 - F.fractionBits := ⟨_, rfl⟩
  obtain ⟨m, hm⟩ : ∃ m, m = roundHalfEven (n * 2 ^ (-q).toNat) (2 ^ q.toNat) := ⟨_, rfl⟩
  have hplace : max (exponentOf n 1 - F.fractionBits) F.minExponent = q := by
    rw [exponentOf_one hn, ← hq]
    omega
  have hscale : F.fractionBits + q.toNat = n.log2 + (-q).toNat := by omega
  have hlower : 2 ^ F.fractionBits ≤ m := by
    rw [hm]
    refine le_roundHalfEven (Nat.two_pow_pos _) ?_
    rw [← pow_add, hscale, pow_add]
    exact Nat.mul_le_mul_right _ (Nat.log2_self_le hn)
  have hupper : m ≤ 2 ^ (F.fractionBits + 1) := by
    rw [hm]
    refine roundHalfEven_le (Nat.two_pow_pos _) ?_
    rw [← pow_add, add_right_comm, hscale, add_right_comm, pow_add]
    exact Nat.mul_le_mul_right _ Nat.lt_log2_self.le
  have hfinite : F.magnitudeBits m q < F.infinityBits := by
    have hplaces : (q - F.minExponent).toNat + 2 < 2 ^ F.exponentBits - 1 := by omega
    rw [pow_succ] at hupper
    calc F.magnitudeBits m q ≤ ((q - F.minExponent).toNat + 2) * 2 ^ F.fractionBits := by
          rw [magnitudeBits, add_mul]
          omega
      _ < F.infinityBits := Nat.mul_lt_mul_of_pos_right hplaces (Nat.two_pow_pos _)
  have hround : F.round false n 1 = F.withSign false (F.magnitudeBits m q) := by
    rw [round, roundMagnitude, if_neg hn]
    simp only [hplace, one_mul, Nat.pow_eq, ← hm]
    exact congrArg (F.withSign false) (min_eq_left hfinite.le)
  have hvalue : (m : ℚ) * 2 ^ q = (keepLeadingBits (F.fractionBits + 1) n : Nat) := by
    rcases le_total 0 q with hq0 | hq0
    · have hdropped : n.log2 + 1 - (F.fractionBits + 1) = q.toNat := by omega
      have hplaces : (-q).toNat = 0 := by omega
      rw [hplaces, pow_zero, mul_one] at hm
      rw [keepLeadingBits_eq, hdropped, ← hm]
      push_cast
      rw [← zpow_natCast, Int.toNat_of_nonneg hq0]
    · have hplaces : q.toNat = 0 := by omega
      have hone := two_pow_toNat q
      rw [hplaces, pow_zero] at hone
      have hkept : keepLeadingBits (F.fractionBits + 1) n = n :=
        keepLeadingBits_of_lt ((Nat.log2_lt hn).mp (by omega))
      have hexact := roundHalfEven_mul one_pos (n * 2 ^ (-q).toNat)
      rw [mul_one] at hexact
      rw [hplaces, pow_zero, hexact] at hm
      rw [hkept, hm]
      push_cast
      rw [mul_assoc, mul_comm ((2 : ℚ) ^ (-q).toNat), ← hone, mul_one]
  rw [hround, toRat?_decode hupper (by omega) (.inr hlower) hfinite, ← hvalue]
  simp

theorem round_le (F : Format) (num den : Nat) : F.round false num den ≤ F.infinityBits := by
  rw [round, withSign, if_neg Bool.false_ne_true, roundMagnitude]
  split
  · exact Nat.zero_le _
  · exact min_le_right _ _

end Format

namespace Single

/-- A number of 64 bits keeps its first 24 binary digits. -/
theorem toRat?_ofNat {n : Nat} (h : n < UInt64.size) :
    (ofNat n).value.toRat? = some ((keepLeadingBits 24 n : Nat) : ℚ) := by
  have hlog : n.log2 < 64 := by
    by_cases hn : n = 0
    · rw [hn]
      decide
    · exact (Nat.log2_lt hn).mpr h
  have hinfinity : Format.single.infinityBits < 2 ^ 32 := by decide
  have hbits : (ofNat n).bits.toNat = Format.single.round false n 1 :=
    UInt32.toNat_ofNat_of_lt' (Nat.lt_of_le_of_lt (Format.round_le _ n 1) hinfinity)
  have hmin : Format.single.minExponent = -149 := by decide
  have hfraction : Format.single.fractionBits = 23 := rfl
  have hexponent : 2 ^ Format.single.exponentBits = 256 := rfl
  have hround := Format.toRat?_round (F := .single) (n := n) (by omega) (by omega)
  rw [hfraction] at hround
  rw [value, hbits, hround]

end Single

end PassChain
