import PassChain.Proofs.Sizes
import PassChain.Proofs.WholeNumbers

/-! A scale rule gives the exact multiple of the size that it scales, rounded once. -/
namespace PassChain

/-- The nearest whole number, a half going away from zero. -/
def roundAway (x : ℚ) : ℤ := if 0 ≤ x then round x else -round (-x)

theorem roundAway_of_nonneg {x : ℚ} (h : 0 ≤ x) : roundAway x = round x := if_pos h

section Quotients

variable {n n' d : Nat}

theorem roundHalfUp_eq_div (hd : 0 < d) : roundHalfUp n d = (2 * n + d) / (2 * d) := by
  have hn := Nat.div_add_mod n d
  have hrest := Nat.mod_lt n hd
  have hquotient : n / d * (2 * d) = 2 * (d * (n / d)) := by ring
  have hnext : (n / d + 1) * (2 * d) = 2 * (d * (n / d)) + 2 * d := by ring
  have hafter : (n / d + 1 + 1) * (2 * d) = 2 * (d * (n / d)) + 4 * d := by ring
  unfold roundHalfUp
  dsimp only
  symm
  split_ifs with hlow
  · apply Nat.div_eq_of_lt_le
    · omega
    · omega
  · apply Nat.div_eq_of_lt_le
    · omega
    · omega

theorem roundHalfUp_mono (hd : 0 < d) (h : n ≤ n') : roundHalfUp n d ≤ roundHalfUp n' d := by
  rw [roundHalfUp_eq_div hd, roundHalfUp_eq_div hd]
  exact Nat.div_le_div_right (by omega)

/-- Halves go up, as rounding of fractions takes them. -/
theorem roundHalfUp_eq_round (hd : 0 < d) : (roundHalfUp n d : ℤ) = round ((n : ℚ) / d) := by
  have hne : (d : ℚ) ≠ 0 := by positivity
  have hsum : (n : ℚ) / d + 1 / 2 = (2 * n + d : Nat) / (2 * d : Nat) := by
    push_cast
    field_simp
  rw [round_eq, hsum, Rat.floor_natCast_div_natCast, roundHalfUp_eq_div hd]
  rfl

end Quotients

/-- The factor can scale: it is a finite number above zero, and `f` is its exact value. -/
structure Single.Scales (factor : Single) (f : ℚ) : Prop where
  value : factor.value.toRat? = some f
  pos : 0 < f

theorem Single.Scales.unique {factor : Single} {f f' : ℚ} (h : factor.Scales f)
    (h' : factor.Scales f') : f = f' :=
  Option.some.inj (h.value.symm.trans h'.value)

namespace ScaleRule

section Axes

variable {rule : ScaleRule} {source viewport : UInt32} {factor : Single} {base base' : UInt32}
  {m : Nat} {q : Int} {f : ℚ}

/-- The factors that can scale are those that have a ratio, which is their value in 24 digits. -/
theorem ratio?_cases (factor : Single) :
    (ratio? factor = none ∧ ∀ f, ¬ factor.Scales f) ∨
      ∃ m q, ratio? factor = some (m, q) ∧ m < 2 ^ 24 ∧ factor.Scales (m * 2 ^ q) := by
  have hbits : factor.bits.toNat < 2 * Format.single.signBit := factor.bits.toNat_lt
  have hvalueless (hvalue : factor.value.toRat? = none) (f : ℚ) : ¬ factor.Scales f := by
    intro hf
    rw [hf.value] at hvalue
    cases hvalue
  rcases Format.decode_cases hbits with ⟨neg, m, q, hm, _, hdecode, _⟩ | ⟨neg, hdecode, _⟩ |
    ⟨neg, hdecode⟩
  · have hvalue : factor.value = .finite neg m q := hdecode
    have hrat : factor.value.toRat? = some ((if neg then -1 else 1) * ((m : ℚ) * 2 ^ q)) := by
      rw [hvalue]
      rfl
    cases neg with
    | true =>
      refine .inl ⟨by rw [ratio?, hvalue], fun f hf => ?_⟩
      have hpos := hf.pos
      have hneg : (0 : ℚ) ≤ m * 2 ^ q := by positivity
      have hf' := Option.some.inj (hf.value.symm.trans hrat)
      rw [if_pos rfl] at hf'
      linarith
    | false =>
      rw [if_neg Bool.false_ne_true, one_mul] at hrat
      by_cases hm0 : m = 0
      · refine .inl ⟨by rw [ratio?, hvalue]; exact if_pos hm0, fun f hf => ?_⟩
        have hpos := hf.pos
        have hf' := Option.some.inj (hf.value.symm.trans hrat)
        rw [hm0, Nat.cast_zero, zero_mul] at hf'
        exact hpos.ne' hf'
      · refine .inr ⟨m, q, by rw [ratio?, hvalue]; exact if_neg hm0, hm.digits, hrat, ?_⟩
        positivity
  · have hvalue : factor.value = .infinite neg := hdecode
    exact .inl ⟨by rw [ratio?, hvalue], hvalueless (by rw [hvalue]; rfl)⟩
  · have hvalue : factor.value = .nan neg := hdecode
    exact .inl ⟨by rw [ratio?, hvalue], hvalueless (by rw [hvalue]; rfl)⟩

/-- A factor of 24 digits and a size of 29 have a product that is kept in full. -/
theorem pixels_eq_round (hm : m < 2 ^ 24) (hbase : base.toNat < 2 ^ 29) :
    (pixels m q base : ℤ) = round ((m : ℚ) * 2 ^ q * base.toNat) := by
  have hproduct : m * base.toNat < 2 ^ 53 := by
    calc m * base.toNat < 2 ^ 24 * 2 ^ 29 := Nat.mul_lt_mul'' hm hbase
      _ = 2 ^ 53 := by norm_num
  have hpos : 0 < Nat.pow 2 (-q).toNat := Nat.two_pow_pos _
  have hne : (2 : ℚ) ^ (-q).toNat ≠ 0 := by positivity
  rw [pixels, keepLeadingBits_of_lt hproduct, roundHalfUp_eq_round hpos]
  simp only [Nat.pow_eq, Nat.cast_mul, Nat.cast_pow, Nat.cast_ofNat]
  rw [Format.two_pow_toNat q]
  congr 1
  field_simp

/-- The same factor gives no fewer pixels of a larger size, kept in full or not. -/
theorem pixels_mono (h : base ≤ base') : pixels m q base ≤ pixels m q base' := by
  refine roundHalfUp_mono (Nat.two_pow_pos _) (Nat.mul_le_mul_right _ ?_)
  exact keepLeadingBits_mono (by decide)
    (Nat.mul_le_mul_left m (UInt32.le_iff_toNat_le.mp h))

/-- The factor of a rule and the size that it multiplies, unless the rule fixes the axis. -/
def multiple? (source viewport : UInt32) : ScaleRule → Option (Single × UInt32)
  | .input factor => some (factor, source)
  | .viewport factor => some (factor, viewport)
  | .absolute _ => none

theorem resolveAxis_absolute (size source viewport : UInt32) :
    (absolute size).resolveAxis source viewport =
      if size = 0 then .error .zeroPixels else .ok size := rfl

/-- Whichever size a rule scales, it does so in one way. -/
theorem resolveAxis_multiple (h : rule.multiple? source viewport = some (factor, base)) :
    rule.resolveAxis source viewport = match ratio? factor with
      | none => .error (.badFactor factor)
      | some (m, q) =>
        if pixels m q base < 1 then .error (.emptyAxis rule base)
        else if pixels m q base ≤ 4294967295 then .ok (.ofNat (pixels m q base))
        else .error (.overflow rule base) := by
  cases rule with
  | absolute size => cases h
  | input factor' | viewport factor' =>
    cases h
    rfl

theorem multiple?_eq_none (h : rule.multiple? source viewport = none) :
    ∃ size, rule = absolute size := by
  cases rule with
  | absolute size => exact ⟨size, rfl⟩
  | input factor | viewport factor => cases h

/-- Only the size that a rule scales matters to it. -/
theorem resolveAxis_congr {source' viewport' : UInt32}
    (h : rule.multiple? source' viewport' = rule.multiple? source viewport) :
    rule.resolveAxis source' viewport' = rule.resolveAxis source viewport := by
  cases hmultiple : rule.multiple? source viewport with
  | none =>
    obtain ⟨size, rfl⟩ := multiple?_eq_none hmultiple
    rfl
  | some pair =>
    rw [resolveAxis_multiple hmultiple, resolveAxis_multiple (h.trans hmultiple)]

/-- What a rule gives by exact arithmetic: a fixed axis, or the exact multiple rounded. -/
def Gives (rule : ScaleRule) (source viewport n : UInt32) : Prop :=
  (rule = absolute n ∨ ∃ factor base f, rule.multiple? source viewport = some (factor, base) ∧
    factor.Scales f ∧ roundAway (f * base.toNat) = n.toNat) ∧ 1 ≤ n

/-- Why a rule gives nothing. -/
inductive Refuses (source viewport : UInt32) (rule : ScaleRule) : ScaleFault → Prop
  | zeroPixels : rule = absolute 0 → Refuses source viewport rule .zeroPixels
  | badFactor {factor : Single} {base : UInt32} :
      rule.multiple? source viewport = some (factor, base) → (∀ f, ¬ factor.Scales f) →
      Refuses source viewport rule (.badFactor factor)
  | emptyAxis {factor : Single} {base : UInt32} {f : ℚ} :
      rule.multiple? source viewport = some (factor, base) → factor.Scales f →
      roundAway (f * base.toNat) < 1 → Refuses source viewport rule (.emptyAxis rule base)
  | overflow {factor : Single} {base : UInt32} {f : ℚ} :
      rule.multiple? source viewport = some (factor, base) → factor.Scales f →
      4294967295 < roundAway (f * base.toNat) → Refuses source viewport rule (.overflow rule base)

/-- What exact arithmetic gives is one axis, and none where the rule has to be refused. -/
theorem Gives.unique {n n' : UInt32} (h : rule.Gives source viewport n)
    (h' : rule.Gives source viewport n') : n = n' := by
  obtain ⟨rfl | ⟨factor, base, f, hmultiple, hf, hn⟩, _⟩ := h
  · obtain ⟨hrule | ⟨_, _, _, hmultiple, _⟩, _⟩ := h'
    · exact absolute.inj hrule
    · cases hmultiple
  · obtain ⟨rfl | ⟨factor', base', f', hmultiple', hf', hn'⟩, _⟩ := h'
    · cases hmultiple
    · cases Option.some.inj (hmultiple.symm.trans hmultiple')
      rw [hf.unique hf'] at hn
      exact UInt32.toNat_inj.mp (Int.ofNat_inj.mp (hn.symm.trans hn'))

theorem Refuses.not_gives {fault : ScaleFault} (h : rule.Refuses source viewport fault)
    (n : UInt32) : ¬ rule.Gives source viewport n := by
  rintro ⟨rfl | ⟨factor', base', f', hmultiple', hf', hn⟩, hpos⟩
  · cases h with
    | zeroPixels hrule =>
      cases hrule
      exact absurd hpos (by decide)
    | badFactor hmultiple | emptyAxis hmultiple | overflow hmultiple => cases hmultiple
  · have hn_pos : 1 ≤ n.toNat := UInt32.le_iff_toNat_le.mp hpos
    have hn_lt := n.toNat_lt
    cases h with
    | zeroPixels hrule =>
      rw [hrule] at hmultiple'
      cases hmultiple'
    | badFactor hmultiple hbad =>
      cases Option.some.inj (hmultiple.symm.trans hmultiple')
      exact hbad _ hf'
    | emptyAxis hmultiple hf hlow =>
      cases Option.some.inj (hmultiple.symm.trans hmultiple')
      rw [hf.unique hf', hn] at hlow
      omega
    | overflow hmultiple hf hhigh =>
      cases Option.some.inj (hmultiple.symm.trans hmultiple')
      rw [hf.unique hf', hn] at hhigh
      omega

/-- Each rule gives its axis, or is refused for a reason. -/
theorem resolveAxis_cases (rule : ScaleRule) (hsource : source.toNat < 2 ^ 29)
    (hviewport : viewport.toNat < 2 ^ 29) :
    (∃ n, rule.resolveAxis source viewport = .ok n ∧ rule.Gives source viewport n) ∨
      ∃ fault, rule.resolveAxis source viewport = .error fault ∧
        rule.Refuses source viewport fault := by
  cases hmultiple : rule.multiple? source viewport with
  | none =>
    obtain ⟨size, rfl⟩ := multiple?_eq_none hmultiple
    rw [resolveAxis_absolute]
    by_cases hsize : size = 0
    · exact .inr ⟨_, if_pos hsize, .zeroPixels (by rw [hsize])⟩
    · have hok := resolveAxis_absolute size source viewport
      rw [if_neg hsize] at hok
      exact .inl ⟨size, if_neg hsize, .inl rfl, resolveAxis_pos hok⟩
  | some pair =>
    obtain ⟨factor, base⟩ := pair
    have hbase : base.toNat < 2 ^ 29 := by
      cases rule with
      | absolute size => cases hmultiple
      | input _ | viewport _ =>
        cases hmultiple
        assumption
    rw [resolveAxis_multiple hmultiple]
    rcases ratio?_cases factor with ⟨hratio, hbad⟩ | ⟨m, q, hratio, hm, hf⟩
    · rw [hratio]
      exact .inr ⟨_, rfl, .badFactor hmultiple hbad⟩
    · have hexact : roundAway (m * 2 ^ q * base.toNat) = pixels m q base := by
        rw [roundAway_of_nonneg (by positivity), pixels_eq_round hm hbase]
      simp only [hratio]
      split_ifs with hlow hhigh
      · refine .inr ⟨_, rfl, .emptyAxis hmultiple hf ?_⟩
        rw [hexact]
        exact_mod_cast hlow
      · have htoNat : (UInt32.ofNat (pixels m q base)).toNat = pixels m q base :=
          UInt32.toNat_ofNat_of_lt' (Nat.lt_succ_of_le hhigh)
        refine .inl ⟨_, rfl, .inr ⟨factor, base, _, hmultiple, hf, ?_⟩, ?_⟩
        · rw [hexact, htoNat]
        · rw [UInt32.le_iff_toNat_le, htoNat]
          exact Nat.not_lt.mp hlow
      · refine .inr ⟨_, rfl, .overflow hmultiple hf ?_⟩
        rw [hexact]
        exact_mod_cast Nat.not_le.mp hhigh

/-- Where a size has a multiple, a larger one has no smaller multiple, or too large a one. -/
theorem resolveAxis_grows {source' viewport' n : UInt32}
    (hmultiple : rule.multiple? source viewport = some (factor, base))
    (hmultiple' : rule.multiple? source' viewport' = some (factor, base')) (hbase : base ≤ base')
    (hn : rule.resolveAxis source viewport = .ok n) :
    (∃ n', rule.resolveAxis source' viewport' = .ok n' ∧ n ≤ n') ∨
      rule.resolveAxis source' viewport' = .error (.overflow rule base') := by
  rw [resolveAxis_multiple hmultiple] at hn
  rw [resolveAxis_multiple hmultiple']
  cases hratio : ratio? factor with
  | none =>
    rw [hratio] at hn
    cases hn
  | some pair =>
    obtain ⟨m, q⟩ := pair
    have hmono : pixels m q base ≤ pixels m q base' := pixels_mono hbase
    simp only [hratio] at hn ⊢
    split_ifs at hn with hlow hhigh
    · cases hn
      rw [if_neg (by omega)]
      split_ifs with hhigh'
      · refine .inl ⟨_, rfl, ?_⟩
        rw [UInt32.le_iff_toNat_le, UInt32.toNat_ofNat_of_lt' (Nat.lt_succ_of_le hhigh),
          UInt32.toNat_ofNat_of_lt' (Nat.lt_succ_of_le hhigh')]
        exact hmono
      · exact .inr rfl

/-- Sizes of 29 binary digits are scaled exactly: a rule gives the axis that exact arithmetic gives,
and is refused for its configuration where that gives none. Sizes of any length are given an axis of
at least one pixel, by a rule that only looks at the size that it scales, and no shorter one than
smaller sizes are. -/
theorem axes_are_exact (rule : ScaleRule) (hsource : source.toNat < 2 ^ 29)
    (hviewport : viewport.toNat < 2 ^ 29) :
    (∀ n, rule.resolveAxis source viewport = .ok n ↔ rule.Gives source viewport n) ∧
    ((∀ n, ¬ rule.Gives source viewport n) → ∃ fault,
      rule.resolveAxis source viewport = .error fault ∧ rule.Refuses source viewport fault ∧
        (Error.scale fault).kind = .config) ∧
    (∀ s v n, rule.resolveAxis s v = .ok n → 1 ≤ n) ∧
    (∀ s v s' v', rule.multiple? s' v' = rule.multiple? s v →
      rule.resolveAxis s' v' = rule.resolveAxis s v) ∧
    ∀ s v s' v' factor base base', rule.multiple? s v = some (factor, base) →
      rule.multiple? s' v' = some (factor, base') → base ≤ base' →
      ∀ n, rule.resolveAxis s v = .ok n →
        (∃ n', rule.resolveAxis s' v' = .ok n' ∧ n ≤ n') ∨
          rule.resolveAxis s' v' = .error (.overflow rule base') := by
  have hcases := resolveAxis_cases rule hsource hviewport
  refine ⟨fun n => ?_, fun hnone => ?_, fun s v n => resolveAxis_pos,
    fun s v s' v' => resolveAxis_congr,
    fun s v s' v' factor base base' hmultiple hmultiple' hbase n =>
      resolveAxis_grows hmultiple hmultiple' hbase⟩
  · rcases hcases with ⟨n', hok, hgives⟩ | ⟨fault, herror, hrefuses⟩
    · rw [hok, Except.ok.injEq]
      constructor
      · rintro rfl
        exact hgives
      · exact hgives.unique
    · rw [herror]
      exact ⟨nofun, fun hgives => absurd hgives (hrefuses.not_gives n)⟩
  · rcases hcases with ⟨n, _, hgives⟩ | ⟨fault, herror, hrefuses⟩
    · exact absurd hgives (hnone n)
    · exact ⟨fault, herror, hrefuses, rfl⟩

end Axes

/-- The factor one half. -/
def half : Single := ⟨0x3F000000⟩

theorem half_scales : half.Scales (1 / 2) where
  value := by
    have hvalue : half.value = .finite false (2 ^ 23) (-24) := by decide
    rw [hvalue, Quantity.toRat?]
    norm_num
  pos := by norm_num

/-- Half of 601 pixels is 301, and half of nothing is refused. -/
theorem half_of_odd_axis : (601 : UInt32).toNat < 2 ^ 29 ∧ (0 : UInt32).toNat < 2 ^ 29 ∧
    (viewport half).resolveAxis 0 601 = .ok 301 ∧
    ∃ fault, (input half).resolveAxis 0 601 = .error fault ∧
      (Error.scale fault).kind = .config := by
  have hrefuses : (input half).Refuses 0 601 (.emptyAxis (input half) 0) := by
    refine .emptyAxis rfl half_scales ?_
    rw [UInt32.toNat_zero, Nat.cast_zero, mul_zero, roundAway_of_nonneg le_rfl, round_zero]
    exact one_pos
  have hgives : (viewport half).Gives 0 601 301 := by
    refine ⟨.inr ⟨half, 601, 1 / 2, rfl, half_scales, ?_⟩, by decide⟩
    rw [roundAway_of_nonneg (by positivity), round_eq, Int.floor_eq_iff]
    have hbase : (601 : UInt32).toNat = 601 := rfl
    have haxis : (301 : UInt32).toNat = 301 := rfl
    rw [hbase, haxis]
    norm_num
  have hsource : (0 : UInt32).toNat < 2 ^ 29 := by decide
  have hviewport : (601 : UInt32).toNat < 2 ^ 29 := by decide
  obtain ⟨fault, herror, _, hkind⟩ :=
    (axes_are_exact (input half) hsource hviewport).2.1 hrefuses.not_gives
  exact ⟨hviewport, hsource,
    ((axes_are_exact (viewport half) hsource hviewport).1 301).mpr hgives, fault, herror, hkind⟩

end ScaleRule

end PassChain
