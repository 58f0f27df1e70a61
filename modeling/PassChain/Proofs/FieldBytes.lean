import PassChain.Proofs.FieldLayout

/-! Which field each byte of a uniform block comes from, however the fields overlap. -/
namespace PassChain

open BindingTable

/-- Whether there is a value for the field, and all of it fits into a buffer of `length` bytes. -/
def Field.Fits (f : Field) (c : BindContext) (index length : Nat) : Prop :=
  (valueOf? c index f.role).isSome ∧ f.stop ≤ length

instance (f : Field) (c : BindContext) (index length : Nat) : Decidable (f.Fits c index length) :=
  inferInstanceAs (Decidable (_ ∧ _))

/-- Whether byte `k` of a buffer of `length` bytes is among those of the field's value. -/
def Field.Reaches (f : Field) (c : BindContext) (index length k : Nat) : Prop :=
  f.Fits c index length ∧ f.offset ≤ k ∧ k < f.stop

namespace BindingTable

variable {p : Program} {index : Nat} {frameCountMod : UInt32} {sampler : Sampler} {c : BindContext}
  {length k : Nat}

/-- The write that stands for a field reaches the bytes that the field does. -/
theorem reaches_iff {f : Field} {v : UniformValue} (hv : valueOf? c index f.role = some v) :
    (⟨f.offset, v⟩ : UniformWrite).Reaches length k ↔ f.Reaches c index length k := by
  simp only [UniformWrite.Reaches, Field.Reaches, Field.Fits, Field.stop, byteSize_valueOf hv, hv,
    Option.isSome_some, true_and]

theorem lastWrite_eq_none
    (h : (ofProgram p index frameCountMod sampler c).lastWrite length k = none) :
    ∀ f ∈ p.fields, ¬ f.Reaches c index length k := by
  intro f hf hreaches
  obtain ⟨v, hv⟩ := Option.isSome_iff_exists.mp hreaches.1.1
  have hw : ⟨f.offset, v⟩ ∈ (ofProgram p index frameCountMod sampler c).uniforms :=
    List.mem_filterMap.mpr ⟨f, hf, by rw [hv]; rfl⟩
  have hnone := List.find?_eq_none.mp h _ (List.mem_reverse.mpr hw)
  rw [decide_eq_true_eq] at hnone
  exact hnone ((reaches_iff hv).mpr hreaches)

/-- The last write that reaches a byte stands for the last field that does. -/
theorem lastWrite_eq_some {w : UniformWrite}
    (h : (ofProgram p index frameCountMod sampler c).lastWrite length k = some w) :
    ∃ before f later, p.fields = before ++ f :: later ∧ w.offset = f.offset ∧
      valueOf? c index f.role = some w.value ∧ f.Reaches c index length k ∧
      ∀ f' ∈ later, ¬ f'.Reaches c index length k := by
  obtain ⟨hw, rest, front, hsplit, hrest⟩ := List.find?_eq_some_iff_append.mp h
  rw [decide_eq_true_eq] at hw
  have huniforms : (ofProgram p index frameCountMod sampler c).uniforms =
      front.reverse ++ w :: rest.reverse := by
    rw [← List.reverse_reverse (ofProgram p index frameCountMod sampler c).uniforms, hsplit]
    simp
  obtain ⟨before, fields, hfields, _, hlast⟩ := List.filterMap_eq_append_iff.mp huniforms
  obtain ⟨skipped, f, later, rfl, hskipped, hf, hlater⟩ := List.filterMap_eq_cons_iff.mp hlast
  obtain ⟨v, hv, rfl⟩ := Option.map_eq_some_iff.mp hf
  refine ⟨before ++ skipped, f, later, by simp [hfields], rfl, hv, (reaches_iff hv).mp hw, ?_⟩
  intro f' hf' hreaches
  obtain ⟨v', hv'⟩ := Option.isSome_iff_exists.mp hreaches.1.1
  have hmem : ⟨f'.offset, v'⟩ ∈ rest := by
    rw [← List.mem_reverse, ← hlater]
    exact List.mem_filterMap.mpr ⟨f', hf', by rw [hv']; rfl⟩
  have hnot := hrest _ hmem
  rw [Bool.not_eq_true', decide_eq_false_iff_not] at hnot
  exact hnot ((reaches_iff hv').mpr hreaches)

/-- A write that does not fit is dropped whole. -/
theorem write_of_fitting (t : BindingTable) (params : FrameParams) (out : List UInt8) :
    t.write params out =
      ({ t with uniforms := t.uniforms.filter fun w =>
        w.offset + w.value.byteSize ≤ out.length } : BindingTable).write params out := by
  have hfold (ws : List UniformWrite) (out : List UInt8) :
      ws.foldl (fun out w => putBytes out w.offset (t.bytesOf params w.value)) out =
        (ws.filter fun w => w.offset + w.value.byteSize ≤ out.length).foldl
          (fun out w => putBytes out w.offset (t.bytesOf params w.value)) out := by
    induction ws generalizing out with
    | nil => rfl
    | cons w ws ih =>
      rw [List.foldl_cons, ih, length_putBytes, List.filter_cons]
      split
      · rfl
      · rename_i hfits
        rw [decide_eq_true_eq, ← t.length_bytesOf params w.value] at hfits
        rw [putBytes, if_neg hfits]
  exact hfold t.uniforms out

/-- Fields without a value and fields that do not fit might as well not be there. -/
theorem write_fitting_fields (params : FrameParams) (out : List UInt8) :
    (ofProgram p index frameCountMod sampler c).write params out =
      (ofProgram { p with fields := p.fields.filter fun f => f.Fits c index out.length } index
        frameCountMod sampler c).write params out := by
  have huniforms : (ofProgram p index frameCountMod sampler c).uniforms.filter
      (fun w => w.offset + w.value.byteSize ≤ out.length) =
        (ofProgram { p with fields := p.fields.filter fun f => f.Fits c index out.length } index
          frameCountMod sampler c).uniforms := by
    simp only [ofProgram, List.filter_filterMap, List.filterMap_filter]
    refine List.filterMap_congr fun f _ => ?_
    cases hv : valueOf? c index f.role with
    | none => simp
    | some v => simp [Field.Fits, Field.stop, hv, byteSize_valueOf hv, Option.filter]
  rw [write_of_fitting, huniforms]
  rfl

end BindingTable

/-- Whatever the fields of a program and whatever the buffer: its length stays, and each byte is
that of the last field that reaches it, or as it was. What does not fit, and what has no value, does
nothing. So nothing is left of a block that has been filled before, and to fill it again in the same
way changes nothing. -/
theorem last_field_wins (p : Program) (index : Nat) (frameCountMod : UInt32) (sampler : Sampler)
    (c : BindContext) (params params' : FrameParams) (out : List UInt8) :
    let t := ofProgram p index frameCountMod sampler c
    (t.write params out).length = out.length ∧
      (∀ k, (∃ before f later v, p.fields = before ++ f :: later ∧
            valueOf? c index f.role = some v ∧ f.Reaches c index out.length k ∧
            (∀ f' ∈ later, ¬ f'.Reaches c index out.length k) ∧
            (t.write params out)[k]? = (t.bytesOf params v)[k - f.offset]?) ∨
          (∀ f ∈ p.fields, ¬ f.Reaches c index out.length k) ∧
            (t.write params out)[k]? = out[k]?) ∧
      (∀ (f : Field) v, valueOf? c index f.role = some v →
        (t.bytesOf params v).length = f.role.byteSize) ∧
      t.write params out =
        (ofProgram { p with fields := p.fields.filter fun f => f.Fits c index out.length } index
          frameCountMod sampler c).write params out ∧
      t.write params (t.write params out) = t.write params out ∧
      t.write params' (t.write params out) = t.write params' out := by
  intro t
  refine ⟨t.length_write params out, fun k => ?_, ?_, write_fitting_fields params out,
    t.write_write params params out, t.write_write params params' out⟩
  · cases hlast : t.lastWrite out.length k with
    | none =>
      refine .inr ⟨lastWrite_eq_none hlast, ?_⟩
      rw [getElem?_write, hlast]
    | some w =>
      obtain ⟨before, f, later, hfields, hoffset, hv, hreaches, hlater⟩ := lastWrite_eq_some hlast
      refine .inl ⟨before, f, later, w.value, hfields, hv, hreaches, hlater, ?_⟩
      rw [getElem?_write, hlast, ← hoffset]
  · intro f v hv
    rw [length_bytesOf, byteSize_valueOf hv]

end PassChain
