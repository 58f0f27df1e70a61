import Mathlib.Data.List.Pairwise
import PassChain.Proofs.Drawing

/-! What filling a uniform block does to each of its bytes. -/
namespace PassChain

/-- Bytes of a value. -/
def UniformValue.byteSize : UniformValue → Nat
  | mvp => 64
  | size .. | outputSize => 8
  | frameCount | frameDirection | tracked _ => 4

/-- Whether a write reaches byte `k` of a block of `length` bytes. One that does not fit into the
block reaches none. -/
def UniformWrite.Reaches (w : UniformWrite) (length k : Nat) : Prop :=
  w.offset + w.value.byteSize ≤ length ∧ w.offset ≤ k ∧ k < w.offset + w.value.byteSize

instance (w : UniformWrite) (length k : Nat) : Decidable (w.Reaches length k) :=
  inferInstanceAs (Decidable (_ ∧ _ ∧ _))

theorem getElem?_putBytes (out : List UInt8) (start : Nat) (bytes : List UInt8) (k : Nat) :
    (putBytes out start bytes)[k]? =
      if start + bytes.length ≤ out.length ∧ start ≤ k ∧ k < start + bytes.length then
        bytes[k - start]?
      else out[k]? := by
  unfold putBytes
  by_cases hfits : start + bytes.length ≤ out.length
  · have htake : (out.take start).length = start := List.length_take_of_le (by omega)
    rw [if_pos hfits, List.append_assoc]
    rcases Nat.lt_or_ge k start with hbefore | hstart
    · have hout : ¬ (start + bytes.length ≤ out.length ∧ start ≤ k ∧ k < start + bytes.length) := by
        omega
      rw [if_neg hout, List.getElem?_append_left (by omega), List.getElem?_take_of_lt hbefore]
    · rw [List.getElem?_append_right (by omega), htake]
      rcases Nat.lt_or_ge k (start + bytes.length) with hinside | hafter
      · rw [if_pos ⟨hfits, hstart, hinside⟩, List.getElem?_append_left (by omega)]
      · have hout : ¬ (start + bytes.length ≤ out.length ∧ start ≤ k ∧
            k < start + bytes.length) := by
          omega
        rw [if_neg hout, List.getElem?_append_right (by omega), List.getElem?_drop]
        congr 1
        omega
  · have hout : ¬ (start + bytes.length ≤ out.length ∧ start ≤ k ∧ k < start + bytes.length) := by
      omega
    rw [if_neg hfits, if_neg hout]

namespace BindingTable

variable (t : BindingTable) (p q : FrameParams) (out : List UInt8)

theorem length_bytesOf (v : UniformValue) : (t.bytesOf p v).length = v.byteSize := by
  cases v <;> rfl

/-- The last write that reaches byte `k`. -/
def lastWrite (length k : Nat) : Option UniformWrite :=
  t.uniforms.reverse.find? fun w => w.Reaches length k

/-- Each byte is that of the last write that reaches it, or as it was. -/
theorem getElem?_write (k : Nat) :
    (t.write p out)[k]? = match t.lastWrite out.length k with
      | some w => (t.bytesOf p w.value)[k - w.offset]?
      | none => out[k]? := by
  have hfold (ws : List UniformWrite) (out : List UInt8) :
      (ws.foldl (fun out w => putBytes out w.offset (t.bytesOf p w.value)) out)[k]? =
        match ws.reverse.find? fun w => w.Reaches out.length k with
        | some w => (t.bytesOf p w.value)[k - w.offset]?
        | none => out[k]? := by
    induction ws generalizing out with
    | nil => rfl
    | cons w ws ih =>
      rw [List.foldl_cons, ih, length_putBytes, List.reverse_cons, List.find?_append]
      cases ws.reverse.find? fun w => w.Reaches out.length k with
      | some later => rfl
      | none =>
        have hlen := t.length_bytesOf p w.value
        by_cases hw : w.Reaches out.length k
        · have hput := hw
          unfold UniformWrite.Reaches at hput
          rw [← hlen] at hput
          simp [getElem?_putBytes, hw, hput]
        · have hput := hw
          unfold UniformWrite.Reaches at hput
          rw [← hlen] at hput
          simp only [getElem?_putBytes, if_neg hput, Option.none_or, List.find?_cons, hw,
            decide_false, List.find?_nil]
  exact hfold t.uniforms out

/-- Nothing is left of a block that has been filled before. -/
theorem write_write : t.write q (t.write p out) = t.write q out := by
  refine List.ext_getElem? fun k => ?_
  rw [getElem?_write, getElem?_write t q out, length_write]
  cases hlast : t.lastWrite out.length k with
  | some w => rfl
  | none => simp only [getElem?_write, hlast]

theorem getElem?_write_of_unreached {k : Nat}
    (h : ∀ w ∈ t.uniforms, ¬ w.Reaches out.length k) : (t.write p out)[k]? = out[k]? := by
  have hnone : t.lastWrite out.length k = none := by
    simpa [lastWrite] using h
  rw [getElem?_write, hnone]

/-- The writes go to places of their own. -/
def Apart : Prop :=
  t.uniforms.Pairwise fun w w' =>
    w.offset + w.value.byteSize ≤ w'.offset ∨ w'.offset + w'.value.byteSize ≤ w.offset

variable {t} in
theorem Apart.eq_of_reaches (h : t.Apart) {w w' : UniformWrite} (hw : w ∈ t.uniforms)
    (hw' : w' ∈ t.uniforms) {length k : Nat} (hk : w.Reaches length k)
    (hk' : w'.Reaches length k) : w = w' := by
  by_contra hne
  have : Std.Symm fun w w' : UniformWrite =>
      w.offset + w.value.byteSize ≤ w'.offset ∨ w'.offset + w'.value.byteSize ≤ w.offset :=
    ⟨fun _ _ h => h.symm⟩
  have hapart := List.Pairwise.forall h hw hw' hne
  obtain ⟨_, hstart, hend⟩ := hk
  obtain ⟨_, hstart', hend'⟩ := hk'
  omega

variable {t} in
/-- A value that has a place of its own stands there. -/
theorem Apart.value_write (h : t.Apart) {w : UniformWrite} (hw : w ∈ t.uniforms)
    (hfits : w.offset + w.value.byteSize ≤ out.length) :
    ((t.write p out).drop w.offset).take w.value.byteSize = t.bytesOf p w.value := by
  refine List.ext_getElem? fun k => ?_
  rw [List.getElem?_take]
  split
  · rename_i hk
    have hreaches : w.Reaches out.length (w.offset + k) := ⟨hfits, by omega, by omega⟩
    have hlast : t.lastWrite out.length (w.offset + k) = some w := by
      cases hfind : t.lastWrite out.length (w.offset + k) with
      | none =>
        unfold lastWrite at hfind
        rw [List.find?_eq_none] at hfind
        simpa [hreaches] using hfind w (List.mem_reverse.mpr hw)
      | some w' =>
        have hmem := List.mem_reverse.mp (List.mem_of_find?_eq_some hfind)
        have hreaches' := List.find?_some hfind
        rw [decide_eq_true_eq] at hreaches'
        rw [h.eq_of_reaches hw hmem hreaches hreaches']
    rw [List.getElem?_drop, getElem?_write, hlast]
    simp only [Nat.add_sub_cancel_left]
  · rename_i hk
    rw [List.getElem?_eq_none]
    rw [length_bytesOf]
    omega

end BindingTable

end PassChain
