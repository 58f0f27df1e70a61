import PassChain.Proofs.Reflection
import PassChain.Wgsl.Bundled

/-! The program that comes with every chain is one that a chain can use. -/
namespace PassChain

namespace Wgsl

/-- The module that tokens make up. -/
def Module.ofTokens? (ts : List Token) : Option Module := do
  let (decls, _) ← (readDecls (16 * (ts.length + 1))).run ts
  let names := decls.map (·.name)
  if names.eraseDups.length ≠ names.length then none
  else
    let ordered ← inOrder decls
    let (_, m) ← ordered.foldlM declare ({}, {})
    pure m

theorem Module.ofText?_eq (text : String) :
    Module.ofText? text = (tokens text).bind Module.ofTokens? := by
  unfold Module.ofText? parse Module.ofTokens?
  cases tokens text with
  | none => rfl
  | some ts =>
    show ((readDecls _).run ts >>= _) >>= _ = (readDecls _).run ts >>= _
    rw [bind_assoc]
    rfl

theorem Module.ofText?_ofList (chars : List Char) : Module.ofText? (.ofList chars) =
    (tokensWithin chars.length chars).bind Module.ofTokens? := by
  rw [Module.ofText?_eq, tokens, String.toList_ofList]

/-- A check of a text that the kernel can run, over its characters. -/
theorem Module.checked_ofText {text : String} {chars : List Char} {P : Module → Prop}
    [DecidablePred P] (htext : .ofList chars = text)
    (h : ((tokensWithin chars.length chars).bind ofTokens?).any (fun m => decide (P m)) = true) :
    ∃ m, ofText? text = some m ∧ P m := by
  rw [← ofText?_ofList, htext] at h
  obtain ⟨m, hm, hcheck⟩ := (Option.any_eq_true _ _).mp h
  exact ⟨m, hm, of_decide_eq_true hcheck⟩

end Wgsl

namespace Program

/-- Whether a module can be used does not depend on what it is called. -/
theorem isOk_ofModule (label label' : String) (m : Wgsl.Module) :
    (ofModule label m).isOk = (ofModule label' m).isOk := by
  rw [ofModule_eq, ofModule_eq]
  cases inspect m with
  | error e => rfl
  | ok f =>
    show (f.interface label).isOk = (f.interface label').isOk
    unfold Findings.interface
    dsimp only
    split <;> rfl

/-- A text that can be used under one name can be used under any. -/
theorem ofText_of_isOk {label text : String} (h : (ofText label text).isOk = true)
    (label' : String) : ∃ p, ofText label' text = .ok p := by
  unfold ofText at h ⊢
  split at h
  · simp [Except.isOk, Except.toBool] at h
  · rename_i m _
    rw [isOk_ofModule label label' m] at h
    cases hp : ofModule label' m with
    | error e => simp [hp, Except.isOk, Except.toBool] at h
    | ok p => exact ⟨p, rfl⟩

theorem ofText_eq_ofModule {label text : String} {m : Wgsl.Module}
    (h : Wgsl.Module.ofText? text = some m) : ofText label text = ofModule label m := by
  unfold ofText
  rw [h]

/-- A check of a text and of its interface. -/
theorem checked_ofText {label text : String} {chars : List Char}
    {P : Wgsl.Module → Program → Prop} [∀ m p, Decidable (P m p)] (htext : .ofList chars = text)
    (h : ((Wgsl.tokensWithin chars.length chars).bind Wgsl.Module.ofTokens?).any
      (fun m => (ofModule label m).toOption.any fun p => decide (P m p)) = true) :
    ∃ m p, Wgsl.Module.ofText? text = some m ∧ ofText label text = .ok p ∧ P m p := by
  obtain ⟨m, hm, hcheck⟩ := Wgsl.Module.checked_ofText htext
    (P := fun m => (ofModule label m).toOption.any (fun p => decide (P m p)) = true)
    (by simpa only [Bool.decide_eq_true] using h)
  cases hp : ofModule label m with
  | error e => simp [hp, Except.toOption] at hcheck
  | ok p =>
    rw [hp] at hcheck
    exact ⟨m, p, hm, (ofText_eq_ofModule hm).trans hp, of_decide_eq_true hcheck⟩

/-- A check of the interface alone. -/
theorem interface_ofText {label text : String} {chars : List Char} {P : Program → Prop}
    [DecidablePred P] (htext : .ofList chars = text)
    (h : ((Wgsl.tokensWithin chars.length chars).bind Wgsl.Module.ofTokens?).any
      (fun m => (ofModule label m).toOption.any fun p => decide (P p)) = true) :
    ∃ p, ofText label text = .ok p ∧ P p := by
  obtain ⟨_, p, _, hp, hcheck⟩ := checked_ofText htext h
  exact ⟨p, hp, hcheck⟩

set_option maxRecDepth 100000 in
/-- Whatever it is called, the stock program can be used. -/
theorem ofText_stock (label : String) : ∃ p, ofText label Wgsl.Bundled.stock = .ok p := by
  have hchecked : ∃ p, ofText "" Wgsl.Bundled.stock = .ok p ∧ True :=
    interface_ofText rfl (by decide +kernel)
  obtain ⟨p, hp, _⟩ := hchecked
  exact ofText_of_isOk (by rw [hp]; rfl) label

end Program

end PassChain
