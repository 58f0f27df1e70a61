import PassChain.Device

/-! What holds after a call that may fail, in both of its endings. -/
namespace PassChain

/-- What is said of two lists by index is said of their heads and of their tails. -/
theorem forall_getElem?_cons {α β : Type} {P : Nat → α → β → Prop} {x : α} {y : β} {xs : List α}
    {ys : List β} (hhead : P 0 x y)
    (htail : ∀ i a b, xs[i]? = some a → ys[i]? = some b → P (i + 1) a b) :
    ∀ i a b, (x :: xs)[i]? = some a → (y :: ys)[i]? = some b → P i a b := by
  intro i a b ha hb
  cases i with
  | zero =>
    simp only [List.getElem?_cons_zero, Option.some.injEq] at ha hb
    subst ha hb
    exact hhead
  | succ i => exact htail i a b (by simpa using ha) (by simpa using hb)

namespace Attempt

variable {σ δ α β ε : Type} {s : σ} {ok ok' : α → σ → Prop} {err err' : Error → σ → Prop}

/-- After the call, `ok` holds of answer and state if it succeeded, and `err` of error and state
if it failed. -/
def Ends (call : Attempt σ α) (s : σ) (ok : α → σ → Prop) (err : Error → σ → Prop) : Prop :=
  match call s with
  | .ok a t => ok a t
  | .error e t => err e t

theorem ends_true (call : Attempt σ α) : call.Ends s (fun _ _ => True) (fun _ _ => True) := by
  unfold Ends
  cases call s <;> trivial

/-- The ending is that of the call. -/
theorem ends_self (call : Attempt σ α) (s : σ) :
    call.Ends s (fun a t => call s = .ok a t) (fun e t => call s = .error e t) := by
  unfold Ends
  cases call s <;> rfl

theorem Ends.mono {call : Attempt σ α} (h : call.Ends s ok err)
    (hok : ∀ a t, ok a t → ok' a t) (herr : ∀ e t, err e t → err' e t) :
    call.Ends s ok' err' := by
  unfold Ends at h ⊢
  cases hc : call s with
  | ok a t => rw [hc] at h; exact hok a t h
  | error e t => rw [hc] at h; exact herr e t h

theorem Ends.mono_ok {call : Attempt σ α} (h : call.Ends s ok err)
    (hok : ∀ a t, ok a t → ok' a t) : call.Ends s ok' err :=
  h.mono hok fun _ _ he => he

theorem Ends.and {call : Attempt σ α} (h : call.Ends s ok err) (h' : call.Ends s ok' err') :
    call.Ends s (fun a t => ok a t ∧ ok' a t) (fun e t => err e t ∧ err' e t) := by
  unfold Ends at h h' ⊢
  cases hc : call s with
  | ok a t => rw [hc] at h h'; exact ⟨h, h'⟩
  | error e t => rw [hc] at h h'; exact ⟨h, h'⟩

theorem Ends.of_ok {call : Attempt σ α} (h : call.Ends s ok err) {a : α} {t : σ}
    (hc : call s = .ok a t) : ok a t := by
  simpa [Ends, hc] using h

theorem Ends.of_error {call : Attempt σ α} (h : call.Ends s ok err) {e : Error} {t : σ}
    (hc : call s = .error e t) : err e t := by
  simpa [Ends, hc] using h

/-- What holds in both endings holds after the call. -/
theorem Ends.outcome {call : Attempt σ α} {P : σ → Prop}
    (h : call.Ends s (fun _ => P) (fun _ => P)) : P (call.outcome s).2 := by
  unfold Ends at h
  unfold Attempt.outcome
  cases hc : call s with
  | ok a t => rw [hc] at h; exact h
  | error e t => rw [hc] at h; exact h

theorem exists_eq_ok {call : Attempt σ α} {a : α} (h : (call.outcome s).1.toOption = some a) :
    ∃ t, call s = .ok a t := by
  unfold outcome at h
  cases hc : call s with
  | ok b t => rw [hc] at h; cases h; exact ⟨t, rfl⟩
  | error e t => rw [hc] at h; cases h

theorem exists_eq_error {call : Attempt σ α} (h : (call.outcome s).1.isOk = false) :
    ∃ e t, call s = .error e t := by
  unfold outcome at h
  cases hc : call s with
  | ok a t => rw [hc] at h; cases h
  | error e t => exact ⟨e, t, rfl⟩

@[simp] theorem ends_pure {a : α} : Ends (pure a) s ok err ↔ ok a s := Iff.rfl

@[simp] theorem ends_throw {e : Error} : Ends (throw e) s ok err ↔ err e s := Iff.rfl

@[simp] theorem ends_get {ok : σ → σ → Prop} : Ends get s ok err ↔ ok s s := Iff.rfl

@[simp] theorem ends_set {t : σ} {ok : PUnit → σ → Prop} : Ends (set t) s ok err ↔ ok ⟨⟩ t :=
  Iff.rfl

@[simp] theorem ends_modify {f : σ → σ} {ok : PUnit → σ → Prop} :
    Ends (modify f) s ok err ↔ ok ⟨⟩ (f s) := Iff.rfl

@[simp] theorem ends_bind {call : Attempt σ α} {next : α → Attempt σ β}
    {ok : β → σ → Prop} :
    (call >>= next).Ends s ok err ↔ call.Ends s (fun a t => (next a).Ends t ok err) err := by
  unfold Ends
  simp only [bind, EStateM.bind]
  cases call s <;> rfl

@[simp] theorem ends_map {call : Attempt σ α} {f : α → β} {ok : β → σ → Prop} :
    (f <$> call).Ends s ok err ↔ call.Ends s (fun a t => ok (f a) t) err := by
  unfold Ends
  simp only [Functor.map, EStateM.map]
  cases call s <;> rfl

theorem tryCatch_of_ok {call : Attempt σ α} {a : α} {t : σ} (h : call s = .ok a t)
    (handler : Error → Attempt σ α) : tryCatch call handler s = .ok a t := by
  show EStateM.tryCatch call handler s = _
  delta EStateM.tryCatch
  simp only [h]

theorem tryCatch_of_error {call : Attempt σ α} {e : Error} {t : σ} (h : call s = .error e t)
    (handler : Error → Attempt σ α) : tryCatch call handler s = handler e t := by
  show EStateM.tryCatch call handler s = _
  delta EStateM.tryCatch
  simp only [h]
  rfl

@[simp] theorem ends_tryCatch {call : Attempt σ α} {handler : Error → Attempt σ α} :
    Ends (tryCatch call handler) s ok err ↔
      call.Ends s ok (fun e t => (handler e).Ends t ok err) := by
  unfold Ends
  cases h : call s with
  | ok a t => rw [tryCatch_of_ok h]
  | error e t => rw [tryCatch_of_error h]

@[simp] theorem ends_on {part : σ → δ} {replace : δ → σ → σ} {call : Attempt δ α} :
    (call.on part replace).Ends s ok err ↔
      call.Ends (part s) (fun a d => ok a (replace d s)) (fun e d => err e (replace d s)) := by
  unfold Ends Attempt.on
  cases call (part s) <;> rfl

@[simp] theorem ends_ofExcept_ok {wrap : ε → Error} {a : α} :
    Ends (ofExcept wrap (.ok a)) s ok err ↔ ok a s := Iff.rfl

@[simp] theorem ends_ofExcept_error {wrap : ε → Error} {e : ε} :
    Ends (ofExcept wrap (.error e) : Attempt σ α) s ok err ↔ err (wrap e) s := Iff.rfl

theorem ends_ofExcept {wrap : ε → Error} {r : Except ε α} :
    Ends (ofExcept wrap r) s ok err ↔
      (∀ a, r = .ok a → ok a s) ∧ ∀ e, r = .error e → err (wrap e) s := by
  cases r <;> simp

/-- A step that fails leaves the state alone. -/
theorem ends_ofStep {wrap : ε → Error} {step : σ → Except ε (α × σ)} :
    Ends (ofStep wrap step) s ok err ↔
      (∀ a t, step s = .ok (a, t) → ok a t) ∧ ∀ e, step s = .error e → err (wrap e) s := by
  unfold Ends ofStep
  cases hs : step s with
  | ok r => simp [Prod.ext_iff]
  | error e => simp

theorem ends_ite {c : Prop} [Decidable c] {x y : Attempt σ α} :
    Ends (if c then x else y) s ok err ↔ (c → x.Ends s ok err) ∧ (¬c → y.Ends s ok err) := by
  split <;> simp_all

end Attempt

end PassChain
