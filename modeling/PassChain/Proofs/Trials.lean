import Mathlib.Data.List.Induction
import PassChain.Proofs.Compiling
import PassChain.Proofs.Continuing

/-! What a chain shows of tracked variables, by all its tries to show a frame. -/
namespace PassChain

/-- A try to show a frame: the number of the frame, the memory at that time, and whether the frame
was shown. -/
structure Trial where
  frame : Nat
  memory : List UInt8
  shown : Bool
deriving DecidableEq, Repr

namespace VariableState

variable {s : VariableState} {n n' : Nat} {value value' : UInt32}

/-- The old reading has no bearing on what the next one leads to. -/
theorem observe_previous (p : UInt32) :
    ({ s with previous := p } : VariableState).observe n value = s.observe n value := rfl

/-- To take in a value once more is to forget the reading before it. -/
theorem observe_again :
    (s.observe n value).observe n value = { s.observe n value with previous := value } := by
  unfold observe
  cases s.seen <;> by_cases h : value = s.last <;> simp [h]

theorem seen_observe : (s.observe n value).seen = true := by
  unfold observe
  split
  · rename_i h
    split <;> exact h
  · rfl

theorem last_observe : (s.observe n value).last = value := by
  unfold observe
  split
  · split
    · rename_i h
      exact h.symm
    · rfl
  · rfl

theorem previous_observe (h : s.seen = true) : (s.observe n value).previous = s.last := by
  rw [observe, if_pos h]
  split <;> rfl

end VariableState

/-- What is remembered of a variable after some trials. -/
def Variable.observeAll (v : Variable) (s : VariableState) (trials : List Trial) : VariableState :=
  trials.foldl (fun s t => s.observe t.frame (v.read t.memory)) s

theorem Variable.observeAll_concat (v : Variable) (s : VariableState) (trials : List Trial)
    (t : Trial) : v.observeAll s (trials ++ [t]) =
      (v.observeAll s trials).observe t.frame (v.read t.memory) := by
  simp [observeAll]

/-- The variable that supplies the value of an id. If there are several, it is the last one. -/
def MemoryTracker.supplier? (m : MemoryTracker) (id : String) : Option (Variable × VariableState) :=
  m.vars.reverse.find? (·.1.id == id)

/-- The value of an id after some trials. Before the first one, or if no variable has this id, the
value stays as it is. -/
def MemoryTracker.valueAfter (m : MemoryTracker) (trials : List Trial) (id : String)
    (old : Single) :
    Single :=
  match m.supplier? id with
  | some (v, s) => if trials = [] then old else .ofNat ((v.observeAll s trials).report v.kind)
  | none => old

/-- A tracker after some trials, by when memory has become `memory`. -/
def MemoryTracker.after (m : MemoryTracker) (trials : List Trial) (memory : List UInt8) :
    MemoryTracker :=
  ⟨memory, m.vars.map fun (v, s) => (v, v.observeAll s trials)⟩

namespace MemoryTracker

variable {m : MemoryTracker} {trials later : List Trial} {memory memory' : List UInt8}

theorem after_nil : m.after [] memory = { m with memory } := by
  simp [after, Variable.observeAll]

theorem after_append :
    (m.after trials memory).after later memory' = m.after (trials ++ later) memory' := by
  simp [after, Variable.observeAll]

theorem supplier?_after (id : String) : (m.after trials memory).supplier? id =
    (m.supplier? id).map fun (v, s) => (v, v.observeAll s trials) := by
  simp only [supplier?, after, ← List.map_reverse, List.find?_map]
  rfl

theorem valueAfter_nil (id : String) (old : Single) : m.valueAfter [] id old = old := by
  unfold valueAfter
  split <;> rfl

theorem valueAfter_append (id : String) (old : Single) :
    (m.after trials memory).valueAfter later id (m.valueAfter trials id old) =
      m.valueAfter (trials ++ later) id old := by
  unfold valueAfter
  rw [supplier?_after]
  cases m.supplier? id with
  | none => rfl
  | some supplier => cases later <;> simp [Variable.observeAll]

end MemoryTracker

namespace Chain

variable {δ : Type}

/-- The memory that variables are tracked in. -/
def trackedMemory (c : Chain δ) : List UInt8 :=
  match c.tracker with
  | some (.memory m) => m.memory
  | _ => []

theorem trackedMemory_eq {c : Chain δ} {m : MemoryTracker} (h : c.tracker = some (.memory m)) :
    c.trackedMemory = m.memory := by
  rw [trackedMemory, h]

/-- The value that programs are shown for an id. -/
def trackedOf (c : Chain δ) (id : String) : Option Single :=
  (c.varIds.findIdx? (· == id)).bind (c.tracked[·]?)

theorem length_storeValues (varIds : List String) (values : List TrackedValue)
    (tracked : List Single) :
    (values.foldl (storeValue varIds) tracked).length = tracked.length := by
  induction values generalizing tracked with
  | nil => rfl
  | cons w values ih =>
    rw [List.foldl_cons, ih, storeValue]
    split
    · exact List.length_set
    · rfl

/-- Of the values with the id of a place, the last one comes to stand there. -/
theorem getElem?_storeValues {varIds : List String} {id : String} {i : Nat}
    (hi : varIds.findIdx? (· == id) = some i) (values : List TrackedValue) (tracked : List Single) :
    (values.foldl (storeValue varIds) tracked)[i]? = (tracked[i]?).map
      fun old => ((values.reverse.find? (·.id == id)).map (·.value)).getD old := by
  have hplace {other : String} (h : varIds.findIdx? (· == other) = some i) : other = id := by
    obtain ⟨hlt, hid, _⟩ := List.findIdx?_eq_some_iff_getElem.mp hi
    obtain ⟨_, hother, _⟩ := List.findIdx?_eq_some_iff_getElem.mp h
    rw [beq_iff_eq] at hid hother
    exact hother.symm.trans hid
  induction values using List.reverseRecOn with
  | nil => simp
  | append_singleton values w ih =>
    rw [List.foldl_append, List.foldl_cons, List.foldl_nil, List.reverse_append,
      List.reverse_singleton, List.singleton_append, List.find?_cons]
    by_cases hw : w.id = id
    · subst hw
      rw [storeValue, hi, beq_self_eq_true]
      simp only [List.getElem?_set_self', Option.map_some, Option.getD_some]
      rw [ih, Option.map_eq_map, Option.map_map]
      rfl
    · rw [storeValue, beq_eq_false_iff_ne.mpr hw]
      split
      · rename_i j hj
        have hne : j ≠ i := by
          rintro rfl
          exact hw (hplace hj)
        rw [List.getElem?_set_ne hne, ih]
      · exact ih

/-- What taking in the values of a trial does. -/
theorem refreshTracked_memory {c : Chain δ} {m : MemoryTracker} (h : c.tracker = some (.memory m))
    (shown : Bool) :
    let trial : Trial := ⟨c.frameCount, m.memory, shown⟩
    c.refreshTracked.tracker = some (.memory (m.after [trial] m.memory)) ∧
      ∀ id, c.refreshTracked.trackedOf id = (c.trackedOf id).map (m.valueAfter [trial] id) := by
  intro trial
  have hrefresh : c.refreshTracked = { c with
      tracker := some (.memory (m.after [trial] m.memory))
      tracked := ((m.after [trial] m.memory).vars.map fun (v, s) =>
        ⟨v.id, .ofNat (s.report v.kind)⟩).foldl (storeValue c.varIds) c.tracked } := by
    unfold refreshTracked
    rw [h]
    rfl
  refine ⟨by rw [hrefresh], ?_⟩
  intro id
  rw [hrefresh]
  unfold trackedOf
  cases hi : c.varIds.findIdx? (· == id) with
  | none => rfl
  | some i =>
    simp only [Option.bind_some]
    rw [getElem?_storeValues hi]
    congr 1
    funext old
    simp only [MemoryTracker.after, List.map_map, ← List.map_reverse, List.find?_map,
      MemoryTracker.valueAfter, MemoryTracker.supplier?]
    show ((Option.map _ (m.vars.reverse.find? (·.1.id == id))).map _).getD old = _
    cases m.vars.reverse.find? (·.1.id == id) <;> rfl

/-- The parts of a chain that bear on what it shows of variables. -/
structure SameTracking (c c' : Chain δ) : Prop where
  tracker : c'.tracker = c.tracker
  tracked : c'.tracked = c.tracked
  varIds : c'.varIds = c.varIds

theorem SameTracking.trackedOf {c c' : Chain δ} (h : c.SameTracking c') (id : String) :
    c'.trackedOf id = c.trackedOf id := by
  unfold Chain.trackedOf
  rw [h.tracked, h.varIds]

/-- However the frame goes, this frame's values of the variables have been taken in. -/
theorem render_sameTracking [GpuDevice δ] {c : Chain δ} (h : c.pending = true) :
    c.refreshTracked.SameTracking c.render.2 := by
  obtain ⟨r, _, hrender⟩ := c.render_pending h
  rw [hrender]
  split <;> exact ⟨rfl, rfl, rfl⟩

/-- All variables that programs can be shown have a value. -/
def Valued (c : Chain δ) : Prop := c.tracked.length = c.varIds.length

theorem Valued.of_same {c c' : Chain δ} (h : c.Valued) (hsame : c.SameTracking c') : c'.Valued := by
  rw [Valued, hsame.tracked, hsame.varIds]
  exact h

theorem Valued.refreshTracked {c : Chain δ} (h : c.Valued) : c.refreshTracked.Valued := by
  unfold Chain.refreshTracked
  split
  · exact h
  · exact (length_storeValues _ _ _).trans h

theorem Valued.trackedOf {c : Chain δ} (h : c.Valued) {id : String} (hid : id ∈ c.varIds) :
    ∃ value, c.trackedOf id = some value := by
  obtain ⟨i, hi⟩ : ∃ i, c.varIds.findIdx? (· == id) = some i :=
    ⟨_, List.findIdx?_eq_some_of_exists ⟨id, hid, beq_self_eq_true id⟩⟩
  have hlt : i < c.tracked.length := by
    rw [h]
    exact (List.findIdx?_eq_some_iff_getElem.mp hi).1
  exact ⟨c.tracked[i], by rw [Chain.trackedOf, hi, Option.bind_some, List.getElem?_eq_getElem hlt]⟩

theorem build_valued [GpuDevice δ] {device : δ} {files : FileSystem} {preset : Preset}
    {settings : ChainSettings} {c : Chain δ} (h : build device files preset settings = .ok c) :
    c.Valued ∧ c.varIds = preset.vars.map (·.id) := by
  obtain ⟨_, _, hc⟩ := build_eq_ok h
  rw [hc]
  exact ⟨by simp [Valued], rfl⟩

end Chain

namespace Session

variable {δ : Type} [GpuDevice δ] [Adjustable δ]

/-- The trial that a call amounts to, if it does. -/
def trial (s : Session δ) : HostCall δ → List Trial
  | .render =>
    if s.chain.pending then [⟨s.chain.frameCount, s.chain.trackedMemory, s.chain.render.1⟩] else []
  | _ => []

/-- All trials, the first ones first. -/
def trials (s : Session δ) : List (HostCall δ) → List Trial
  | [] => []
  | call :: calls => s.trial call ++ (s.step call).trials calls

theorem trials_append (s : Session δ) (xs ys : List (HostCall δ)) :
    s.trials (xs ++ ys) = s.trials xs ++ (s.run xs).trials ys := by
  induction xs generalizing s with
  | nil => rfl
  | cons call xs ih =>
    rw [List.cons_append, trials, ih, ← List.append_assoc]
    rfl

theorem trials_concat (s : Session δ) (calls : List (HostCall δ)) (call : HostCall δ) :
    s.trials (calls ++ [call]) = s.trials calls ++ (s.run calls).trial call := by
  rw [trials_append, trials, trials, List.append_nil]

/-- A call changes what is shown of variables by the trial that it amounts to. -/
theorem step_tracked {s : Session δ} {m : MemoryTracker} (h : s.chain.tracker = some (.memory m))
    (call : HostCall δ) (hcall : ∀ tracker, call ≠ .setTracker tracker) :
    let c := (s.step call).chain
    c.tracker = some (.memory (m.after (s.trial call) c.trackedMemory)) ∧
      ∀ id, c.trackedOf id = (s.chain.trackedOf id).map (m.valueAfter (s.trial call) id) := by
  have hidle {c : Chain δ} (hc : s.chain.SameTracking c) :
      c.tracker = some (.memory (m.after [] c.trackedMemory)) ∧
        ∀ id, c.trackedOf id = (s.chain.trackedOf id).map (m.valueAfter [] id) := by
    have htracker := hc.tracker.trans h
    refine ⟨?_, fun id => ?_⟩
    · rw [MemoryTracker.after_nil, Chain.trackedMemory_eq htracker, htracker]
    · rw [hc.trackedOf, funext (m.valueAfter_nil id)]
      exact Option.map_id'.symm
  cases call with
  | submit frame =>
    have hsubmit := Chain.submit_ends frame s.chain
    simp only [step]
    split
    · rename_i c hc
      obtain ⟨device, rfl⟩ := hsubmit.of_ok hc
      exact hidle ⟨rfl, rfl, rfl⟩
    · rename_i c hc
      obtain ⟨device, rfl⟩ := hsubmit.of_error hc
      exact hidle ⟨rfl, rfl, rfl⟩
  | setMemory memory =>
    have hc : (s.step (.setMemory memory)).chain =
        { s.chain with tracker := some (.memory { m with memory }) } := by
      simp only [step, Chain.changeMemory, h]
    have hnone : s.trial (.setMemory memory) = [] := rfl
    rw [hnone, hc]
    refine ⟨by rw [MemoryTracker.after_nil]; rfl, fun id => ?_⟩
    rw [funext (m.valueAfter_nil id)]
    exact Option.map_id'.symm
  | render =>
    cases hpending : s.chain.pending with
    | false =>
      simp only [trial, hpending, step, s.chain.render_repeated hpending]
      exact hidle ⟨rfl, rfl, rfl⟩
    | true =>
      have hsame := Chain.render_sameTracking hpending
      obtain ⟨htracker, hvalues⟩ := Chain.refreshTracked_memory h s.chain.render.1
      have hafter := hsame.tracker.trans htracker
      have hkept : s.chain.render.2.trackedMemory = m.memory :=
        (Chain.trackedMemory_eq hafter).trans rfl
      simp only [trial, hpending, if_true, step, Chain.trackedMemory_eq h, hkept]
      exact ⟨hafter, fun id => (hsame.trackedOf id).trans (hvalues id)⟩
  | setTracker tracker => exact absurd rfl (hcall tracker)
  | setViewport | setRotation | setDirection | adjust => exact hidle ⟨rfl, rfl, rfl⟩

/-- So do calls one after another. -/
theorem run_tracked {s : Session δ} {m : MemoryTracker} (h : s.chain.tracker = some (.memory m))
    (calls : List (HostCall δ)) (hcalls : ∀ tracker, .setTracker tracker ∉ calls) :
    let c := (s.run calls).chain
    c.tracker = some (.memory (m.after (s.trials calls) c.trackedMemory)) ∧
      ∀ id, c.trackedOf id = (s.chain.trackedOf id).map (m.valueAfter (s.trials calls) id) := by
  induction calls using List.reverseRecOn with
  | nil =>
    refine ⟨?_, fun id => ?_⟩
    · rw [trials, MemoryTracker.after_nil]
      exact h.trans (by rw [run, List.foldl_nil, Chain.trackedMemory_eq h])
    · rw [trials, funext (m.valueAfter_nil id)]
      exact Option.map_id'.symm
  | append_singleton calls call ih =>
    obtain ⟨htracker, hvalues⟩ := ih fun tracker hmem => hcalls tracker (by simp [hmem])
    have hcall (tracker) : call ≠ .setTracker tracker := by
      rintro rfl
      exact hcalls tracker (by simp)
    obtain ⟨htracker', hvalues'⟩ := step_tracked htracker call hcall
    rw [trials_concat, run_append]
    refine ⟨htracker'.trans (by rw [MemoryTracker.after_append]; rfl), fun id => ?_⟩
    refine (hvalues' id).trans ?_
    rw [hvalues, Option.map_map]
    exact congrArg (Option.map · _) (funext (MemoryTracker.valueAfter_append id))

theorem run_valued {s : Session δ} (h : s.chain.Valued) (calls : List (HostCall δ)) :
    (s.run calls).chain.Valued := by
  refine run_induction (P := fun t => t.chain.Valued) ?_ h calls
  intro t call ht
  cases call with
  | submit frame =>
    have hsubmit := Chain.submit_ends frame t.chain
    simp only [step]
    split
    · rename_i c hc
      obtain ⟨device, rfl⟩ := hsubmit.of_ok hc
      exact ht
    · rename_i c hc
      obtain ⟨device, rfl⟩ := hsubmit.of_error hc
      exact ht
  | setMemory memory =>
    simp only [step, Chain.changeMemory]
    split <;> exact ht
  | render =>
    cases hpending : t.chain.pending with
    | false =>
      simp only [step, t.chain.render_repeated hpending]
      exact ht
    | true => exact ht.refreshTracked.of_same (Chain.render_sameTracking hpending)
  | setViewport | setRotation | setDirection | setTracker | adjust => exact ht

end Session

end PassChain
