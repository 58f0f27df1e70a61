import PassChain.Proofs.Rendering

/-! What stays the same of a chain however long it is used, over any device. -/
namespace PassChain

open Attempt

variable {δ : Type}

namespace History

variable {h h' : History}

theorem textures_eq (hslots : ∀ (i : Nat) (hi : i < historySlots),
      h'.slots[i].texture = h.slots[i].texture) :
    h'.slots.toList.map (·.texture) = h.slots.toList.map (·.texture) := by
  refine List.ext_getElem (by simp) fun i hi _ => ?_
  simp only [List.length_map, Vector.length_toList] at hi
  simpa only [List.getElem_map, Vector.getElem_toList] using hslots i hi

theorem texture_resizeCurrent (size : Size) (i : Nat) (hi : i < historySlots) :
    (h.resizeCurrent size).slots[i].texture = h.slots[i].texture := by
  simp only [resizeCurrent, current, Vector.getElem_set]
  split
  · rename_i hcursor
    subst hcursor
    rfl
  · rfl

end History

theorem TexturePool.writeFrame_ends [GpuDevice δ] (pool : TexturePool) (frame : Frame) (d : δ) :
    (pool.writeFrame frame).Ends d
      (fun pool' _ => pool' = { pool with history := pool.history.resizeCurrent frame.size })
      (fun _ _ => True) := by
  unfold writeFrame
  simp only [ends_bind, ends_ite, ends_throw, ends_ofExcept, ends_pure, implies_true, true_and,
    and_true]
  exact fun _ _ _ => ⟨fun _ => (ends_true _).mono_ok (fun _ _ _ => ends_true _),
    fun _ => ends_true _⟩

/-- `c'` has the same parts as `c`, whatever they hold by now. -/
structure Chain.Continues (c c' : Chain δ) : Prop where
  settings : c'.settings = c.settings
  descriptions : c'.descriptions = c.descriptions
  plans : c'.passes.map (·.plan) = c.passes.map (·.plan)
  programs : c'.programs = c.programs
  stock : c'.stock = c.stock
  varIds : c'.varIds = c.varIds
  lookups : c'.pool.lookups = c.pool.lookups
  fallback : c'.pool.fallback = c.pool.fallback
  pow2 : c'.pool.pow2 = c.pool.pow2
  targets : c'.pool.targets.length = c.pool.targets.length
  slots : ∀ (i : Nat) (hi : i < historySlots),
    c'.pool.history.slots[i].texture = c.pool.history.slots[i].texture
  texel : c'.pool.history.texel = c.pool.history.texel

namespace Chain

variable {c c' c'' : Chain δ}

theorem Continues.refl (c : Chain δ) : c.Continues c :=
  ⟨rfl, rfl, rfl, rfl, rfl, rfl, rfl, rfl, rfl, rfl, fun _ _ => rfl, rfl⟩

theorem Continues.trans (h : c.Continues c') (h' : c'.Continues c'') : c.Continues c'' where
  settings := h'.settings.trans h.settings
  descriptions := h'.descriptions.trans h.descriptions
  plans := h'.plans.trans h.plans
  programs := h'.programs.trans h.programs
  stock := h'.stock.trans h.stock
  varIds := h'.varIds.trans h.varIds
  lookups := h'.lookups.trans h.lookups
  fallback := h'.fallback.trans h.fallback
  pow2 := h'.pow2.trans h.pow2
  targets := h'.targets.trans h.targets
  slots i hi := (h'.slots i hi).trans (h.slots i hi)
  texel := h'.texel.trans h.texel

theorem Continues.length_passes (h : c.Continues c') : c'.passes.length = c.passes.length := by
  simpa using congrArg List.length h.plans

/-- Each pass goes on by the plan it had. -/
theorem Continues.plan (h : c.Continues c') {i : Nat} {p : CompiledPass}
    (hp : c'.passes[i]? = some p) : ∃ q, c.passes[i]? = some q ∧ p.plan = q.plan := by
  have hplan : (c'.passes.map (·.plan))[i]? = some p.plan := by simp [hp]
  rw [h.plans, List.getElem?_map] at hplan
  obtain ⟨q, hq, hqp⟩ := Option.map_eq_some_iff.mp hplan
  exact ⟨q, hq, hqp.symm⟩

variable [GpuDevice δ]

theorem submit_ends (frame : Frame) (c : Chain δ) :
    (submit frame).Ends c
      (fun _ c' => ∃ device, c' = { c with
        device, pending := true
        pool := { c.pool with history := c.pool.history.resizeCurrent frame.size } })
      (fun _ c' => ∃ device, c' = { c with device }) := by
  unfold submit
  simp only [ends_bind, ends_get, ends_modify, ends_on]
  exact (TexturePool.writeFrame_ends c.pool frame c.device).mono
    (fun _ d h => ⟨d, by rw [h]⟩) (fun _ d _ => ⟨d, rfl⟩)

omit [GpuDevice δ] in
/-- A chain goes on with the parts of `c` when its pool and passes do. -/
theorem continues_drew {r : FrameReport × Sequencer × DrawnPasses δ} {pool : TexturePool}
    (hpool : c.pool.Retargeted pool 0) (hplans : r.2.2.passes.map (·.plan) = c.passes.map (·.plan))
    (hr : r.2.2.pool = pool ∨ r.2.2.pool = pool.advance) : c.Continues (c.drew r) := by
  obtain ⟨tracker, tracked, hc⟩ := c.refreshTracked_eq
  unfold drew
  rw [hc]
  rcases hr with hr | hr <;> rw [hr]
  · exact ⟨rfl, rfl, hplans, rfl, rfl, rfl, hpool.lookups, hpool.fallback, hpool.pow2,
      hpool.length, fun _ _ => by rw [hpool.history], by rw [hpool.history]⟩
  · exact ⟨rfl, rfl, hplans, rfl, rfl, rfl, hpool.lookups, hpool.fallback, hpool.pow2,
      hpool.length, fun _ _ => by rw [TexturePool.advance, hpool.history]; rfl,
      by rw [TexturePool.advance, hpool.history]; rfl⟩

theorem render_continues (c : Chain δ) : c.Continues c.render.2 := by
  cases hpending : c.pending with
  | false =>
    rw [c.render_repeated hpending]
    exact ⟨rfl, rfl, rfl, rfl, rfl, rfl, rfl, rfl, rfl, rfl, fun _ _ => rfl, rfl⟩
  | true =>
    obtain ⟨r, hr, hrender⟩ := c.render_pending hpending
    have hdrew : c.Continues (c.drew r) := by
      cases hr with
      | refused => exact continues_drew (.refl _ _) rfl (.inl rfl)
      | failed e opened d _ hd =>
        obtain ⟨hpool, hplans⟩ := hd ▸ Sequencer.drawFrame_moves
        exact continues_drew hpool hplans (.inl rfl)
      | unshown e opened ended d _ hd =>
        obtain ⟨hpool, hplans⟩ := hd ▸ Sequencer.drawFrame_moves
        exact continues_drew hpool hplans (.inl rfl)
      | shown opened ended d _ hd =>
        obtain ⟨hpool, hplans⟩ := hd ▸ Sequencer.drawFrame_moves
        exact continues_drew hpool hplans (.inr rfl)
    rw [hrender]
    split
    · exact hdrew.trans ⟨rfl, rfl, rfl, rfl, rfl, rfl, rfl, rfl, rfl, rfl, fun _ _ => rfl, rfl⟩
    · exact hdrew

/-- A call to render either shows a frame and moves the ring on, or leaves the ring as it is. -/
theorem render_history (c : Chain δ) :
    c.render.2.hasPresented = false ∧ c.render.2.pool.history = c.pool.history ∧
        c.render.2.frameCount = c.frameCount ∧ c.render.2.pending = c.pending ∨
      c.render.2.hasPresented = true ∧ c.pending = true ∧
        c.render.2.pool.history = c.pool.history.advance ∧
        c.render.2.frameCount = c.frameCount + 1 ∧ c.render.2.pending = false := by
  cases hpending : c.pending with
  | false =>
    rw [c.render_repeated hpending]
    exact .inl ⟨rfl, rfl, rfl, hpending⟩
  | true =>
    obtain ⟨r, hr, hrender⟩ := c.render_pending hpending
    obtain ⟨tracker, tracked, hc⟩ := c.refreshTracked_eq
    have hsame {d : DrawnPasses δ} {opened : δ}
        (hd : c.sequencer.drawFrame c.refreshTracked.inputs c.passes c.pool opened = d) :
        d.pool.history = c.pool.history := (hd ▸ Sequencer.drawFrame_moves).1.history
    rw [hrender, drew, hc]
    cases hr with
    | refused => exact .inl ⟨rfl, rfl, rfl, hpending⟩
    | failed e opened d _ hd => exact .inl ⟨rfl, hsame hd, rfl, hpending⟩
    | unshown e opened ended d _ hd => exact .inl ⟨rfl, hsame hd, rfl, hpending⟩
    | shown opened ended d _ hd =>
      exact .inr ⟨rfl, rfl, congrArg History.advance (hsame hd), rfl, rfl⟩

end Chain

namespace Session

variable [GpuDevice δ] [Adjustable δ]

theorem step_continues (s : Session δ) (call : HostCall δ) :
    s.chain.Continues (s.step call).chain := by
  cases call with
  | submit frame =>
    simp only [step]
    split
    · rename_i c hc
      obtain ⟨device, rfl⟩ := (Chain.submit_ends frame s.chain).of_ok hc
      exact ⟨rfl, rfl, rfl, rfl, rfl, rfl, rfl, rfl, rfl, rfl,
        History.texture_resizeCurrent frame.size, rfl⟩
    · rename_i c hc
      obtain ⟨device, rfl⟩ := (Chain.submit_ends frame s.chain).of_error hc
      exact ⟨rfl, rfl, rfl, rfl, rfl, rfl, rfl, rfl, rfl, rfl, fun _ _ => rfl, rfl⟩
  | setMemory memory =>
    simp only [step, Chain.changeMemory]
    split <;> exact ⟨rfl, rfl, rfl, rfl, rfl, rfl, rfl, rfl, rfl, rfl, fun _ _ => rfl, rfl⟩
  | render => exact s.chain.render_continues
  | setViewport | setRotation | setDirection | setTracker | adjust =>
    exact ⟨rfl, rfl, rfl, rfl, rfl, rfl, rfl, rfl, rfl, rfl, fun _ _ => rfl, rfl⟩

/-- However long a chain is used, it keeps its parts. -/
theorem run_continues (s : Session δ) (calls : List (HostCall δ)) :
    s.chain.Continues (s.run calls).chain :=
  run_induction (P := fun t => s.chain.Continues t.chain)
    (fun t call h => h.trans (t.step_continues call)) (.refl _) calls

/-- The frame that waits is the one handed in last. -/
def Waiting (s : Session δ) : Prop :=
  s.chain.pending = true → s.chain.pool.history.current.size = s.lastAccepted

omit [GpuDevice δ] [Adjustable δ] in
theorem start_waiting {c : Chain δ} (h : c.pending = false) : (start c).Waiting := by
  intro hpending
  simp [start, h] at hpending

theorem step_waiting {s : Session δ} (h : s.Waiting) (call : HostCall δ) :
    (s.step call).Waiting := by
  cases call with
  | submit frame =>
    have hsubmit := Chain.submit_ends frame s.chain
    simp only [step]
    split
    · rename_i c hc
      obtain ⟨device, rfl⟩ := hsubmit.of_ok hc
      intro _
      simp [lastAccepted, History.resizeCurrent, History.current]
    · rename_i c hc
      obtain ⟨device, rfl⟩ := hsubmit.of_error hc
      exact h
  | setMemory memory =>
    simp only [step, Chain.changeMemory]
    split <;> exact h
  | render =>
    intro hpending
    simp only [step] at hpending
    rcases s.chain.render_history with ⟨_, hhistory, _, hwaits⟩ | ⟨_, _, _, _, hdone⟩
    · exact (congrArg (·.current.size) hhistory).trans (h (hwaits ▸ hpending))
    · simp [hdone] at hpending
  | setViewport | setRotation | setDirection | setTracker | adjust => exact h

theorem run_waiting {s : Session δ} (h : s.Waiting) (calls : List (HostCall δ)) :
    (s.run calls).Waiting :=
  run_induction (P := Waiting) (fun _ call ht => step_waiting ht call) h calls

end Session

end PassChain
