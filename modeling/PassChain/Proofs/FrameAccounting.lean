import PassChain.Proofs.ObligingDevice
import PassChain.Proofs.RecordedFrames

/-! Every frame is accounted for: it is shown once, or dropped without a trace. -/
namespace PassChain

open Attempt

/-- In `c'` the frame that waited in `c` has been shown. -/
structure Chain.FrameShown (c c' : Chain Recorder) : Prop where
  report : c'.report = some ⟨c.passes.length, .presented⟩
  frames : ∃ draws, c'.device.frames = c.device.frames ++ [draws]
  generation : c'.device.generation = c.device.generation + 1
  framesSubmitted : c'.device.stats.framesSubmitted = c.device.stats.framesSubmitted + 1
  framesAborted : c'.device.stats.framesAborted = c.device.stats.framesAborted
  frameCount : c'.frameCount = c.frameCount + 1
  history : c'.pool.history = c.pool.history.advance
  pending : c'.pending = false

/-- In `c'` the frame that waits in `c` has been dropped at pass `k`; it still waits. -/
structure Chain.FrameDropped (c c' : Chain Recorder) (k : Nat) : Prop where
  report : ∃ e, c'.report = some ⟨k, .aborted k e⟩
  frames : c'.device.frames = c.device.frames
  generation : c'.device.generation = c.device.generation
  framesSubmitted : c'.device.stats.framesSubmitted = c.device.stats.framesSubmitted
  framesAborted : c'.device.stats.framesAborted = c.device.stats.framesAborted + 1
  frameCount : c'.frameCount = c.frameCount
  history : c'.pool.history = c.pool.history
  pending : c'.pending = c.pending

namespace Chain

variable {c : Chain Recorder}

theorem dropped_frameDropped {device : Recorder} {pool : TexturePool}
    {passes : List CompiledPass} {k : Nat} {e : Error} (hopen : device.inFrame = true)
    (hframes : device.frames = c.device.frames)
    (hgeneration : device.generation = c.device.generation)
    (hsubmitted : device.stats.framesSubmitted = c.device.stats.framesSubmitted)
    (haborted : device.stats.framesAborted = c.device.stats.framesAborted)
    (hhistory : pool.history = c.pool.history) :
    c.FrameDropped (c.dropped device pool passes ⟨k, .aborted k e⟩) k := by
  obtain ⟨tracker, tracked, hc⟩ := c.refreshTracked_eq
  unfold dropped
  rw [hc, Recorder.abortFrame_of_inFrame hopen]
  exact ⟨⟨e, rfl⟩, hframes, hgeneration, hsubmitted, congrArg (· + 1) haborted, rfl, hhistory, rfl⟩

/-- A frame that has been drawn to its end changes the picture. -/
theorem drawing_changes_picture (hpasses : c.passes ≠ []) (hfail : c.drawing.failure = none) :
    c.drawing.device.pending.any (·.destination == .backbuffer) := by
  obtain ⟨hlen, hdraws⟩ := c.drawing_draws
  rw [(drawing_drawn hpasses).1 hfail] at hlen
  have hpos := List.length_pos_iff.mpr hpasses
  have hlast : c.passes.length - 1 < c.drawing.device.pending.length := by omega
  obtain ⟨size, canvas, hdrawn⟩ := hdraws (c.passes.length - 1) _ _
    (List.getElem?_eq_getElem (by omega)) (List.getElem?_eq_getElem hlast)
  obtain ⟨_, rfl⟩ := hdrawn.last (by omega)
  obtain ⟨label, uniforms, vertices, hdraw⟩ := hdrawn.draw
  refine List.any_eq_true.mpr ⟨_, List.getElem_mem hlast, ?_⟩
  rw [hdraw]
  rfl

theorem presented_frameShown (hpasses : c.passes ≠ []) (hfail : c.drawing.failure = none) :
    c.FrameShown (c.presented c.drawing) := by
  obtain ⟨tracker, tracked, hc⟩ := c.refreshTracked_eq
  have hsteady := c.drawing_steady
  unfold presented
  rw [hc, (drawing_drawn hpasses).1 hfail]
  refine ⟨rfl, ⟨_, congrArg (· ++ [c.drawing.device.pending]) hsteady.frames⟩, ?_,
    congrArg (· + 1) hsteady.framesSubmitted, hsteady.framesAborted, rfl, ?_, rfl⟩
  · simp only [Recorder.bindResting, Recorder.shown, drawing_changes_picture hpasses hfail, if_true]
    exact congrArg (· + 1) hsteady.generation
  · simp only [TexturePool.advance, c.drawing_moves.1.history]

/-- What a call to render does on a recorder, for any faults that it was told to make. -/
theorem render_shows_or_drops (hpasses : c.passes ≠ []) (hpending : c.pending = true) :
    c.render.1 = true ∧ c.FrameShown c.render.2 ∨
      c.render.1 = false ∧ ∃ k < c.passes.length, c.FrameDropped c.render.2 k := by
  have hsteady := c.drawing_steady
  cases hrender : c.render with | mk answer c' =>
  have hrendered := render_rendered hpending
  rw [hrender] at hrendered
  cases hrendered with
  | refused hframe =>
    refine .inr ⟨rfl, 0, List.length_pos_iff.mpr hpasses, ?_⟩
    exact dropped_frameDropped hframe rfl rfl rfl rfl rfl
  | failed e hframe hfail =>
    refine .inr ⟨rfl, _, (drawing_drawn hpasses).2 (by simp [hfail]), ?_⟩
    exact dropped_frameDropped hsteady.inFrame hsteady.frames hsteady.generation
      hsteady.framesSubmitted hsteady.framesAborted c.drawing_moves.1.history
  | shown hframe hfail => exact .inl ⟨rfl, presented_frameShown hpasses hfail⟩

end Chain

namespace Session

/-- All accounts of shown frames agree, and each shown frame had been handed in. -/
structure Tallied (s : Session Recorder) : Prop where
  frameCount : s.chain.frameCount = s.shown.length
  frames : s.chain.device.frames.length = s.shown.length
  generation : s.chain.device.generation = s.shown.length
  cursor : s.chain.pool.history.cursor.val = s.shown.length % historySlots
  accepted : s.shown.length + s.chain.pending.toNat ≤ s.accepted.length

theorem step_tallied {s : Session Recorder} (hpasses : s.chain.passes ≠ []) (h : s.Tallied)
    (call : HostCall Recorder) : (s.step call).Tallied := by
  cases call with
  | submit frame =>
    have hle := h.accepted
    have hsubmit := Chain.submit_recorded frame s.chain
    simp only [step]
    split
    · rename_i c hc
      obtain ⟨_, ⟨_, _, rfl⟩, rfl⟩ := hsubmit.of_ok hc
      refine ⟨h.frameCount, h.frames, h.generation, h.cursor, ?_⟩
      simp only [List.length_append, List.length_singleton, Bool.toNat_true]
      omega
    · rename_i c hc
      obtain ⟨_, ⟨_, _, rfl⟩, rfl⟩ := hsubmit.of_error hc
      exact ⟨h.frameCount, h.frames, h.generation, h.cursor, h.accepted⟩
  | render =>
    have hcursor := h.cursor
    have hle := h.accepted
    cases hpending : s.chain.pending with
    | false =>
      simp only [step, s.chain.render_repeated hpending, Chain.hasPresented]
      exact ⟨h.frameCount, h.frames, h.generation, h.cursor, h.accepted⟩
    | true =>
      rcases Chain.render_shows_or_drops hpasses hpending with ⟨_, hshown⟩ | ⟨_, k, _, hdropped⟩
      · have hyes : s.chain.render.2.hasPresented = true := by
          simp [Chain.hasPresented, hshown.report, FrameReport.isPresented]
        obtain ⟨draws, hframes⟩ := hshown.frames
        rw [hpending, Bool.toNat_true] at hle
        simp only [step, hyes, if_true]
        refine ⟨?_, ?_, ?_, ?_, ?_⟩
        · simp [hshown.frameCount, h.frameCount]
        · simp [hframes, h.frames]
        · simp [hshown.generation, h.generation]
        · rw [hshown.history, History.advance, Fin.val_add, hcursor]
          simp
        · simpa [hshown.pending] using hle
      · obtain ⟨e, hreport⟩ := hdropped.report
        have hno : s.chain.render.2.hasPresented = false := by
          simp [Chain.hasPresented, hreport, FrameReport.isPresented]
        simp only [step, hno, Bool.false_eq_true, if_false]
        exact ⟨hdropped.frameCount.trans h.frameCount, by rw [hdropped.frames]; exact h.frames,
          hdropped.generation.trans h.generation, by rw [hdropped.history]; exact h.cursor,
          by rw [hdropped.pending]; exact h.accepted⟩
  | setMemory memory =>
    simp only [step, Chain.changeMemory]
    split <;> exact ⟨h.frameCount, h.frames, h.generation, h.cursor, h.accepted⟩
  | setViewport | setRotation | setDirection | setTracker =>
    exact ⟨h.frameCount, h.frames, h.generation, h.cursor, h.accepted⟩
  | adjust change =>
    cases change <;> exact ⟨h.frameCount, h.frames, h.generation, h.cursor, h.accepted⟩

theorem run_tallied {s : Session Recorder} (hpasses : s.chain.passes ≠ []) (h : s.Tallied)
    (calls : List (HostCall Recorder)) : (s.run calls).Tallied := by
  refine (run_induction (P := fun t => t.chain.passes ≠ [] ∧ t.Tallied) ?_ ⟨hpasses, h⟩ calls).2
  rintro t call ⟨hp, ht⟩
  refine ⟨?_, step_tallied hp ht call⟩
  have hlen := (t.step_continues call).length_passes
  rw [← List.length_pos_iff] at hp ⊢
  omega

end Session

variable {device : Recorder} {files : FileSystem} {preset : Preset} {settings : ChainSettings}
  {c₀ : Chain Recorder}

/-- At any time in the life of a chain, a call to render with no frame waiting changes nothing but
the report; with a frame waiting it shows the frame or drops it, and leaves the device at rest. On
a device that had shown nothing before, all counts of shown frames agree at any time. -/
theorem frames_accounted_for (hdevice : device.Reachable)
    (hbuild : Chain.build device files preset settings = .ok c₀)
    (calls : List (HostCall Recorder)) :
    let s := (Session.start c₀).run calls
    let c := s.chain
    (c.pending = false → c.render = (true, { c with report := some .repeated })) ∧
    (c.pending = true →
      (c.render.1 = true ∧ c.FrameShown c.render.2 ∨
        c.render.1 = false ∧ ∃ k < c.passes.length, c.FrameDropped c.render.2 k) ∧
      c.render.2.device.resting = some c₀.stock ∧ c.render.2.device.inFrame = false) ∧
    (device.frames = [] → device.generation = 0 →
      c.frameCount = s.shown.length ∧ c.device.frames.length = s.shown.length ∧
      c.device.generation = s.shown.length ∧
      c.pool.history.cursor.val = c.frameCount % historySlots ∧
      s.shown.length ≤ s.accepted.length) := by
  intro s c
  have hfrom := Chain.build_builtFrom hbuild
  have hcontinues : c₀.Continues c := (Session.start c₀).run_continues calls
  have hpasses : c.passes ≠ [] := by
    have hpos := List.length_pos_iff.mpr hfrom.passes_ne_nil
    rw [← List.length_pos_iff, hcontinues.length_passes]
    exact hpos
  refine ⟨c.render_repeated, ?_, ?_⟩
  · intro hpending
    rw [← hcontinues.stock]
    exact ⟨Chain.render_shows_or_drops hpasses hpending, (Chain.render_rendered hpending).at_rest⟩
  · intro hframes hgeneration
    obtain ⟨hidle, hcount⟩ := Chain.build_idle hbuild
    obtain ⟨slots, hhistory, _⟩ := hfrom.history
    have hgrows := (Chain.build_grows (Recorder.issued_reachable hdevice) hbuild).1
    have htallied : (Session.start c₀).Tallied := by
      refine ⟨hcount, ?_, ?_, ?_, ?_⟩
      · simp [Session.start, hgrows.frames, hframes]
      · simp [Session.start, hgrows.generation, hgeneration]
      · simp [Session.start, hhistory, History.ofTextures]
      · simp [Session.start, hidle]
    have hs := Session.run_tallied hfrom.passes_ne_nil htallied calls
    exact ⟨hs.frameCount, hs.frames, hs.generation, by rw [hs.frameCount]; exact hs.cursor,
      Nat.le_trans (Nat.le_add_right _ _) hs.accepted⟩

theorem first_frame_accounted_for :
    ∃ c₀, Chain.build ({} : Recorder) .empty .twoStock {} = .ok c₀ ∧
      let s := (Session.start c₀).run HostCall.firstFrame
      let c := s.chain
      c.pending = true ∧
        (c.render.1 = true ∧ c.FrameShown c.render.2 ∨
          c.render.1 = false ∧ ∃ k < c.passes.length, c.FrameDropped c.render.2 k) ∧
        c.render.2.device.resting = some c₀.stock ∧ c.frameCount = s.shown.length ∧
        s.shown.length ≤ s.accepted.length := by
  have hissued := Recorder.issued_reachable (.fresh 8192)
  obtain ⟨c₀, c₁, hbuild, _, hrun, hpending⟩ :=
    Session.first_frame_accepted (o := Recorder.obliging 8192) (d := {}) ⟨hissued, rfl, rfl⟩ rfl
  have hwaits : ((Session.start c₀).run HostCall.firstFrame).chain.pending = true := by
    rw [hrun]
    exact hpending
  obtain ⟨_, hrender, hcounts⟩ :=
    frames_accounted_for (.fresh 8192) hbuild HostCall.firstFrame
  obtain ⟨hcount, _, _, _, hle⟩ := hcounts rfl rfl
  exact ⟨c₀, hbuild, hwaits, (hrender hwaits).1, (hrender hwaits).2.1, hcount, hle⟩

end PassChain
