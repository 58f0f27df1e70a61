import PassChain.Proofs.Clearing
import PassChain.Proofs.FrameAccounting

/-! Of the draws that a chain shows in one texture, only the first clears it, if any does. -/
namespace PassChain

open Recorder

/-- The draws into a texture that have been shown since there were `n` frames. -/
def Recorder.drawsInto (r : Recorder) (n : Nat) (id : TextureId) : List RecordedDraw :=
  (r.frames.drop n).flatten.filter (·.destination == .texture id)

theorem Recorder.drawsInto_congr {r r' : Recorder} {n : Nat} {id : TextureId}
    (h : r'.frames = r.frames) : r'.drawsInto n id = r.drawsInto n id := by
  unfold drawsInto
  rw [h]

theorem Recorder.drawsInto_concat {r r' : Recorder} {n : Nat} {id : TextureId}
    {frame : List RecordedDraw} (hn : n ≤ r.frames.length) (h : r'.frames = r.frames ++ [frame]) :
    r'.drawsInto n id = r.drawsInto n id ++ frame.filter (·.destination == .texture id) := by
  unfold drawsInto
  rw [h, List.drop_append_of_le_length hn, List.flatten_append, List.filter_append,
    List.flatten_singleton]

theorem RecordedDraw.mem_into {draw : RecordedDraw} {draws : List RecordedDraw} {id : TextureId} :
    draw ∈ draws.filter (·.destination == .texture id) ↔
      draw ∈ draws ∧ draw.destination = .texture id := by
  rw [List.mem_filter, beq_iff_eq]

theorem length_filter_le_one {α : Type} {p : α → Bool} {l : List α}
    (h : l.Pairwise fun a b => ¬ (p a = true ∧ p b = true)) : (l.filter p).length ≤ 1 := by
  induction h with
  | nil => exact Nat.zero_le 1
  | @cons a l ha _ ih =>
    cases hp : p a with
    | false => rw [List.filter_cons_of_neg (by simp [hp])]; exact ih
    | true =>
      have hnone : l.filter p = [] :=
        List.filter_eq_nil_iff.mpr fun b hb hpb => ha b hb ⟨hp, hpb⟩
      rw [List.filter_cons_of_pos hp, hnone]
      exact Nat.le_refl 1

namespace Chain

variable {c c' : Chain Recorder}

/-- The passes of a frame draw into different textures. -/
theorem drawing_once (h : c.Sound) (id : TextureId) :
    (c.drawing.device.pending.filter (·.destination == .texture id)).length ≤ 1 := by
  refine length_filter_le_one (List.pairwise_iff_getElem.mpr ?_)
  rintro i j hi hj hlt ⟨hfirst, hsecond⟩
  obtain ⟨_, t, _, ht, htid⟩ :=
    drawing_target h (List.getElem?_eq_getElem hi) (by simpa using hfirst)
  obtain ⟨_, u, _, hu, huid⟩ :=
    drawing_target h (List.getElem?_eq_getElem hj) (by simpa using hsecond)
  have heq := (drawing_alive h).1.distinct i j t u ht hu (htid.trans huid.symm)
  omega

/-- A frame that is drawn to its end draws into all targets. -/
theorem drawing_into_target (h : c.Sound) (hfail : c.drawing.failure = none) {i : Nat}
    {t : RenderTarget} (ht : c.drawing.pool.target? i = some t) :
    ∃ draw ∈ c.drawing.device.pending, draw.destination = .texture t.texture := by
  have hi := (List.getElem?_eq_some_iff.mp (TexturePool.target?_eq_some ht)).1
  rw [c.drawing_moves.1.length] at hi
  have hlast : i + 1 < c.passes.length := by rw [h.count]; omega
  have hdrawn := (drawing_drawn h.passes_ne_nil).1 hfail
  obtain ⟨draw, hdraw⟩ : ∃ draw, c.drawing.device.pending[i]? = some draw :=
    ⟨_, List.getElem?_eq_getElem (by rw [c.drawing_draws.1]; omega)⟩
  obtain ⟨u, hu, hdest, _⟩ := drawing_fills h hlast hdraw
  rw [ht, Option.some.injEq] at hu
  subst hu
  exact ⟨draw, List.mem_of_getElem? hdraw, hdest⟩

/-- What is known of the draws that have been shown since there were `shown` frames, when `dropped`
had been dropped: which textures they go to, and which of them clear. -/
structure Cleared (shown dropped : Nat) (c : Chain Recorder) : Prop where
  count : shown ≤ c.device.frames.length
  made : ∀ id, c.device.drawsInto shown id ≠ [] → id.index < c.device.nextId
  later : ∀ id, ∀ draw ∈ (c.device.drawsInto shown id).tail, draw.clear = false
  droppedCount : dropped ≤ c.device.stats.framesAborted
  /-- as long as no frame has been dropped, all targets have been drawn into -/
  targets : c.device.stats.framesAborted = dropped → ∀ i t, c.pool.target? i = some t →
    c.device.drawsInto shown t.texture ≠ []
  first : c.device.stats.framesAborted = dropped → ∀ id draw,
    (c.device.drawsInto shown id).head? = some draw → draw.clear = true

variable {shown dropped : Nat}

theorem Cleared.of_same (h : c.Cleared shown dropped) (hframes : c'.device.frames = c.device.frames)
    (hid : c.device.nextId ≤ c'.device.nextId)
    (hdropped : c.device.stats.framesAborted < c'.device.stats.framesAborted ∨
      c'.device.stats.framesAborted = c.device.stats.framesAborted ∧
        ∀ i, c'.pool.target? i = c.pool.target? i) : c'.Cleared shown dropped := by
  have hdraws (id) : c'.device.drawsInto shown id = c.device.drawsInto shown id :=
    drawsInto_congr hframes
  have hcount := h.droppedCount
  refine ⟨hframes ▸ h.count, ?_, ?_, by omega, ?_, ?_⟩
  · intro id hne
    exact Nat.lt_of_lt_of_le (h.made id (hdraws id ▸ hne)) hid
  · intro id
    rw [hdraws]
    exact h.later id
  · intro hnone i t ht
    rcases hdropped with hmore | ⟨hsame, htargets⟩
    · omega
    · rw [hdraws]
      exact h.targets (hsame ▸ hnone) i t (htargets i ▸ ht)
  · intro hnone id draw hhead
    rcases hdropped with hmore | ⟨hsame, _⟩
    · omega
    · exact h.first (hsame ▸ hnone) id draw (hdraws id ▸ hhead)

/-- A draw of the waiting frame that goes to a texture, by what has been shown before. -/
theorem Cleared.drawn (h : c.Cleared shown dropped) (hs : c.Sound) {draw : RecordedDraw}
    {id : TextureId} (hdraw : draw ∈ c.drawing.device.pending)
    (hdest : draw.destination = .texture id) :
    id.index < c.drawing.device.nextId ∧
      (c.device.drawsInto shown id ≠ [] → draw.clear = false) ∧
      (c.device.stats.framesAborted = dropped → c.device.drawsInto shown id = [] →
        draw.clear = true) := by
  obtain ⟨i, hi⟩ := List.mem_iff_getElem?.mp hdraw
  obtain ⟨pass, t, hpass, ht, htid⟩ := drawing_target hs hi hdest
  have halive := (drawing_alive hs).1
  refine ⟨?_, ?_, ?_⟩
  · rw [← htid]
    exact halive.issued.texture_index_lt (halive.targets i t ht).1
  · intro hbefore
    rcases drawing_treats hpass hi id hdest with ⟨hclear, _⟩ | ⟨_, hnew, _⟩
    · exact hclear
    · exact absurd (h.made id hbefore) (by omega)
  · intro hnone hbefore
    rcases drawing_treats hpass hi id hdest with ⟨_, old, hold, holdid⟩ | ⟨hclear, _⟩
    · exact absurd (holdid ▸ hbefore) (h.targets hnone i old hold)
    · exact hclear

theorem Cleared.presented (h : c.Cleared shown dropped) (hs : c.Sound)
    (hfail : c.drawing.failure = none) : (c.presented c.drawing).Cleared shown dropped := by
  have hframe := presented_frameShown hs.passes_ne_nil hfail
  have hframes : (c.presented c.drawing).device.frames =
      c.device.frames ++ [c.drawing.device.pending] :=
    congrArg (· ++ [c.drawing.device.pending]) c.drawing_steady.frames
  have hdraws (id : TextureId) : (c.presented c.drawing).device.drawsInto shown id =
      c.device.drawsInto shown id ++
        c.drawing.device.pending.filter (·.destination == .texture id) :=
    drawsInto_concat h.count hframes
  have hdrawn {id : TextureId} {draw : RecordedDraw}
      (hdraw : draw ∈ c.drawing.device.pending.filter (·.destination == .texture id)) :=
    h.drawn hs (RecordedDraw.mem_into.mp hdraw).1 (RecordedDraw.mem_into.mp hdraw).2
  refine ⟨?_, ?_, ?_, ?_, ?_, ?_⟩
  · rw [hframes, List.length_append]
    exact Nat.le_add_right_of_le h.count
  · intro id hne
    rw [hdraws] at hne
    show id.index < c.drawing.device.nextId
    by_cases hbefore : c.device.drawsInto shown id = []
    · rw [hbefore, List.nil_append] at hne
      obtain ⟨draw, hdraw⟩ := List.exists_mem_of_ne_nil _ hne
      exact (hdrawn hdraw).1
    · exact Nat.lt_of_lt_of_le (h.made id hbefore) drawing_nextId
  · intro id draw hdraw
    rw [hdraws] at hdraw
    by_cases hbefore : c.device.drawsInto shown id = []
    -- nothing but the frame draws into `id`, and that only once
    · have honce := drawing_once hs id
      have hpos := List.length_pos_of_mem hdraw
      rw [hbefore, List.nil_append, List.length_tail] at hpos
      omega
    · rw [List.tail_append_of_ne_nil hbefore] at hdraw
      rcases List.mem_append.mp hdraw with hdraw | hdraw
      · exact h.later id draw hdraw
      · exact (hdrawn hdraw).2.1 hbefore
  · rw [hframe.framesAborted]
    exact h.droppedCount
  · intro hnone i t ht
    obtain ⟨draw, hdraw⟩ := drawing_into_target hs hfail ht
    rw [hdraws]
    exact List.append_ne_nil_of_right_ne_nil _
      (List.ne_nil_of_mem (RecordedDraw.mem_into.mpr hdraw))
  · intro hnone id draw hhead
    rw [hdraws] at hhead
    rw [hframe.framesAborted] at hnone
    by_cases hbefore : c.device.drawsInto shown id = []
    · rw [hbefore, List.nil_append] at hhead
      have hdraw := List.mem_of_head? hhead
      exact (hdrawn hdraw).2.2 hnone hbefore
    · refine h.first hnone id draw ?_
      rwa [List.head?_append_of_ne_nil _ hbefore] at hhead

theorem Cleared.render (h : c.Cleared shown dropped) (hs : c.Sound) :
    c.render.2.Cleared shown dropped := by
  cases hpending : c.pending with
  | false =>
    rw [render_repeated c hpending]
    exact h.of_same rfl (Nat.le_refl _) (.inr ⟨rfl, fun _ => rfl⟩)
  | true =>
    have hsteady := c.drawing_steady
    cases hrender : c.render with | mk answer c' =>
    have hrendered := render_rendered hpending
    rw [hrender] at hrendered
    cases hrendered with
    | refused hframe =>
      have hdropped : c.FrameDropped (c.dropped c.device c.pool c.passes
          ⟨0, .aborted 0 (.device .frameOpen)⟩) 0 :=
        dropped_frameDropped hframe rfl rfl rfl rfl rfl
      have hid := (sameResources_dropped c.device c.stock).nextId
      refine h.of_same hdropped.frames (Nat.le_of_eq hid.symm) (.inl ?_)
      rw [hdropped.framesAborted]
      exact Nat.lt_succ_self _
    | failed e hframe hfail =>
      have hdropped : c.FrameDropped (c.dropped c.drawing.device c.drawing.pool c.drawing.passes
          ⟨c.drawing.drawn, .aborted c.drawing.drawn e⟩) c.drawing.drawn :=
        dropped_frameDropped hsteady.inFrame hsteady.frames hsteady.generation
          hsteady.framesSubmitted hsteady.framesAborted c.drawing_moves.1.history
      have hid := (sameResources_dropped c.drawing.device c.stock).nextId
      refine h.of_same hdropped.frames (Nat.le_trans drawing_nextId (Nat.le_of_eq hid.symm))
        (.inl ?_)
      rw [hdropped.framesAborted]
      exact Nat.lt_succ_self _
    | shown hframe hfail => exact h.presented hs hfail

theorem Cleared.moves (h : c.Cleared shown dropped) (hs : c.Sound) (hmoves : c.Moves c') :
    c'.Cleared shown dropped := by
  cases hmoves with
  | accepted frame device hwritten | refused device hwritten =>
    obtain ⟨_, _, rfl⟩ := hwritten
    exact h.of_same rfl (Nat.le_refl _) (.inr ⟨rfl, fun _ => rfl⟩)
  | asked | upset => exact h.of_same rfl (Nat.le_refl _) (.inr ⟨rfl, fun _ => rfl⟩)
  | rendered => exact h.render hs

variable {device : Recorder} {files : FileSystem} {preset : Preset} {settings : ChainSettings}
  {c₀ : Chain Recorder}

/-- A new chain has shown nothing. -/
theorem build_cleared (hdevice : device.Issued)
    (h : build device files preset settings = .ok c₀) :
    c₀.Cleared device.frames.length device.stats.framesAborted := by
  have hgrows := (build_grows hdevice h).1
  have hnone (id) : c₀.device.drawsInto device.frames.length id = [] := by
    rw [drawsInto, hgrows.frames, List.drop_length]
    rfl
  refine ⟨Nat.le_of_eq (by rw [hgrows.frames]), ?_, ?_, Nat.le_of_eq hgrows.framesAborted.symm,
    ?_, ?_⟩
  · intro id hne
    exact absurd (hnone id) hne
  · intro id draw hdraw
    rw [hnone] at hdraw
    cases hdraw
  · intro _ i t ht
    have hslot := TexturePool.target?_eq_some ht
    rw [(build_builtFrom h).targets, List.getElem?_replicate] at hslot
    split at hslot <;> cases hslot
  · intro _ id draw hhead
    rw [hnone] at hhead
    cases hhead

end Chain

namespace Session

variable {device : Recorder} {files : FileSystem} {preset : Preset} {settings : ChainSettings}
  {c₀ : Chain Recorder} {shown : Nat} {id : TextureId} {draw : RecordedDraw}

/-- A call of a host shows no frame, or it renders one. -/
theorem step_frames (s : Session Recorder) (call : HostCall Recorder) :
    (s.step call).chain.device.frames = s.chain.device.frames ∨
      call = .render ∧ (s.step call).chain.device.frames =
        s.chain.device.frames ++ [s.chain.drawing.device.pending] := by
  cases call with
  | submit frame =>
    have hsubmit := Chain.submit_recorded frame s.chain
    simp only [step]
    split
    · rename_i c hc
      obtain ⟨_, ⟨_, _, rfl⟩, rfl⟩ := hsubmit.of_ok hc
      exact .inl rfl
    · rename_i c hc
      obtain ⟨_, ⟨_, _, rfl⟩, rfl⟩ := hsubmit.of_error hc
      exact .inl rfl
  | setMemory memory =>
    simp only [step, Chain.changeMemory]
    split <;> exact .inl rfl
  | adjust change => cases change <;> exact .inl rfl
  | render =>
    have hframes := @Chain.frames_render s.chain
    split at hframes
    · exact .inr ⟨rfl, hframes⟩
    · exact .inl hframes
  | setViewport | setRotation | setDirection | setTracker => exact .inl rfl

/-- One of `calls` renders the first frame with a draw into `id`, which is `draw`, and `draw` clears
`id` just when there was no such texture before that very call. -/
def FirstShown (c₀ : Chain Recorder) (calls : List (HostCall Recorder)) (shown : Nat)
    (id : TextureId) (draw : RecordedDraw) : Prop :=
  ∃ xs ys frame, calls = xs ++ .render :: ys ∧
    let before := ((start c₀).run xs).chain.device
    let after := ((start c₀).run (xs ++ [.render])).chain.device
    before.drawsInto shown id = [] ∧ after.frames = before.frames ++ [frame] ∧ draw ∈ frame ∧
      (draw.clear = true ↔ before.texture? id = none)

theorem first_draw_shown (hsound : c₀.Sound)
    (hcleared : c₀.Cleared shown c₀.device.stats.framesAborted)
    (hnone : c₀.device.drawsInto shown id = []) (calls : List (HostCall Recorder))
    (hhead : (((start c₀).run calls).chain.device.drawsInto shown id).head? = some draw) :
    FirstShown c₀ calls shown id draw := by
  induction calls using List.reverseRecOn with
  | nil =>
    have hempty : ((start c₀).run []).chain.device.drawsInto shown id = [] := hnone
    rw [hempty] at hhead
    cases hhead
  | append_singleton calls call ih =>
    have hrun : (start c₀).run (calls ++ [call]) = ((start c₀).run calls).step call := by
      rw [run_append]
      rfl
    generalize hs : (start c₀).run calls = s at hrun ih
    have hholds : s.chain.Sound ∧ s.chain.Cleared shown c₀.device.stats.framesAborted := by
      rw [← hs]
      exact run_keeps (P := fun c => c.Sound ∧ c.Cleared shown c₀.device.stats.framesAborted)
        (fun _ _ h hmoves => ⟨hmoves.sound h.1, h.2.moves h.1 hmoves⟩) ⟨hsound, hcleared⟩ calls
    obtain ⟨hsound, hcleared⟩ := hholds
    have hextended (h : (s.chain.device.drawsInto shown id).head? = some draw) :
        FirstShown c₀ (calls ++ [call]) shown id draw := by
      obtain ⟨xs, ys, frame, hcalls, hshown⟩ := ih h
      exact ⟨xs, ys ++ [call], frame, by rw [hcalls, List.append_assoc]; rfl, hshown⟩
    rw [hrun] at hhead
    rcases s.step_frames call with hsame | ⟨rfl, hframes⟩
    · rw [drawsInto_congr hsame] at hhead
      exact hextended hhead
    · rw [drawsInto_concat hcleared.count hframes] at hhead
      by_cases hbefore : s.chain.device.drawsInto shown id = []
      · rw [hbefore, List.nil_append] at hhead
        obtain ⟨hdraw, hdest⟩ := RecordedDraw.mem_into.mp (List.mem_of_head? hhead)
        refine ⟨calls, [], s.chain.drawing.device.pending, rfl, ?_⟩
        rw [hs, hrun]
        exact ⟨hbefore, hframes, hdraw, Chain.clears_iff hsound hdraw hdest⟩
      · rw [List.head?_append_of_ne_nil _ hbefore] at hhead
        exact hextended hhead

end Session

variable {device : Recorder} {files : FileSystem} {preset : Preset} {settings : ChainSettings}
  {c₀ : Chain Recorder}

/-- Of all draws into one texture that a chain shows, none but the first clears it. The first one
does so just when the texture was made by the very call that shows the draw, and always if no frame
has been dropped. -/
theorem shown_draws_clear_new_targets (hdevice : device.Reachable)
    (hbuild : Chain.build device files preset settings = .ok c₀)
    (calls : List (HostCall Recorder)) :
    let after := ((Session.start c₀).run calls).chain.device
    let shown := device.frames.length
    ∀ id first later, after.drawsInto shown id = first :: later →
      (∀ draw ∈ later, draw.clear = false) ∧ Session.FirstShown c₀ calls shown id first ∧
      (after.stats.framesAborted = device.stats.framesAborted → first.clear = true) := by
  intro after shown id first later hdraws
  have hissued := issued_reachable hdevice
  obtain ⟨hgrows, hsound⟩ := Chain.build_grows hissued hbuild
  have hstart := Chain.build_cleared hissued hbuild
  have hnone : c₀.device.drawsInto shown id = [] := by
    rw [drawsInto, hgrows.frames, List.drop_length]
    rfl
  obtain ⟨_, hcleared⟩ := Session.run_keeps (s := Session.start c₀)
    (P := fun c => c.Sound ∧ c.Cleared shown device.stats.framesAborted)
    (fun _ _ h hmoves => ⟨hmoves.sound h.1, h.2.moves h.1 hmoves⟩) ⟨hsound, hstart⟩ calls
  have hhead : (after.drawsInto shown id).head? = some first := by rw [hdraws]; rfl
  refine ⟨?_, ?_, fun hkept => hcleared.first hkept id first hhead⟩
  · intro draw hdraw
    refine hcleared.later id draw ?_
    have htail : (after.drawsInto shown id).tail = later := by rw [hdraws]; rfl
    exact htail ▸ hdraw
  · rw [← hgrows.framesAborted] at hstart
    exact Session.first_draw_shown hsound hstart hnone calls hhead

theorem first_frame_clears_new_target :
    ∃ c₀, Chain.build ({} : Recorder) .empty .twoStock {} = .ok c₀ ∧
      let calls := HostCall.firstFrame ++ [.render]
      let after := ((Session.start c₀).run calls).chain.device
      ∃ id first later, after.drawsInto 0 id = first :: later ∧
        (∀ draw ∈ later, draw.clear = false) ∧ Session.FirstShown c₀ calls 0 id first := by
  obtain ⟨c₀, hbuild, hpending, _, _, hyes⟩ := Session.first_frame_shown
  have hissued := issued_reachable (.fresh 8192)
  obtain ⟨hgrows, hsound⟩ := Chain.build_grows hissued hbuild
  have hs := Session.run_sound (s := Session.start c₀) hsound HostCall.firstFrame
  generalize hc : ((Session.start c₀).run HostCall.firstFrame).chain = c at hpending hyes hs
  have hcontinues := (Session.start c₀).run_continues HostCall.firstFrame
  rw [hc] at hcontinues
  have hcount : c.passes.length = 2 :=
    hcontinues.length_passes.trans (Chain.build_builtFrom hbuild).count
  have hlength := (Chain.drawing_of_shown hs hpending hyes).1
  obtain ⟨draw, hdraw⟩ : ∃ draw, c.drawing.device.pending[0]? = some draw :=
    ⟨_, List.getElem?_eq_getElem (by omega)⟩
  obtain ⟨t, _, hdest, _⟩ := Chain.drawing_fills hs (by omega) hdraw
  have hframes : c.render.2.device.frames = c.device.frames ++ [c.drawing.device.pending] := by
    rw [Chain.frames_render, if_pos ⟨hpending, hyes⟩]
  have hafter : ((Session.start c₀).run (HostCall.firstFrame ++ [.render])).chain = c.render.2 := by
    rw [Session.run_append, ← hc]
    rfl
  have hne : c.render.2.device.drawsInto 0 t.texture ≠ [] := by
    rw [drawsInto_concat (Nat.zero_le _) hframes]
    exact List.append_ne_nil_of_right_ne_nil _ (List.ne_nil_of_mem
      (RecordedDraw.mem_into.mpr ⟨List.mem_of_getElem? hdraw, hdest⟩))
  obtain ⟨first, later, hdraws⟩ := List.exists_cons_of_ne_nil hne
  rw [← hafter] at hdraws
  obtain ⟨hlater, hfirst, _⟩ := shown_draws_clear_new_targets (.fresh 8192) hbuild
    (HostCall.firstFrame ++ [.render]) t.texture first later hdraws
  exact ⟨c₀, hbuild, t.texture, first, later, hdraws, hlater, hfirst⟩

/-- Three passes of the stock program, the second of which makes its picture twice as large as the
viewport. -/
def Preset.widening : Preset :=
  { passes := [{ shader := .builtin stockName },
      { shader := .builtin stockName, scale := some (.viewport (.ofNat 2)) },
      { shader := .builtin stockName }] }

theorem Preset.widening_isStock : widening.IsStock {} := by
  refine ⟨rfl, by decide, rfl, ?_⟩
  intro p hp
  simp only [widening, List.mem_cons, List.not_mem_nil, or_false] at hp
  rcases hp with rfl | rfl | rfl <;> exact ⟨rfl, fun last => by cases last <;> rfl⟩

/-- The first draw of the first frame that is shown is the first one into its texture. -/
theorem Chain.head_drawsInto {c : Chain Recorder} (hframes : c.device.frames = [])
    (hpending : c.pending = true) (hyes : c.render.1 = true) {draw : RecordedDraw} {id : TextureId}
    (hdraw : c.drawing.device.pending[0]? = some draw) (hdest : draw.destination = .texture id) :
    (c.render.2.device.drawsInto 0 id).head? = some draw := by
  obtain ⟨rest, hrest⟩ := List.head?_eq_some_iff.mp (List.head?_eq_getElem?.trans hdraw)
  rw [drawsInto, frames_render, if_pos ⟨hpending, hyes⟩, hframes, hrest]
  simp [hdest]

/-- For a wide viewport the pixel stops at the second pass. -/
theorem Session.PixelWaits.stops_wide {s : Session Recorder}
    (hbuild : Chain.build ({} : Recorder) .empty .widening {} = .ok c₀) (h : s.PixelWaits c₀)
    (hviewport : s.chain.viewport = { width := 5000, height := 1 }) :
    ∃ e, s.chain.render.2.report = some ⟨1, .aborted 1 e⟩ := by
  have hcount : Preset.widening.passes.length = 3 := rfl
  have hfirst : TargetFits Preset.widening.targetRules false 8192 ⟨1, 1⟩ ⟨5000, 1⟩ 0 :=
    ⟨⟨1, 1⟩, rfl, by decide, by decide⟩
  have hsecond : ¬ TargetFits Preset.widening.targetRules false 8192 ⟨1, 1⟩ ⟨5000, 1⟩ 1 := by
    rintro ⟨size, hsize, hwidth, _⟩
    have hwide : size = ⟨10000, 2⟩ := (Except.ok.inj hsize).symm
    subst hwide
    exact absurd hwidth (by decide)
  have hrender := h.shows_or_stops hbuild
  simp only [hviewport] at hrender
  rcases hrender with ⟨_, _, hall⟩ | ⟨k, e, _, hreport, hempty | ⟨hk, hmisfit, _⟩⟩
  · exact absurd (hall 1 (by omega)) hsecond
  · exact absurd hempty (by decide)
  · have hzero : k ≠ 0 := by
      rintro rfl
      exact hmisfit hfirst
    obtain rfl : k = 1 := by omega
    exact ⟨e, hreport⟩

/-- The first draw that is shown in a target need not clear it: a frame that was dropped may have
made the target. Here the pixel is dropped for a wide viewport and shown in a small one. -/
theorem dropped_draws_leave_targets_uncleared :
    ∃ c₀, Chain.build ({} : Recorder) .empty .widening {} = .ok c₀ ∧
      let calls := [.setViewport { width := 5000, height := 1 }, .submit .pixel, .render,
        .setViewport { width := 1, height := 1 }, .render]
      let after := ((Session.start c₀).run calls).chain.device
      ∃ id first, (after.drawsInto 0 id).head? = some first ∧ first.clear = false := by
  obtain ⟨c₀, hbuild, hwaits, hviewport, hframes⟩ :=
    Session.pixel_waits Preset.widening_isStock { width := 5000, height := 1 }
  have hfrom := Chain.build_builtFrom hbuild
  have hsound := (Chain.build_grows (issued_reachable (.fresh 8192)) hbuild).2
  refine ⟨c₀, hbuild, ?_⟩
  have hcontinues : c₀.Continues _ := (Session.start c₀).run_continues
    [.setViewport { width := 5000, height := 1 }, .submit .pixel]
  have hcurrent := Session.run_waiting (Session.start_waiting (Chain.build_idle hbuild).1)
    [.setViewport { width := 5000, height := 1 }, .submit .pixel] hwaits.pending
  show ∃ id first, (((((Session.start c₀).run [.setViewport _, .submit _]).step .render).step
    (.setViewport _)).chain.render.2.device.drawsInto 0 id).head? = some first ∧ first.clear = false
  generalize (Session.start c₀).run [.setViewport _, .submit _] = s at *
  obtain ⟨e, hreport⟩ := hwaits.stops_wide hbuild hviewport
  obtain ⟨hagain, hdrawn, hpool, hsame⟩ := hwaits.again hbuild hreport
  have hwaits' := hagain.step_of_same (.setViewport { width := 1, height := 1 }) rfl rfl rfl
  obtain ⟨s', hs'⟩ : ∃ s', s' = (s.step .render).step (.setViewport { width := 1, height := 1 }) :=
    ⟨_, rfl⟩
  have hretried : s.chain.Continues s'.chain := by
    rw [hs']
    exact s.run_continues [.render, .setViewport { width := 1, height := 1 }]
  have hviewport' : s'.chain.viewport = { width := 1, height := 1 } := by rw [hs']; rfl
  have hpool' : s'.chain.pool = s.chain.drawing.pool := by rw [hs']; exact hpool
  have hframes' : s'.chain.device.frames = [] := by rw [hs']; exact hsame.trans hframes
  rw [← hs'] at hwaits' ⊢
  obtain ⟨calls, hcalls⟩ := hwaits'.reached
  have hsound' := Session.run_sound (s := Session.start c₀) hsound calls
  rw [← hcalls] at hsound'
  have hyes := hwaits'.shown hbuild hviewport' (by decide) fun i hi => by
    have hpasses : Preset.widening.passes.length = 3 := rfl
    obtain rfl | rfl : i = 0 ∨ i = 1 := by omega
    · exact ⟨⟨1, 1⟩, rfl, by decide, by decide⟩
    · exact ⟨⟨2, 2⟩, rfl, by decide, by decide⟩
  have hcount : s.chain.passes.length = 3 := hcontinues.length_passes.trans hfrom.count
  obtain ⟨draw, hdraw⟩ : ∃ draw, s'.chain.drawing.device.pending[0]? = some draw := by
    refine ⟨_, List.getElem?_eq_getElem ?_⟩
    rw [(Chain.drawing_of_shown hsound' hwaits'.pending hyes).1, hretried.length_passes, hcount]
    decide
  have hsize : ScaleRules.resolveAll ((s.chain.passes.map (·.scale)).take 1)
      s.chain.pool.history.current.size s'.chain.viewport.size =
        ScaleRules.resolveAll ((s.chain.passes.map (·.scale)).take 1)
          s.chain.pool.history.current.size s.chain.viewport.size := by
    rw [hcontinues.scales, hfrom.take_scales (by decide), hcurrent, hwaits.lastAccepted, hviewport,
      hviewport']
    rfl
  obtain ⟨id, hdest, hclear⟩ :=
    Chain.retried_draw_kept hsound' hretried hpool' (by omega) (by omega) hsize hdraw
  exact ⟨id, draw, Chain.head_drawsInto hframes' hwaits'.pending hyes hdraw hdest, hclear⟩

end PassChain
