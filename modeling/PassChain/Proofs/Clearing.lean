import PassChain.Proofs.FramePictures

/-! Which draws clear the targets that they go to. -/
namespace PassChain

open Attempt Recorder

/-- A target is either the one that the pass had, or new to the device and not of the size and
format of the one that it had. -/
theorem TexturePool.ensureTarget_status (pool : TexturePool) (pass : Nat) (logical : Size)
    (format : TexelFormat) (r : Recorder) :
    (pool.ensureTarget pass logical format).Ends r
      (fun res _ => res.2.1.isFresh = false ∧ pool.target? pass = some res.1 ∨
        res.2.1.isFresh = true ∧ r.nextId ≤ res.1.texture.index ∧
          ∀ old, pool.target? pass = some old → ¬ (old.logical = logical ∧ old.format = format))
      (fun _ _ => True) := by
  refine ensureTarget_cases (fun _ => trivial) (fun _ _ hold _ => .inl ⟨rfl, hold⟩)
    (fun _ _ => trivial) (fun _ _ _ _ => trivial) ?_ ?_
  · intro texel _ hempty _ _
    refine (createTexture_ends r _).mono ?_ (fun _ _ _ => trivial)
    rintro id r' ⟨rfl, _⟩
    exact .inr ⟨rfl, Nat.le_refl _, by simp [hempty]⟩
  · intro texel old _ hold hunfit _ _
    refine (createTexture_ends r _).mono ?_ (fun _ _ _ => trivial)
    rintro id r' ⟨rfl, _⟩
    refine .inr ⟨rfl, Nat.le_refl _, fun old' hold' => ?_⟩
    rw [hold, Option.some.injEq] at hold'
    exact hold' ▸ hunfit

/-- How the draw of pass `i` treats its target, on the recorder and with the pool that the frame
started from: it keeps what the target of the pass holds, or clears a texture that is new since the
old target does not fit. -/
def RecordedDraw.Treats (draw : RecordedDraw) (r : Recorder) (pool : TexturePool) (i : Nat)
    (format : TexelFormat) : Prop :=
  ∀ id, draw.destination = .texture id →
    draw.clear = false ∧ (∃ old, pool.target? i = some old ∧ old.texture = id) ∨
    draw.clear = true ∧ r.nextId ≤ id.index ∧
      ∀ old, pool.target? i = some old → ¬ (old.logical = draw.size ∧ old.format = format)

theorem RecordedDraw.Treats.earlier {draw : RecordedDraw} {r r' : Recorder}
    {pool pool' : TexturePool} {i : Nat} {format : TexelFormat} (h : draw.Treats r' pool' i format)
    (hid : r.nextId ≤ r'.nextId) (htarget : pool'.target? i = pool.target? i) :
    draw.Treats r pool i format := by
  intro id hdest
  rcases h id hdest with ⟨hclear, old, hold, rfl⟩ | ⟨hclear, hnew, hunfit⟩
  · exact .inl ⟨hclear, old, htarget ▸ hold, rfl⟩
  · exact .inr ⟨hclear, Nat.le_trans hid hnew, htarget ▸ hunfit⟩

/-- No call of a pass takes ids back. -/
theorem Recorder.nextId_kept (n : Nat) :
    KeptByPasses (fun _ => True) (fun _ => True) fun r : Recorder => n ≤ r.nextId where
  create desc r hr := (createTexture_ends r desc).mono
    (fun _ _ h => h.2.1 ▸ Nat.le_succ_of_le hr) (fun _ _ h => h.1 ▸ hr)
  release id r hr := by
    simp only [GpuDevice.releaseTexture, releaseTexture]
    split <;> exact hr
  upload id bytes r _ hr := by
    refine (writeBuffer_ends r id bytes).mono ?_ (fun _ _ h => h.1 ▸ hr)
    rintro _ _ ⟨_, _, _, rfl⟩
    exact hr
  draw call r _ hr := by
    refine (draw_ends r call).mono ?_ (fun _ _ h => h.1 ▸ hr)
    rintro _ _ ⟨_, _, _, _, _, _, rfl⟩
    exact hr

namespace PassState

variable {inputs : FrameInputs} {textures : FrameTextures} {index : Nat} {final : Bool}
  {source : TextureState} {outputs : List TextureState} {s : PassState Recorder}

theorem canvas_treats :
    (canvas inputs index final source).Ends s
      (fun r _ => ∀ draw : RecordedDraw, draw.destination = r.2.2.destination →
        draw.viewport = r.2.2.rect → draw.clear = r.2.2.clear →
        draw.Treats s.device s.pool index s.pass.format) (fun _ _ => True) := by
  unfold canvas
  cases final with
  | true =>
    intro draw hdest _ _ id hid
    simp [hdest] at hid
  | false =>
    simp only [Bool.false_eq_true, if_false, ends_bind, ends_get, ends_ofExcept, onDevice, ends_on,
      implies_true, and_true]
    intro size _
    refine (TexturePool.ensureTarget_status s.pool index size s.pass.format s.device).mono_ok ?_
    intro res _ hres draw hdest hrect hclear id hid
    have hsize : draw.size = size := by rw [RecordedDraw.size, hrect]
    have htexture : res.1.texture = id := by simpa [hdest] using hid
    rw [hclear, hsize, ← htexture]
    rcases hres with ⟨hkept, ht⟩ | hnew
    · exact .inl ⟨hkept, res.1, ht, rfl⟩
    · exact .inr hnew

theorem draw_treats :
    (draw inputs textures index final source outputs).Ends s
      (fun _ t => ∃ drawn, t.device.pending = s.device.pending ++ [drawn] ∧
        drawn.Treats s.device s.pool index s.pass.format)
      (fun _ _ => True) := by
  have hpending := Recorder.pending_kept s.device.pending (fun _ => True)
  unfold draw
  simp only [ends_bind, ends_get, ends_set, onDevice, ends_on, ends_pure]
  refine (canvas_treats.and (canvas_keeps hpending rfl)).mono ?_ (fun _ _ _ => trivial)
  rintro r t ⟨hr, ht⟩
  refine (uploadQuad_keeps hpending.upload trivial ht).mono ?_ (fun _ _ _ => trivial)
  intro _ u hu
  refine (hpending.upload _ _ _ trivial hu).mono ?_ (fun _ _ _ => trivial)
  intro _ d hd
  refine (Recorder.draw_ends _ _).mono ?_ (fun _ _ _ => trivial)
  rintro _ _ ⟨_, _, _, _, _, _, rfl⟩
  exact ⟨_, by rw [Recorder.withDraw, hd], hr _ rfl rfl rfl⟩

end PassState

section

variable {inputs : FrameInputs} {textures : FrameTextures} {passes : List CompiledPass}
  {pool : TexturePool} {device : Recorder}

theorem drawPasses_treats (index : Nat) (source : TextureState) (outputs : List TextureState)
    (phase : Phase) :
    let d := drawPasses inputs textures index source outputs phase passes pool device
    ∃ draws, d.device.pending = device.pending ++ draws ∧ ∀ i pass (draw : RecordedDraw),
      passes[i]? = some pass → draws[i]? = some draw →
        draw.Treats device pool (index + i) pass.format := by
  induction passes generalizing index source outputs phase pool device with
  | nil => exact ⟨[], by simp [drawPasses]⟩
  | cons pass rest ih =>
    have htreats : (PassState.draw inputs textures index rest.isEmpty source outputs).Ends
        ⟨device, pool, pass⟩ _ _ := PassState.draw_treats
    have hmoves : (PassState.draw inputs textures index rest.isEmpty source outputs).Ends
        ⟨device, pool, pass⟩ _ _ := PassState.draw_ends
    have hrecords : (PassState.draw inputs textures index rest.isEmpty source outputs).Ends
        ⟨device, pool, pass⟩ _ _ := PassState.draw_records
    have hids : (PassState.draw inputs textures index rest.isEmpty source outputs).Ends
        ⟨device, pool, pass⟩ _ _ := PassState.draw_keeps (nextId_kept device.nextId)
          ⟨trivial, trivial⟩ (fun _ => trivial) (Nat.le_refl device.nextId)
    unfold drawPasses
    simp only
    split
    · rename_i e t ht
      exact ⟨[], by simpa using (hrecords.of_error ht).2, by simp⟩
    · rename_i produced t ht
      obtain ⟨drawn, hpending, hdrawn⟩ := htreats.of_ok ht
      obtain ⟨_, size, mvp, canvas, _, hplaced⟩ := hmoves.of_ok ht
      -- the targets of the passes to come are still those that the frame started from
      have hlater (j : Nat) (hj : index < j) : t.pool.target? j = pool.target? j := by
        cases hfinal : rest.isEmpty with
        | true => rw [(hplaced.last hfinal).1]
        | false =>
          obtain ⟨hlt, _, t', _, hp, _⟩ := hplaced.inner hfinal
          rw [hp, TexturePool.target?_withTarget hlt, if_neg (by omega)]
      obtain ⟨draws, hdraws, htreated⟩ := ih (index + 1) (produced.getD source)
        (outputs ++ produced.toList)
        (if rest.isEmpty then .renderingFinalPass else .renderingPass index)
      refine ⟨drawn :: draws, ?_, forall_getElem?_cons hdrawn ?_⟩
      · rw [hdraws, hpending, List.append_assoc]
        rfl
      · intro i p draw hp hdraw
        have h := htreated i p draw hp hdraw
        rw [Nat.add_assoc, Nat.add_comm 1 i] at h
        exact h.earlier (hids.of_ok ht) (hlater _ (by omega))

end

namespace Chain

variable {c : Chain Recorder}

/-- Each draw of the waiting frame treats its target by what there was when its drawing began. -/
theorem drawing_treats {i : Nat} {pass : CompiledPass} {draw : RecordedDraw}
    (hpass : c.passes[i]? = some pass) (hdraw : c.drawing.device.pending[i]? = some draw) :
    draw.Treats c.device c.pool i pass.format := by
  have hframe : ∃ draws, c.drawing.device.pending = c.device.opened.pending ++ draws ∧
      ∀ i pass (draw : RecordedDraw), c.passes[i]? = some pass → draws[i]? = some draw →
        draw.Treats c.device.opened c.pool i pass.format := by
    unfold drawing Sequencer.drawFrame
    split
    · exact ⟨[], by simp⟩
    · have h := @drawPasses_treats c.refreshTracked.inputs c.pool.history.frameTextures c.passes
        c.pool
        c.device.opened 0 c.pool.history.frameTextures.orig [] c.sequencer.phase
      simp only [Nat.zero_add] at h
      exact h
  obtain ⟨draws, hpending, htreats⟩ := hframe
  have hall : c.drawing.device.pending = draws := hpending
  exact htreats i pass draw hpass (hall ▸ hdraw)

theorem drawing_nextId : c.device.nextId ≤ c.drawing.device.nextId :=
  Sequencer.drawFrame_keeps (nextId_kept c.device.nextId) (fun _ _ => ⟨trivial, trivial⟩)
    (fun _ => trivial) (Nat.le_refl _)

/-- A draw of the waiting frame that goes to a texture goes to the target of its pass. -/
theorem drawing_target (h : c.Sound) {i : Nat} {draw : RecordedDraw} {id : TextureId}
    (hdraw : c.drawing.device.pending[i]? = some draw) (hid : draw.destination = .texture id) :
    ∃ pass t, c.passes[i]? = some pass ∧ c.drawing.pool.target? i = some t ∧ t.texture = id := by
  have hi : i < c.passes.length := by
    have hlt := (List.getElem?_eq_some_iff.mp hdraw).1
    rw [c.drawing_draws.1] at hlt
    exact Nat.lt_of_lt_of_le hlt (drawn_le_length h)
  have hpass := List.getElem?_eq_getElem hi
  obtain ⟨size, canvas, hdrawn⟩ := c.drawing_draws.2 i _ draw hpass hdraw
  obtain ⟨_, _, _, rfl⟩ := hdrawn.draw
  by_cases hlast : i + 1 = c.passes.length
  · obtain ⟨_, rfl⟩ := hdrawn.last hlast
    cases hid
  · obtain ⟨_, t, _, ht, _, _, rfl⟩ := hdrawn.inner (by omega)
    cases hid
    exact ⟨_, t, hpass, ht, rfl⟩

/-- A draw clears its texture just when the texture was not there before the frame. -/
theorem clears_iff (h : c.Sound) {draw : RecordedDraw} {id : TextureId}
    (hdraw : draw ∈ c.drawing.device.pending) (hdest : draw.destination = .texture id) :
    draw.clear = true ↔ c.device.texture? id = none := by
  obtain ⟨i, hi⟩ := List.mem_iff_getElem?.mp hdraw
  obtain ⟨pass, _, hpass, _⟩ := drawing_target h hi hdest
  rcases drawing_treats hpass hi id hdest with ⟨hclear, old, hold, rfl⟩ | ⟨hclear, hnew, _⟩
  · simp [hclear, (h.pool.targets i old hold).1]
  · refine iff_of_true hclear ?_
    cases hid : c.device.texture? id with
    | none => rfl
    | some desc =>
      have hlt := h.pool.issued.texture_index_lt hid
      omega

/-- All draws but the last fill the target of their pass. -/
theorem drawing_fills (h : c.Sound) {i : Nat} {draw : RecordedDraw}
    (hlast : i + 1 < c.passes.length)
    (hdraw : c.drawing.device.pending[i]? = some draw) :
    ∃ t, c.drawing.pool.target? i = some t ∧ draw.destination = .texture t.texture ∧
      t.logical = draw.size := by
  have hpass := List.getElem?_eq_getElem (Nat.lt_of_succ_lt hlast)
  obtain ⟨size, canvas, hdrawn⟩ := c.drawing_draws.2 i _ draw hpass hdraw
  obtain ⟨t, ht⟩ := fillsTarget_of_drawn h hlast hdrawn
  refine ⟨t, ht.target, ht.destination, ?_⟩
  rw [ht.logical, hdrawn.size_eq (Nat.lt_of_succ_lt hlast)]

/-- The target of a pass that has been drawn is of the size that the rules lead to. -/
theorem drawn_target {i : Nat} (hi : i < c.drawing.drawn) (hlast : i + 1 < c.passes.length) :
    ∃ pass t, c.passes[i]? = some pass ∧ c.drawing.pool.target? i = some t ∧
      t.format = pass.format ∧ ScaleRules.resolveAll ((c.passes.map (·.scale)).take (i + 1))
        c.pool.history.current.size c.viewport.size = .ok t.logical := by
  obtain ⟨pass, draw, size, canvas, hpass, hdrawn⟩ := drawing_pass hi (Nat.lt_of_succ_lt hlast)
  obtain ⟨_, t, _, ht, _, hformat, _⟩ := hdrawn.inner hlast
  have hsource := c.drawing_source (j := i + 1) hi hlast
  rw [TexturePool.source_succ ht] at hsource
  exact ⟨pass, t, hpass, ht, hformat, hsource⟩

/-- A target that fits is drawn into without being cleared, whether or not what it holds has ever
been shown. -/
theorem fitting_target_kept (h : c.Sound) {i : Nat}
    {pass : CompiledPass} {old : RenderTarget} {draw : RecordedDraw}
    (hlast : i + 1 < c.passes.length)
    (hpass : c.passes[i]? = some pass) (hdraw : c.drawing.device.pending[i]? = some draw)
    (hold : c.pool.target? i = some old) (hformat : old.format = pass.format)
    (hsize : ScaleRules.resolveAll ((c.passes.map (·.scale)).take (i + 1))
      c.pool.history.current.size c.viewport.size = .ok old.logical) :
    draw.destination = .texture old.texture ∧ draw.clear = false := by
  obtain ⟨t, ht, hdest, hdrawn⟩ := drawing_fills h hlast hdraw
  have hi : i < c.drawing.drawn := by
    rw [← c.drawing_draws.1]
    exact (List.getElem?_eq_some_iff.mp hdraw).1
  obtain ⟨_, u, _, hu, _, hlogical⟩ := drawn_target hi hlast
  rw [ht, Option.some.injEq] at hu
  subst hu
  rw [hsize, Except.ok.injEq] at hlogical
  rcases drawing_treats hpass hdraw _ hdest with ⟨hkept, same, hsame, hid⟩ | ⟨_, _, hunfit⟩
  · rw [hold, Option.some.injEq] at hsame
    subst hsame
    exact ⟨hid ▸ hdest, hkept⟩
  · exact absurd ⟨hlogical.trans hdrawn, hformat⟩ (hunfit old hold)

/-- A frame that is tried again finds the targets that the dropped draws have gone to, and does not
clear those that still fit. -/
theorem retried_draw_kept {c' : Chain Recorder} (h : c'.Sound)
    (hcontinues : c.Continues c') (hpool : c'.pool = c.drawing.pool) {i : Nat}
    (hi : i < c.drawing.drawn) (hlast : i + 1 < c.passes.length)
    (hsize : ScaleRules.resolveAll ((c.passes.map (·.scale)).take (i + 1))
        c.pool.history.current.size c'.viewport.size =
      ScaleRules.resolveAll ((c.passes.map (·.scale)).take (i + 1))
        c.pool.history.current.size c.viewport.size)
    {draw : RecordedDraw} (hdraw : c'.drawing.device.pending[i]? = some draw) :
    ∃ id, draw.destination = .texture id ∧ draw.clear = false := by
  obtain ⟨pass, old, hpass, hold, hformat, hlogical⟩ := drawn_target hi hlast
  have hlength := hcontinues.length_passes
  obtain ⟨pass', hpass'⟩ : ∃ p, c'.passes[i]? = some p := ⟨_, List.getElem?_eq_getElem (by omega)⟩
  obtain ⟨same, hsame, hplan⟩ := hcontinues.plan hpass'
  rw [hpass, Option.some.injEq] at hsame
  subst hsame
  refine ⟨old.texture, fitting_target_kept h (by omega) hpass' hdraw (hpool ▸ hold) ?_ ?_⟩
  · rw [hformat, CompiledPass.format_of_plan hplan]
  · rw [hcontinues.scales, hpool, c.drawing_moves.1.history, hsize, hlogical]

end Chain

end PassChain
