import PassChain.Proofs.Recording
import PassChain.Proofs.Rendering

/-! What a recorder keeps of the passes of a frame. -/
namespace PassChain

open Attempt

/-- What a pass is handed when it fills `size` pixels. -/
def FrameInputs.params (inputs : FrameInputs) (textures : FrameTextures) (fallback : TextureId)
    (source : TextureState) (outputs : List TextureState) (final : Bool) (size : Size) :
    FrameParams where
  mvp := projection size (if final then inputs.rotation else 0)
  source := source
  outputSize := size
  frameCount := inputs.frameCount
  direction := inputs.direction
  orig := textures.orig
  history := textures.history
  outputs := outputs
  tracked := inputs.tracked
  fallback := fallback

/-- The draw that a pass makes on its canvas. -/
def CompiledPass.call (pass : CompiledPass) (index : Nat) (canvas : Canvas) (p : FrameParams) :
    DrawCall where
  pass := index
  program := pass.program
  destination := canvas.destination
  viewport := canvas.rect
  clear := canvas.clear
  vertices := pass.vertexBuffer
  uniforms := pass.uniformBuffer
  textures := pass.table.bindings p

theorem CompiledPass.call_of_plan {p q : CompiledPass} (h : p.plan = q.plan) (index : Nat)
    (canvas : Canvas) (params : FrameParams) :
    p.call index canvas params = q.call index canvas params :=
  show p.plan.call index canvas params = q.plan.call index canvas params by rw [h]

namespace Recorder

/-- Nothing but a draw adds to the open frame. -/
theorem pending_kept (draws : List RecordedDraw) (uploads : BufferId → Prop) :
    KeptByPasses uploads (fun _ => False) fun r : Recorder => r.pending = draws where
  create desc r hr := (createTexture_ends r desc).mono
    (fun _ _ h => by rw [h.2.1]; exact hr) (fun _ _ h => by rw [h.1]; exact hr)
  release id r hr := by
    simp only [GpuDevice.releaseTexture, releaseTexture]
    split <;> exact hr
  upload id bytes r _ hr := by
    refine (writeBuffer_ends r id bytes).mono ?_ (fun _ _ h => by rw [h.1]; exact hr)
    rintro _ _ ⟨_, _, _, h⟩
    rw [h]
    exact hr
  draw _ _ h _ := h.elim

end Recorder

namespace PassState

variable {inputs : FrameInputs} {textures : FrameTextures} {index : Nat} {final : Bool}
  {source : TextureState} {outputs : List TextureState} {s t : PassState Recorder}

/-- The pass of `s` has been drawn, which leaves `t`: its canvas, what it was handed, and the
draw with the buffers that the draw found. -/
structure Recorded (inputs : FrameInputs) (textures : FrameTextures) (index : Nat) (final : Bool)
    (source : TextureState) (outputs : List TextureState) (s t : PassState Recorder)
    (size : Size) (canvas : Canvas) (label : String) (ub vb : Buffer) : Prop where
  placed : Placed inputs index final source s.pass s.pool t.pool size
    (projection size (if final then inputs.rotation else 0)) canvas
  plan : t.pass.plan = s.pass.plan
  steady : s.device.Steady t.device
  program : s.device.programLabel? s.pass.program = some label
  uniforms : t.device.buffer? s.pass.uniformBuffer = some ub
  vertices : t.device.buffer? s.pass.vertexBuffer = some vb
  pending : t.device.pending = s.device.pending ++ [Recorder.record (s.pass.call index canvas
    (inputs.params textures s.pool.fallback source outputs final size)) label ub.data vb.data]

theorem draw_records :
    (draw inputs textures index final source outputs).Ends s
      (fun produced t => ∃ size canvas label ub vb, produced = canvas.produced ∧
        Recorded inputs textures index final source outputs s t size canvas label ub vb)
      (fun _ t => s.device.Steady t.device ∧ t.device.pending = s.device.pending) := by
  have hsteady := Recorder.steady_kept s.device (fun _ => True) (fun _ => False)
  have hpending := Recorder.pending_kept s.device.pending (fun _ => True)
  unfold draw
  simp only [ends_bind, ends_get, ends_set, onDevice, ends_on, ends_pure]
  refine (canvas_ends.and ((canvas_keeps hsteady (.refl _)).and (canvas_keeps hpending rfl))).mono
    ?_
    (fun _ _ he => he.2)
  rintro r t ⟨⟨hpass, hr⟩, hts, htp⟩
  refine (uploadQuad_ends.and ((uploadQuad_keeps hsteady.upload trivial hts).and
    (uploadQuad_keeps hpending.upload trivial htp))).mono ?_
    (fun _ _ he => he.2)
  rintro _ u ⟨⟨hpool, hplan⟩, hus, hup⟩
  rw [hpass] at hplan
  have hplan' (p : FrameParams) : (u.pass.withWritten p).plan = s.pass.plan := by
    rw [CompiledPass.plan_withWritten, hplan]
  refine (Recorder.writeBuffer_ends _ _ _).mono ?_
    (fun _ d hd => ⟨by rw [hd.1]; exact hus, by rw [hd.1]; exact hup⟩)
  rintro _ d ⟨b, hb, hle, hd⟩
  have hds : s.device.Steady d := by rw [hd]; exact hus.trans (Recorder.withBytes_steady hb hle)
  have hdp : d.pending = s.device.pending := by rw [hd]; exact hup
  refine (Recorder.draw_ends _ _).mono ?_
    (fun _ e he => ⟨by rw [he.1]; exact hds, by rw [he.1]; exact hdp⟩)
  rintro _ e ⟨label, ub, vb, hlabel, hub, hvb, he⟩
  have hcall := CompiledPass.call_of_plan hplan
  have hprogram : u.pass.program = s.pass.program := CompiledPass.program_of_plan hplan
  have huniform : u.pass.uniformBuffer = s.pass.uniformBuffer :=
    CompiledPass.uniformBuffer_of_plan hplan
  have hvertex : u.pass.vertexBuffer = s.pass.vertexBuffer :=
    CompiledPass.vertexBuffer_of_plan hplan
  have hfallback : u.pool.fallback = s.pool.fallback := by rw [hpool]; exact hr.retargeted.fallback
  refine ⟨r.1, r.2.2, label, ub, vb, rfl, ?_, hplan' _, ?_, ?_, ?_, ?_, ?_⟩
  · rw [← hr.mvp, hpool]
    exact hr
  · rw [he]
    exact hds.trans (Recorder.withDraw_steady d _)
  · rw [← hds.programLabel?]
    exact hprogram ▸ hlabel
  · rw [he]
    exact huniform ▸ hub
  · rw [he]
    exact hvertex ▸ hvb
  · rw [he, ← hcall, ← hfallback]
    simp [Recorder.withDraw, hdp, CompiledPass.call, FrameInputs.params, hr.mvp]

end PassState

/-- How pass `i` of `count` was drawn in a frame that left `pool`. -/
structure DrawnPass (inputs : FrameInputs) (textures : FrameTextures) (pool : TexturePool)
    (count i : Nat) (pass : CompiledPass) (draw : RecordedDraw) (size : Size) (canvas : Canvas) :
    Prop where
  draw : ∃ label uniforms vertices, draw = Recorder.record (pass.call i canvas
    (inputs.params textures pool.fallback (pool.source textures.orig i) (pool.outputs i)
      (i + 1 == count) size)) label uniforms vertices
  last : i + 1 = count → size = inputs.viewport.size ∧
    canvas = ⟨.backbuffer, inputs.viewport.rect, false, none⟩
  inner : i + 1 < count →
    pass.scale.resolve (pool.source textures.orig i).content inputs.viewport.size = .ok size ∧
    ∃ t clear, pool.target? i = some t ∧ t.logical = size ∧ t.format = pass.format ∧
      canvas = ⟨.texture t.texture, ⟨0, 0, size.width, size.height⟩, clear, some t.state⟩

section

variable {inputs : FrameInputs} {textures : FrameTextures} {passes : List CompiledPass}
  {pool : TexturePool} {device : Recorder}

theorem PassState.Recorded.drawn {count index : Nat} {final : Bool} {source : TextureState}
    {outputs : List TextureState} {s t : PassState Recorder} {size : Size} {canvas : Canvas}
    {label : String} {ub vb : Buffer}
    (h : Recorded inputs textures index final source outputs s t size canvas label ub vb)
    (hsource : source = s.pool.source textures.orig index)
    (houtputs : outputs = s.pool.outputs index) (hfinal : final = (index + 1 == count))
    (hpool : t.pool.Retargeted pool (index + 1)) :
    DrawnPass inputs textures pool count index s.pass (Recorder.record (s.pass.call index canvas
      (inputs.params textures s.pool.fallback source outputs final size)) label ub.data vb.data)
      size canvas := by
  subst hsource houtputs
  have hst := h.placed.retargeted.trans hpool (Nat.le_succ index)
  refine ⟨⟨label, ub.data, vb.data, ?_⟩, ?_, ?_⟩
  · rw [hst.source (Nat.le_refl _), hst.outputs (Nat.le_refl _), hst.fallback, hfinal]
  · intro hlast
    exact (h.placed.last (by simp [hfinal, hlast])).2
  · intro hinner
    obtain ⟨hlt, hsize, t', clear, hp, hlogical, hformat, hcanvas⟩ :=
      h.placed.inner (by simp [hfinal]; omega)
    refine ⟨by rw [hst.source (Nat.le_refl _)]; exact hsize, t', clear, ?_, hlogical, hformat,
      hcanvas⟩
    rw [hpool.earlier index (Nat.lt_succ_self _), hp, TexturePool.target?_withTarget hlt]
    simp

/-- A recorder keeps one draw for each pass that has been drawn, in order. -/
theorem drawPasses_draws (index : Nat) (phase : Phase) :
    let d := drawPasses inputs textures index (pool.source textures.orig index)
      (pool.outputs index) phase passes pool device
    ∃ draws, d.device.pending = device.pending ++ draws ∧ index + draws.length = d.drawn ∧
      ∀ i pass draw, passes[i]? = some pass → draws[i]? = some draw → ∃ size canvas,
        DrawnPass inputs textures d.pool (index + passes.length) (index + i) pass draw size
          canvas := by
  induction passes generalizing index phase pool device with
  | nil => exact ⟨[], by simp [drawPasses]⟩
  | cons pass rest ih =>
    have hrec : (PassState.draw inputs textures index rest.isEmpty
        (pool.source textures.orig index) (pool.outputs index)).Ends ⟨device, pool, pass⟩ _ _ :=
      PassState.draw_records
    unfold drawPasses
    simp only
    split
    · rename_i e t ht
      exact ⟨[], by simpa using (hrec.of_error ht).2, rfl, by simp⟩
    · rename_i produced t ht
      obtain ⟨size, canvas, label, ub, vb, hproduced, hr⟩ := hrec.of_ok ht
      cases rest with
      | nil =>
        refine ⟨_, hr.pending, rfl, forall_getElem?_cons ?_ (by simp)⟩
        exact ⟨size, canvas, hr.drawn rfl rfl (by simp) (.refl _ _)⟩
      | cons next rest =>
        rw [hproduced, hr.placed.source_next textures.orig, hr.placed.outputs_next]
        obtain ⟨draws, hpending, hlen, hdraws⟩ := ih (index + 1) _
        refine ⟨_ :: draws, by rw [hpending, hr.pending, List.append_assoc]; rfl, ?_,
          forall_getElem?_cons ?_ ?_⟩
        · rw [← hlen, List.length_cons, Nat.add_assoc, Nat.add_comm 1]
        · have hinner : index + 1 ≠ index + (pass :: next :: rest).length := by simp
          exact ⟨size, canvas, hr.drawn rfl rfl (beq_eq_false_iff_ne.mpr hinner).symm
            (drawPasses_moves _ _ _ _).1⟩
        · intro i p draw hp hdraw
          obtain ⟨size, canvas, h⟩ := hdraws i p draw hp hdraw
          exact ⟨size, canvas, by simpa [Nat.add_assoc, Nat.add_comm 1] using h⟩

namespace Sequencer

variable {s : Sequencer}

theorem drawFrame_steady : device.Steady (s.drawFrame inputs passes pool device).device :=
  drawFrame_keeps (Recorder.steady_kept device (fun _ => True) (fun _ => True))
    (fun _ _ => ⟨trivial, trivial⟩) (fun _ => trivial) (.refl _)

/-- So it is with a whole frame. -/
theorem drawFrame_draws :
    let d := s.drawFrame inputs passes pool device
    ∃ draws, d.device.pending = device.pending ++ draws ∧ draws.length = d.drawn ∧
      ∀ i pass draw, passes[i]? = some pass → draws[i]? = some draw → ∃ size canvas,
        DrawnPass inputs pool.history.frameTextures d.pool passes.length i pass draw size
          canvas := by
  unfold drawFrame
  split
  · exact ⟨[], by simp⟩
  · have hdraws := @drawPasses_draws inputs pool.history.frameTextures passes pool device 0 s.phase
    simp only [Nat.zero_add] at hdraws
    exact hdraws

end Sequencer

end

end PassChain
