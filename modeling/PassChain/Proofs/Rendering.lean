import PassChain.Proofs.Drawing
import PassChain.Proofs.Session

/-! How a call to render can go, over any device. -/
namespace PassChain

open Attempt

variable {δ : Type} [GpuDevice δ]

namespace Sequencer

/-- The ways in which a frame can go: the device refuses to open it, a pass fails, the device
refuses to show it, or it is shown. -/
inductive Ran (s : Sequencer) (inputs : FrameInputs) (stock : ProgramId)
    (passes : List CompiledPass) (pool : TexturePool) (device : δ) :
    FrameReport × Sequencer × DrawnPasses δ → Prop where
  | refused (e : Error) (opened : δ)
      (hbegin : GpuDevice.beginFrame device = .error e opened) :
      Ran s inputs stock passes pool device (⟨0, .aborted 0 e⟩, {},
        ⟨GpuDevice.bindResting stock (GpuDevice.abortFrame opened), pool, passes, 0, .idle, none⟩)
  | failed (e : Error) (opened : δ) (d : DrawnPasses δ)
      (hbegin : GpuDevice.beginFrame device = .ok () opened)
      (hdrawn : s.drawFrame inputs passes pool opened = d) (hfail : d.failure = some e) :
      Ran s inputs stock passes pool device (⟨d.drawn, .aborted d.drawn e⟩, {},
        { d with
          device := GpuDevice.bindResting stock (GpuDevice.abortFrame d.device)
          phase := .idle })
  | unshown (e : Error) (opened ended : δ) (d : DrawnPasses δ)
      (hbegin : GpuDevice.beginFrame device = .ok () opened)
      (hdrawn : s.drawFrame inputs passes pool opened = d) (hfail : d.failure = none)
      (hend : GpuDevice.endFrame d.device = .error e ended) :
      Ran s inputs stock passes pool device (⟨d.drawn, .aborted (passes.length - 1) e⟩, {},
        { d with
          device := GpuDevice.bindResting stock (GpuDevice.abortFrame ended)
          phase := .idle })
  | shown (opened ended : δ) (d : DrawnPasses δ)
      (hbegin : GpuDevice.beginFrame device = .ok () opened)
      (hdrawn : s.drawFrame inputs passes pool opened = d) (hfail : d.failure = none)
      (hend : GpuDevice.endFrame d.device = .ok () ended) :
      Ran s inputs stock passes pool device (⟨d.drawn, .presented⟩, {},
        { d with
          device := GpuDevice.bindResting stock ended
          pool := d.pool.advance
          phase := .idle })

theorem run_ran (s : Sequencer) (inputs : FrameInputs) (stock : ProgramId)
    (passes : List CompiledPass) (pool : TexturePool) (device : δ) :
    Ran s inputs stock passes pool device (s.run inputs stock passes pool device) := by
  unfold run
  split
  · rename_i e opened hbegin
    exact .refused e opened hbegin
  · rename_i opened hbegin
    simp only
    split
    · rename_i e hfail
      exact .failed e opened _ hbegin rfl hfail
    · rename_i hfail
      split
      · rename_i e ended hend
        exact .unshown e opened ended _ hbegin rfl hfail hend
      · rename_i ended hend
        exact .shown opened ended _ hbegin rfl hfail hend

section

variable {s : Sequencer} {inputs : FrameInputs} {passes : List CompiledPass} {pool : TexturePool}
  {device : δ}

theorem drawFrame_moves :
    let d := s.drawFrame inputs passes pool device
    pool.Retargeted d.pool 0 ∧ d.passes.map (·.plan) = passes.map (·.plan) := by
  unfold drawFrame
  split
  · exact ⟨.refl _ _, rfl⟩
  · exact drawPasses_moves 0 _ _ _

theorem drawFrame_keeps {uploads : BufferId → Prop} {draws : DrawCall → Prop} {I : δ → Prop}
    (hI : KeptByPasses uploads draws I)
    (hup : ∀ p ∈ passes, uploads p.vertexBuffer ∧ uploads p.uniformBuffer)
    (hdraw : ∀ call, draws call)
    (hd : I device) : I (s.drawFrame inputs passes pool device).device := by
  unfold drawFrame
  split
  · exact hd
  · exact drawPasses_keeps hI hup hdraw hd 0 _ _ _

theorem drawFrame_drawn (hpasses : passes ≠ []) :
    let d := s.drawFrame inputs passes pool device
    (d.failure = none → d.drawn = passes.length) ∧
      (d.failure.isSome → d.drawn < passes.length) := by
  have hpos := List.length_pos_iff.mpr hpasses
  unfold drawFrame
  split
  · simp [hpos]
  · obtain ⟨hall, hsome⟩ := @drawPasses_drawn _ _ inputs pool.history.frameTextures passes pool
      device 0 pool.history.frameTextures.orig [] s.phase
    simp only [Nat.zero_add] at hall hsome
    exact ⟨hall, fun h => (hsome h).2⟩

end

end Sequencer

namespace Chain

variable (c : Chain δ)

/-- The chain once it has drawn the frame that waits. -/
def drew (r : FrameReport × Sequencer × DrawnPasses δ) : Chain δ :=
  { c.refreshTracked with
    device := r.2.2.device, pool := r.2.2.pool, passes := r.2.2.passes
    sequencer := r.2.1, report := some r.1 }

theorem render_repeated (h : c.pending = false) :
    c.render = (true, { c with report := some .repeated }) := by
  simp [render, h]

omit [GpuDevice δ] in
/-- Taking in tracked values changes nothing else. -/
theorem refreshTracked_eq : ∃ tracker tracked,
    c.refreshTracked = { c with tracker, tracked } := by
  unfold refreshTracked
  split
  · exact ⟨c.tracker, c.tracked, rfl⟩
  · exact ⟨_, _, rfl⟩

theorem render_pending (h : c.pending = true) :
    ∃ r, Sequencer.Ran c.sequencer c.refreshTracked.inputs c.stock c.passes c.pool c.device r ∧
      c.render = if r.1.isPresented then
          (true, { c.drew r with pending := false, frameCount := c.frameCount + 1 })
        else (false, c.drew r) := by
  obtain ⟨tracker, tracked, hc⟩ := c.refreshTracked_eq
  refine ⟨_, Sequencer.run_ran _ _ _ _ _ _, ?_⟩
  simp only [render, h, drew, hc, Bool.not_true, Bool.false_eq_true, if_false]

end Chain

end PassChain
