import PassChain.Proofs.Continuing
import PassChain.Proofs.PassDraws

/-! How handing in a frame and drawing it can go on a recorder, and what they leave. -/
namespace PassChain

open Attempt Recorder

/-- Handing in a frame changes no more of a recorder than two counts. -/
theorem TexturePool.writeFrame_written (pool : TexturePool) (frame : Frame) (r : Recorder) :
    (pool.writeFrame frame).Ends r (fun _ r' => r.Written r') (fun _ r' => r.Written r') := by
  have hwrite (id size data) {d : Recorder} (hd : r.Written d) :
      (GpuDevice.writeTexture id size data).Ends d (fun _ d' => r.Written d')
        (fun _ d' => r.Written d') := by
    obtain ⟨writes, clears, rfl⟩ := hd
    exact (writeTexture_ends _ id size data).mono (fun _ _ h => ⟨_, _, h⟩)
      (fun _ _ h => ⟨writes, clears, h⟩)
  unfold TexturePool.writeFrame
  simp only [ends_bind, ends_ite, ends_throw, ends_ofExcept, ends_pure]
  refine ⟨fun _ => .refl r, fun _ => ⟨fun rows _ => ⟨?_, fun _ => hwrite _ _ _ (.refl r)⟩,
    fun _ _ => .refl r⟩⟩
  intro _
  exact (clearTexture_ends r _).mono (fun _ _ h => hwrite _ _ _ ⟨_, _, h⟩)
    (fun _ _ h => ⟨_, _, h⟩)

namespace Chain

/-- Handing in a frame writes it into the current slot, or changes nothing else. -/
theorem submit_recorded (frame : Frame) (c : Chain Recorder) :
    (submit frame).Ends c
      (fun _ c' => ∃ device, c.device.Written device ∧ c' = { c with
        device, pending := true
        pool := { c.pool with history := c.pool.history.resizeCurrent frame.size } })
      (fun _ c' => ∃ device, c.device.Written device ∧ c' = { c with device }) := by
  unfold submit
  simp only [ends_bind, ends_get, ends_modify, ends_on]
  exact ((TexturePool.writeFrame_written c.pool frame c.device).and
    (TexturePool.writeFrame_ends c.pool frame c.device)).mono
    (fun _ d h => ⟨d, h.1, by rw [h.2]⟩) (fun _ d h => ⟨d, h.1, rfl⟩)

variable (c : Chain Recorder)

/-- The waiting frame, drawn as far as it can be. -/
def drawing : DrawnPasses Recorder :=
  c.sequencer.drawFrame c.refreshTracked.inputs c.passes c.pool c.device.opened

/-- The chain after a frame that was dropped. -/
def dropped (device : Recorder) (pool : TexturePool) (passes : List CompiledPass)
    (report : FrameReport) : Chain Recorder :=
  { c.refreshTracked with
    device := device.abortFrame.bindResting c.stock, pool, passes
    sequencer := {}, report := some report }

/-- The chain after a frame that was shown. -/
def presented (d : DrawnPasses Recorder) : Chain Recorder :=
  { c.refreshTracked with
    device := d.device.shown.bindResting c.stock, pool := d.pool.advance, passes := d.passes
    sequencer := {}, report := some ⟨d.drawn, .presented⟩
    pending := false, frameCount := c.frameCount + 1 }

/-- The ways in which the waiting frame can go on a recorder. -/
inductive Rendered : Bool × Chain Recorder → Prop where
  | refused (hframe : c.device.inFrame = true) :
      Rendered (false, c.dropped c.device c.pool c.passes ⟨0, .aborted 0 (.device .frameOpen)⟩)
  | failed (e : Error) (hframe : c.device.inFrame = false) (hfail : c.drawing.failure = some e) :
      Rendered (false, c.dropped c.drawing.device c.drawing.pool c.drawing.passes
        ⟨c.drawing.drawn, .aborted c.drawing.drawn e⟩)
  | shown (hframe : c.device.inFrame = false) (hfail : c.drawing.failure = none) :
      Rendered (true, c.presented c.drawing)

theorem viewport_inputs : c.refreshTracked.inputs.viewport = c.viewport := by
  obtain ⟨tracker, tracked, hc⟩ := c.refreshTracked_eq
  rw [hc]
  rfl

theorem drawing_steady : c.device.opened.Steady c.drawing.device :=
  Sequencer.drawFrame_steady

theorem drawing_moves : c.pool.Retargeted c.drawing.pool 0 ∧
    c.drawing.passes.map (·.plan) = c.passes.map (·.plan) :=
  Sequencer.drawFrame_moves

/-- The open frame holds one draw for each pass that has been drawn. -/
theorem drawing_draws : c.drawing.device.pending.length = c.drawing.drawn ∧
    ∀ i pass draw, c.passes[i]? = some pass → c.drawing.device.pending[i]? = some draw →
      ∃ size canvas, DrawnPass c.refreshTracked.inputs c.pool.history.frameTextures c.drawing.pool
        c.passes.length i pass draw size canvas := by
  obtain ⟨draws, hpending, hlen, hdraws⟩ := @Sequencer.drawFrame_draws c.refreshTracked.inputs
    c.passes c.pool c.device.opened c.sequencer
  have hpending' : c.drawing.device.pending = draws := hpending
  rw [hpending']
  exact ⟨hlen, hdraws⟩

variable {c}

/-- A pass that has been drawn, and its draw. -/
theorem drawing_pass {i : Nat} (hi : i < c.drawing.drawn) (hpass : i < c.passes.length) :
    ∃ pass draw size canvas, c.passes[i]? = some pass ∧
      DrawnPass c.refreshTracked.inputs c.pool.history.frameTextures c.drawing.pool
        c.passes.length i pass draw size canvas := by
  obtain ⟨hlen, hdraws⟩ := c.drawing_draws
  obtain ⟨pass, hp⟩ : ∃ pass, c.passes[i]? = some pass := ⟨_, List.getElem?_eq_getElem hpass⟩
  obtain ⟨draw, hdraw⟩ : ∃ draw, c.drawing.device.pending[i]? = some draw :=
    ⟨_, List.getElem?_eq_getElem (by rw [hlen]; exact hi)⟩
  obtain ⟨size, canvas, h⟩ := hdraws i pass draw hp hdraw
  exact ⟨pass, draw, size, canvas, hp, h⟩

/-- However the frame went, the device is left at rest. -/
theorem Rendered.at_rest {r : Bool × Chain Recorder} (h : c.Rendered r) :
    r.2.device.resting = some c.stock ∧ r.2.device.inFrame = false := by
  have hclosed {r : Recorder} : r.abortFrame.inFrame = false := by
    unfold Recorder.abortFrame
    split <;> simp_all
  cases h with
  | refused | failed => exact ⟨rfl, hclosed⟩
  | shown => exact ⟨rfl, rfl⟩

theorem drawing_drawn (hpasses : c.passes ≠ []) :
    (c.drawing.failure = none → c.drawing.drawn = c.passes.length) ∧
      (c.drawing.failure.isSome → c.drawing.drawn < c.passes.length) :=
  Sequencer.drawFrame_drawn hpasses

/-- A recorder never refuses to show a frame that it has opened. -/
theorem render_rendered (h : c.pending = true) : c.Rendered c.render := by
  obtain ⟨r, hr, hrender⟩ := c.render_pending h
  rw [hrender]
  cases hr with
  | refused e opened hbegin =>
    obtain ⟨rfl, hframe, rfl⟩ := (Recorder.beginFrame_ends c.device).of_error hbegin
    exact .refused hframe
  | failed e opened d hbegin hdrawn hfail =>
    obtain ⟨hframe, rfl⟩ := (Recorder.beginFrame_ends c.device).of_ok hbegin
    subst hdrawn
    exact .failed e hframe hfail
  | unshown e opened ended d hbegin hdrawn hfail hend =>
    obtain ⟨hframe, rfl⟩ := (Recorder.beginFrame_ends c.device).of_ok hbegin
    subst hdrawn
    obtain ⟨_, hclosed⟩ := (Recorder.endFrame_ends c.drawing.device).of_error hend
    simp [c.drawing_steady.inFrame, Recorder.opened] at hclosed
  | shown opened ended d hbegin hdrawn hfail hend =>
    obtain ⟨hframe, rfl⟩ := (Recorder.beginFrame_ends c.device).of_ok hbegin
    subst hdrawn
    obtain ⟨_, rfl⟩ := (Recorder.endFrame_ends c.drawing.device).of_ok hend
    exact .shown hframe hfail

/-- A frame that is shown has been drawn to its end. -/
theorem render_shown (h : c.pending = true) (hyes : c.render.1 = true) :
    c.render.2 = c.presented c.drawing ∧ c.drawing.failure = none := by
  have hrendered := render_rendered h
  cases hrender : c.render with | mk answer c' =>
  rw [hrender] at hrendered hyes
  cases hrendered with
  | refused | failed => simp at hyes
  | shown _ hfail => exact ⟨rfl, hfail⟩

/-- What one call of a host can do to a chain on a recorder: its frame is accepted or refused, it
changes what it has asked of the chain or of the recorder, or the chain renders. -/
inductive Moves (c : Chain Recorder) : Chain Recorder → Prop where
  | accepted (frame : Frame) (device : Recorder) (hwritten : c.device.Written device) :
      Moves c { c with
        device, pending := true
        pool := { c.pool with history := c.pool.history.resizeCurrent frame.size } }
  | refused (device : Recorder) (hwritten : c.device.Written device) : Moves c { c with device }
  | asked (viewport : Viewport) (rotation : UInt32) (direction : Direction)
      (tracker : Option Tracker) : Moves c { c with viewport, rotation, direction, tracker }
  | upset (allocationFaults uploadFaults : List String) :
      Moves c { c with device := { c.device with allocationFaults, uploadFaults } }
  | rendered : Moves c c.render.2

end Chain

theorem Session.step_moves (s : Session Recorder) (call : HostCall Recorder) :
    s.chain.Moves (s.step call).chain := by
  cases call with
  | submit frame =>
    have hsubmit := Chain.submit_recorded frame s.chain
    simp only [step]
    split
    · rename_i c hc
      obtain ⟨device, hwritten, rfl⟩ := hsubmit.of_ok hc
      exact .accepted frame device hwritten
    · rename_i c hc
      obtain ⟨device, hwritten, rfl⟩ := hsubmit.of_error hc
      exact .refused device hwritten
  | setViewport | setRotation | setDirection | setTracker => exact .asked _ _ _ _
  | setMemory memory =>
    simp only [step, Chain.changeMemory]
    split <;> exact .asked _ _ _ _
  | adjust change => cases change <;> exact .upset _ _
  | render => exact .rendered

/-- What such changes keep of a chain stays through any calls. -/
theorem Session.run_keeps {P : Chain Recorder → Prop} (hmoves : ∀ c c', P c → c.Moves c' → P c')
    {s : Session Recorder} (h : P s.chain) (calls : List (HostCall Recorder)) :
    P (s.run calls).chain :=
  run_induction (P := fun t => P t.chain) (fun t call ht => hmoves _ _ ht (t.step_moves call)) h
    calls

end PassChain
