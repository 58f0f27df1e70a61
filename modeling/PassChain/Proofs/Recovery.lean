import PassChain.Proofs.ObligingDevice
import PassChain.Proofs.Sizes
import PassChain.Proofs.Soundness

/-! No past failure keeps a chain from showing its next frame. -/
namespace PassChain

open Recorder

/-- By the first `i + 1` of the rules a frame of size `source` comes to a size in which a target can
be made. -/
def TargetFits (rules : List ScaleRules) (pow2 : Bool) (limit : UInt32) (source viewport : Size)
    (i : Nat) : Prop :=
  ∃ size, ScaleRules.resolveAll (rules.take (i + 1)) source viewport = .ok size ∧
    allocatedEdge pow2 size.width ≤ limit.toNat ∧ allocatedEdge pow2 size.height ≤ limit.toNat

namespace Chain

variable {c : Chain Recorder}

theorem drawing_of_emptyViewport (h : c.viewport.width = 0 ∨ c.viewport.height = 0) :
    c.drawing.failure = some .emptyViewport ∧ c.drawing.drawn = 0 := by
  unfold drawing Sequencer.drawFrame
  rw [c.viewport_inputs, if_pos h]
  exact ⟨rfl, rfl⟩

/-- A pass that has been drawn into a target has found a size for it. -/
theorem fits_of_drawn (h : c.Sound) {i : Nat} (hi : i < c.drawing.drawn)
    (hlast : i + 1 < c.passes.length) :
    TargetFits (c.passes.map (·.scale)) c.pool.pow2 c.device.maxDimension
      c.pool.history.current.size c.viewport.size i := by
  have hmoves := c.drawing_moves.1
  obtain ⟨pass, draw, size, canvas, _, hdrawn⟩ := drawing_pass hi (Nat.lt_of_succ_lt hlast)
  obtain ⟨hsize, t, clear, ht, rfl, _⟩ := hdrawn.inner hlast
  have hsource := c.drawing_source (j := i + 1) hi hlast
  rw [TexturePool.source_succ ht] at hsource
  obtain ⟨_, htexel, hfits⟩ := (drawing_alive h).1.targets i t ht
  have hroom := (TexturePool.hasRoom_iff (ScaleRules.resolve_pos hsize)).mp ⟨_, htexel, hfits⟩
  rw [hmoves.pow2, c.drawing_steady.maxDimension] at hroom
  exact ⟨t.logical, hsource, hroom⟩

/-- Without faults, the pass that a frame stops at has no size for its target. -/
theorem misfit_of_failed (h : c.Sound) (hallocations : c.device.allocationFaults = [])
    (huploads : c.device.uploadFaults = [])
    (hviewport : c.viewport.width ≠ 0 ∧ c.viewport.height ≠ 0) {e : Error}
    (hfail : c.drawing.failure = some e) :
    c.drawing.drawn + 1 < c.passes.length ∧
      ¬ TargetFits (c.passes.map (·.scale)) c.pool.pow2 c.device.maxDimension
        c.pool.history.current.size c.viewport.size c.drawing.drawn := by
  rcases (drawing_alive h).2 e hfail with ⟨hempty, _⟩ | ⟨_, hcause⟩
  · exact absurd hempty (not_or.mpr hviewport)
  · rcases hcause with hinjected | ⟨pass, hpass, hlast, hmisfit⟩
    · simp [Recorder.Injected, hallocations, huploads] at hinjected
    · refine ⟨hlast, ?_⟩
      rintro ⟨size, hsize, hfits⟩
      have hrule : (c.passes.map (·.scale))[c.drawing.drawn]? = some pass.scale := by
        rw [List.getElem?_map, hpass]; rfl
      have hsource := c.drawing_source (Nat.le_refl _) (Nat.lt_of_succ_lt hlast)
      rw [ScaleRules.resolveAll_take_succ hrule, hsource] at hsize
      have hresolve : pass.scale.resolve _ _ = .ok size := hsize
      rcases hmisfit with ⟨fault, hfault, _⟩ | ⟨size', hsize', hmisfit⟩
      · rw [hfault] at hresolve
        simp at hresolve
      · rw [hsize', Except.ok.injEq] at hresolve
        subst hresolve
        exact hmisfit.not_hasRoom
          ((TexturePool.hasRoom_iff (ScaleRules.resolve_pos hsize')).mpr hfits)

/-- Without faults and without an open frame, a frame is shown when there is somewhere to draw and
every pass finds its target; else it is dropped at the first pass that does not. -/
theorem render_of_sound (h : c.Sound) (hpending : c.pending = true)
    (hclosed : c.device.inFrame = false) (hallocations : c.device.allocationFaults = [])
    (huploads : c.device.uploadFaults = []) :
    (c.render.1 = true ∧ c.render.2.report = some ⟨c.passes.length, .presented⟩ ∧
      (c.viewport.width ≠ 0 ∧ c.viewport.height ≠ 0) ∧
      ∀ i, i + 1 < c.passes.length → TargetFits (c.passes.map (·.scale)) c.pool.pow2
        c.device.maxDimension c.pool.history.current.size c.viewport.size i) ∨
    ∃ k e, c.render.1 = false ∧ c.render.2.report = some ⟨k, .aborted k e⟩ ∧
      ((c.viewport.width = 0 ∨ c.viewport.height = 0) ∧ k = 0 ∧ e = .emptyViewport ∨
        (c.viewport.width ≠ 0 ∧ c.viewport.height ≠ 0) ∧ k + 1 < c.passes.length ∧
        ¬ TargetFits (c.passes.map (·.scale)) c.pool.pow2 c.device.maxDimension
          c.pool.history.current.size c.viewport.size k ∧
        ∀ i < k, TargetFits (c.passes.map (·.scale)) c.pool.pow2 c.device.maxDimension
          c.pool.history.current.size c.viewport.size i) := by
  cases hrender : c.render with | mk answer c' =>
  have hrendered := render_rendered hpending
  rw [hrender] at hrendered
  cases hrendered with
  | refused hopen => simp [hclosed] at hopen
  | failed e _ hfail =>
    refine .inr ⟨c.drawing.drawn, e, rfl, rfl, ?_⟩
    by_cases hempty : c.viewport.width = 0 ∨ c.viewport.height = 0
    · obtain ⟨hfailure, hdrawn⟩ := drawing_of_emptyViewport hempty
      exact .inl ⟨hempty, hdrawn, by simpa [hfail] using hfailure⟩
    · have hviewport := not_or.mp hempty
      obtain ⟨hlast, hmisfit⟩ := misfit_of_failed h hallocations huploads hviewport hfail
      exact .inr ⟨hviewport, hlast, hmisfit, fun i hi => fits_of_drawn h hi (by omega)⟩
  | shown _ hfail =>
    have hdrawn := (drawing_drawn h.passes_ne_nil).1 hfail
    refine .inl ⟨rfl, by rw [presented, hdrawn], ?_, ?_⟩
    · apply not_or.mp
      intro hempty
      rw [(drawing_of_emptyViewport hempty).1] at hfail
      simp at hfail
    · intro i hi
      exact fits_of_drawn h (by omega) hi

end Chain

/-- Between calls no frame is open. -/
theorem Chain.Moves.closed {c c' : Chain Recorder} (h : c.device.inFrame = false)
    (hmoves : c.Moves c') : c'.device.inFrame = false := by
  cases hmoves with
  | accepted _ _ hwritten | refused _ hwritten =>
    obtain ⟨_, _, rfl⟩ := hwritten
    exact h
  | asked | upset => exact h
  | rendered =>
    cases hpending : c.pending with
    | false => rw [c.render_repeated hpending]; exact h
    | true => exact (render_rendered hpending).at_rest.2

theorem Session.run_closed {s : Session Recorder} (h : s.chain.device.inFrame = false)
    (calls : List (HostCall Recorder)) : (s.run calls).chain.device.inFrame = false :=
  run_keeps (P := fun c => c.device.inFrame = false) (fun _ _ hc hmoves => hmoves.closed hc) h calls

theorem TargetFits.congr {rules rules' : List ScaleRules} {pow2 : Bool} {limit : UInt32}
    {source viewport : Size} {i : Nat} (h : rules.take (i + 1) = rules'.take (i + 1)) :
    TargetFits rules pow2 limit source viewport i ↔
      TargetFits rules' pow2 limit source viewport i := by
  unfold TargetFits
  rw [h]

variable {device : Recorder} {files : FileSystem} {preset : Preset} {settings : ChainSettings}
  {c₀ : Chain Recorder}

/-- A waiting frame is shown or stops at a pass, by what the preset says. -/
theorem Session.run_shows_or_stops (hdevice : device.Reachable) (hclosed : device.inFrame = false)
    (hbuild : Chain.build device files preset settings = .ok c₀)
    (calls : List (HostCall Recorder)) :
    let s := (start c₀).run calls
    let c := s.chain
    let count := preset.passes.length
    let fits := TargetFits preset.targetRules settings.pow2Targets c.device.maxDimension
      s.lastAccepted c.viewport.size
    c.pending = true → c.device.allocationFaults = [] → c.device.uploadFaults = [] →
      (c.render.1 = true ∧ c.render.2.report = some ⟨count, .presented⟩ ∧
        (c.viewport.width ≠ 0 ∧ c.viewport.height ≠ 0) ∧ ∀ i, i + 1 < count → fits i) ∨
      ∃ k e, c.render.1 = false ∧ c.render.2.report = some ⟨k, .aborted k e⟩ ∧
        ((c.viewport.width = 0 ∨ c.viewport.height = 0) ∧ k = 0 ∧ e = .emptyViewport ∨
          (c.viewport.width ≠ 0 ∧ c.viewport.height ≠ 0) ∧ k + 1 < count ∧ ¬ fits k ∧
          ∀ i < k, fits i) := by
  intro s c count fits hpending hallocations huploads
  have hfrom := Chain.build_builtFrom hbuild
  obtain ⟨hgrows, hsound⟩ := Chain.build_grows (Recorder.issued_reachable hdevice) hbuild
  have hcontinues : c₀.Continues c := (start c₀).run_continues calls
  have hs : c.Sound := run_sound hsound calls
  have hopen : c.device.inFrame = false := run_closed (hgrows.inFrame.trans hclosed) calls
  have hcurrent := run_waiting (start_waiting (Chain.build_idle hbuild).1) calls hpending
  have hcount : c.passes.length = count := hcontinues.length_passes.trans hfrom.count
  have hfits (i) (hi : i + 1 < count) : TargetFits (c.passes.map (·.scale)) c.pool.pow2
      c.device.maxDimension c.pool.history.current.size c.viewport.size i ↔ fits i := by
    rw [hcontinues.scales, hcontinues.pow2, hfrom.pow2, hcurrent]
    exact TargetFits.congr (hfrom.take_scales hi)
  have hrender := Chain.render_of_sound hs hpending hopen hallocations huploads
  rw [hcount] at hrender
  rcases hrender with ⟨hyes, hreport, hviewport, hall⟩ | ⟨k, e, hno, hreport, hcause⟩
  · exact .inl ⟨hyes, hreport, hviewport, fun i hi => (hfits i hi).mp (hall i hi)⟩
  · refine .inr ⟨k, e, hno, hreport, hcause.imp_right ?_⟩
    rintro ⟨hviewport, hk, hmisfit, hbefore⟩
    refine ⟨hviewport, hk, ?_, ?_⟩
    · intro hfit
      exact hmisfit ((hfits k hk).mpr hfit)
    · intro i hi
      exact (hfits i (by omega)).mp (hbefore i hi)

/-- What refuses, and how large textures can be, does not change by rendering. -/
theorem Chain.render_limits (c : Chain Recorder) :
    c.render.2.device.allocationFaults = c.device.allocationFaults ∧
      c.render.2.device.uploadFaults = c.device.uploadFaults ∧
      c.render.2.device.maxDimension = c.device.maxDimension := by
  have habort (r : Recorder) : r.abortFrame.allocationFaults = r.allocationFaults ∧
      r.abortFrame.uploadFaults = r.uploadFaults ∧ r.abortFrame.maxDimension = r.maxDimension := by
    unfold Recorder.abortFrame
    split <;> exact ⟨rfl, rfl, rfl⟩
  cases hpending : c.pending with
  | false =>
    rw [c.render_repeated hpending]
    exact ⟨rfl, rfl, rfl⟩
  | true =>
    have hsteady := c.drawing_steady
    cases hrender : c.render with | mk answer c' =>
    have hrendered := render_rendered hpending
    rw [hrender] at hrendered
    cases hrendered with
    | refused => exact habort c.device
    | failed =>
      obtain ⟨hallocations, huploads, hlimit⟩ := habort c.drawing.device
      exact ⟨hallocations.trans hsteady.allocationFaults, huploads.trans hsteady.uploadFaults,
        hlimit.trans hsteady.maxDimension⟩
    | shown => exact ⟨hsteady.allocationFaults, hsteady.uploadFaults, hsteady.maxDimension⟩

/-- A frame that stops at a pass leaves the targets as they are by then, and goes on waiting. -/
theorem Chain.render_of_stopped {c : Chain Recorder} {k : Nat} {e : Error}
    (hpending : c.pending = true) (hclosed : c.device.inFrame = false)
    (hreport : c.render.2.report = some ⟨k, .aborted k e⟩) :
    c.drawing.drawn = k ∧ c.render.2.pool = c.drawing.pool ∧ c.render.2.pending = true ∧
      c.render.2.device.frames = c.device.frames := by
  have hsteady := c.drawing_steady
  obtain ⟨tracker, tracked, hc⟩ := c.refreshTracked_eq
  cases hrender : c.render with | mk answer c' =>
  have hrendered := render_rendered hpending
  rw [hrender] at hrendered hreport
  cases hrendered with
  | refused hframe => simp [hclosed] at hframe
  | shown => simp [presented] at hreport
  | failed e' _ _ =>
    have hdrawn : c.drawing.drawn = k := by
      simp only [dropped, Option.some.injEq, FrameReport.mk.injEq] at hreport
      exact hreport.1
    refine ⟨hdrawn, rfl, ?_⟩
    simp only [dropped, hc, Recorder.abortFrame_of_inFrame hsteady.inFrame]
    exact ⟨hpending, hsteady.frames⟩

/-- The ring of a chain on an obliging recorder takes in frames at any time. -/
theorem TexturePool.Alive.fed {pool : TexturePool} {r : Recorder} (h : pool.Alive r)
    (hallocations : r.allocationFaults = []) : pool.Fed (Recorder.obliging r.maxDimension) r :=
  ⟨⟨h.issued, hallocations, rfl⟩, fun i hi => ⟨s!"history{i}", h.history i hi⟩⟩

/-- In the use of `c₀`, a frame of one pixel has come to wait on a recorder without faults. -/
structure Session.PixelWaits (c₀ : Chain Recorder) (s : Session Recorder) : Prop where
  reached : ∃ calls, s = (start c₀).run calls
  pending : s.chain.pending = true
  allocationFaults : s.chain.device.allocationFaults = []
  uploadFaults : s.chain.device.uploadFaults = []
  maxDimension : s.chain.device.maxDimension = 8192
  lastAccepted : s.lastAccepted = ⟨1, 1⟩

namespace Session

/-- Any chain of passes that load comes to have a pixel waiting. -/
theorem loaded_pixel_waits (hpreset : preset.Loads .empty {}) (viewport : Viewport) :
    ∃ c₀, Chain.build ({} : Recorder) .empty preset {} = .ok c₀ ∧
      let s := (start c₀).run [.setViewport viewport, .submit .pixel]
      s.PixelWaits c₀ ∧ s.chain.viewport = viewport ∧ s.chain.device.frames = [] := by
  have hissued := Recorder.issued_reachable (.fresh 8192)
  obtain ⟨c₀, c₁, hbuild, hsubmit, hrun, hpending⟩ :=
    pixel_accepted (o := Recorder.obliging 8192) (d := {}) ⟨hissued, rfl, rfl⟩ rfl hpreset viewport
  have hgrows := (Chain.build_grows hissued hbuild).1
  obtain ⟨device, ⟨writes, clears, rfl⟩, rfl⟩ := (Chain.submit_recorded _ _).of_ok hsubmit
  refine ⟨c₀, hbuild, ⟨⟨_, rfl⟩, ?_, ?_, ?_, ?_, ?_⟩, ?_, ?_⟩ <;> rw [hrun]
  · exact hgrows.allocationFaults
  · exact hgrows.uploadFaults
  · exact hgrows.maxDimension
  · rfl
  · rfl
  · exact hgrows.frames

/-- So does any chain of stock passes. -/
theorem pixel_waits (hpreset : preset.IsStock {}) (viewport : Viewport) :
    ∃ c₀, Chain.build ({} : Recorder) .empty preset {} = .ok c₀ ∧
      let s := (start c₀).run [.setViewport viewport, .submit .pixel]
      s.PixelWaits c₀ ∧ s.chain.viewport = viewport ∧ s.chain.device.frames = [] :=
  loaded_pixel_waits (hpreset.loads .empty) viewport

namespace PixelWaits

variable {s : Session Recorder}

theorem step_of_same (h : s.PixelWaits c₀) (call : HostCall Recorder)
    (hdevice : (s.step call).chain.device = s.chain.device)
    (hpending : (s.step call).chain.pending = s.chain.pending)
    (haccepted : (s.step call).accepted = s.accepted) : (s.step call).PixelWaits c₀ := by
  obtain ⟨calls, rfl⟩ := h.reached
  refine ⟨⟨calls ++ [call], by rw [run_append]; rfl⟩, hpending.trans h.pending, ?_, ?_, ?_, ?_⟩
  · rw [hdevice, h.allocationFaults]
  · rw [hdevice, h.uploadFaults]
  · rw [hdevice, h.maxDimension]
  · rw [Session.lastAccepted, haccepted]
    exact h.lastAccepted

theorem shows_or_stops (hbuild : Chain.build ({} : Recorder) .empty preset {} = .ok c₀)
    (h : s.PixelWaits c₀) :
    let c := s.chain
    let fits := TargetFits preset.targetRules false 8192 ⟨1, 1⟩ c.viewport.size
    (c.render.1 = true ∧ (c.viewport.width ≠ 0 ∧ c.viewport.height ≠ 0) ∧
        ∀ i, i + 1 < preset.passes.length → fits i) ∨
      ∃ k e, c.render.1 = false ∧ c.render.2.report = some ⟨k, .aborted k e⟩ ∧
        ((c.viewport.width = 0 ∨ c.viewport.height = 0) ∨
          k + 1 < preset.passes.length ∧ ¬ fits k ∧ ∀ i < k, fits i) := by
  obtain ⟨calls, rfl⟩ := h.reached
  have hrender := run_shows_or_stops (.fresh 8192) rfl hbuild calls h.pending h.allocationFaults
    h.uploadFaults
  rw [h.maxDimension, h.lastAccepted] at hrender
  rcases hrender with ⟨hyes, _, hall⟩ | ⟨k, e, hno, hreport, hcause⟩
  · exact .inl ⟨hyes, hall⟩
  · refine .inr ⟨k, e, hno, hreport, ?_⟩
    rcases hcause with ⟨hempty, _⟩ | ⟨_, hmisfit⟩
    · exact .inl hempty
    · exact .inr hmisfit

/-- A pixel is shown where there is somewhere to draw and all targets can be made. -/
theorem shown (hbuild : Chain.build ({} : Recorder) .empty preset {} = .ok c₀)
    (h : s.PixelWaits c₀) {viewport : Viewport} (hviewport : s.chain.viewport = viewport)
    (hpos : viewport.width ≠ 0 ∧ viewport.height ≠ 0)
    (hfits : ∀ i, i + 1 < preset.passes.length →
      TargetFits preset.targetRules false 8192 ⟨1, 1⟩ viewport.size i) :
    s.chain.render.1 = true := by
  have hrender := h.shows_or_stops hbuild
  simp only [hviewport] at hrender
  rcases hrender with ⟨hyes, _⟩ | ⟨k, e, _, _, hempty | ⟨hk, hmisfit, _⟩⟩
  · exact hyes
  · exact absurd hempty (not_or.mpr hpos)
  · exact absurd (hfits k hk) hmisfit

end PixelWaits

/-- A first frame of one pixel goes through two passes. -/
theorem first_frame_shown :
    ∃ c₀, Chain.build ({} : Recorder) .empty .twoStock {} = .ok c₀ ∧
      let c := ((start c₀).run HostCall.firstFrame).chain
      c.pending = true ∧ c.device.allocationFaults = [] ∧ c.device.uploadFaults = [] ∧
        c.render.1 = true := by
  obtain ⟨c₀, hbuild, hwaits, hviewport, _⟩ :=
    pixel_waits Preset.twoStock_isStock { width := 1, height := 1 }
  refine ⟨c₀, hbuild, hwaits.pending, hwaits.allocationFaults, hwaits.uploadFaults, ?_⟩
  refine hwaits.shown hbuild hviewport (by decide) fun i hi => ?_
  have hcount : Preset.twoStock.passes.length = 2 := rfl
  obtain rfl : i = 0 := by omega
  exact ⟨⟨1, 1⟩, rfl, by decide, by decide⟩

namespace PixelWaits

variable {s : Session Recorder}

/-- A pixel that is dropped goes on waiting. -/
theorem again (hbuild : Chain.build ({} : Recorder) .empty preset {} = .ok c₀)
    (h : s.PixelWaits c₀) {k : Nat} {e : Error}
    (hreport : s.chain.render.2.report = some ⟨k, .aborted k e⟩) :
    (s.step .render).PixelWaits c₀ ∧ s.chain.drawing.drawn = k ∧
      s.chain.render.2.pool = s.chain.drawing.pool ∧
      s.chain.render.2.device.frames = s.chain.device.frames := by
  obtain ⟨calls, rfl⟩ := h.reached
  have hclosed := run_closed (s := start c₀)
    (Chain.build_grows (Recorder.issued_reachable (.fresh 8192)) hbuild).1.inFrame calls
  obtain ⟨hdrawn, hpool, hpending, hframes⟩ := Chain.render_of_stopped h.pending hclosed hreport
  obtain ⟨hallocations, huploads, hlimit⟩ := ((start c₀).run calls).chain.render_limits
  exact ⟨⟨⟨calls ++ [.render], by rw [run_append]; rfl⟩, hpending,
    hallocations.trans h.allocationFaults, huploads.trans h.uploadFaults,
    hlimit.trans h.maxDimension, h.lastAccepted⟩, hdrawn, hpool, hframes⟩

/-- Once it is shown, the next pixel can come. -/
theorem next (hbuild : Chain.build ({} : Recorder) .empty preset {} = .ok c₀)
    (h : s.PixelWaits c₀) :
    ∃ c, Chain.submit .pixel s.chain.render.2 = .ok () c ∧
      ((s.step .render).step (.submit .pixel)).PixelWaits c₀ := by
  obtain ⟨calls, rfl⟩ := h.reached
  have hissued := Recorder.issued_reachable (.fresh 8192)
  obtain ⟨_, hsound⟩ := Chain.build_grows hissued hbuild
  obtain ⟨hallocations, huploads, hlimit⟩ := ((start c₀).run calls).chain.render_limits
  have hrun : ((start c₀).run calls).step .render = (start c₀).run (calls ++ [.render]) := by
    rw [run_append]
    rfl
  have hs : ((start c₀).run (calls ++ [.render])).chain.Sound := run_sound hsound _
  have hcontinues := (start c₀).run_continues (calls ++ [.render])
  rw [← hrun] at hs hcontinues
  have hsize : Frame.pixel.size.within ((start c₀).run calls).chain.render.2.pool.history.texel =
      true := by
    have htexel := hcontinues.texel.trans (Chain.build_builtFrom hbuild).texel
    exact (congrArg (Frame.pixel.size.within ·) htexel).trans (by decide)
  have hrows : Frame.pixel.toBgra = .ok [0, 0, 0, 0xff] := rfl
  have hsubmit := Chain.submit_accepted (hs.pool.fed (hallocations.trans h.allocationFaults)) hsize
    hrows (by decide) (by decide)
  cases hc : Chain.submit .pixel ((start c₀).run calls).chain.render.2 with
  | error e c => exact (hsubmit.of_error hc).elim
  | ok _ c =>
    obtain ⟨device, ⟨writes, clears, rfl⟩, rfl⟩ := (Chain.submit_recorded _ _).of_ok hc
    refine ⟨_, rfl, ⟨calls ++ [.render, .submit .pixel], by rw [run_append]; rfl⟩, ?_, ?_, ?_, ?_,
      ?_⟩
    all_goals simp only [step, hc, Session.lastAccepted, List.getLast?_concat]
    · exact hallocations.trans h.allocationFaults
    · exact huploads.trans h.uploadFaults
    · exact hlimit.trans h.maxDimension
    · rfl

end PixelWaits

/-- A frame that is drawn to its end counts as shown. -/
theorem shown_render {s : Session Recorder} (hpending : s.chain.pending = true)
    (hyes : s.chain.render.1 = true) : (s.step .render).shown = s.shown ++ [s.lastAccepted] := by
  have hpresented : s.chain.render.2.hasPresented = true := by
    rw [(Chain.render_shown hpending hyes).1]
    rfl
  simp only [step, hpresented, if_true]

theorem shown_submit {δ : Type} [GpuDevice δ] [Adjustable δ] (s : Session δ) (frame : Frame) :
    (s.step (.submit frame)).shown = s.shown := by
  simp only [step]
  split <;> rfl

end Session

/-- The calls that bring a pixel after so many others have been shown. -/
def HostCall.pixels {δ : Type} [Adjustable δ] : Nat → List (HostCall δ)
  | 0 => [.setViewport { width := 1, height := 1 }, .submit .pixel]
  | n + 1 => pixels n ++ [.render, .submit .pixel, .setViewport { width := 1, height := 1 }]

/-- A chain of one pass shows any number of pixels. -/
theorem Session.run_pixels (hpreset : preset.Loads .empty {}) (hcount : preset.passes.length = 1) :
    ∃ c₀, Chain.build ({} : Recorder) .empty preset {} = .ok c₀ ∧ ∀ n,
      let s := (start c₀).run (HostCall.pixels n)
      s.chain.pending = true ∧ s.chain.render.1 = true ∧ s.shown = .replicate n ⟨1, 1⟩ := by
  obtain ⟨c₀, hbuild, hfirst, hviewport, _⟩ :=
    loaded_pixel_waits hpreset { width := 1, height := 1 }
  refine ⟨c₀, hbuild, fun n => ?_⟩
  have hyes {s : Session Recorder} (h : s.PixelWaits c₀)
      (hviewport : s.chain.viewport = { width := 1, height := 1 }) : s.chain.render.1 = true :=
    h.shown hbuild hviewport (by decide) fun i hi => by omega
  have hpixels : ((start c₀).run (HostCall.pixels n)).PixelWaits c₀ ∧
      ((start c₀).run (HostCall.pixels n)).chain.viewport = { width := 1, height := 1 } ∧
      ((start c₀).run (HostCall.pixels n)).shown = .replicate n ⟨1, 1⟩ := by
    induction n with
    | zero => exact ⟨hfirst, hviewport, shown_submit _ .pixel⟩
    | succ n ih =>
      obtain ⟨hwaits, hviewport, hshown⟩ := ih
      obtain ⟨_, _, hnext⟩ := hwaits.next hbuild
      rw [HostCall.pixels, run_append]
      refine ⟨hnext.step_of_same (.setViewport _) rfl rfl rfl, rfl, ?_⟩
      refine (shown_submit _ .pixel).trans ?_
      rw [shown_render hwaits.pending (hyes hwaits hviewport), hwaits.lastAccepted, hshown,
        List.replicate_succ']
  obtain ⟨hwaits, hviewport, hshown⟩ := hpixels
  exact ⟨hwaits.pending, hyes hwaits hviewport, hshown⟩

/-- Whatever went wrong before: once no fault is left, a waiting frame is shown if and only if there
is somewhere to draw and all targets can be made in the sizes that the passes come to. Otherwise the
frame stops at the first pass that is to blame. -/
theorem recovers (hdevice : device.Reachable) (hclosed : device.inFrame = false)
    (hbuild : Chain.build device files preset settings = .ok c₀)
    (calls : List (HostCall Recorder)) :
    let s := (Session.start c₀).run calls
    let c := s.chain
    let count := preset.passes.length
    let fits := TargetFits preset.targetRules settings.pow2Targets c.device.maxDimension
      s.lastAccepted c.viewport.size
    c.pending = true → c.device.allocationFaults = [] → c.device.uploadFaults = [] →
      (c.render.1 = true ↔ (c.viewport.width ≠ 0 ∧ c.viewport.height ≠ 0) ∧
        ∀ i, i + 1 < count → fits i) ∧
      (c.render.1 = true → c.render.2.report = some ⟨count, .presented⟩) ∧
      (c.viewport.width = 0 ∨ c.viewport.height = 0 →
        c.render.2.report = some ⟨0, .aborted 0 .emptyViewport⟩) ∧
      (c.viewport.width ≠ 0 ∧ c.viewport.height ≠ 0 → ∀ k, k + 1 < count → ¬ fits k →
        (∀ i < k, fits i) → ∃ e, c.render.2.report = some ⟨k, .aborted k e⟩) := by
  intro s c count fits hpending hallocations huploads
  rcases Session.run_shows_or_stops hdevice hclosed hbuild calls hpending hallocations huploads with
    ⟨hyes, hreport, hviewport, hall⟩ | ⟨k, e, hno, hreport, hcause⟩
  · refine ⟨⟨?_, ?_⟩, ?_, ?_, ?_⟩
    · intro _
      exact ⟨hviewport, hall⟩
    · intro _
      exact hyes
    · intro _
      exact hreport
    · intro hempty
      exact absurd hempty (not_or.mpr hviewport)
    · intro _ k hk hmisfit
      exact absurd (hall k hk) hmisfit
  · have hdropped : ¬ c.render.1 = true := Bool.eq_false_iff.mp hno
    rcases hcause with ⟨hempty, rfl, rfl⟩ | ⟨hviewport, hk, hmisfit, hbefore⟩
    · refine ⟨⟨?_, ?_⟩, ?_, ?_, ?_⟩
      · intro hshown
        exact absurd hshown hdropped
      · rintro ⟨hviewport, _⟩
        exact absurd hempty (not_or.mpr hviewport)
      · intro hshown
        exact absurd hshown hdropped
      · intro _
        exact hreport
      · intro hviewport
        exact absurd hempty (not_or.mpr hviewport)
    · refine ⟨⟨?_, ?_⟩, ?_, ?_, ?_⟩
      · intro hshown
        exact absurd hshown hdropped
      · rintro ⟨_, hall⟩
        exact absurd (hall k hk) hmisfit
      · intro hshown
        exact absurd hshown hdropped
      · intro hempty
        exact absurd hempty (not_or.mpr hviewport)
      intro _ j hj hjmisfit hjbefore
      -- no pass but the first that does not fit has only fitting ones before it
      have hjk : j = k := by
        rcases Nat.lt_trichotomy j k with hlt | heq | hlt
        · exact absurd (hbefore j hlt) hjmisfit
        · exact heq
        · exact absurd (hjbefore k hlt) hmisfit
      subst hjk
      exact ⟨e, hreport⟩

theorem recovers_on_first_frame :
    ∃ c₀, Chain.build ({} : Recorder) .empty .twoStock {} = .ok c₀ ∧
      let s := (Session.start c₀).run HostCall.firstFrame
      let c := s.chain
      let fits := TargetFits Preset.twoStock.targetRules false c.device.maxDimension
        s.lastAccepted c.viewport.size
      c.pending = true ∧ c.device.allocationFaults = [] ∧ c.device.uploadFaults = [] ∧
        (c.render.1 = true ↔ (c.viewport.width ≠ 0 ∧ c.viewport.height ≠ 0) ∧
          ∀ i, i + 1 < 2 → fits i) ∧
        c.render.2.report = some ⟨2, .presented⟩ := by
  obtain ⟨c₀, hbuild, hpending, hallocations, huploads, hyes⟩ := Session.first_frame_shown
  obtain ⟨hiff, hshown, _⟩ := recovers (.fresh 8192) rfl hbuild HostCall.firstFrame hpending
    hallocations huploads
  exact ⟨c₀, hbuild, hpending, hallocations, huploads, hiff, hshown hyes⟩

end PassChain
