import PassChain.Proofs.DeviceMaps
import PassChain.Proofs.Naming

/-! Programs find the frames before the one that is drawn, as they were shown. -/
namespace PassChain

open Recorder

/-- What the names of the seven frames before mean. -/
theorem Session.denoted_prev {δ : Type} {s : Session δ} {slot : Nat → TextureId} {texel : Size}
    {r : Recorder} {draws : List RecordedDraw} {lookups : List LookupTexture} {i k : Nat}
    (hk : k < 7) : (s.pictures slot texel r draws).denoted? lookups i (.prev k) =
      some ⟨slot (s.shown.length + 7 - k),
        if k < s.shown.length then s.shown.getD (s.shown.length - 1 - k) ⟨0, 0⟩ else ⟨0, 0⟩,
        texel⟩ := by
  have hrange : (List.range previousFrames)[k]? = some k := List.getElem?_range hk
  simp only [FramePictures.denoted?, pictures, earlier, List.getElem?_map, hrange]
  rfl

variable {files : FileSystem} {preset : Preset} {settings : ChainSettings}

/-- The slot that received a frame is not touched again before its turn comes round. -/
theorem Session.run_leaves_earlier {δ : Type} [GpuDevice δ] [Adjustable δ] [FreshTextures δ]
    {c₀ : Chain (Watched δ)}
    (hfrom : BuiltFrom (Watched δ) files preset settings c₀.pool c₀.passes)
    (hidle : c₀.pending = false) (hcount : c₀.frameCount = 0)
    (before after : List (HostCall (Watched δ))) :
    let s := (start c₀).run before
    let c := (s.run after).chain
    let n := (s.run after).shown.length
    ∀ k < 7, n ≤ s.shown.length + k → Watched.TouchedOnly
      (· ≠ (c₀.pool.history.slotAt (n + 7 - k)).texture) s.chain.device c.render.2.device := by
  intro s c n k hk hsince
  have hwaiting := start_waiting hidle
  have hring : s.RingHolds := run_ringHolds hwaiting (start_ringHolds hfrom hcount) before
  have hafter := run_ringHolds (run_waiting hwaiting before) hring after
  obtain ⟨_, htouched⟩ := run_touchedInTurn (run_waiting hwaiting before) hring after
  refine (htouched.mono ?_).trans (c.render_untouched.mono fun _ => False.elim)
  rintro _ ⟨j, hj, hj', rfl⟩ hsame
  have hj : s.shown.length ≤ j := hring.count.symm.trans_le hj
  have hj' : j ≤ n := hj'.trans_eq hafter.count
  rw [((start c₀).run_continues before).texture_slotAt] at hsame
  have hmod := hfrom.texture_slotAt_inj hsame
  simp only [historySlots] at hmod
  omega

variable {device : Watched Recorder} {c₀ : Chain (Watched Recorder)}

/-- When frame `n` is shown, what a program names as the input frame is slot `n`, and what it names
as the frames before are the slots that received those, with the sizes they had; none of these slots
has been touched since its frame was shown. Before that many frames have been shown, the slots have
no size. No slot comes up twice. -/
theorem earlier_frames_stay_in_place (hdevice : device.inner.Reachable)
    (hbuild : Chain.build device files preset settings = .ok c₀)
    (calls : List (HostCall (Watched Recorder))) :
    let s := (Session.start c₀).run calls
    let c := s.chain
    let n := s.shown.length
    let slot (i : Nat) : TextureId := (c₀.pool.history.slotAt i).texture
    let orig : TextureState := ⟨slot n, s.lastAccepted, settings.maxInput⟩
    let prev (k : Nat) : TextureState := ⟨slot (n + 7 - k),
      if k < n then s.shown.getD (n - 1 - k) ⟨0, 0⟩ else ⟨0, 0⟩, settings.maxInput⟩
    ((orig :: (List.range 7).map prev).map (·.texture)).Nodup ∧
    (∀ k < 7, ∀ before after, calls = before ++ after →
      n ≤ ((Session.start c₀).run before).shown.length + k →
        Watched.TouchedOnly (· ≠ (prev k).texture)
          ((Session.start c₀).run before).chain.device c.render.2.device) ∧
    (c.pending = true → c.render.1 = true →
      ∃ draws, c.render.2.device.inner.frames = c.device.inner.frames ++ [draws] ∧
        draws.length = preset.passes.length ∧
        ∀ (i : Nat) (draw : RecordedDraw), draws[i]? = some draw →
          ∃ pass program, preset.Runs files i pass program ∧
            draw.Reads program .orig orig ∧ ∀ k < 7, draw.Reads program (.prev k) (prev k)) := by
  intro s c n slot orig prev
  have hfrom := Chain.build_builtFrom hbuild
  obtain ⟨hidle, hcount⟩ := Chain.build_idle hbuild
  refine ⟨?_, ?_, ?_⟩
  · have hnodup := hfrom.textures_nodup n
    rw [List.map_cons, List.map_map] at hnodup ⊢
    exact hnodup
  · intro k hk before after hcalls hsince
    have hleft := Session.run_leaves_earlier hfrom hidle hcount before after k hk
    rw [← Session.run_append, ← hcalls] at hleft
    exact hleft hsince
  · intro hpending hyes
    -- the recorder inside does the same without its observer
    obtain ⟨hinner, hrun, hrender⟩ := Session.render_run_through Observed.inside hbuild calls
    have hreads := Session.shown_reads hdevice hinner (calls.map (·.through Observed.inside))
    simp only [hrender] at hreads
    simp only [hrun] at hreads
    obtain ⟨draws, hframes, hlength, hdraws⟩ := hreads hpending hyes
    refine ⟨draws, hframes, hlength, fun i draw hdraw => ?_⟩
    obtain ⟨pass, program, hruns, hpictures⟩ := hdraws i draw hdraw
    exact ⟨pass, program, hruns, hpictures .orig orig rfl,
      fun k hk => hpictures (.prev k) (prev k) (Session.denoted_prev hk)⟩

/-- A pass whose program blends the frame with the two before it. -/
def Preset.ghosting : Preset :=
  { passes := [{ shader := .builtin "ghosting" }] }

set_option maxRecDepth 100000 in
theorem Program.names_ghosting : ∃ p, ofText "builtin:ghosting" Wgsl.Bundled.ghosting = .ok p ∧
    p.textures.map (·.name) = ["source", "prev", "prev1"] :=
  interface_ofText rfl (by decide +kernel)

theorem Preset.ghosting_runsOnly : ∃ program,
    ghosting.RunsOnly .empty { shader := .builtin "ghosting" } program ∧
      program.textures.map (·.name) = ["source", "prev", "prev1"] := by
  obtain ⟨p, hp, hnames⟩ := Program.names_ghosting
  have htext : Wgsl.Bundled.text? "ghosting" = some Wgsl.Bundled.ghosting := rfl
  have hrules (last : Bool) :
      (Pass.scaleRules { shader := .builtin "ghosting" } last).validate = .ok () := by
    cases last <;> rfl
  exact ⟨p, ⟨rfl, rfl, rfl, hrules, _, _, Pass.programText_of_builtin rfl htext .empty, hp⟩,
    hnames⟩

theorem HostCall.pixels_through {δ δ' : Type} [GpuDevice δ] [GpuDevice δ'] [Adjustable δ]
    [Adjustable δ'] (m : HostMap δ δ') (n : Nat) : (pixels n).map (·.through m) = pixels n := by
  induction n with
  | zero => rfl
  | succ n ih =>
    rw [pixels, List.map_append, ih]
    rfl

/-- Pixels are shown as well under the eyes of an observer. -/
theorem Session.run_pixels_observed {ν : Type} [Observer ν] [Unobtrusive ν] (notes : ν)
    (hpreset : preset.Loads .empty {}) (hcount : preset.passes.length = 1) :
    ∃ c₀, Chain.build (⟨{}, notes⟩ : Observed ν Recorder) .empty preset {} = .ok c₀ ∧ ∀ n,
      let s := (start c₀).run (HostCall.pixels n)
      s.chain.pending = true ∧ s.chain.render.1 = true ∧ s.shown = .replicate n ⟨1, 1⟩ := by
  obtain ⟨c, hinner, hpixels⟩ := run_pixels hpreset hcount
  have hunobserved : Chain.build (Observed.unobserved.map (⟨{}, notes⟩ : Observed ν Recorder))
    .empty preset {} = .ok c := hinner
  obtain ⟨c₀, hbuild, rfl⟩ := (Chain.build_through _).mp hunobserved
  refine ⟨c₀, hbuild, fun n => ?_⟩
  obtain ⟨hpending, hyes, hshown⟩ := hpixels n
  have hrun : ((start c₀).run (HostCall.pixels n)).through Observed.inside =
      (start (c₀.through Observed.inner)).run (HostCall.pixels n) := by
    rw [run_through, HostCall.pixels_through]
    rfl
  have hrender :=
    Chain.render_through Observed.unobserved ((start c₀).run (HostCall.pixels n)).chain
  refine ⟨(congrArg (·.chain.pending) hrun).trans hpending, ?_,
    (congrArg (·.shown) hrun).trans hshown⟩
  exact (congrArg (·.1) hrender).symm.trans ((congrArg (·.chain.render.1) hrun).trans hyes)

/-- The third of three pixels is blended with the second one, which was received by slot 1, and the
first one, in slot 0. -/
theorem third_pixel_sees_two_before :
    ∃ c₀, Chain.build (⟨{}, {}⟩ : Watched Recorder) .empty .ghosting {} = .ok c₀ ∧
      let s (n : Nat) := (Session.start c₀).run (HostCall.pixels n)
      let c := (s 2).chain
      let slot (i : Nat) : TextureId := (c₀.pool.history.slotAt i).texture
      c.pending = true ∧ c.render.1 = true ∧ (s 2).shown = [⟨1, 1⟩, ⟨1, 1⟩] ∧
        [slot 2, slot 1, slot 0, slot 7, slot 6, slot 5, slot 4, slot 3].Nodup ∧
        Watched.TouchedOnly (· ≠ slot 1) ((s 1).step .render).chain.device c.render.2.device ∧
        Watched.TouchedOnly (· ≠ slot 0) ((s 0).step .render).chain.device c.render.2.device ∧
        ∃ draw program, c.render.2.device.inner.frames = c.device.inner.frames ++ [[draw]] ∧
          program.textures.map (·.name) = ["source", "prev", "prev1"] ∧
          draw.Reads program (.prev 0) ⟨slot 1, ⟨1, 1⟩, ⟨1024, 1024⟩⟩ ∧
          draw.Reads program (.prev 1) ⟨slot 0, ⟨1, 1⟩, ⟨1024, 1024⟩⟩ ∧
          (draw.textures.map (·.texture))[1]? = some (slot 1) ∧
          (draw.textures.map (·.texture))[2]? = some (slot 0) := by
  obtain ⟨p, honly, hnames⟩ := Preset.ghosting_runsOnly
  obtain ⟨c₀, hbuild, hpixels⟩ := Session.run_pixels_observed ({} : Touches) honly.loads rfl
  refine ⟨c₀, hbuild, ?_⟩
  intro s c slot
  obtain ⟨hpending, hyes, hshown⟩ := hpixels 2
  have hrun (n : Nat) : (Session.start c₀).run (HostCall.pixels n ++ [.render]) =
      (s n).step .render := Session.run_append _ _ _
  have hbefore (n : Nat) : ((s n).step .render).shown.length = n + 1 := by
    obtain ⟨_, _, hnext⟩ := hpixels (n + 1)
    rw [HostCall.pixels, Session.run_append] at hnext
    have hsame := (Session.shown_submit ((s n).step .render) .pixel).symm.trans hnext
    rw [hsame, List.length_replicate]
  obtain ⟨hnodup, huntouched, hframe⟩ :=
    earlier_frames_stay_in_place (.fresh 8192) hbuild (HostCall.pixels 2)
  obtain ⟨draws, hframes, hcount, hdraws⟩ := hframe hpending hyes
  obtain ⟨draw, rfl⟩ := List.length_eq_one_iff.mp hcount
  obtain ⟨pass, program, hruns, _, hprev⟩ := hdraws 0 draw rfl
  obtain ⟨_, rfl⟩ := honly.runs_eq hruns
  rw [hshown] at hnodup huntouched hprev
  have hlast : draw.Reads program (.prev 0) ⟨slot 1, ⟨1, 1⟩, ⟨1024, 1024⟩⟩ := hprev 0 (by decide)
  have hfirst : draw.Reads program (.prev 1) ⟨slot 0, ⟨1, 1⟩, ⟨1024, 1024⟩⟩ := hprev 1 (by decide)
  have hnames₁ : (program.textures.map (·.name))[1]? = some "prev" := by rw [hnames]; rfl
  have hnames₂ : (program.textures.map (·.name))[2]? = some "prev1" := by rw [hnames]; rfl
  refine ⟨hpending, hyes, hshown, hnodup, ?_, ?_, draw, program, hframes, hnames, hlast, hfirst,
    hlast.texture hnames₁ (by decide), hfirst.texture hnames₂ (by decide)⟩
  · have hsince := huntouched 0 (by decide) (HostCall.pixels 1 ++ [.render])
      [.submit .pixel, .setViewport { width := 1, height := 1 }] rfl
    rw [hrun, hbefore] at hsince
    exact hsince (by decide)
  · have hsince := huntouched 1 (by decide) (HostCall.pixels 0 ++ [.render])
      ([.submit .pixel, .setViewport { width := 1, height := 1 }] ++
        [.render, .submit .pixel, .setViewport { width := 1, height := 1 }]) rfl
    rw [hrun, hbefore] at hsince
    exact hsince (by decide)

end PassChain
