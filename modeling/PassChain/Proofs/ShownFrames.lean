import PassChain.Proofs.Naming

/-! What every frame consists of that a chain shows: where its passes draw, and what they draw
from. -/
namespace PassChain

open Recorder

/-- Draw `i` of a frame of size `accepted`, one of these `draws`, that `c` has drawn, and so become
`c'`. What its program names as its source is the input frame, or the picture that the draw before
has just left in the target of its own pass. -/
structure RecordedDraw.FollowsPass (draw : RecordedDraw) (files : FileSystem) (preset : Preset)
    (settings : ChainSettings) (accepted : Size) (c c' : Chain Recorder)
    (draws : List RecordedDraw) (i : Nat) : Prop
    extends draw.Lands preset settings accepted c c' i where
  source : ∃ pass program picture, preset.Runs files i pass program ∧
    draw.Reads program .source picture ∧
    (i = 0 → picture = ⟨c.pool.history.current.texture, accepted, settings.maxInput⟩) ∧
    ∀ j, i = j + 1 → ∃ before t, draws[j]? = some before ∧
      before.destination = .texture t.texture ∧ c'.pool.target? j = some t ∧ picture = t.state

variable {device : Recorder} {files : FileSystem} {preset : Preset} {settings : ChainSettings}
  {c₀ : Chain Recorder}

/-- What is drawn from in a frame that is shown. -/
theorem Session.shown_source (hdevice : device.Reachable)
    (hbuild : Chain.build device files preset settings = .ok c₀)
    (calls : List (HostCall Recorder)) :
    let s := (start c₀).run calls
    let c := s.chain
    let pictures := s.pictures (fun i => (c₀.pool.history.slotAt i).texture) settings.maxInput
      c.render.2.device c.drawing.device.pending
    c.pending = true → c.render.1 = true → ∀ i < preset.passes.length, pictures.source? i =
      some (c.drawing.pool.source c.pool.history.frameTextures.orig i) := by
  intro s c pictures hpending hyes i hi
  obtain ⟨hfrom, hcontinues, hs, _⟩ := run_built hdevice hbuild calls
  obtain ⟨hidle, hzero⟩ := Chain.build_idle hbuild
  obtain ⟨hlength, hkept⟩ := Chain.drawing_of_shown hs hpending hyes
  have hcount : c.passes.length = preset.passes.length :=
    hcontinues.length_passes.trans hfrom.count
  have hdrawn : c.drawing.drawn = c.passes.length := c.drawing_draws.1.symm.trans hlength
  have houtput (d : RecordedDraw) : d.output? c.render.2.device = d.output? c.drawing.device :=
    d.output?_of_textures hkept
  have hpictures : pictures = ⟨c.pool.history.frameTextures.orig,
      c.pool.history.frameTextures.history,
      c.drawing.device.pending.filterMap (·.output? c.drawing.device)⟩ := by
    rw [(run_frameTextures hfrom hidle hzero calls hpending).2]
    simp only [pictures, Session.pictures, houtput]
    rfl
  rw [hpictures]
  exact Chain.drawing_source_pictures (c := c) hs (by omega) (by omega) _

/-- The draws of a frame that is shown are those that have been made of the waiting frame. -/
theorem Chain.shown_draws {c : Chain Recorder} (hpending : c.pending = true)
    (hyes : c.render.1 = true) {draws : List RecordedDraw}
    (hframes : c.render.2.device.frames = c.device.frames ++ [draws]) :
    draws = c.drawing.device.pending := by
  rw [frames_render, if_pos ⟨hpending, hyes⟩] at hframes
  exact (List.singleton_inj.mp (List.append_cancel_left hframes)).symm

/-- Whatever a chain has been through, a frame that it shows consists of one draw for each pass, in
order: all but the last fill the targets of their passes, in the sizes that the rules lead to from
the size of the frame, each from the picture drawn just before; the last one fills the viewport. -/
theorem shown_frame_follows_passes (hdevice : device.Reachable)
    (hbuild : Chain.build device files preset settings = .ok c₀)
    (calls : List (HostCall Recorder)) :
    let s := (Session.start c₀).run calls
    let c := s.chain
    c.pending = true → c.render.1 = true →
      ∃ draws, c.render.2.device.frames = c.device.frames ++ [draws] ∧
        draws.length = preset.passes.length ∧
        ∀ (i : Nat) (draw : RecordedDraw), draws[i]? = some draw →
          draw.FollowsPass files preset settings s.lastAccepted c c.render.2 draws i := by
  intro s c hpending hyes
  obtain ⟨draws, hframes, hlength, hreads⟩ :=
    Session.shown_reads hdevice hbuild calls hpending hyes
  have hlands := Session.shown_lands hdevice hbuild calls hpending hyes
  have hsource := Session.shown_source hdevice hbuild calls hpending hyes
  obtain ⟨hrender, _⟩ := Chain.render_shown hpending hyes
  have hcurrent := Session.run_waiting (Session.start_waiting (Chain.build_idle hbuild).1) calls
    hpending
  obtain ⟨hfrom, hcontinues, _⟩ := Session.run_built hdevice hbuild calls
  refine ⟨draws, hframes, hlength, fun i draw hdraw => ?_⟩
  obtain ⟨pass, program, hruns, hpictures⟩ := hreads i draw hdraw
  have hi : i < preset.passes.length := hlength ▸ (List.getElem?_eq_some_iff.mp hdraw).1
  obtain rfl := Chain.shown_draws hpending hyes hframes
  refine ⟨hlands i draw hdraw, pass, program, _, hruns, hpictures .source _ (hsource i hi), ?_, ?_⟩
  · intro hfirst
    rw [hfirst, ← hcurrent, ← hfrom.texel, ← hcontinues.texel]
    rfl
  · intro j hj
    obtain ⟨before, hbefore⟩ : ∃ before, c.drawing.device.pending[j]? = some before :=
      ⟨_, List.getElem?_eq_getElem (by omega)⟩
    obtain ⟨_, _, t, _, _, ht⟩ := (hlands j before hbefore).inner (by omega)
    have htarget : c.drawing.pool.target? j = some t :=
      (congrArg (·.pool.target? j) hrender).symm.trans ht.target
    rw [hj]
    exact ⟨before, t, hbefore, ht.destination, ht.target, TexturePool.source_succ htarget⟩

theorem first_frame_follows_passes :
    ∃ c₀, Chain.build ({} : Recorder) .empty .twoStock {} = .ok c₀ ∧
      let s := (Session.start c₀).run HostCall.firstFrame
      let c := s.chain
      c.pending = true ∧ c.render.1 = true ∧
        ∃ draws, c.render.2.device.frames = c.device.frames ++ [draws] ∧ draws.length = 2 ∧
          ∀ (i : Nat) (draw : RecordedDraw), draws[i]? = some draw →
            draw.FollowsPass .empty .twoStock {} s.lastAccepted c c.render.2 draws i := by
  obtain ⟨c₀, hbuild, hpending, _, _, hyes⟩ := Session.first_frame_shown
  exact ⟨c₀, hbuild, hpending, hyes,
    shown_frame_follows_passes (.fresh 8192) hbuild HostCall.firstFrame hpending hyes⟩

end PassChain
