import PassChain.Proofs.Recovery

/-! Where the draws of a frame go that a chain shows. -/
namespace PassChain

open Recorder

/-- A draw that fills the target of pass `i`, which holds a picture of this format and size. -/
structure RecordedDraw.FillsTarget (draw : RecordedDraw) (c : Chain Recorder) (i : Nat)
    (pow2 : Bool) (format : TexelFormat) (size : Size) (t : RenderTarget) : Prop where
  target : c.pool.target? i = some t
  alive : c.device.texture? t.texture = some ⟨s!"pass{i}-target", t.texel, format, true⟩
  destination : draw.destination = .texture t.texture
  viewport : draw.viewport = ⟨0, 0, size.width, size.height⟩
  logical : t.logical = size
  format : t.format = format
  texelWidth : t.texel.width.toNat = allocatedEdge pow2 size.width
  texelHeight : t.texel.height.toNat = allocatedEdge pow2 size.height

/-- Where draw `i` of a frame of size `accepted` goes that `c` has drawn, and so become `c'`. -/
structure RecordedDraw.Lands (draw : RecordedDraw) (preset : Preset) (settings : ChainSettings)
    (accepted : Size) (c c' : Chain Recorder) (i : Nat) : Prop where
  pass : draw.pass = i
  last : i + 1 = preset.passes.length →
    draw.destination = .backbuffer ∧ draw.viewport = c.viewport.rect
  inner : i + 1 < preset.passes.length → ∃ pass size t, preset.passes[i]? = some pass ∧
    ScaleRules.resolveAll (preset.targetRules.take (i + 1)) accepted c.viewport.size = .ok size ∧
    draw.FillsTarget c' i settings.pow2Targets pass.format size t

namespace Chain

variable {c : Chain Recorder}

/-- A target that a pass has been drawn into is made to measure. -/
theorem fillsTarget_of_drawn (h : c.Sound) {i : Nat} {pass : CompiledPass} {draw : RecordedDraw}
    {size : Size} {canvas : Canvas} (hlast : i + 1 < c.passes.length)
    (hdrawn : DrawnPass c.refreshTracked.inputs c.pool.history.frameTextures c.drawing.pool
      c.passes.length i pass draw size canvas) :
    ∃ t, draw.FillsTarget (c.presented c.drawing) i c.pool.pow2 pass.format size t := by
  obtain ⟨label, uniforms, vertices, rfl⟩ := hdrawn.draw
  obtain ⟨_, t, clear, ht, rfl, hformat, rfl⟩ := hdrawn.inner hlast
  obtain ⟨halive, htexel, _⟩ := (drawing_alive h).1.targets i t ht
  obtain ⟨hwidth, hheight⟩ := TexturePool.texelSize?_eq_some.mp htexel
  rw [c.drawing_moves.1.pow2] at hwidth hheight
  rw [hformat] at halive
  exact ⟨t, ht, halive, rfl, rfl, rfl, hformat, hwidth, hheight⟩

end Chain

variable {device : Recorder} {files : FileSystem} {preset : Preset} {settings : ChainSettings}
  {c₀ : Chain Recorder}

/-- Whatever a chain has been through, each draw of a frame that it shows goes where its pass goes:
all but the last one fill the targets of their passes, in the sizes that the rules lead to from the
size of the frame, and the last one fills the viewport. -/
theorem Session.shown_lands (hdevice : device.Reachable)
    (hbuild : Chain.build device files preset settings = .ok c₀)
    (calls : List (HostCall Recorder)) :
    let s := (start c₀).run calls
    let c := s.chain
    c.pending = true → c.render.1 = true → ∀ (i : Nat) (draw : RecordedDraw),
      c.drawing.device.pending[i]? = some draw →
        draw.Lands preset settings s.lastAccepted c c.render.2 i := by
  intro s c hpending hyes i draw hdraw
  have hfrom := Chain.build_builtFrom hbuild
  have hsound := (Chain.build_grows (Recorder.issued_reachable hdevice) hbuild).2
  have hcontinues : c₀.Continues c := (start c₀).run_continues calls
  have hs : c.Sound := run_sound hsound calls
  have hcurrent := run_waiting (start_waiting (Chain.build_idle hbuild).1) calls hpending
  have hcount : c.passes.length = preset.passes.length :=
    hcontinues.length_passes.trans hfrom.count
  obtain ⟨hrender, hfail⟩ := Chain.render_shown hpending hyes
  obtain ⟨hlen, hdraws⟩ := c.drawing_draws
  have hdrawn := (Chain.drawing_drawn hs.passes_ne_nil).1 hfail
  have hi : i < c.passes.length := by
    rw [← hdrawn, ← hlen]
    exact (List.getElem?_eq_some_iff.mp hdraw).1
  obtain ⟨p, hp⟩ : ∃ p, c.passes[i]? = some p := ⟨_, List.getElem?_eq_getElem hi⟩
  obtain ⟨size, canvas, h⟩ := hdraws i p draw hp hdraw
  rw [hrender]
  refine ⟨?_, ?_, ?_⟩
  · obtain ⟨_, _, _, rfl⟩ := h.draw
    rfl
  · intro hlast
    obtain ⟨_, _, _, rfl⟩ := h.draw
    obtain ⟨_, rfl⟩ := h.last (by omega)
    refine ⟨rfl, ?_⟩
    show c.refreshTracked.inputs.viewport.rect = c.viewport.rect
    rw [c.viewport_inputs]
  · intro hinner
    obtain ⟨pass, hpass⟩ : ∃ pass, preset.passes[i]? = some pass :=
      ⟨_, List.getElem?_eq_getElem (by omega)⟩
    obtain ⟨q, hq, hplan⟩ := hcontinues.plan hp
    obtain ⟨l, hl, hcompiled⟩ := hfrom.passes i pass q hpass hq
    obtain ⟨t, ht⟩ := Chain.fillsTarget_of_drawn hs (by omega) h
    have htarget : c.drawing.pool.target? i = some t := ht.target
    have hsize := c.drawing_source (j := i + 1) (by omega) (by omega)
    rw [hcontinues.scales, hfrom.take_scales hinner, hcurrent,
      TexturePool.source_succ htarget] at hsize
    rw [hcontinues.pow2, hfrom.pow2, CompiledPass.format_of_plan hplan, hcompiled.format,
      hl.format] at ht
    exact ⟨pass, size, t, hpass, ht.logical ▸ hsize, ht⟩

end PassChain
