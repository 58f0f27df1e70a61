import PassChain.Proofs.BufferUpkeep
import PassChain.Proofs.FrameLaw
import PassChain.Proofs.HistoryRing

/-! The pictures that the draws of a frame can sample, told from the frame's own draws. -/
namespace PassChain

open Recorder

/-- The picture that a draw leaves in a texture, as later draws sample it. -/
def RecordedDraw.output? (d : RecordedDraw) (r : Recorder) : Option TextureState :=
  match d.destination with
  | .backbuffer => none
  | .texture id => (r.texture? id).map fun desc => ⟨id, d.size, desc.size⟩

/-- The input frame, those shown before it, the last one first, and what its passes draw. -/
structure FramePictures where
  input : TextureState
  earlier : List TextureState
  outputs : List TextureState

/-- What pass `i` draws from. -/
def FramePictures.source? (p : FramePictures) : Nat → Option TextureState
  | 0 => some p.input
  | i + 1 => p.outputs[i]?

namespace Chain

variable {c : Chain Recorder}

/-- What the target of a pass holds is what the pass has drawn. -/
theorem output_of_drawn (h : c.Sound) {i : Nat} (hlast : i + 1 < c.passes.length)
    {draw : RecordedDraw} (hdraw : c.drawing.device.pending[i]? = some draw) :
    ∃ t, c.drawing.pool.target? i = some t ∧ draw.output? c.drawing.device = some t.state := by
  obtain ⟨pass, hpass⟩ : ∃ pass, c.passes[i]? = some pass :=
    ⟨_, List.getElem?_eq_getElem (Nat.lt_of_succ_lt hlast)⟩
  obtain ⟨size, canvas, hdrawn⟩ := c.drawing_draws.2 i pass draw hpass hdraw
  obtain ⟨t, ht⟩ := fillsTarget_of_drawn h hlast hdrawn
  have halive : c.drawing.device.texture? t.texture = _ := ht.alive
  refine ⟨t, ht.target, ?_⟩
  simp [RecordedDraw.output?, ht.destination, halive, RecordedDraw.size, ht.viewport, ht.logical,
    RenderTarget.state]

/-- What pass `i` can sample of its frame is what the draws before it have left. -/
theorem drawing_outputs (h : c.Sound) {i : Nat} (hdrawn : i ≤ c.drawing.drawn)
    (hpass : i < c.passes.length) :
    c.drawing.pool.outputs i =
        (c.drawing.device.pending.filterMap (·.output? c.drawing.device)).take i ∧
      (c.drawing.pool.outputs i).length = i := by
  have hcount := c.drawing_draws.1
  have htake : c.drawing.pool.outputs i =
      (c.drawing.device.pending.take i).filterMap (·.output? c.drawing.device) ∧
        (c.drawing.pool.outputs i).length = i := by
    induction i with
    | zero => exact ⟨rfl, rfl⟩
    | succ i ih =>
      obtain ⟨hbefore, hlength⟩ := ih (by omega) (by omega)
      obtain ⟨draw, hdraw⟩ : ∃ draw, c.drawing.device.pending[i]? = some draw :=
        ⟨_, List.getElem?_eq_getElem (by omega)⟩
      obtain ⟨t, ht, hout⟩ := output_of_drawn h hpass hdraw
      rw [TexturePool.outputs_succ ht, List.take_add_one, hdraw, Option.toList_some,
        List.filterMap_append, ← hbefore]
      simp [hout, hlength]
  obtain ⟨houtputs, hlength⟩ := htake
  refine ⟨?_, hlength⟩
  conv_rhs => rw [← List.take_append_drop i c.drawing.device.pending, List.filterMap_append,
    ← houtputs, List.take_left' hlength]

/-- Each pass draws from the input frame or from what the draw before it has left. -/
theorem drawing_source_pictures (h : c.Sound) {i : Nat} (hdrawn : i ≤ c.drawing.drawn)
    (hpass : i < c.passes.length) (earlier : List TextureState) :
    FramePictures.source? ⟨c.pool.history.frameTextures.orig, earlier,
        c.drawing.device.pending.filterMap (·.output? c.drawing.device)⟩ i =
      some (c.drawing.pool.source c.pool.history.frameTextures.orig i) := by
  cases i with
  | zero => rfl
  | succ i =>
    obtain ⟨houtputs, _⟩ := drawing_outputs h hdrawn hpass
    obtain ⟨_, hlength⟩ := drawing_outputs h (Nat.le_of_succ_le hdrawn) (Nat.lt_of_succ_lt hpass)
    obtain ⟨draw, hdraw⟩ : ∃ draw, c.drawing.device.pending[i]? = some draw :=
      ⟨_, List.getElem?_eq_getElem (by rw [c.drawing_draws.1]; omega)⟩
    obtain ⟨t, ht, _⟩ := output_of_drawn h hpass hdraw
    rw [TexturePool.outputs_succ ht] at houtputs
    have hlast := congrArg (·[i]?) houtputs
    simp only [List.getElem?_take_of_lt (Nat.lt_succ_self i)] at hlast
    rw [TexturePool.source_succ ht, FramePictures.source?, ← hlast,
      List.getElem?_append_right (by omega), hlength, Nat.sub_self]
    rfl

end Chain

/-- A pass of a preset, by its place, and the interface of its program. -/
structure Preset.Runs (preset : Preset) (files : FileSystem) (i : Nat) (pass : Pass)
    (program : Program) : Prop where
  place : preset.passes[i]? = some pass
  interface : ∃ label text, pass.programText files = .ok (label, text) ∧
    Program.ofText label text = .ok program

theorem Preset.Runs.program_eq {preset : Preset} {files : FileSystem} {i : Nat} {pass : Pass}
    {program p : Program} {label text : String} (h : preset.Runs files i pass program)
    (htext : pass.programText files = .ok (label, text)) (hp : Program.ofText label text = .ok p) :
    program = p := by
  obtain ⟨_, _, htext', hprogram⟩ := h.interface
  obtain ⟨rfl, rfl⟩ := Prod.mk.inj (Except.ok.inj (htext'.symm.trans htext))
  exact Except.ok.inj (hprogram.symm.trans hp)

/-- The only pass of a preset, by rules that are in order, and the interface of its program. -/
structure Preset.RunsOnly (preset : Preset) (files : FileSystem) (pass : Pass)
    (program : Program) : Prop where
  valid : preset.validate = .ok ()
  lookups : preset.lookups = []
  passes : preset.passes = [pass]
  rules : ∀ last, (pass.scaleRules last).validate = .ok ()
  interface : ∃ label text, pass.programText files = .ok (label, text) ∧
    Program.ofText label text = .ok program

namespace Preset.RunsOnly

variable {preset : Preset} {files : FileSystem} {pass : Pass} {program : Program}

theorem loads (h : preset.RunsOnly files pass program) : preset.Loads files {} := by
  have hcount : 1 ≤ ChainSettings.maxPasses {} := by decide
  refine ⟨h.valid, ?_, h.lookups, fun p hp => ?_⟩
  · rw [h.passes]
    exact hcount
  · rw [h.passes] at hp
    obtain rfl := List.mem_singleton.mp hp
    obtain ⟨label, text, htext, hprogram⟩ := h.interface
    exact ⟨⟨label, text, htext, program, hprogram⟩, h.rules⟩

theorem runs_eq (h : preset.RunsOnly files pass program) {i : Nat} {pass' : Pass}
    {program' : Program} (hruns : preset.Runs files i pass' program') :
    pass' = pass ∧ program' = program := by
  have hmem := List.mem_of_getElem? hruns.place
  rw [h.passes] at hmem
  obtain rfl := List.mem_singleton.mp hmem
  obtain ⟨_, _, htext, hprogram⟩ := h.interface
  exact ⟨rfl, hruns.program_eq htext hprogram⟩

end Preset.RunsOnly

/-- The sampler of a pass. -/
def Pass.sampler (pass : Pass) (settings : ChainSettings) : Sampler :=
  .resolve pass.filter pass.wrap settings.smooth

/-- What is known of a chain when its passes are tied to their sources. -/
def Preset.bindContext (preset : Preset) (settings : ChainSettings)
    (lookups : List LookupTexture) : BindContext :=
  ⟨lookups, preset.vars.map (·.id), settings.smooth⟩

/-- The sources of the pass at `i`. -/
def Pass.table (pass : Pass) (program : Program) (i : Nat) (settings : ChainSettings)
    (context : BindContext) : BindingTable :=
  .ofProgram program i pass.frameCountMod (pass.sampler settings) context

theorem BuiltFrom.runs {δ : Type} [GpuDevice δ] {files : FileSystem} {preset : Preset}
    {settings : ChainSettings} {pool : TexturePool} {passes : List CompiledPass}
    (h : BuiltFrom δ files preset settings pool passes) {i : Nat} {p : CompiledPass}
    (hp : passes[i]? = some p) :
    ∃ pass program, preset.Runs files i pass program ∧
      p.table = pass.table program i settings (preset.bindContext settings pool.lookups) ∧
      p.geometry.align = settings.texelAlignment := by
  obtain ⟨pass, hpass⟩ : ∃ pass, preset.passes[i]? = some pass := by
    refine ⟨_, List.getElem?_eq_getElem ?_⟩
    rw [← h.count]
    exact (List.getElem?_eq_some_iff.mp hp).1
  obtain ⟨l, hl, hcompiled⟩ := h.passes i pass p hpass hp
  obtain ⟨text, htext, hprogram⟩ := hl.program
  refine ⟨pass, l.program, ⟨hpass, l.label, text, htext, hprogram⟩, ?_, ?_⟩
  · rw [hcompiled.table, hl.frameCountMod, hl.sampler]
    rfl
  · rw [hcompiled.geometry]

/-- A draw with the textures and buffer contents of a pass that is handed `params`. -/
structure RecordedDraw.Made (draw : RecordedDraw) (table : BindingTable) (params : FrameParams)
    (align : Bool) : Prop where
  textures : draw.textures = table.bindings params
  uniforms : draw.uniforms = table.write params (List.replicate table.uniformSize 0)
  vertices : draw.vertices = (Quad.build params.source.content params.source.allocated
    params.outputSize align).toBytes

/-- The size that a pass was drawn in is that of its draw. -/
theorem DrawnPass.size_eq {inputs : FrameInputs} {textures : FrameTextures} {pool : TexturePool}
    {count i : Nat} {pass : CompiledPass} {draw : RecordedDraw} {size : Size} {canvas : Canvas}
    (h : DrawnPass inputs textures pool count i pass draw size canvas) (hi : i < count) :
    size = draw.size := by
  obtain ⟨_, _, _, rfl⟩ := h.draw
  by_cases hlast : i + 1 = count
  · obtain ⟨rfl, rfl⟩ := h.last hlast
    rfl
  · obtain ⟨_, _, _, _, _, _, rfl⟩ := h.inner (by omega)
    rfl

namespace Chain

variable {c : Chain Recorder}

/-- Each draw of the waiting frame is made by its pass. -/
theorem drawing_made (hs : c.Sound) (h : c.InStep) {i : Nat} {p : CompiledPass}
    {draw : RecordedDraw} (hp : c.passes[i]? = some p)
    (hdraw : c.drawing.device.pending[i]? = some draw) :
    draw.Made p.table (c.refreshTracked.inputs.params c.pool.history.frameTextures
      c.drawing.pool.fallback (c.drawing.pool.source c.pool.history.frameTextures.orig i)
      (c.drawing.pool.outputs i) (i + 1 == c.passes.length) draw.size) p.geometry.align := by
  obtain ⟨size, canvas, hmade⟩ := c.drawing_draws.2 i p draw hp hdraw
  obtain ⟨hvertices, huniforms⟩ := (drawing_inStep hs h).2 i p draw hp hdraw
  refine ⟨?_, huniforms, hvertices⟩
  rw [← hmade.size_eq (List.getElem?_eq_some_iff.mp hp).1]
  obtain ⟨_, _, _, hrecord⟩ := hmade.draw
  rw [hrecord]
  rfl

theorem drawn_le_length (h : c.Sound) : c.drawing.drawn ≤ c.passes.length := by
  obtain ⟨hall, hsome⟩ := drawing_drawn h.passes_ne_nil
  cases hfailure : c.drawing.failure with
  | none => exact Nat.le_of_eq (hall hfailure)
  | some e => exact Nat.le_of_lt (hsome (by rw [hfailure]; rfl))

/-- The frames of a recorder are those that were shown, with the draws that were made of them. -/
theorem frames_render : c.render.2.device.frames =
    if c.pending = true ∧ c.render.1 = true then c.device.frames ++ [c.drawing.device.pending]
    else c.device.frames := by
  have habort {r : Recorder} : r.abortFrame.frames = r.frames := by
    unfold Recorder.abortFrame
    split <;> rfl
  cases hpending : c.pending with
  | false => rw [render_repeated c hpending, if_neg (fun h => Bool.false_ne_true h.1)]
  | true =>
    cases hrender : c.render with | mk answer c' =>
    have hrendered := render_rendered hpending
    rw [hrender] at hrendered
    cases hrendered with
    | refused => exact habort
    | failed => exact habort.trans c.drawing_steady.frames
    | shown => exact congrArg (· ++ [c.drawing.device.pending]) c.drawing_steady.frames

/-- A frame that is shown has one draw for each pass. -/
theorem drawing_of_shown (h : c.Sound) (hpending : c.pending = true) (hyes : c.render.1 = true) :
    c.drawing.device.pending.length = c.passes.length ∧
      c.render.2.device.textures = c.drawing.device.textures := by
  obtain ⟨hrender, hfail⟩ := render_shown hpending hyes
  refine ⟨?_, by rw [hrender]; rfl⟩
  rw [c.drawing_draws.1, (drawing_drawn h.passes_ne_nil).1 hfail]

end Chain

theorem RecordedDraw.output?_of_textures (d : RecordedDraw) {r r' : Recorder}
    (h : r'.textures = r.textures) : d.output? r' = d.output? r := by
  unfold output? Recorder.texture?
  rw [h]

theorem Chain.Rendered.tracked {c : Chain Recorder} {r : Bool × Chain Recorder}
    (h : c.Rendered r) : r.2.tracked = c.refreshTracked.tracked := by
  cases h <;> rfl

namespace Session

section

variable {δ : Type} (s : Session δ) (slot : Nat → TextureId) (texel : Size)

/-- The frames shown last, with the sizes they had, in the slots of the ring that received them. -/
def earlier : List TextureState :=
  (List.range previousFrames).map fun k => ⟨slot (s.shown.length + previousFrames - k),
    if k < s.shown.length then s.shown.getD (s.shown.length - 1 - k) ⟨0, 0⟩ else ⟨0, 0⟩, texel⟩

/-- The pictures of the frame that waits, of which `draws` have been made on `r`. -/
def pictures (r : Recorder) (draws : List RecordedDraw) : FramePictures where
  input := ⟨slot s.shown.length, s.lastAccepted, texel⟩
  earlier := s.earlier slot texel
  outputs := draws.filterMap (·.output? r)

end

variable {δ : Type} [GpuDevice δ] [Adjustable δ] {files : FileSystem} {preset : Preset}
  {settings : ChainSettings}

/-- Over any device, passes are shown the waiting frame and those before it. -/
theorem run_frameTextures {c₀ : Chain δ}
    (hfrom : BuiltFrom δ files preset settings c₀.pool c₀.passes) (hidle : c₀.pending = false)
    (hcount : c₀.frameCount = 0) (calls : List (HostCall δ)) :
    let s := (start c₀).run calls
    let slot (i : Nat) : TextureId := (c₀.pool.history.slotAt i).texture
    s.chain.pending = true → s.chain.frameCount = s.shown.length ∧
      s.chain.pool.history.frameTextures =
        ⟨⟨slot s.shown.length, s.lastAccepted, settings.maxInput⟩,
          s.earlier slot settings.maxInput⟩ := by
  intro s slot hpending
  have hwaiting := start_waiting hidle
  have hring : s.RingHolds := run_ringHolds hwaiting (start_ringHolds hfrom hcount) calls
  have hcontinues : c₀.Continues s.chain := (start c₀).run_continues calls
  have hcurrent := run_waiting hwaiting calls hpending
  have hslot (i : Nat) : (s.chain.pool.history.slotAt i).texture = slot i :=
    hcontinues.slots _ (Nat.mod_lt i History.historySlots_pos)
  have htexel : s.chain.pool.history.texel = settings.maxInput :=
    hcontinues.texel.trans hfrom.texel
  rw [History.current_eq hring.cursor] at hcurrent
  rw [History.frameTextures_eq hring.cursor]
  simp only [hslot, htexel]
  refine ⟨hring.count, congrArg₂ FrameTextures.mk ?_ (List.map_congr_left fun k hk => ?_)⟩
  · rw [← hcurrent]
  · rw [hring.sizes k (List.mem_range.mp hk), size_shown_before]

/-- What pass `i` of `count` is handed when it draws `size` pixels from `source`. -/
def params (s : Session Recorder) (pictures : FramePictures) (count i : Nat)
    (source : TextureState) (size : Size) : FrameParams where
  mvp := projection size (if i + 1 = count then s.chain.rotation else 0)
  source := source
  outputSize := size
  frameCount := s.shown.length
  direction := s.chain.direction.sign
  orig := pictures.input
  history := pictures.earlier
  outputs := pictures.outputs.take i
  tracked := s.chain.render.2.tracked
  fallback := s.chain.pool.fallback

variable {device : Recorder} {c₀ : Chain Recorder}

/-- However the drawing of a frame goes, each draw is made by its pass from the pictures of the
frame. -/
theorem run_draws (hdevice : device.Reachable)
    (hbuild : Chain.build device files preset settings = .ok c₀)
    (calls : List (HostCall Recorder)) :
    let s := (start c₀).run calls
    let drawing := s.chain.drawing
    let pictures := s.pictures (fun i => (c₀.pool.history.slotAt i).texture) settings.maxInput
      drawing.device drawing.device.pending
    s.chain.pending = true → ∀ i draw, drawing.device.pending[i]? = some draw →
      ∃ pass program source, preset.Runs files i pass program ∧ pictures.source? i = some source ∧
        draw.Made (pass.table program i settings (preset.bindContext settings c₀.pool.lookups))
          (s.params pictures preset.passes.length i source draw.size) settings.texelAlignment := by
  intro s drawing pictures hpending i draw hdraw
  obtain ⟨hfrom, hcontinues, hs, hin⟩ := run_built hdevice hbuild calls
  obtain ⟨hidle, hzero⟩ := Chain.build_idle hbuild
  obtain ⟨hcount, htextures⟩ := run_frameTextures hfrom hidle hzero calls hpending
  have hlength : s.chain.passes.length = preset.passes.length :=
    hcontinues.length_passes.trans hfrom.count
  have hdrawn : i < drawing.drawn := by
    rw [← s.chain.drawing_draws.1]
    exact (List.getElem?_eq_some_iff.mp hdraw).1
  have hi : i < s.chain.passes.length := Nat.lt_of_lt_of_le hdrawn (Chain.drawn_le_length hs)
  obtain ⟨p, hp⟩ : ∃ p, s.chain.passes[i]? = some p := ⟨_, List.getElem?_eq_getElem hi⟩
  obtain ⟨q, hq, hplan⟩ := hcontinues.plan hp
  obtain ⟨pass, program, hruns, htable, halign⟩ := hfrom.runs hq
  have hpictures : pictures = ⟨s.chain.pool.history.frameTextures.orig,
      s.chain.pool.history.frameTextures.history,
      drawing.device.pending.filterMap (·.output? drawing.device)⟩ := by
    rw [htextures]
    rfl
  have hsource := Chain.drawing_source_pictures hs (Nat.le_of_lt hdrawn) hi
    s.chain.pool.history.frameTextures.history
  obtain ⟨houtputs, _⟩ := Chain.drawing_outputs hs (Nat.le_of_lt hdrawn) hi
  refine ⟨pass, program, _, hruns, hpictures ▸ hsource, ?_⟩
  have hparams : s.chain.refreshTracked.inputs.params s.chain.pool.history.frameTextures
      drawing.pool.fallback (drawing.pool.source s.chain.pool.history.frameTextures.orig i)
      (drawing.pool.outputs i) (i + 1 == s.chain.passes.length) draw.size =
        s.params pictures preset.passes.length i
          (drawing.pool.source s.chain.pool.history.frameTextures.orig i) draw.size := by
    have htracked := (Chain.render_rendered hpending).tracked
    have hfallback := s.chain.drawing_moves.1.fallback
    obtain ⟨tracker, tracked, hc⟩ := s.chain.refreshTracked_eq
    rw [hc] at htracked ⊢
    rw [hpictures, houtputs, hlength]
    simp only [FrameInputs.params, Session.params, Chain.inputs, beq_iff_eq, htracked]
    rw [hcount, hfallback]
  have htables : p.table = _ := (CompiledPass.table_of_plan hplan).trans htable
  have haligns : p.geometry.align = settings.texelAlignment :=
    (congrArg (·.geometry.align) hplan).trans halign
  have hmade := Chain.drawing_made hs hin hp hdraw
  rw [hparams, htables, haligns] at hmade
  exact hmade

/-- So it is with a frame that is shown. -/
theorem run_shown (hdevice : device.Reachable)
    (hbuild : Chain.build device files preset settings = .ok c₀)
    (calls : List (HostCall Recorder)) :
    let s := (start c₀).run calls
    let c := s.chain
    c.pending = true → c.render.1 = true →
      ∃ draws, c.render.2.device.frames = c.device.frames ++ [draws] ∧
        draws.length = preset.passes.length ∧
        let pictures := s.pictures (fun i => (c₀.pool.history.slotAt i).texture) settings.maxInput
          c.render.2.device draws
        ∀ i draw, draws[i]? = some draw → ∃ pass program source,
          preset.Runs files i pass program ∧ pictures.source? i = some source ∧
          draw.Made (pass.table program i settings (preset.bindContext settings c₀.pool.lookups))
            (s.params pictures preset.passes.length i source draw.size)
            settings.texelAlignment := by
  intro s c hpending hyes
  obtain ⟨hfrom, hcontinues, hs, _⟩ := run_built hdevice hbuild calls
  obtain ⟨hlength, htextures⟩ := Chain.drawing_of_shown hs hpending hyes
  have houtput (d : RecordedDraw) : d.output? c.render.2.device = d.output? c.drawing.device :=
    d.output?_of_textures htextures
  refine ⟨c.drawing.device.pending, ?_, ?_, ?_⟩
  · rw [Chain.frames_render, if_pos ⟨hpending, hyes⟩]
  · rw [hlength, hcontinues.length_passes]
    exact hfrom.count
  · simp only [pictures, houtput]
    exact run_draws hdevice hbuild calls hpending

end Session

end PassChain
