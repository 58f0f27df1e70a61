import PassChain.Proofs.FieldLayout
import PassChain.Proofs.FramePictures

/-! The textures and sizes that a pass is given are those of the pictures that its program names. -/
namespace PassChain

open Attempt Recorder

/-- A lookup texture that has been made of the image that a preset describes. -/
structure LookupTexture.Of (files : FileSystem) (description : LookupImage) (l : LookupTexture) :
    Prop where
  id : l.id = description.id
  filter : l.filter = description.filter
  wrap : l.wrap = description.wrap
  image : ∃ image, files.readImage description.path = some image ∧ l.size = image.size

section

variable {δ : Type} [GpuDevice δ] {files : FileSystem}

theorem TexturePool.loadLookup_of (pool : TexturePool) (description : LookupImage) (d : δ) :
    (pool.loadLookup files description).Ends d
      (fun pool' _ => ∃ l : LookupTexture, l.Of files description ∧
        pool' = { pool with lookups := pool.lookups ++ [l] }) (fun _ _ => True) := by
  unfold loadLookup insertLookup
  split
  · trivial
  · rename_i image himage
    simp only [ends_bind, ends_get, ends_ite, ends_throw, ends_tryCatch, ends_modify, ends_pure,
      implies_true, true_and]
    refine fun _ _ => (ends_true _).mono_ok ?_
    intro texture _ _
    refine (ends_true _).mono_ok (fun _ _ _ => ?_)
    exact ⟨_, ⟨rfl, rfl, rfl, image, himage, rfl⟩, rfl⟩

/-- The lookup textures of a preset are made in order. -/
theorem Assembly.loadLookups_of {a : Assembly δ} (images : List LookupImage)
    (pool : TexturePool) :
    (loadLookups files images pool).Ends a
      (fun pool' _ => ∃ ls, List.Forall₂ (fun description l => LookupTexture.Of files description l)
        images ls ∧ pool'.lookups = pool.lookups ++ ls) (fun _ _ => True) := by
  induction images generalizing pool a with
  | nil => exact ⟨[], .nil, (List.append_nil _).symm⟩
  | cons image rest ih =>
    simp only [loadLookups, ends_bind, onDevice, ends_on, ends_modify]
    refine (TexturePool.loadLookup_of pool image a.device).mono_ok ?_
    rintro _ _ ⟨l, hl, rfl⟩
    refine (ih _).mono_ok ?_
    rintro pool' _ ⟨ls, hls, hlookups⟩
    exact ⟨l :: ls, .cons hl hls, by rw [hlookups, List.append_assoc]; rfl⟩

theorem Assembly.build_lookups (a : Assembly δ) (preset : Preset) (settings : ChainSettings) :
    (Assembly.build files preset settings).Ends a
      (fun r _ => List.Forall₂ (fun description l => LookupTexture.Of files description l)
        preset.lookups r.2.1.lookups) (fun _ _ => True) := by
  unfold Assembly.build
  generalize (Wgsl.Bundled.text? stockName).getD "" = stockText
  simp only [ends_bind, ends_ofExcept, ends_ite, ends_throw, ends_pure, ends_modify, onDevice,
    ends_on, implies_true, and_true, true_and]
  intro _ _ _
  refine (ends_true _).mono_ok (fun _ _ _ => (ends_true _).mono_ok ?_)
  intro _ _ _
  refine (TexturePool.create_ends _ _ _ _).mono_ok ?_
  rintro pool _ ⟨_, _, hnone, _⟩
  refine (loadLookups_of preset.lookups pool).mono_ok ?_
  rintro pool' _ ⟨ls, hls, hlookups⟩
  refine (ends_true _).mono_ok (fun _ _ _ => ?_)
  rw [hlookups, hnone]
  exact hls

end

/-- The lookup texture of an id is that of the image with this id. -/
theorem find?_lookup {files : FileSystem} {images : List LookupImage} {ls : List LookupTexture}
    (h : List.Forall₂ (fun description l => LookupTexture.Of files description l) images ls)
    (id : String) :
    Option.Rel (fun description l => LookupTexture.Of files description l)
      (images.find? (·.id == id)) (ls.find? (·.id == id)) := by
  induction h with
  | nil => exact .none
  | cons hl _ ih =>
    simp only [List.find?_cons, hl.id]
    split
    · exact .some hl
    · exact ih

/-- The sampler that a preset asks for: lookup textures have their own, all others that of the
pass. -/
def Preset.samplerOf (preset : Preset) (settings : ChainSettings) (pass : Pass) :
    TextureRef → Sampler
  | .lut id => match preset.lookups.find? (·.id == id) with
    | some image => .resolve image.filter image.wrap settings.smooth
    | none => pass.sampler settings
  | _ => pass.sampler settings

theorem Preset.samplerOf_eq {files : FileSystem} {preset : Preset} {ls : List LookupTexture}
    (h : List.Forall₂ (fun description l => LookupTexture.Of files description l)
      preset.lookups ls) (settings : ChainSettings) (pass : Pass) (ref : TextureRef) :
    (preset.bindContext settings ls).samplerOf (pass.sampler settings) ref =
      preset.samplerOf settings pass ref := by
  cases ref with
  | lut id =>
    have hfind := find?_lookup h id
    simp only [BindContext.samplerOf, BindContext.lookup?, bindContext, samplerOf]
    generalize preset.lookups.find? (·.id == id) = image at hfind ⊢
    generalize ls.find? (·.id == id) = l at hfind ⊢
    cases hfind with
    | none => rfl
    | some hl => simp only [hl.filter, hl.wrap]
  | source | orig | prev | pass | passPrev => rfl

/-- The picture that a reference means in pass `i`, none if there is no such picture. -/
def FramePictures.denoted? (p : FramePictures) (lookups : List LookupTexture) (i : Nat) :
    TextureRef → Option TextureState
  | .source => p.source? i
  | .orig => some p.input
  | .prev n => p.earlier[n]?
  | .pass n => if 1 ≤ n ∧ n ≤ i then p.outputs[n - 1]? else none
  | .passPrev n =>
    if 1 ≤ n ∧ n ≤ i then p.outputs[i - n]?
    else if n = i + 1 then some p.input
    else none
  | .lut id => (lookups.find? (·.id == id)).map fun l => ⟨l.texture, l.size, l.size⟩

/-- The size that a member receives of a picture. -/
def SizeKind.sizeOf (kind : SizeKind) : Option TextureState → Size
  | none => ⟨0, 0⟩
  | some picture => match kind with
    | video => picture.content
    | texture => picture.allocated

namespace FramePictures

variable {p : FramePictures} {lookups : List LookupTexture} {i : Nat}

/-- The pass before is the source. -/
theorem denoted_passPrev_one :
    p.denoted? lookups i (.passPrev 1) = p.denoted? lookups i .source := by
  cases i with
  | zero => rfl
  | succ i => simp [denoted?, source?]

theorem le_length_outputs {source : TextureState} (h : p.source? i = some source) :
    i ≤ p.outputs.length := by
  cases i with
  | zero => exact Nat.zero_le _
  | succ i => exact (List.getElem?_eq_some_iff.mp h).1

/-- What a pass is tied to is what its program means. -/
theorem resolve_sourceOf {params : FrameParams} {context : BindContext}
    (hsource : p.source? i = some params.source) (horig : params.orig = p.input)
    (hhistory : params.history = p.earlier) (houtputs : params.outputs = p.outputs.take i)
    (hearlier : p.earlier.length = previousFrames) (ref : TextureRef) :
    (context.sourceOf i ref).resolve? params = p.denoted? context.lookups i ref := by
  cases ref with
  | source => exact hsource.symm
  | orig => rw [denoted?, ← horig]; rfl
  | prev n =>
    simp only [BindContext.sourceOf, denoted?]
    split
    · rw [← hhistory]; rfl
    · rw [List.getElem?_eq_none (by omega)]; rfl
  | pass n =>
    simp only [BindContext.sourceOf, denoted?]
    by_cases hn : 1 ≤ n ∧ n ≤ i
    · rw [if_pos (by omega), if_pos hn, TextureSource.resolve?, houtputs,
        List.getElem?_take_of_lt (by omega)]
    · rw [if_neg (by omega), if_neg hn]; rfl
  | passPrev n =>
    simp only [BindContext.sourceOf, denoted?]
    by_cases hn : 1 ≤ n ∧ n ≤ i
    · rw [if_neg (by omega), if_neg (by omega), if_pos hn, TextureSource.resolve?, houtputs,
        List.getElem?_take_of_lt (by omega)]
    · by_cases hfirst : n = i + 1
      · rw [if_neg (by omega), if_pos hfirst, if_neg hn, if_pos hfirst, ← horig]; rfl
      · rw [if_pos (by omega), if_neg hn, if_neg hfirst]; rfl
  | lut id =>
    simp only [BindContext.sourceOf, BindContext.lookup?, denoted?]
    cases context.lookups.find? (·.id == id) <;> rfl

/-- A reference that a pass could be tied to means a picture whenever the pass is drawn. -/
theorem denoted_isSome_iff {source : TextureState} {context : BindContext}
    (hsource : p.source? i = some source) (hearlier : p.earlier.length = previousFrames)
    (ref : TextureRef) :
    (p.denoted? context.lookups i ref).isSome ↔ context.sourceOf i ref ≠ .missing := by
  have hlength := le_length_outputs hsource
  cases ref with
  | source => simp [denoted?, hsource, BindContext.sourceOf]
  | orig => simp [denoted?, BindContext.sourceOf]
  | prev n =>
    simp only [denoted?, BindContext.sourceOf]
    split <;> simp [hearlier] <;> omega
  | pass n =>
    simp only [denoted?, BindContext.sourceOf]
    by_cases hn : 1 ≤ n ∧ n ≤ i
    · rw [if_pos hn, if_pos (by omega), List.getElem?_eq_getElem (by omega)]
      simp
    · rw [if_neg hn, if_neg (by omega)]
      simp
  | passPrev n =>
    simp only [denoted?, BindContext.sourceOf]
    by_cases hn : 1 ≤ n ∧ n ≤ i
    · rw [if_pos hn, if_neg (by omega), if_neg (by omega), List.getElem?_eq_getElem (by omega)]
      simp
    · by_cases hfirst : n = i + 1
      · rw [if_neg hn, if_pos hfirst, if_neg (by omega), if_pos hfirst]
        simp
      · rw [if_neg hn, if_neg hfirst, if_pos (by omega)]
        simp
  | lut id =>
    simp only [denoted?, BindContext.sourceOf, BindContext.lookup?]
    cases context.lookups.find? (·.id == id) <;> simp

end FramePictures

namespace Resources

theorem insertSlot_perm (s : TextureSlot) (slots : List TextureSlot) :
    (insertSlot s slots).Perm (s :: slots) := by
  induction slots with
  | nil => exact .refl _
  | cons u rest ih =>
    unfold insertSlot
    split
    · exact .refl _
    · exact (ih.cons u).trans (.swap s u rest)

/-- Sorting neither adds nor loses a slot. -/
theorem sortSlots_perm (slots : List TextureSlot) : (sortSlots slots).Perm slots := by
  have hfold (sorted : List TextureSlot) :
      (slots.foldl (fun sorted s => insertSlot s sorted) sorted).Perm (sorted ++ slots) := by
    induction slots generalizing sorted with
    | nil => exact .of_eq (List.append_nil sorted).symm
    | cons s rest ih =>
      rw [List.foldl_cons]
      refine (ih _).trans (((insertSlot_perm s sorted).append_right rest).trans ?_)
      exact List.perm_middle.symm
  exact hfold []

/-- Each slot means the texture of its name. -/
theorem texture_of_pair {textures samplers left : List (String × Nat)} {slots : List TextureSlot}
    (h : pair textures samplers = (slots, left)) : ∀ s ∈ slots, s.texture = .ofName s.name := by
  induction textures generalizing samplers left slots with
  | nil =>
    simp only [pair, Prod.mk.injEq] at h
    rw [← h.1]
    exact nofun
  | cons t rest ih =>
    obtain ⟨name, binding⟩ := t
    simp only [pair, Prod.mk.injEq] at h
    rw [← h.1]
    exact List.forall_mem_cons.mpr ⟨rfl, ih rfl⟩

end Resources

theorem Program.texture_of_slot {label text : String} {p : Program}
    (h : ofText label text = .ok p) : ∀ s ∈ p.textures, s.texture = .ofName s.name := by
  obtain ⟨m, _, hp⟩ := ofText_eq_ok.mp h
  obtain ⟨resources, slots, htextures, hpair⟩ := (of_ofModule hp).textures
  intro s hs
  rw [htextures, (Resources.sortSlots_perm slots).mem_iff] at hs
  exact Resources.texture_of_pair hpair s hs

section

variable {program : Program} {i : Nat} {frameCountMod : UInt32} {sampler : Sampler}
  {context : BindContext} {params : FrameParams} {pictures : FramePictures}

/-- The textures of a draw, by the names in its program. -/
theorem BindingTable.bindings_ofProgram
    (hnames : ∀ s ∈ program.textures, s.texture = .ofName s.name)
    (hresolve : ∀ ref, (context.sourceOf i ref).resolve? params =
      pictures.denoted? context.lookups i ref) :
    (ofProgram program i frameCountMod sampler context).bindings params =
      program.textures.map fun slot => {
        binding := slot.binding
        samplerBinding := slot.sampler
        texture := ((pictures.denoted? context.lookups i (.ofName slot.name)).map
          (·.texture)).getD params.fallback
        sampler := context.samplerOf sampler (.ofName slot.name) } := by
  simp only [bindings, ofProgram, List.map_map]
  refine List.map_congr_left fun slot hslot => ?_
  simp only [Function.comp_apply, hnames slot hslot, hresolve]

/-- A member for a size receives that of the picture it asks for. -/
theorem BindingTable.size_write_ofProgram (hlaid : program.Laid) {out : List UInt8}
    (hout : out.length = program.uniformSize)
    (hresolve : ∀ ref, (context.sourceOf i ref).resolve? params =
      pictures.denoted? context.lookups i ref)
    {f : Field} (hf : f ∈ program.fields) {ref : TextureRef} {kind : SizeKind}
    (hrole : f.role = .size ref kind) :
    (((ofProgram program i frameCountMod sampler context).write params out).drop f.offset).take 8 =
      (kind.sizeOf (pictures.denoted? context.lookups i ref)).toBytes := by
  have hwrite : (⟨f.offset, .size (context.sourceOf i ref) kind⟩ : UniformWrite) ∈
      (ofProgram program i frameCountMod sampler context).uniforms :=
    List.mem_filterMap.mpr ⟨f, hf, by rw [hrole]; rfl⟩
  have hinside := inside_ofProgram hlaid _ hwrite
  refine ((apart_ofProgram hlaid).value_write params out hwrite (hout ▸ hinside)).trans ?_
  simp only [bytesOf, hresolve]
  cases pictures.denoted? context.lookups i ref with
  | none => rfl
  | some picture => cases kind <;> rfl

end

/-- The lookup textures of a chain are those of its preset. -/
theorem Chain.build_lookups {δ : Type} [GpuDevice δ] {device : δ} {files : FileSystem}
    {preset : Preset} {settings : ChainSettings} {c : Chain δ}
    (h : build device files preset settings = .ok c) :
    List.Forall₂ (fun description l => LookupTexture.Of files description l)
      preset.lookups c.pool.lookups := by
  obtain ⟨_, ha, _⟩ := build_eq_ok h
  exact (Assembly.build_lookups _ preset settings).of_ok ha

variable {device : Recorder} {files : FileSystem} {preset : Preset} {settings : ChainSettings}
  {c₀ : Chain Recorder}

/-- In a draw, the textures and the members for sizes that a program gives to a reference have
received a picture. -/
structure RecordedDraw.Reads (draw : RecordedDraw) (program : Program) (ref : TextureRef)
    (picture : TextureState) : Prop where
  textures : List.Forall₂ (fun (slot : TextureSlot) (b : TextureBinding) =>
    b.binding = slot.binding ∧ b.samplerBinding = slot.sampler ∧
      (TextureRef.ofName slot.name = ref → b.texture = picture.texture))
    program.textures draw.textures
  sizes : ∀ f ∈ program.fields, ∀ kind, f.role = .size ref kind →
    (draw.uniforms.drop f.offset).take 8 = (kind.sizeOf (some picture)).toBytes

/-- The texture at a name that means the picture is that of the picture. -/
theorem RecordedDraw.Reads.texture {draw : RecordedDraw} {program : Program} {ref : TextureRef}
    {picture : TextureState} (h : draw.Reads program ref picture) {j : Nat} {name : String}
    (hj : (program.textures.map (·.name))[j]? = some name) (hname : .ofName name = ref) :
    (draw.textures.map (·.texture))[j]? = some picture.texture := by
  obtain ⟨hlength, hslots⟩ := List.forall₂_iff_get.mp h.textures
  rw [List.getElem?_map, Option.map_eq_some_iff] at hj
  obtain ⟨slot, hslot, rfl⟩ := hj
  obtain ⟨hlt, rfl⟩ := List.getElem?_eq_some_iff.mp hslot
  have hlt' : j < draw.textures.length := hlength ▸ hlt
  obtain ⟨_, _, htexture⟩ := hslots j hlt hlt'
  rw [List.getElem?_map, List.getElem?_eq_getElem hlt']
  exact congrArg some (htexture hname)

/-- In a frame that is shown, each draw has been handed what the references of its program
denote. -/
theorem Session.shown_denotes (hdevice : device.Reachable)
    (hbuild : Chain.build device files preset settings = .ok c₀)
    (calls : List (HostCall Recorder)) :
    let s := (start c₀).run calls
    let c := s.chain
    let lookups := c₀.pool.lookups
    c.pending = true → c.render.1 = true →
      ∃ draws, c.render.2.device.frames = c.device.frames ++ [draws] ∧
        draws.length = preset.passes.length ∧
        let pictures := s.pictures (fun i => (c₀.pool.history.slotAt i).texture) settings.maxInput
          c.render.2.device draws
        ∀ i draw, draws[i]? = some draw → ∃ pass program, preset.Runs files i pass program ∧
          (pictures.source? i).isSome ∧
          draw.textures = program.textures.map (fun slot => {
            binding := slot.binding
            samplerBinding := slot.sampler
            texture := ((pictures.denoted? lookups i (.ofName slot.name)).map (·.texture)).getD
              c₀.pool.fallback
            sampler := preset.samplerOf settings pass (.ofName slot.name) }) ∧
          ∀ f ∈ program.fields, ∀ ref kind, f.role = .size ref kind →
            (draw.uniforms.drop f.offset).take 8 =
              (kind.sizeOf (pictures.denoted? lookups i ref)).toBytes := by
  intro s c lookups hpending hyes
  obtain ⟨_, hcontinues, _⟩ := run_built hdevice hbuild calls
  obtain ⟨draws, hframes, hlength, hdraws⟩ := run_shown hdevice hbuild calls hpending hyes
  refine ⟨draws, hframes, hlength, ?_⟩
  intro pictures i draw hdraw
  obtain ⟨pass, program, source, hruns, hsource, hmade⟩ := hdraws i draw hdraw
  obtain ⟨label, text, _, hprogram⟩ := hruns.interface
  have hearlier : pictures.earlier.length = previousFrames := by
    simp [pictures, Session.pictures, Session.earlier]
  have hresolve (ref) : ((preset.bindContext settings lookups).sourceOf i ref).resolve?
      (s.params pictures preset.passes.length i source draw.size) =
        pictures.denoted? lookups i ref :=
    FramePictures.resolve_sourceOf hsource rfl rfl rfl hearlier ref
  refine ⟨pass, program, hruns, by rw [hsource]; rfl, ?_, ?_⟩
  · rw [hmade.textures, Pass.table,
      BindingTable.bindings_ofProgram (Program.texture_of_slot hprogram) hresolve]
    refine List.map_congr_left fun slot _ => ?_
    rw [Preset.samplerOf_eq (Chain.build_lookups hbuild), Session.params, hcontinues.fallback]
    rfl
  · intro f hf ref kind hrole
    rw [hmade.uniforms]
    exact BindingTable.size_write_ofProgram (Program.laid_ofText hprogram)
      List.length_replicate hresolve hf hrole

/-- A reference that denotes a picture is given it. -/
theorem Session.shown_reads (hdevice : device.Reachable)
    (hbuild : Chain.build device files preset settings = .ok c₀)
    (calls : List (HostCall Recorder)) :
    let s := (start c₀).run calls
    let c := s.chain
    c.pending = true → c.render.1 = true →
      ∃ draws, c.render.2.device.frames = c.device.frames ++ [draws] ∧
        draws.length = preset.passes.length ∧
        let pictures := s.pictures (fun i => (c₀.pool.history.slotAt i).texture) settings.maxInput
          c.render.2.device draws
        ∀ i draw, draws[i]? = some draw → ∃ pass program, preset.Runs files i pass program ∧
          ∀ ref picture, pictures.denoted? c₀.pool.lookups i ref = some picture →
            draw.Reads program ref picture := by
  intro s c hpending hyes
  obtain ⟨draws, hframes, hlength, hdraws⟩ := shown_denotes hdevice hbuild calls hpending hyes
  refine ⟨draws, hframes, hlength, ?_⟩
  intro pictures i draw hdraw
  obtain ⟨pass, program, hruns, _, htextures, hsizes⟩ := hdraws i draw hdraw
  refine ⟨pass, program, hruns, fun ref picture hpicture => ⟨?_, ?_⟩⟩
  · rw [htextures, List.forall₂_map_right_iff, List.forall₂_same]
    refine fun slot _ => ⟨rfl, rfl, fun hname => ?_⟩
    rw [hname]
    exact congrArg (fun p : Option TextureState => (p.map (·.texture)).getD _) hpicture
  · intro f hf kind hrole
    exact (hsizes f hf ref kind hrole).trans (congrArg (fun p => (kind.sizeOf p).toBytes) hpicture)

/-- For every name that a program uses, a frame that is shown has been drawn with the picture that
the name means, sampled as the preset asks, or the fallback if it means none; and every member for a
size of a picture has received it, or zeros. A name that a pass could be tied to always means a
picture. -/
theorem shown_names_mean_pictures (hdevice : device.Reachable)
    (hbuild : Chain.build device files preset settings = .ok c₀)
    (calls : List (HostCall Recorder)) :
    let s := (Session.start c₀).run calls
    let c := s.chain
    let lookups := c₀.pool.lookups
    List.Forall₂ (fun description l => LookupTexture.Of files description l)
        preset.lookups lookups ∧
      (c.pending = true → c.render.1 = true →
      (∀ l ∈ lookups, ∃ label, c.render.2.device.texture? l.texture =
        some ⟨label, l.size, .rgba8, false⟩) ∧
      c.render.2.device.texture? c₀.pool.fallback = some ⟨"fallback", ⟨1, 1⟩, .rgba8, false⟩ ∧
      ∃ draws, c.render.2.device.frames = c.device.frames ++ [draws] ∧
        draws.length = preset.passes.length ∧
        let pictures := s.pictures (fun i => (c₀.pool.history.slotAt i).texture) settings.maxInput
          c.render.2.device draws
        ∀ i draw, draws[i]? = some draw → ∃ pass program, preset.Runs files i pass program ∧
          draw.textures = program.textures.map (fun slot => {
            binding := slot.binding
            samplerBinding := slot.sampler
            texture := ((pictures.denoted? lookups i (.ofName slot.name)).map (·.texture)).getD
              c₀.pool.fallback
            sampler := preset.samplerOf settings pass (.ofName slot.name) }) ∧
          (∀ f ∈ program.fields, ∀ ref kind, f.role = .size ref kind →
            (draw.uniforms.drop f.offset).take 8 =
              (kind.sizeOf (pictures.denoted? lookups i ref)).toBytes) ∧
          (∀ ref, (preset.bindContext settings lookups).sourceOf i ref ≠ .missing →
            (pictures.denoted? lookups i ref).isSome) ∧
          pictures.denoted? lookups i (.passPrev 1) = pictures.denoted? lookups i .source) := by
  intro s c lookups
  obtain ⟨_, hcontinues, hs, _⟩ := Session.run_built hdevice hbuild calls
  have halive := (Chain.render_sound hs).pool
  have hrendered : c₀.Continues c.render.2 := hcontinues.trans c.render_continues
  refine ⟨Chain.build_lookups hbuild, fun hpending hyes => ?_⟩
  refine ⟨?_, ?_, ?_⟩
  · intro l hl
    exact halive.lookups l (hrendered.lookups ▸ hl)
  · rw [← hrendered.fallback]
    exact halive.fallback
  obtain ⟨draws, hframes, hlength, hdraws⟩ :=
    Session.shown_denotes hdevice hbuild calls hpending hyes
  refine ⟨draws, hframes, hlength, ?_⟩
  intro pictures i draw hdraw
  obtain ⟨pass, program, hruns, hdrawn, htextures, hsizes⟩ := hdraws i draw hdraw
  obtain ⟨source, hsource⟩ := Option.isSome_iff_exists.mp hdrawn
  refine ⟨pass, program, hruns, htextures, hsizes, ?_, FramePictures.denoted_passPrev_one⟩
  have hearlier : pictures.earlier.length = previousFrames := by
    simp [pictures, Session.pictures, Session.earlier]
  intro ref hbound
  exact (FramePictures.denoted_isSome_iff hsource hearlier ref).mpr hbound

theorem first_frame_names_mean_pictures :
    ∃ c₀, Chain.build ({} : Recorder) .empty .twoStock {} = .ok c₀ ∧
      let s := (Session.start c₀).run HostCall.firstFrame
      let c := s.chain
      c.pending = true ∧ c.render.1 = true ∧
      ∃ draws, c.render.2.device.frames = c.device.frames ++ [draws] ∧ draws.length = 2 ∧
        let pictures := s.pictures (fun i => (c₀.pool.history.slotAt i).texture) ⟨1024, 1024⟩
          c.render.2.device draws
        ∀ i draw, draws[i]? = some draw → ∃ pass program,
          Preset.twoStock.Runs .empty i pass program ∧
          draw.textures = program.textures.map (fun slot => {
            binding := slot.binding
            samplerBinding := slot.sampler
            texture := ((pictures.denoted? c₀.pool.lookups i (.ofName slot.name)).map
              (·.texture)).getD c₀.pool.fallback
            sampler := Preset.twoStock.samplerOf {} pass (.ofName slot.name) }) := by
  obtain ⟨c₀, hbuild, hpending, _, _, hyes⟩ := Session.first_frame_shown
  obtain ⟨_, hshown⟩ := shown_names_mean_pictures (.fresh 8192) hbuild HostCall.firstFrame
  obtain ⟨_, _, draws, hframes, hlength, hdraws⟩ := hshown hpending hyes
  refine ⟨c₀, hbuild, hpending, hyes, draws, hframes, hlength, ?_⟩
  intro pictures i draw hdraw
  obtain ⟨pass, program, hruns, htextures, _⟩ := hdraws i draw hdraw
  exact ⟨pass, program, hruns, htextures⟩

end PassChain
