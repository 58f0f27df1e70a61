import PassChain.Proofs.PassDraws

/-! What a chain owns on a recorder is alive and has the right form, whatever has been drawn. -/
namespace PassChain

open Attempt

namespace Recorder

variable {r r' r'' : Recorder}

/-- What is alive in `r` is alive and the same in `r'`. -/
structure Grows (r r' : Recorder) : Prop extends SameFrames r r' where
  issued : r'.Issued
  textures : ∀ id desc, r.texture? id = some desc → r'.texture? id = some desc
  buffers : ∀ id b, r.buffer? id = some b → r'.buffer? id = some b
  programs : ∀ id label, r.programLabel? id = some label → r'.programLabel? id = some label

theorem Grows.refl (h : r.Issued) : r.Grows r :=
  ⟨.refl r, h, fun _ _ h => h, fun _ _ h => h, fun _ _ h => h⟩

theorem Grows.trans (h : r.Grows r') (h' : r'.Grows r'') : r.Grows r'' where
  toSameFrames := h.toSameFrames.trans h'.toSameFrames
  issued := h'.issued
  textures id desc hid := h'.textures id desc (h.textures id desc hid)
  buffers id b hid := h'.buffers id b (h.buffers id b hid)
  programs id label hid := h'.programs id label (h.programs id label hid)

theorem withTexture_grows (h : r.Issued) (desc : TextureDesc) : r.Grows (r.withTexture desc) where
  toSameFrames := (withTexture_steady r desc).toSameFrames
  issued := h.withTexture desc
  textures id d hid := by
    have hne : id ≠ ⟨r.nextId⟩ := by rintro rfl; simp [h.texture?_next] at hid
    rw [h.texture?_withTexture, if_neg hne, hid]
  buffers _ _ hid := hid
  programs _ _ hid := hid

theorem withBuffer_grows (h : r.Issued) (label : String) (kind : BufferKind) (size : Nat) :
    r.Grows (r.withBuffer label kind size) where
  toSameFrames := ⟨rfl, rfl, rfl, rfl, rfl, rfl, rfl, rfl⟩
  issued := h.withBuffer label kind size
  textures _ _ hid := hid
  buffers id b hid := by
    have hne : id ≠ ⟨r.nextId⟩ := by rintro rfl; simp [h.buffer?_next] at hid
    rw [h.buffer?_withBuffer, if_neg hne, hid]
  programs _ _ hid := hid

theorem createProgram_grows (h : r.Issued) (label : String) :
    r.Grows (r.createProgram label).2 where
  toSameFrames := ⟨rfl, rfl, rfl, rfl, rfl, rfl, rfl, rfl⟩
  issued := h.createProgram label
  textures _ _ hid := hid
  buffers _ _ hid := hid
  programs id l hid := by
    have hne : id ≠ ⟨r.nextId⟩ := by rintro rfl; simp [h.programLabel?_next] at hid
    rw [h.programLabel?_createProgram, if_neg hne, hid]

end Recorder

theorem Recorder.Fits.of_limit {r r' : Recorder} {size : Size} (h : r.Fits size)
    (hlimit : r'.maxDimension = r.maxDimension) : r'.Fits size := by
  unfold Fits
  rw [hlimit]
  exact h

/-- A refusal that the recorder was told to make. -/
def Recorder.Injected (r : Recorder) (e : Error) : Prop :=
  (∃ label, ∃ pattern ∈ r.allocationFaults, e = .device (.allocation label pattern)) ∨
    ∃ label, ∃ pattern ∈ r.uploadFaults, e = .device (.upload label pattern)

/-- A refusal to make a target of this size. -/
def Error.IsMisfit (e : Error) (pass : Nat) (texel : Size) : Prop :=
  (∃ limit, e = .pool (.targetSize pass texel limit)) ∨
    ∃ label, e = .device (.textureSize label texel)

/-- A target for pictures of this size can be made. -/
def TexturePool.HasRoom (pool : TexturePool) (r : Recorder) (logical : Size) : Prop :=
  ∃ texel, pool.texelSize? logical = some texel ∧ r.Fits texel

/-- Why no target for pictures of this size can be made. -/
inductive TexturePool.Misfit (pool : TexturePool) (r : Recorder) (pass : Nat) (logical : Size) :
    Error → Prop where
  | overflow (htexel : pool.texelSize? logical = none) :
    Misfit pool r pass logical (.pool (.paddingOverflow logical))
  | unfit {e : Error} (texel : Size) (htexel : pool.texelSize? logical = some texel)
      (hunfit : ¬ r.Fits texel) (he : e.IsMisfit pass texel) : Misfit pool r pass logical e

theorem TexturePool.Misfit.not_hasRoom {pool : TexturePool} {r : Recorder} {pass : Nat}
    {logical : Size} {e : Error} (h : pool.Misfit r pass logical e) : ¬ pool.HasRoom r logical := by
  rintro ⟨texel, htexel, hfits⟩
  cases h with
  | overflow hnone => simp [hnone] at htexel
  | unfit texel' htexel' hunfit _ =>
    rw [htexel', Option.some.injEq] at htexel
    exact hunfit (htexel ▸ hfits)

open Recorder

/-- The textures of a pool are alive on `r`, each as it was made. -/
structure TexturePool.Alive (pool : TexturePool) (r : Recorder) : Prop where
  issued : r.Issued
  history : ∀ (i : Nat) (hi : i < historySlots), r.texture? pool.history.slots[i].texture =
    some ⟨s!"history{i}", pool.history.texel, .bgra8, false⟩
  fallback : r.texture? pool.fallback = some ⟨"fallback", ⟨1, 1⟩, .rgba8, false⟩
  lookups : ∀ l ∈ pool.lookups, ∃ label, r.texture? l.texture = some ⟨label, l.size, .rgba8, false⟩
  targets : ∀ i t, pool.target? i = some t →
    r.texture? t.texture = some ⟨s!"pass{i}-target", t.texel, t.format, true⟩ ∧
      pool.texelSize? t.logical = some t.texel ∧ r.Fits t.texel
  distinct : ∀ i j t u, pool.target? i = some t → pool.target? j = some u →
    t.texture = u.texture → i = j

/-- The program and the buffers of a pass are alive on `r`, and what it looks things up in belongs
to the pool. -/
structure CompiledPass.Alive (pass : CompiledPass) (lookups : List LookupTexture) (r : Recorder) :
    Prop where
  program : r.programLabel? pass.program = some pass.label
  vertices : ∃ b, r.buffer? pass.vertexBuffer = some b ∧ b.kind = .vertex ∧
    b.data.length = Quad.byteSize
  uniforms : ∃ b, r.buffer? pass.uniformBuffer = some b ∧ b.kind = .uniform ∧
    b.data.length = pass.table.uniformSize
  block : pass.uniforms.length = pass.table.uniformSize
  lookups : ∀ w ∈ pass.table.textures, ∀ id size, w.source = .lookup id size →
    ∃ l ∈ lookups, l.texture = id

theorem TexturePool.Alive.grows {pool : TexturePool} {r r' : Recorder} (h : pool.Alive r)
    (hr : r.Grows r') : pool.Alive r' where
  issued := hr.issued
  history i hi := hr.textures _ _ (h.history i hi)
  fallback := hr.textures _ _ h.fallback
  lookups l hl := (h.lookups l hl).imp fun _ hlabel => hr.textures _ _ hlabel
  targets i t ht := by
    obtain ⟨halive, htexel, hfits⟩ := h.targets i t ht
    exact ⟨hr.textures _ _ halive, htexel, hfits.of_limit hr.maxDimension⟩
  distinct := h.distinct

namespace CompiledPass.Alive

variable {pass pass' : CompiledPass} {lookups : List LookupTexture} {r r' : Recorder}

theorem grows (h : pass.Alive lookups r) (hr : r.Grows r') : pass.Alive lookups r' where
  program := hr.programs _ _ h.program
  vertices := h.vertices.imp fun _ hb => ⟨hr.buffers _ _ hb.1, hb.2⟩
  uniforms := h.uniforms.imp fun _ hb => ⟨hr.buffers _ _ hb.1, hb.2⟩
  block := h.block
  lookups := h.lookups

theorem of_plan (h : pass.Alive lookups r) (hplan : pass'.plan = pass.plan) :
    pass'.Alive lookups r where
  program := by rw [program_of_plan hplan, label_of_plan hplan]; exact h.program
  vertices := by rw [vertexBuffer_of_plan hplan]; exact h.vertices
  uniforms := by rw [uniformBuffer_of_plan hplan, table_of_plan hplan]; exact h.uniforms
  block := by rw [length_uniforms_of_plan hplan, table_of_plan hplan]; exact h.block
  lookups := by rw [table_of_plan hplan]; exact h.lookups

theorem steady (h : pass.Alive lookups r) (hr : r.Steady r') : pass.Alive lookups r' := by
  have hbuffer {id kind size} (hb : ∃ b, r.buffer? id = some b ∧ b.kind = kind ∧
      b.data.length = size) :
    ∃ b, r'.buffer? id = some b ∧ b.kind = kind ∧ b.data.length = size := by
    obtain ⟨b, hid, rfl, rfl⟩ := hb
    obtain ⟨b', hid', hform⟩ := hr.buffer? hid
    simp only [Buffer.form, Prod.mk.injEq] at hform
    exact ⟨b', hid', hform.2⟩
  exact ⟨by rw [hr.programLabel?]; exact h.program, hbuffer h.vertices, hbuffer h.uniforms, h.block,
    h.lookups⟩

end CompiledPass.Alive

namespace TexturePool

variable {pool pool' : TexturePool} {r r' : Recorder} {pass i : Nat} {t : RenderTarget}

/-- Only textures made for passes to draw into are targets. -/
theorem Alive.ne_target (h : pool.Alive r) (ht : pool.target? i = some t) {id : TextureId}
    {desc : TextureDesc} (hid : r.texture? id = some desc) (hdesc : desc.target = false) :
    id ≠ t.texture := by
  rintro rfl
  rw [(h.targets i t ht).1, Option.some.injEq] at hid
  simp [← hid] at hdesc

/-- A target may be replaced by a new one, as long as everything else stays alive. -/
theorem Alive.withTarget (h : pool.Alive r) (hpass : pass < pool.targets.length)
    (hissued : r'.Issued) (hlimit : r'.maxDimension = r.maxDimension)
    (hother : ∀ id desc, r.texture? id = some desc →
      (∀ old, pool.target? pass = some old → id ≠ old.texture) → r'.texture? id = some desc)
    (hfresh : r.texture? t.texture = none)
    (hnew : r'.texture? t.texture = some ⟨s!"pass{pass}-target", t.texel, t.format, true⟩)
    (htexel : pool.texelSize? t.logical = some t.texel) (hfits : r'.Fits t.texel) :
    (pool.withTarget pass t).Alive r' where
  issued := hissued
  history i hi :=
    hother _ _ (h.history i hi) fun _ hold => h.ne_target hold (h.history i hi) rfl
  fallback := hother _ _ h.fallback fun _ hold => h.ne_target hold h.fallback rfl
  lookups l hl := by
    obtain ⟨label, hlabel⟩ := h.lookups l hl
    exact ⟨label, hother _ _ hlabel fun _ hold => h.ne_target hold hlabel rfl⟩
  targets i u hu := by
    rw [target?_withTarget hpass] at hu
    split at hu
    · rename_i hi
      rw [Option.some.injEq] at hu
      subst hi hu
      exact ⟨hnew, htexel, hfits⟩
    · rename_i hi
      obtain ⟨halive, hsize, hfits⟩ := h.targets i u hu
      exact ⟨hother _ _ halive fun old hold heq => hi (h.distinct _ _ _ _ hold hu heq.symm),
        hsize, hfits.of_limit hlimit⟩
  distinct i j u v hu hv huv := by
    have hne {k w} (hw : pool.target? k = some w) : w.texture ≠ t.texture := by
      intro heq
      have halive := (h.targets k w hw).1
      rw [heq, hfresh] at halive
      simp at halive
    rw [target?_withTarget hpass] at hu hv
    split at hu <;> split at hv
    · omega
    · simp only [Option.some.injEq] at hu
      exact absurd (hu ▸ huv).symm (hne hv)
    · simp only [Option.some.injEq] at hv
      exact absurd (hv ▸ huv) (hne hu)
    · exact h.distinct i j u v hu hv huv

/-- A pass gets its target, unless it has no place for one, the device refuses to make it, or it
cannot be of that size. -/
theorem Alive.ensureTarget (h : pool.Alive r) (pass : Nat) (logical : Size)
    (format : TexelFormat) :
    (pool.ensureTarget pass logical format).Ends r (fun res r' => res.2.2.Alive r')
      (fun e r' => r' = r ∧ (pool.targets.length ≤ pass ∨ r.Injected e ∨
        pool.Misfit r pass logical e)) := by
  have hfail (texel : Size) (htexel : pool.texelSize? logical = some texel) (e : Error)
      (r' : Recorder) (hend : r' = r ∧ ((∃ pattern ∈ r.allocationFaults,
          e = .device (.allocation (targetDesc pass texel format).label pattern)) ∨
        e = .device (.textureSize (targetDesc pass texel format).label texel) ∧ ¬ r.Fits texel)) :
      r' = r ∧ (pool.targets.length ≤ pass ∨ r.Injected e ∨ pool.Misfit r pass logical e) := by
    refine ⟨hend.1, .inr ?_⟩
    rcases hend.2 with ⟨pattern, hp, he⟩ | ⟨he, hfits⟩
    · exact .inl (.inl ⟨_, pattern, hp, he⟩)
    · exact .inr (.unfit texel htexel hfits (.inr ⟨_, he⟩))
  refine ensureTarget_cases (fun hplace => ⟨rfl, .inl hplace⟩) (fun _ _ _ _ => h)
    (fun _ hnone => ⟨rfl, .inr (.inr (.overflow hnone))⟩) ?_ ?_ ?_
  · intro texel _ htexel hlarge
    refine ⟨rfl, .inr (.inr (.unfit texel htexel (fun hfits => ?_) (.inl ⟨_, rfl⟩)))⟩
    rcases hlarge with hlarge | hlarge
    · exact absurd hfits.1.2 (UInt32.not_le.mpr hlarge)
    · exact absurd hfits.2.2 (UInt32.not_le.mpr hlarge)
  · intro texel hpass _ htexel _
    refine (createTexture_ends r _).mono ?_ (fun e r' => hfail texel htexel e r')
    rintro _ _ ⟨rfl, rfl, hfits⟩
    have hgrows := withTexture_grows h.issued (targetDesc pass texel format)
    have hnew := h.issued.texture?_withTexture (targetDesc pass texel format) ⟨r.nextId⟩
    rw [if_pos rfl] at hnew
    exact h.withTarget hpass hgrows.issued hgrows.maxDimension
      (fun id desc hid _ => hgrows.textures id desc hid) h.issued.texture?_next hnew htexel hfits
  · intro texel old hpass hold _ htexel _
    refine (createTexture_ends r _).mono ?_ (fun e r' => hfail texel htexel e r')
    rintro _ _ ⟨rfl, rfl, hfits⟩
    have hnext := h.issued.texture?_next
    have hgrows := withTexture_grows h.issued (targetDesc pass texel format)
    have hnew := h.issued.texture?_withTexture (targetDesc pass texel format) ⟨r.nextId⟩
    rw [if_pos rfl] at hnew
    have hne : (⟨r.nextId⟩ : TextureId) ≠ old.texture := by
      intro heq
      have halive := (h.targets pass old hold).1
      rw [← heq, hnext] at halive
      simp at halive
    have hsteady := releaseTexture_steady (r.withTexture (targetDesc pass texel format)) old.texture
    have hlimit := hsteady.maxDimension.trans hgrows.maxDimension
    refine h.withTarget hpass (hgrows.issued.releaseTexture old.texture) hlimit ?_ hnext ?_ htexel
      (Fits.of_limit hfits hlimit)
    · intro id desc hid hother
      exact (texture?_releaseTexture _ _).trans
        ((if_neg (hother old hold)).trans (hgrows.textures id desc hid))
    · exact (texture?_releaseTexture _ _).trans ((if_neg hne).trans hnew)

/-- Alive textures, the recorder itself untouched but for what is in its buffers and frame. -/
theorem Alive.of_textures (h : pool.Alive r) (hissued : r'.Issued)
    (htextures : r'.textures = r.textures) (hlimit : r'.maxDimension = r.maxDimension) :
    pool.Alive r' := by
  have hsame (id) : r'.texture? id = r.texture? id := by
    unfold Recorder.texture?
    rw [htextures]
  exact {
    issued := hissued
    history := fun i hi => (hsame _).trans (h.history i hi)
    fallback := (hsame _).trans h.fallback
    lookups := fun l hl => (h.lookups l hl).imp fun _ hlabel => (hsame _).trans hlabel
    targets := fun i t ht =>
      ⟨(hsame _).trans (h.targets i t ht).1, (h.targets i t ht).2.1,
        (h.targets i t ht).2.2.of_limit hlimit⟩
    distinct := h.distinct }

theorem Alive.orig (h : pool.Alive r) :
    (r.texture? pool.history.frameTextures.orig.texture).isSome := by
  have hcurrent := h.history pool.history.cursor pool.history.cursor.isLt
  exact Option.isSome_iff_exists.mpr ⟨_, hcurrent⟩

theorem Alive.previous (h : pool.Alive r) :
    ∀ o ∈ pool.history.frameTextures.history, (r.texture? o.texture).isSome := by
  intro o ho
  obtain ⟨slot, hslot, rfl⟩ := List.mem_map.mp ho
  obtain ⟨k, _, hk⟩ := List.mem_filterMap.mp hslot
  obtain ⟨i, _, rfl⟩ := Option.map_eq_some_iff.mp hk
  exact Option.isSome_iff_exists.mpr ⟨_, h.history i i.isLt⟩

theorem Alive.outputs (h : pool.Alive r) (i : Nat) :
    ∀ o ∈ pool.outputs i, (r.texture? o.texture).isSome := by
  induction i with
  | zero => simp [TexturePool.outputs]
  | succ i ih =>
    intro o ho
    rcases List.mem_append.mp ho with ho | ho
    · exact ih o ho
    · obtain ⟨t, ht, rfl⟩ := Option.map_eq_some_iff.mp (Option.mem_toList.mp ho)
      rw [RenderTarget.state, (h.targets i t ht).1]
      rfl

theorem Alive.source (h : pool.Alive r) (i : Nat) :
    (r.texture? (pool.source pool.history.frameTextures.orig i).texture).isSome := by
  cases i with
  | zero => exact h.orig
  | succ i =>
    cases ht : pool.target? i with
    | none => simpa only [TexturePool.source, ht, Option.map_none, Option.getD_none] using h.orig
    | some t => rw [source_succ ht, RenderTarget.state, (h.targets i t ht).1]; rfl

end TexturePool

/-- The textures that a pass is handed are alive. -/
structure FrameParams.Alive (p : FrameParams) (r : Recorder) : Prop where
  source : (r.texture? p.source.texture).isSome
  orig : (r.texture? p.orig.texture).isSome
  history : ∀ o ∈ p.history, (r.texture? o.texture).isSome
  outputs : ∀ o ∈ p.outputs, (r.texture? o.texture).isSome
  fallback : (r.texture? p.fallback).isSome

/-- So are all textures that it binds. -/
theorem CompiledPass.Alive.bindings {pass : CompiledPass} {pool : TexturePool} {r : Recorder}
    {p : FrameParams} (h : pass.Alive pool.lookups r) (hpool : pool.Alive r) (hp : p.Alive r) :
    ∀ b ∈ pass.table.bindings p, (r.texture? b.texture).isSome := by
  intro b hb
  obtain ⟨w, hw, rfl⟩ := List.mem_map.mp hb
  cases hsource : w.source with
  | source => exact hp.source
  | orig => exact hp.orig
  | missing => exact hp.fallback
  | history n =>
    cases hn : p.history[n]? with
    | none => simpa [TextureSource.resolve?, hn] using hp.fallback
    | some o => simpa [TextureSource.resolve?, hn] using hp.history o (List.mem_of_getElem? hn)
  | output i =>
    cases hi : p.outputs[i]? with
    | none => simpa [TextureSource.resolve?, hi] using hp.fallback
    | some o => simpa [TextureSource.resolve?, hi] using hp.outputs o (List.mem_of_getElem? hi)
  | lookup id size =>
    obtain ⟨l, hl, rfl⟩ := h.lookups w hw id size hsource
    obtain ⟨label, hlabel⟩ := hpool.lookups l hl
    simp [TextureSource.resolve?, hlabel]

/-- A pass can be drawn on a canvas that is the screen or a target, in an open frame. -/
theorem CompiledPass.Alive.drawable {pass : CompiledPass} {pool : TexturePool} {r : Recorder}
    {p : FrameParams} (h : pass.Alive pool.lookups r) (hpool : pool.Alive r) (hp : p.Alive r)
    (hframe : r.inFrame = true) {index : Nat} {canvas : Canvas}
    (hcanvas : ∀ id, canvas.destination = .texture id →
      ∃ i t, pool.target? i = some t ∧ id = t.texture) : r.Drawable (pass.call index canvas p) where
  inFrame := hframe
  program := Option.isSome_iff_exists.mpr ⟨_, h.program⟩
  destination id hid := by
    obtain ⟨i, t, ht, rfl⟩ := hcanvas id hid
    simp [(hpool.targets i t ht).1]
  textures := h.bindings hpool hp
  uniforms := h.uniforms.imp fun _ hb => ⟨hb.1, hb.2.1⟩
  vertices := h.vertices.imp fun _ hb => ⟨hb.1, hb.2.1⟩

end PassChain
