import PassChain.Proofs.Compiling
import PassChain.Proofs.RecorderCalls
import PassChain.Proofs.Resources

/-! What building a chain leaves on a recorder. -/
namespace PassChain

open Attempt Recorder

/-- All that a chain draws with is alive on its device. -/
structure Chain.Sound (c : Chain Recorder) : Prop where
  pool : c.pool.Alive c.device
  passes : ∀ p ∈ c.passes, p.Alive c.pool.lookups c.device
  count : c.passes.length = c.pool.targets.length + 1

namespace Recorder

variable {r r' : Recorder}

theorem createTexture_grows (h : r.Issued) (desc : TextureDesc) :
    (GpuDevice.createTexture desc).Ends r
      (fun id r' => r.Grows r' ∧ r'.texture? id = some desc ∧ r.Fits desc.size)
      (fun _ _ => True) := by
  refine (createTexture_ends r desc).mono ?_ (fun _ _ _ => trivial)
  rintro id r' ⟨hid, hr', hfits⟩
  subst hid hr'
  exact ⟨withTexture_grows h desc, by rw [h.texture?_withTexture, if_pos rfl], hfits⟩

theorem createBuffer_grows (h : r.Issued) (label : String) (kind : BufferKind) (size : Nat) :
    (GpuDevice.createBuffer label kind size).Ends r
      (fun id r' => r.Grows r' ∧ ∃ b, r'.buffer? id = some b ∧ b.kind = kind ∧ b.data.length = size)
      (fun _ _ => True) := by
  refine (createBuffer_ends r label kind size).mono ?_ (fun _ _ _ => trivial)
  rintro id r' ⟨hid, hr'⟩
  subst hid hr'
  refine ⟨withBuffer_grows h label kind size, ⟨label, kind, List.replicate size 0⟩, ?_, rfl, ?_⟩
  · rw [h.buffer?_withBuffer, if_pos rfl]
  · simp

theorem writeTexture_grows (h : r.Issued) (id : TextureId) (size : Size) (data : List UInt8) :
    (GpuDevice.writeTexture id size data).Ends r (fun _ r' => r.Grows r') (fun _ r' => r' = r) := by
  refine (writeTexture_ends r id size data).mono ?_ (fun _ _ hr' => hr')
  intro _ r' hr'
  subst hr'
  exact ⟨⟨rfl, rfl, rfl, rfl, rfl, rfl, rfl, rfl⟩, ⟨h.textures, h.buffers, h.programs⟩,
    fun _ _ h => h, fun _ _ h => h, fun _ _ h => h⟩

end Recorder

namespace TexturePool

variable {r : Recorder}

theorem createHistory_alive (h : r.Issued) (size : Size) (n : Nat) :
    (createHistory size n).Ends r
      (fun slots r' => r.Grows r' ∧
        ∀ (i : Nat) (hi : i < n), r'.texture? slots[i] = some ⟨s!"history{i}", size, .bgra8, false⟩)
      (fun _ _ => True) := by
  refine createHistory_each (R := Recorder.Grows)
    (Q := fun r' i id => r'.texture? id = some ⟨s!"history{i}", size, .bgra8, false⟩) (.refl h) ?_ n
  intro i r₁ h₁
  refine (createTexture_grows h₁.issued _).mono_ok ?_
  rintro id r₂ ⟨h₂, hid, _⟩
  exact ⟨h₁.trans h₂, hid, fun _ _ hother => h₂.textures _ _ hother⟩

theorem create_alive (h : r.Issued) (targetCount : Nat) (maxInput : Size) (pow2 : Bool) :
    (create targetCount maxInput pow2).Ends r
      (fun pool r' => r.Grows r' ∧ pool.Alive r') (fun _ _ => True) := by
  unfold create
  simp only [ends_bind, ends_get, ends_ite, ends_throw, implies_true, true_and, ends_pure]
  refine fun _ => (createHistory_alive h maxInput historySlots).mono_ok ?_
  rintro slots r₁ ⟨h₁, hslots⟩
  refine (createTexture_grows h₁.issued _).mono_ok ?_
  rintro id r₂ ⟨h₂, hid, _⟩
  refine (writeTexture_grows h₂.issued _ _ _).mono ?_ (fun _ _ _ => trivial)
  intro _ r₃ h₃
  have htarget (i : Nat) : (List.replicate targetCount (none : Option RenderTarget))[i]?.join =
      none := by
    rw [List.getElem?_replicate]
    split <;> rfl
  refine ⟨h₁.trans (h₂.trans h₃), ⟨h₃.issued, ?_, h₃.textures _ _ hid, by simp, ?_, ?_⟩⟩
  · intro i hi
    have hslot := (h₂.trans h₃).textures _ _ (hslots i hi)
    simpa [History.ofTextures] using hslot
  · intro i t ht
    simp [target?, htarget] at ht
  · intro i j t u ht
    simp [target?, htarget] at ht

/-- A lookup texture may be added. -/
theorem Alive.withLookup {pool : TexturePool} (h : pool.Alive r) {l : LookupTexture}
    {label : String}
    (hl : r.texture? l.texture = some ⟨label, l.size, .rgba8, false⟩) :
    TexturePool.Alive { pool with lookups := pool.lookups ++ [l] } r where
  issued := h.issued
  history := h.history
  fallback := h.fallback
  lookups k hk := by
    rcases List.mem_append.mp hk with hk | hk
    · exact h.lookups k hk
    · rw [List.mem_singleton.mp hk]
      exact ⟨label, hl⟩
  targets := h.targets
  distinct := h.distinct

theorem loadLookup_alive {pool : TexturePool} (h : pool.Alive r) (files : FileSystem)
    (description : LookupImage) :
    (pool.loadLookup files description).Ends r
      (fun pool' r' => r.Grows r' ∧ pool'.Alive r') (fun _ _ => True) := by
  unfold loadLookup insertLookup
  split
  · trivial
  · simp only [ends_bind, ends_get, ends_ite, ends_throw, ends_tryCatch, ends_modify, ends_pure,
      implies_true, true_and]
    refine fun _ _ => (createTexture_grows h.issued _).mono_ok ?_
    rintro id r₁ ⟨h₁, hid, _⟩
    refine (writeTexture_grows h₁.issued _ _ _).mono ?_ (fun _ _ _ => trivial)
    intro _ r₂ h₂
    exact ⟨h₁.trans h₂, (h.grows (h₁.trans h₂)).withLookup (h₂.textures _ _ hid)⟩

end TexturePool

/-- A texture that is looked up by its id is one of the lookup textures. -/
theorem BindContext.lookup_of_sourceOf {c : BindContext} {index : Nat} {ref : TextureRef}
    {id : TextureId} {size : Size} (h : c.sourceOf index ref = .lookup id size) :
    ∃ l ∈ c.lookups, l.texture = id := by
  cases ref with
  | source | orig => simp [sourceOf] at h
  | prev n | pass n | passPrev n =>
    simp only [sourceOf] at h
    split at h <;> try split at h
    all_goals simp at h
  | lut name =>
    simp only [sourceOf, lookup?] at h
    split at h
    · rename_i l hl
      simp only [TextureSource.lookup.injEq] at h
      exact ⟨l, List.mem_of_find?_eq_some hl, h.1⟩
    · simp at h

namespace Assembly

variable {a : Assembly Recorder} {files : FileSystem}

theorem link_alive (h : a.device.Issued) (label text : String) :
    (link label text).Ends a
      (fun r a' => a.device.Grows a'.device ∧ a'.device.programLabel? r.1 = some label)
      (fun _ _ => True) := by
  unfold link
  simp only [ends_bind, ends_ofExcept, onDevice, ends_on, ends_modify, ends_pure, implies_true,
    and_true]
  intro program _
  refine (createProgram_ends a.device label text program).mono ?_ (fun _ _ _ => trivial)
  rintro id r ⟨hid, hr⟩
  subst hid hr
  exact ⟨createProgram_grows h label, by rw [h.programLabel?_createProgram, if_pos rfl]⟩

theorem linkPasses_alive (h : a.device.Issued) (smooth : Bool) (passes : List Pass) :
    (linkPasses files smooth passes).Ends a
      (fun linked a' => a.device.Grows a'.device ∧
        ∀ l ∈ linked, a'.device.programLabel? l.id = some l.label)
      (fun _ _ => True) := by
  induction passes generalizing a with
  | nil => exact ⟨.refl h, by simp⟩
  | cons pass rest ih =>
    simp only [linkPasses, linkPass, ends_bind, ends_ofExcept, ends_pure, implies_true, and_true]
    rintro ⟨label, text⟩ _
    refine (link_alive h label text).mono_ok ?_
    rintro r a₁ ⟨h₁, hr⟩ _ _
    refine (ih h₁.issued).mono_ok ?_
    rintro later a₂ ⟨h₂, hlater⟩
    refine ⟨h₁.trans h₂, ?_⟩
    intro l hl
    rcases List.mem_cons.mp hl with rfl | hl
    · exact h₂.programs _ _ hr
    · exact hlater l hl

theorem loadLookups_alive {pool : TexturePool} (h : pool.Alive a.device)
    (images : List LookupImage) :
    (loadLookups files images pool).Ends a
      (fun pool' a' => a.device.Grows a'.device ∧ pool'.Alive a'.device) (fun _ _ => True) := by
  induction images generalizing pool a with
  | nil => exact ⟨.refl h.issued, h⟩
  | cons image rest ih =>
    simp only [loadLookups, ends_bind, onDevice, ends_on, ends_modify]
    refine (TexturePool.loadLookup_alive h files image).mono_ok ?_
    rintro pool₁ r₁ ⟨h₁, hpool⟩
    refine (ih hpool).mono_ok ?_
    rintro _ _ ⟨h₂, hrest⟩
    exact ⟨h₁.trans h₂, hrest⟩

theorem compilePass_alive (h : a.device.Issued) (context : BindContext) (align : Bool)
    (index : Nat) {l : LinkedPass} (hl : a.device.programLabel? l.id = some l.label) :
    (compilePass context align index l).Ends a
      (fun p a' => a.device.Grows a'.device ∧ p.Alive context.lookups a'.device)
      (fun _ _ => True) := by
  unfold compilePass createBuffer
  simp only [ends_bind, onDevice, ends_on, ends_modify, ends_pure]
  refine (createBuffer_grows h _ _ _).mono_ok ?_
  rintro vb r₁ ⟨h₁, b, hb, hkind, hlen⟩
  refine (createBuffer_grows h₁.issued _ _ _).mono_ok ?_
  rintro ub r₂ ⟨h₂, hu⟩
  refine ⟨h₁.trans h₂, (h₁.trans h₂).programs _ _ hl, ⟨b, h₂.buffers _ _ hb, hkind, hlen⟩, hu,
    List.length_replicate, ?_⟩
  intro w hw id size hsource
  obtain ⟨t, _, rfl⟩ := List.mem_map.mp hw
  exact BindContext.lookup_of_sourceOf hsource

theorem compilePasses_alive (h : a.device.Issued) (context : BindContext) (align : Bool)
    (index : Nat) {linked : List LinkedPass}
    (hlinked : ∀ l ∈ linked, a.device.programLabel? l.id = some l.label) :
    (compilePasses context align index linked).Ends a
      (fun passes a' => a.device.Grows a'.device ∧ ∀ p ∈ passes, p.Alive context.lookups a'.device)
      (fun _ _ => True) := by
  induction linked generalizing index a with
  | nil => exact ⟨.refl h, by simp⟩
  | cons l rest ih =>
    simp only [compilePasses, ends_bind, ends_pure]
    refine (compilePass_alive h context align index (hlinked l (by simp))).mono_ok ?_
    rintro p a₁ ⟨h₁, hp⟩
    have hrest (m) (hm : m ∈ rest) : a₁.device.programLabel? m.id = some m.label :=
      h₁.programs _ _ (hlinked m (by simp [hm]))
    refine (ih h₁.issued (index + 1) hrest).mono_ok ?_
    rintro later a₂ ⟨h₂, hlater⟩
    refine ⟨h₁.trans h₂, ?_⟩
    intro q hq
    rcases List.mem_cons.mp hq with rfl | hq
    · exact hp.grows h₂
    · exact hlater q hq

theorem build_alive (h : a.device.Issued) (files : FileSystem) (preset : Preset)
    (settings : ChainSettings) :
    (Assembly.build files preset settings).Ends a
      (fun r a' => a.device.Grows a'.device ∧ r.2.1.Alive a'.device ∧
        ∀ p ∈ r.2.2, p.Alive r.2.1.lookups a'.device) (fun _ _ => True) := by
  unfold Assembly.build
  generalize (Wgsl.Bundled.text? stockName).getD "" = stockText
  simp only [ends_bind, ends_ofExcept, ends_ite, ends_throw, ends_pure, ends_modify, onDevice,
    ends_on, implies_true, and_true, true_and]
  intro _ _ _
  refine (link_alive h _ _).mono_ok ?_
  rintro _ a₁ ⟨h₁, _⟩
  refine (linkPasses_alive h₁.issued _ _).mono_ok ?_
  rintro linked a₂ ⟨h₂, hlinked⟩
  refine (TexturePool.create_alive h₂.issued _ _ _).mono_ok ?_
  rintro pool r₃ ⟨h₃, hpool⟩
  refine (loadLookups_alive hpool _).mono_ok ?_
  rintro pool' a₄ ⟨h₄, hpool'⟩
  refine (compilePasses_alive h₄.issued _ _ 0
    fun l hl => (h₃.trans h₄).programs _ _ (hlinked l hl)).mono_ok ?_
  rintro passes a₅ ⟨h₅, hpasses⟩
  exact ⟨h₁.trans (h₂.trans (h₃.trans (h₄.trans h₅))), hpool'.grows h₅, hpasses⟩

end Assembly

namespace Chain

variable {device : Recorder} {files : FileSystem} {preset : Preset} {settings : ChainSettings}
  {c : Chain Recorder}

theorem build_grows (hdevice : device.Issued) (h : build device files preset settings = .ok c) :
    device.Grows c.device ∧ c.Sound := by
  have hfrom := build_builtFrom h
  obtain ⟨a, ha, hc⟩ := build_eq_ok h
  obtain ⟨hgrows, hpool, hpasses⟩ := (Assembly.build_alive hdevice files preset settings).of_ok ha
  have hrest : a.device.Grows c.device := by
    rw [hc]
    exact ⟨⟨rfl, rfl, rfl, rfl, rfl, rfl, rfl, rfl⟩,
      ⟨hgrows.issued.textures, hgrows.issued.buffers, hgrows.issued.programs⟩,
      fun _ _ h => h, fun _ _ h => h, fun _ _ h => h⟩
  refine ⟨hgrows.trans hrest, hpool.grows hrest, fun p hp => (hpasses p hp).grows hrest, ?_⟩
  have hpos := List.length_pos_iff.mpr hfrom.passes_ne_nil
  rw [hfrom.targets, List.length_replicate, ← hfrom.count]
  omega

end Chain

end PassChain
