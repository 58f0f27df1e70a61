import PassChain.Proofs.Ledger
import PassChain.Proofs.ObligingDevice
import PassChain.Proofs.Uploads

/-! What a chain that cannot be built leaves on a recorder. -/
namespace PassChain

open Attempt Recorder

/-- The textures that every pool makes for itself, in the order in which it makes them. -/
def TexturePool.ownTextures (maxInput : Size) : List TextureDesc :=
  (List.range historySlots).map (fun i => ⟨s!"history{i}", maxInput, .bgra8, false⟩) ++
    [⟨"fallback", ⟨1, 1⟩, .rgba8, false⟩]

/-- Their labels. -/
def TexturePool.ownLabels : List String :=
  (List.range historySlots).map (fun i => s!"history{i}") ++ ["fallback"]

/-- How many of its own textures a pool had made when the next of them was refused. -/
def Error.stranded : Error → Nat
  | .device (.allocation label _) => (TexturePool.ownLabels.idxOf? label).getD 0
  | _ => 0

namespace Error

theorem stranded_history {k : Nat} (hk : k < historySlots) (pattern : String) :
    stranded (.device (.allocation s!"history{k}" pattern)) = k := by
  have hall : ∀ i : Fin historySlots,
      (TexturePool.ownLabels.idxOf? s!"history{i.val}").getD 0 = i.val := by decide
  exact hall ⟨k, hk⟩

theorem stranded_fallback (pattern : String) :
    stranded (.device (.allocation "fallback" pattern)) = historySlots := by
  show (TexturePool.ownLabels.idxOf? "fallback").getD 0 = historySlots
  decide

/-- No other texture or buffer goes by such a label. -/
theorem stranded_other {label : String} {c : Char} (hc : label.toList.head? = some c)
    (hother : c ≠ 'h' ∧ c ≠ 'f') (pattern : String) :
    stranded (.device (.allocation label pattern)) = 0 := by
  have hown : ∀ l ∈ TexturePool.ownLabels,
      l.toList.head? = some 'h' ∨ l.toList.head? = some 'f' := by decide
  have hlabel : label ∉ TexturePool.ownLabels := by
    intro hmem
    rcases hown label hmem with h | h
    · exact hother.1 (Option.some.inj (hc.symm.trans h))
    · exact hother.2 (Option.some.inj (hc.symm.trans h))
  show (TexturePool.ownLabels.idxOf? label).getD 0 = 0
  rw [List.idxOf?_eq_none_iff.mpr hlabel]
  rfl

theorem stranded_lookup (id pattern : String) :
    stranded (.device (.allocation s!"lut:{id}" pattern)) = 0 := by
  have hlut : "lut:".toList = ['l', 'u', 't', ':'] := by decide
  refine stranded_other (c := 'l') ?_ (by decide) pattern
  show ("lut:" ++ id).toList.head? = some 'l'
  rw [String.toList_append, hlut]
  rfl

theorem stranded_buffer (i : Nat) (rest pattern : String) :
    stranded (.device (.allocation s!"pass{i}{rest}" pattern)) = 0 := by
  have hpass : "pass".toList = ['p', 'a', 's', 's'] := by decide
  refine stranded_other (c := 'p') ?_ (by decide) pattern
  show ("pass" ++ toString i ++ rest).toList.head? = some 'p'
  rw [String.toList_append, String.toList_append, hpass]
  rfl

end Error

/-- `r'` is `r` but for textures made by these descriptions. -/
structure Recorder.Adds (r r' : Recorder) (descs : List TextureDesc) : Prop where
  issued : r'.Issued
  textures : ∃ new, r'.textures = r.textures ++ new ∧ new.map (·.2) = descs
  buffers : r'.buffers = r.buffers
  programs : r'.programs = r.programs
  maxDimension : r'.maxDimension = r.maxDimension

namespace Recorder

variable {base r r' : Recorder} {descs : List TextureDesc} {textures : List TextureId}
  {buffers : List BufferId} {programs : List ProgramId}

theorem Adds.refl (h : r.Issued) : r.Adds r [] := ⟨h, ⟨[], by simp⟩, rfl, rfl, rfl⟩

theorem Adds.withTexture (h : r.Adds r' descs) (desc : TextureDesc) :
    r.Adds (r'.withTexture desc) (descs ++ [desc]) where
  issued := h.issued.withTexture desc
  textures := by
    obtain ⟨new, hnew, hdescs⟩ := h.textures
    refine ⟨new ++ [(⟨r'.nextId⟩, desc)], ?_, by simp [hdescs]⟩
    rw [Recorder.withTexture, hnew, List.append_assoc]
  buffers := h.buffers
  programs := h.programs
  maxDimension := h.maxDimension

theorem Holds.createTexture (h : base.Holds r textures buffers programs) (desc : TextureDesc) :
    (GpuDevice.createTexture desc).Ends r
      (fun id r' => base.Holds r' (textures ++ [id]) buffers programs)
      (fun _ r' => base.Holds r' textures buffers programs) := by
  refine (createTexture_ends r desc).mono ?_ (fun _ _ he => he.1 ▸ h)
  rintro id r' ⟨rfl, rfl, _⟩
  exact h.withTexture desc

theorem Holds.writeTexture (h : base.Holds r textures buffers programs) (id : TextureId)
    (size : Size) (data : List UInt8) :
    (GpuDevice.writeTexture id size data).Ends r
      (fun _ r' => base.Holds r' textures buffers programs)
      (fun _ r' => base.Holds r' textures buffers programs) := by
  refine (writeTexture_ends r id size data).mono ?_ (fun _ _ he => he ▸ h)
  rintro _ r' rfl
  exact h.of_same rfl rfl rfl rfl

/-- A write is never refused as an allocation. -/
theorem writeTexture_stranded (r : Recorder) (id : TextureId) (size : Size) (data : List UInt8) :
    (GpuDevice.writeTexture id size data).Ends r (fun _ _ => True)
      (fun e _ => e.stranded = 0) := by
  simp only [GpuDevice.writeTexture, ends_ofStep, Recorder.writeTexture]
  refine ⟨fun _ _ _ => trivial, ?_⟩
  intro e he
  split at he
  · cases he; rfl
  · split at he
    · cases he; rfl
    · split at he
      · cases he; rfl
      · split at he
        · cases he; rfl
        · simp at he

end Recorder

namespace TexturePool

variable {base r : Recorder} {textures : List TextureId} {buffers : List BufferId}
  {programs : List ProgramId} {maxInput : Size}

theorem createHistory_holds (h : base.Holds r textures buffers programs) (size : Size) (n : Nat) :
    (createHistory size n).Ends r
      (fun slots r' => base.Holds r' (textures ++ slots.toList) buffers programs)
      (fun _ _ => True) := by
  induction n with
  | zero => simpa [createHistory] using h
  | succ n ih =>
    simp only [createHistory, ends_bind, ends_pure]
    refine ih.mono_ok ?_
    intro slots r₁ h₁
    refine (h₁.createTexture _).mono ?_ (fun _ _ _ => trivial)
    intro id r₂ h₂
    rw [Vector.toList_push, ← List.append_assoc]
    exact h₂

theorem create_holds (h : base.Holds r [] buffers programs) (targetCount : Nat) (maxInput : Size)
    (pow2 : Bool) :
    (create targetCount maxInput pow2).Ends r
      (fun pool r' => base.Holds r' pool.textures buffers programs) (fun _ _ => True) := by
  have hnone : (List.replicate targetCount (none : Option RenderTarget)).filterMap
      (·.map (·.texture)) = [] := by
    simp
  unfold create
  simp only [ends_bind, ends_get, ends_ite, ends_throw, implies_true, true_and, ends_pure]
  refine fun _ => (createHistory_holds h maxInput historySlots).mono_ok ?_
  intro slots r₁ h₁
  refine (h₁.createTexture _).mono ?_ (fun _ _ _ => trivial)
  intro id r₂ h₂
  refine (h₂.writeTexture _ _ _).mono ?_ (fun _ _ _ => trivial)
  intro _ r₃ h₃
  have hslots : (History.ofTextures slots maxInput).slots.toList.map (·.texture) =
      slots.toList := by
    rw [History.ofTextures, Vector.toList_map, List.map_map]
    exact List.map_id _
  simpa [TexturePool.textures, hnone, hslots] using h₃

theorem ownTextures_take_succ {n : Nat} (hn : n < historySlots) :
    (ownTextures maxInput).take (n + 1) =
      (ownTextures maxInput).take n ++ [⟨s!"history{n}", maxInput, .bgra8, false⟩] := by
  have hget : (ownTextures maxInput)[n]? = some ⟨s!"history{n}", maxInput, .bgra8, false⟩ := by
    rw [ownTextures, List.getElem?_append_left (by simpa using hn)]
    simp [hn]
  rw [List.take_add_one, hget, Option.toList_some]

/-- Textures of a ring that cannot be completed stay where they are. -/
theorem createHistory_adds (h : r.Issued) (hfits : r.Fits maxInput) {n : Nat}
    (hn : n ≤ historySlots) :
    (createHistory maxInput n).Ends r
      (fun _ r' => r.Adds r' ((ownTextures maxInput).take n))
      (fun e r' => r.Adds r' ((ownTextures maxInput).take e.stranded)) := by
  induction n with
  | zero => exact .refl h
  | succ n ih =>
    simp only [createHistory, ends_bind, ends_pure]
    refine (ih (Nat.le_of_succ_le hn)).mono_ok ?_
    intro slots r₁ h₁
    refine (createTexture_ends r₁ _).mono ?_ ?_
    · rintro id r₂ ⟨_, rfl, _⟩
      rw [ownTextures_take_succ hn]
      exact h₁.withTexture _
    · rintro e r₂ ⟨rfl, ⟨pattern, _, rfl⟩ | ⟨_, hmisfit⟩⟩
      · rw [Error.stranded_history hn]
        exact h₁
      · exact absurd (hfits.of_limit h₁.maxDimension) hmisfit

/-- So does the whole ring when there is no texture to stand in for missing ones. -/
theorem create_adds (h : r.Issued) (targetCount : Nat) (maxInput : Size) (pow2 : Bool) :
    (create targetCount maxInput pow2).Ends r (fun _ _ => True)
      (fun e r' => r.Adds r' ((ownTextures maxInput).take e.stranded)) := by
  unfold create
  simp only [ends_bind, ends_get, ends_ite, ends_throw, ends_pure]
  refine ⟨fun _ => .refl h, ?_⟩
  intro hroom
  have hfits : r.Fits maxInput := by
    simp only [Size.within, Bool.not_eq_true', Bool.not_eq_false, Bool.and_eq_true,
      decide_eq_true_eq] at hroom
    exact ⟨⟨hroom.1.1.1, hroom.1.2⟩, hroom.1.1.2, hroom.2⟩
  refine (createHistory_adds h hfits (Nat.le_refl _)).mono_ok ?_
  intro slots r₁ h₁
  have hone : r₁.Fits ⟨1, 1⟩ := by
    have hlimit := UInt32.le_trans hfits.1.1 hfits.1.2
    exact Fits.of_limit ⟨⟨by decide, hlimit⟩, by decide, hlimit⟩ h₁.maxDimension
  refine ((createTexture_ends r₁ _).and (createTexture_grows h₁.issued _)).mono ?_ ?_
  · rintro id r₂ ⟨_, _, hid, _⟩
    exact (writeTexture_fits hid (by decide) (by decide) (by decide) (by decide)).mono
      (fun _ _ _ => trivial) (fun _ _ he => he.elim)
  · rintro e r₂ ⟨⟨rfl, ⟨pattern, _, rfl⟩ | ⟨_, hmisfit⟩⟩, _⟩
    · rw [Error.stranded_fallback]
      exact h₁
    · exact absurd hone hmisfit

/-- A lookup texture is either added or leaves nothing behind. -/
theorem loadLookup_holds {pool : TexturePool} (h : base.Holds r pool.textures buffers programs)
    (files : FileSystem) (description : LookupImage) :
    (pool.loadLookup files description).Ends r
      (fun pool' r' => base.Holds r' pool'.textures buffers programs)
      (fun e r' => e.stranded = 0 ∧ base.Holds r' pool.textures buffers programs) := by
  unfold loadLookup insertLookup
  split
  · exact ⟨rfl, h⟩
  · rename_i image _
    simp only [ends_bind, ends_get, ends_ite, ends_throw, ends_tryCatch, ends_modify, ends_pure]
    refine ⟨fun _ => ⟨rfl, h⟩, fun _ => ⟨fun _ => ⟨rfl, h⟩, fun _ => ?_⟩⟩
    refine ((h.createTexture _).and (createTexture_ends r _)).mono ?_ ?_
    · rintro id r₁ ⟨h₁, rfl, _⟩
      refine ((h₁.writeTexture _ _ _).and (writeTexture_stranded _ _ _ _)).mono ?_ ?_
      · rintro _ r₂ ⟨h₂, _⟩
        refine h₂.perm ?_ (.refl _) (.refl _)
        simp only [TexturePool.textures, List.map_append, List.map_cons, List.map_nil,
          List.append_assoc]
        exact .append_left _ (.append_left _ (.append_left _ List.perm_append_comm))
      · rintro e r₂ ⟨h₂, he⟩
        refine ⟨he, (h₂.releaseTexture (by simp)).perm ?_ (.refl _) (.refl _)⟩
        have hback := (List.perm_append_singleton (⟨r.nextId⟩ : TextureId) pool.textures).erase
          ⟨r.nextId⟩
        rwa [List.erase_cons_head] at hback
    · rintro e r₁ ⟨h₁, _, ⟨pattern, _, rfl⟩ | ⟨rfl, _⟩⟩
      · exact ⟨Error.stranded_lookup description.id pattern, h₁⟩
      · exact ⟨rfl, h₁⟩

end TexturePool

/-- The buffers of a pass. -/
def CompiledPass.buffers (p : CompiledPass) : List BufferId := [p.vertexBuffer, p.uniformBuffer]

namespace Assembly

variable {base : Recorder} {a a' : Assembly Recorder} {files : FileSystem}

/-- The recorder of `a` holds what `base` held and what the assembly has listed as its own. -/
def Accounts (base : Recorder) (a : Assembly Recorder) : Prop :=
  base.Holds a.device ((a.pool.map (·.textures)).getD []) a.buffers a.programs

theorem Accounts.release (h : a.Accounts base) : a.release.textures = base.textures ∧
    a.release.buffers = base.buffers ∧ a.release.programs = base.programs := by
  have hrest := Holds.releaseBuffers (Holds.releasePrograms h)
  unfold Assembly.release
  cases hpool : a.pool with
  | none =>
    rw [hpool] at hrest
    exact hrest.restored
  | some pool =>
    rw [hpool] at hrest
    exact hrest.releaseTextures.restored

theorem link_accounts (h : a.Accounts base) (label text : String) :
    (link label text).Ends a
      (fun r a' => a'.Accounts base ∧ a'.pool = a.pool ∧ a'.buffers = a.buffers ∧
        a'.programs = a.programs ++ [r.1])
      (fun e a' => e.stranded = 0 ∧ a'.Accounts base) := by
  unfold link
  simp only [ends_bind, ends_ofExcept, onDevice, ends_on, ends_modify, ends_pure]
  refine ⟨?_, fun _ _ => ⟨rfl, h⟩⟩
  intro program _
  refine (createProgram_ends a.device label text program).mono ?_ (fun _ _ he => he.elim)
  rintro id r ⟨rfl, rfl⟩
  exact ⟨h.createProgram label, trivial, trivial, trivial⟩

theorem linkPasses_accounts (h : a.Accounts base) (smooth : Bool) (passes : List Pass) :
    (linkPasses files smooth passes).Ends a
      (fun linked a' => a'.Accounts base ∧ a'.pool = a.pool ∧ a'.buffers = a.buffers ∧
        a'.programs = a.programs ++ linked.map (·.id))
      (fun e a' => e.stranded = 0 ∧ a'.Accounts base) := by
  induction passes generalizing a with
  | nil => exact ⟨h, rfl, rfl, by simp⟩
  | cons pass rest ih =>
    simp only [linkPasses, linkPass, ends_bind, ends_ofExcept, ends_pure]
    refine ⟨?_, fun _ _ => ⟨rfl, h⟩⟩
    rintro ⟨label, text⟩ _
    refine (link_accounts h label text).mono_ok ?_
    rintro r a₁ ⟨h₁, hpool, hbuffers, hprograms⟩
    refine ⟨fun _ _ => (ih h₁).mono_ok ?_, fun _ _ => ⟨rfl, h₁⟩⟩
    rintro later a₂ ⟨h₂, hpool', hbuffers', hprograms'⟩
    refine ⟨h₂, hpool'.trans hpool, hbuffers'.trans hbuffers, ?_⟩
    rw [hprograms', hprograms, List.append_assoc]
    rfl

theorem loadLookups_accounts (h : a.Accounts base) {pool : TexturePool}
    (hpool : a.pool = some pool) (images : List LookupImage) :
    (loadLookups files images pool).Ends a
      (fun pool' a' => a'.Accounts base ∧ a'.pool = some pool' ∧ a'.buffers = a.buffers ∧
        a'.programs = a.programs)
      (fun e a' => e.stranded = 0 ∧ a'.Accounts base) := by
  have hheld : base.Holds a.device pool.textures a.buffers a.programs := by
    unfold Accounts at h
    rw [hpool] at h
    exact h
  induction images generalizing pool a with
  | nil => exact ⟨h, hpool, rfl, rfl⟩
  | cons image rest ih =>
    simp only [loadLookups, ends_bind, onDevice, ends_on, ends_modify]
    refine (TexturePool.loadLookup_holds hheld files image).mono ?_ ?_
    · intro pool₁ r₁ h₁
      exact ih (a := { a with device := r₁, pool := some pool₁ }) h₁ rfl h₁
    · rintro e r₁ ⟨he, h₁⟩
      refine ⟨he, ?_⟩
      unfold Accounts
      rw [hpool]
      exact h₁

theorem createBuffer_accounts (h : a.Accounts base) (label : String) (kind : BufferKind)
    (size : Nat) :
    (createBuffer label kind size).Ends a
      (fun id a' => a'.Accounts base ∧ a'.pool = a.pool ∧ a'.buffers = a.buffers ++ [id] ∧
        a'.programs = a.programs)
      (fun e a' => (∃ pattern, e = .device (.allocation label pattern)) ∧ a'.Accounts base) := by
  unfold createBuffer
  simp only [ends_bind, onDevice, ends_on, ends_modify, ends_pure]
  refine (createBuffer_ends a.device label kind size).mono ?_ ?_
  · rintro id r ⟨rfl, rfl⟩
    exact ⟨h.withBuffer label kind size, trivial, trivial, trivial⟩
  · rintro e r ⟨rfl, pattern, _, he⟩
    exact ⟨⟨pattern, he⟩, h⟩

theorem compilePass_accounts (h : a.Accounts base) (context : BindContext) (align : Bool)
    (index : Nat) (l : LinkedPass) :
    (compilePass context align index l).Ends a
      (fun p a' => a'.Accounts base ∧ a'.pool = a.pool ∧ a'.buffers = a.buffers ++ p.buffers ∧
        a'.programs = a.programs ∧ p.program = l.id)
      (fun e a' => e.stranded = 0 ∧ a'.Accounts base) := by
  unfold compilePass
  simp only [ends_bind, ends_pure]
  refine (createBuffer_accounts h _ _ _).mono ?_ ?_
  · rintro vb a₁ ⟨h₁, hpool, hbuffers, hprograms⟩
    refine (createBuffer_accounts h₁ _ _ _).mono ?_ ?_
    · rintro ub a₂ ⟨h₂, hpool', hbuffers', hprograms'⟩
      refine ⟨h₂, hpool'.trans hpool, ?_, hprograms'.trans hprograms, trivial⟩
      rw [hbuffers', hbuffers, List.append_assoc]
      rfl
    · rintro e a₂ ⟨⟨pattern, rfl⟩, h₂⟩
      exact ⟨Error.stranded_buffer index "-uniforms" pattern, h₂⟩
  · rintro e a₁ ⟨⟨pattern, rfl⟩, h₁⟩
    exact ⟨Error.stranded_buffer index "-vertices" pattern, h₁⟩

theorem compilePasses_accounts (h : a.Accounts base) (context : BindContext) (align : Bool)
    (index : Nat) (linked : List LinkedPass) :
    (compilePasses context align index linked).Ends a
      (fun passes a' => a'.Accounts base ∧ a'.pool = a.pool ∧
        a'.buffers = a.buffers ++ passes.flatMap (·.buffers) ∧ a'.programs = a.programs ∧
        passes.map (·.program) = linked.map (·.id))
      (fun e a' => e.stranded = 0 ∧ a'.Accounts base) := by
  induction linked generalizing index a with
  | nil => exact ⟨h, rfl, by simp, rfl, rfl⟩
  | cons l rest ih =>
    simp only [compilePasses, ends_bind, ends_pure]
    refine (compilePass_accounts h context align index l).mono_ok ?_
    rintro p a₁ ⟨h₁, hpool, hbuffers, hprograms, hprogram⟩
    refine (ih h₁ (index + 1)).mono_ok ?_
    rintro later a₂ ⟨h₂, hpool', hbuffers', hprograms', hlater⟩
    refine ⟨h₂, hpool'.trans hpool, ?_, hprograms'.trans hprograms, ?_⟩
    · rw [hbuffers', hbuffers, List.append_assoc]
      rfl
    · rw [List.map_cons, List.map_cons, hprogram, hlater]

/-- What has been created is listed, but for textures of a pool that could not be completed. -/
theorem build_accounts (hbase : base.Issued) (files : FileSystem) (preset : Preset)
    (settings : ChainSettings) :
    (Assembly.build files preset settings).Ends { device := base }
      (fun r a' => a'.Accounts base ∧ a'.pool = some r.2.1 ∧
        a'.buffers = r.2.2.flatMap (·.buffers) ∧ a'.programs = r.1 :: r.2.2.map (·.program))
      (fun e a' => ∃ lost, lost.map (·.2) =
          (TexturePool.ownTextures settings.maxInput).take e.stranded ∧
        a'.Accounts { base with textures := base.textures ++ lost }) := by
  have hstart : Accounts base { device := base } := Holds.refl hbase
  -- a failure at which nothing has been lost
  have hnothing {e : Error} {a' : Assembly Recorder} (he : e.stranded = 0)
      (h : a'.Accounts base) : ∃ lost, lost.map (·.2) =
        (TexturePool.ownTextures settings.maxInput).take e.stranded ∧
      a'.Accounts { base with textures := base.textures ++ lost } :=
    ⟨[], by rw [he]; rfl, by rw [List.append_nil]; exact h⟩
  unfold Assembly.build
  generalize (Wgsl.Bundled.text? stockName).getD "" = stockText
  simp only [ends_bind, ends_ofExcept, ends_ite, ends_throw, ends_pure, ends_modify, onDevice,
    ends_on]
  refine ⟨fun _ _ => ⟨fun _ => hnothing rfl hstart, fun _ => ?_⟩, fun _ _ => hnothing rfl hstart⟩
  refine (link_accounts hstart _ _).mono ?_ (fun e a' he => hnothing he.1 he.2)
  rintro stock a₁ ⟨h₁, hpool₁, hbuffers₁, hprograms₁⟩
  refine (linkPasses_accounts h₁ _ _).mono ?_ (fun e a' he => hnothing he.1 he.2)
  rintro linked a₂ ⟨h₂, hpool₂, hbuffers₂, hprograms₂⟩
  have hheld : base.Holds a₂.device [] a₂.buffers a₂.programs := by
    unfold Accounts at h₂
    rw [hpool₂, hpool₁] at h₂
    exact h₂
  refine ((TexturePool.create_holds hheld _ _ _).and
    (TexturePool.create_adds hheld.issued _ settings.maxInput _)).mono ?_ ?_
  · rintro pool r₃ ⟨h₃, _⟩
    refine (loadLookups_accounts (a := ⟨r₃, a₂.programs, a₂.buffers, some pool⟩) h₃ rfl _).mono ?_
      (fun e a' he => hnothing he.1 he.2)
    rintro pool' a₄ ⟨h₄, hpool₄, hbuffers₄, hprograms₄⟩
    refine (compilePasses_accounts h₄ _ _ 0 linked).mono ?_ (fun e a' he => hnothing he.1 he.2)
    rintro passes a₅ ⟨h₅, hpool₅, hbuffers₅, hprograms₅, hids⟩
    refine ⟨h₅, hpool₅.trans hpool₄, ?_, ?_⟩
    · rw [hbuffers₅, hbuffers₄, hbuffers₂, hbuffers₁]
      rfl
    · rw [hprograms₅, hprograms₄, hprograms₂, hprograms₁, hids]
      rfl
  · rintro e r₃ ⟨_, h₃⟩
    obtain ⟨lost, hlost, hdescs⟩ := h₃.textures
    refine ⟨lost, hdescs, h₃.issued, ?_, ?_, ?_⟩
    · rw [hlost, hheld.textures.of_nil, hpool₂, hpool₁]
      exact .refl _
    · rw [h₃.buffers]
      exact hheld.buffers
    · rw [h₃.programs]
      exact hheld.programs

end Assembly

/-- The recorder that a failed build hands back. -/
theorem Chain.build_error {device : Recorder} {files : FileSystem} {preset : Preset}
    {settings : ChainSettings} {b : BuildError Recorder} (hdevice : device.Issued)
    (h : build device files preset settings = .error b) :
    ∃ lost, lost.map (·.2) =
        (TexturePool.ownTextures settings.maxInput).take b.error.stranded ∧
      b.device.textures = device.textures ++ lost ∧ b.device.buffers = device.buffers ∧
      b.device.programs = device.programs := by
  unfold build at h
  split at h
  · rename_i e a ha
    obtain ⟨lost, hdescs, haccounts⟩ :=
      (Assembly.build_accounts hdevice files preset settings).of_error ha
    simp only [Except.error.injEq] at h
    subst h
    exact ⟨lost, hdescs, haccounts.release⟩
  · simp at h

/-- A call that is known to fail has no other ending. -/
theorem Attempt.ends_of_outcome {σ α : Type} {call : Attempt σ α} {s : σ} {e : Error}
    {ok : α → σ → Prop} (h : (call.outcome s).1 = .error e) :
    call.Ends s ok (fun e' _ => e' = e) := by
  unfold Attempt.outcome at h
  unfold Ends
  cases hc : call s with
  | ok a t => simp [hc] at h
  | error e' t => simpa [hc] using h

/-- A recorder on which a ring of input frames gets no second texture. -/
def Recorder.ringless : Recorder := ({} : Recorder).failAllocations "history1"

theorem Recorder.reachable_ringless : ringless.Reachable :=
  .after (.fresh 8192) (.failAllocations "history1")

theorem Pass.IsStock.programText {p : Pass} (h : p.IsStock) (files : FileSystem) :
    ∃ text, p.programText files = .ok (s!"builtin:{stockName}", text) ∧
      ∃ q, Program.ofText s!"builtin:{stockName}" text = .ok q :=
  ⟨_, Pass.programText_of_builtin h.1 rfl files, Program.ofText_stock _⟩

theorem Assembly.link_device {a : Assembly Recorder} {label text : String}
    (htext : ∃ p, Program.ofText label text = .ok p) :
    (link label text).Ends a (fun _ a' => a'.device = (a.device.createProgram label).2)
      (fun _ _ => False) := by
  obtain ⟨program, hprogram⟩ := htext
  unfold link
  simp only [hprogram, ends_bind, ends_ofExcept_ok, onDevice, ends_on, ends_modify, ends_pure]
  exact (createProgram_ends a.device label text program).mono_ok (fun _ _ h => h.2)

theorem Assembly.linkPass_device {a : Assembly Recorder} {files : FileSystem} {pass : Pass}
    (hpass : pass.IsStock) (smooth last : Bool) :
    (linkPass files smooth pass last).Ends a
      (fun _ a' => a'.device = (a.device.createProgram s!"builtin:{stockName}").2)
      (fun _ _ => False) := by
  obtain ⟨text, htext, hprogram⟩ := hpass.programText files
  unfold linkPass
  simp only [htext, hpass.2 last, ends_bind, ends_ofExcept_ok, ends_pure]
  exact link_device hprogram

/-- There, a chain of one stock pass fails at its ring. -/
theorem Assembly.build_ringless (files : FileSystem) {preset : Preset} {pass : Pass}
    (hpreset : preset.IsStock {}) (hpasses : preset.passes = [pass]) :
    (Assembly.build files preset {}).Ends { device := ringless } (fun _ _ => False)
      (fun e _ => e = .device (.allocation "history1" "history1")) := by
  have hcreate : ((TexturePool.create 0 (ChainSettings.maxInput {})
      (ChainSettings.pow2Targets {})).outcome
        ((ringless.createProgram stockName).2.createProgram s!"builtin:{stockName}").2).1 =
      .error (.device (.allocation "history1" "history1")) := rfl
  have hstock : ∃ p, Program.ofText stockName ((Wgsl.Bundled.text? stockName).getD "") = .ok p :=
    Program.ofText_stock stockName
  have hpass : pass.IsStock := hpreset.passes pass (by simp [hpasses])
  unfold Assembly.build
  revert hstock
  generalize (Wgsl.Bundled.text? stockName).getD "" = stockText
  intro hstock
  simp only [hpreset.valid, ends_bind, ends_ofExcept_ok, ends_ite, ends_throw, ends_pure]
  refine ⟨fun hmany => absurd hmany (Nat.not_lt.mpr hpreset.count), fun _ => ?_⟩
  refine (link_device hstock).mono ?_ (fun _ _ h => h.elim)
  intro _ a₁ h₁
  simp only [hpasses, linkPasses, List.isEmpty_nil, ends_bind, ends_pure]
  refine (linkPass_device hpass _ _).mono ?_ (fun _ _ h => h.elim)
  intro _ a₂ h₂
  simp only [onDevice, ends_on]
  rw [h₂, h₁]
  exact ends_of_outcome hcreate

theorem Preset.single_isStock : (single (.builtin stockName)).IsStock {} := by
  refine ⟨rfl, by decide, rfl, ?_⟩
  intro p hp
  have hsame : p = { shader := .builtin stockName } := by simpa [single] using hp
  subst hsame
  exact ⟨rfl, fun last => by cases last <;> rfl⟩

theorem Chain.build_ringless {preset : Preset} {pass : Pass} (hpreset : preset.IsStock {})
    (hpasses : preset.passes = [pass]) :
    ∃ b, build ringless .empty preset {} = .error b ∧ b.error.stranded = 1 := by
  have hends := Assembly.build_ringless .empty hpreset hpasses
  have hsecond : 1 < historySlots := by decide
  unfold build
  split
  · rename_i e a ha
    refine ⟨_, rfl, ?_⟩
    rw [hends.of_error ha]
    exact Error.stranded_history hsecond "history1"
  · rename_i ha
    exact (hends.of_ok ha).elim

/-- When a chain cannot be built, the recorder is handed back with the buffers, programs and
textures that it had, except that a ring of input frames or a stand-in that could not be completed
leaves behind the textures that had been made before. -/
theorem failed_build_releases {device : Recorder} {files : FileSystem} {preset : Preset}
    {settings : ChainSettings} {b : BuildError Recorder} (hdevice : device.Reachable)
    (h : Chain.build device files preset settings = .error b) :
    b.device.buffers = device.buffers ∧ b.device.programs = device.programs ∧
      (∃ lost, b.device.textures = device.textures ++ lost ∧
        lost.map (·.2) = (TexturePool.ownTextures settings.maxInput).take b.error.stranded) ∧
      (b.device.textures = device.textures ↔ b.error.stranded = 0) := by
  obtain ⟨lost, hdescs, htextures, hbuffers, hprograms⟩ :=
    Chain.build_error (issued_reachable hdevice) h
  refine ⟨hbuffers, hprograms, ⟨lost, htextures, hdescs⟩, ?_⟩
  have hlength := congrArg List.length hdescs
  simp only [List.length_map, List.length_take, TexturePool.ownTextures, List.length_append,
    List.length_range, List.length_singleton] at hlength
  rw [htextures, List.append_right_eq_self, ← List.length_eq_zero_iff, hlength]
  simp [historySlots]

theorem ringless_build_releases :
    ∃ b, Chain.passthrough ringless .empty {} = .error b ∧ ringless.Reachable ∧
      b.device.buffers = [] ∧ b.device.programs = [] ∧ b.error.stranded = 1 ∧
      ¬ b.device.textures = ringless.textures := by
  obtain ⟨b, hb, hone⟩ := Chain.build_ringless Preset.single_isStock rfl
  obtain ⟨hbuffers, hprograms, _, hiff⟩ := failed_build_releases reachable_ringless hb
  exact ⟨b, hb, reachable_ringless, hbuffers, hprograms, hone, by rw [hiff, hone]; decide⟩

/-- The first texture of the ring stays alive when the second one is refused. -/
theorem ringless_build_leaks :
    ∃ b, Chain.passthrough ringless .empty {} = .error b ∧ ringless.textures = [] ∧
      b.device.textures.map (·.2.label) = ["history0"] := by
  obtain ⟨b, hb, hone⟩ := Chain.build_ringless Preset.single_isStock rfl
  obtain ⟨lost, hdescs, htextures, _⟩ := Chain.build_error (issued_reachable reachable_ringless) hb
  have hlabels := congrArg (List.map (·.label)) hdescs
  rw [hone, List.map_map] at hlabels
  exact ⟨b, hb, rfl, by rw [htextures]; exact hlabels⟩

end PassChain
