import PassChain.Proofs.Attempt
import PassChain.Proofs.Session

/-! What a chain that could be built is made of, over any device. -/
namespace PassChain

open Attempt

/-- Linking `pass` has made `l`. -/
structure LinkedPass.Of (files : FileSystem) (smooth : Bool) (pass : Pass) (last : Bool)
    (l : LinkedPass) : Prop where
  program : ∃ text, pass.programText files = .ok (l.label, text) ∧
    Program.ofText l.label text = .ok l.program
  scale : l.scale = pass.scaleRules last
  valid : l.scale.validate = .ok ()
  format : l.format = pass.format
  sampler : l.sampler = .resolve pass.filter pass.wrap smooth
  frameCountMod : l.frameCountMod = pass.frameCountMod

/-- Compiling `l` as the pass at `index` has made `p`. -/
structure CompiledPass.Of (context : BindContext) (align : Bool) (index : Nat) (l : LinkedPass)
    (p : CompiledPass) : Prop where
  label : p.label = l.label
  program : p.program = l.id
  scale : p.scale = l.scale
  format : p.format = l.format
  geometry : p.geometry = { align }
  table : p.table = .ofProgram l.program index l.frameCountMod l.sampler context
  uniforms : p.uniforms = List.replicate p.table.uniformSize 0

section

variable {δ : Type} [GpuDevice δ]

/-- What creating each texture of the ring brings about, and creating the others keeps, holds of all
of them in the end. -/
theorem TexturePool.createHistory_each {R : δ → δ → Prop} {Q : δ → Nat → TextureId → Prop}
    {err : Error → δ → Prop} {d : δ} {size : Size} (hrefl : R d d)
    (hstep : ∀ i d', R d d' →
      (GpuDevice.createTexture ⟨s!"history{i}", size, .bgra8, false⟩).Ends d'
        (fun id d'' => R d d'' ∧ Q d'' i id ∧ ∀ j other, Q d' j other → Q d'' j other) err)
    (n : Nat) :
    (createHistory size n).Ends d
      (fun slots d' => R d d' ∧ ∀ (i : Nat) (hi : i < n), Q d' i slots[i]) err := by
  induction n with
  | zero => exact ⟨hrefl, fun i hi => absurd hi (Nat.not_lt_zero i)⟩
  | succ n ih =>
    simp only [createHistory, ends_bind, ends_pure]
    refine ih.mono_ok ?_
    rintro slots d₁ ⟨h₁, hslots⟩
    refine (hstep n d₁ h₁).mono_ok ?_
    rintro id d₂ ⟨h₂, hid, hkeep⟩
    refine ⟨h₂, ?_⟩
    intro i hi
    by_cases hlt : i < n
    · rw [Vector.getElem_push_lt hlt]
      exact hkeep _ _ (hslots i hlt)
    · have heq : i = n := by omega
      subst heq
      simpa using hid

theorem TexturePool.create_ends (targetCount : Nat) (maxInput : Size) (pow2 : Bool) (d : δ) :
    (TexturePool.create targetCount maxInput pow2).Ends d
      (fun pool _ => (∃ slots, pool.history = .ofTextures slots maxInput ∧
          ∃ d d' : δ, createHistory maxInput historySlots d = .ok slots d') ∧
        pool.targets = List.replicate targetCount none ∧ pool.lookups = [] ∧ pool.pow2 = pow2)
      (fun _ _ => True) := by
  unfold create
  simp only [ends_bind, ends_get, ends_ite, ends_throw, implies_true, true_and, ends_pure]
  refine fun _ => (ends_self _ d).mono ?_ (fun _ _ _ => trivial)
  intro slots d' hslots
  refine (ends_true _).mono_ok (fun _ _ _ => (ends_true _).mono_ok ?_)
  intro _ _ _
  exact ⟨⟨slots, rfl, d, d', hslots⟩, trivial⟩

theorem TexturePool.loadLookup_ends (pool : TexturePool) (files : FileSystem)
    (description : LookupImage) (d : δ) :
    (pool.loadLookup files description).Ends d
      (fun pool' _ => ∃ lookups, pool' = { pool with lookups }) (fun _ _ => True) := by
  unfold loadLookup insertLookup
  split
  · trivial
  · simp only [ends_bind, ends_get, ends_ite, ends_throw, ends_tryCatch, ends_modify, ends_pure,
      implies_true, true_and]
    refine fun _ _ => (ends_true _).mono_ok ?_
    intro _ _ _
    exact (ends_true _).mono_ok (fun _ _ _ => ⟨_, rfl⟩)

namespace Assembly

variable {a : Assembly δ} {files : FileSystem}

theorem loadLookups_ends (images : List LookupImage) (pool : TexturePool) :
    (loadLookups files images pool).Ends a
      (fun pool' _ => ∃ lookups, pool' = { pool with lookups }) (fun _ _ => True) := by
  induction images generalizing pool a with
  | nil => exact ⟨pool.lookups, rfl⟩
  | cons image rest ih =>
    simp only [loadLookups, ends_bind, onDevice, ends_on, ends_modify]
    refine (TexturePool.loadLookup_ends pool files image a.device).mono_ok ?_
    rintro _ _ ⟨lookups, h⟩
    subst h
    exact ih _

theorem linkPass_ends (smooth : Bool) (pass : Pass) (last : Bool) :
    (linkPass files smooth pass last).Ends a (fun l _ => l.Of files smooth pass last)
      (fun _ _ => True) := by
  unfold linkPass link
  simp only [ends_bind, ends_ofExcept, onDevice, ends_on, ends_modify, ends_pure, implies_true,
    and_true]
  rintro ⟨label, text⟩ htext program hprogram
  refine (ends_true _).mono_ok ?_
  intro id _ _ _ hvalid
  exact ⟨⟨text, htext, hprogram⟩, rfl, hvalid, rfl, rfl, rfl⟩

theorem linkPasses_ends (smooth : Bool) (passes : List Pass) :
    (linkPasses files smooth passes).Ends a
      (fun linked _ => linked.length = passes.length ∧ ∀ i pass (l : LinkedPass),
        passes[i]? = some pass → linked[i]? = some l →
          l.Of files smooth pass (i + 1 == passes.length))
      (fun _ _ => True) := by
  induction passes generalizing a with
  | nil => exact ⟨rfl, by simp⟩
  | cons pass rest ih =>
    simp only [linkPasses, ends_bind, ends_pure]
    refine (linkPass_ends smooth pass rest.isEmpty).mono_ok ?_
    intro l _ hl
    refine ih.mono_ok ?_
    rintro later _ ⟨hlen, hlater⟩
    refine ⟨by simp [hlen], forall_getElem?_cons ?_ ?_⟩
    · cases rest <;> simpa using hl
    · intro i p m hp hm
      simpa using hlater i p m hp hm

theorem compilePass_ends (context : BindContext) (align : Bool) (index : Nat) (l : LinkedPass) :
    (compilePass context align index l).Ends a (fun p _ => p.Of context align index l)
      (fun _ _ => True) := by
  unfold compilePass
  simp only [ends_bind, ends_pure]
  refine (ends_true _).mono_ok ?_
  intro _ _ _
  exact (ends_true _).mono_ok (fun _ _ _ => ⟨rfl, rfl, rfl, rfl, rfl, rfl, rfl⟩)

theorem compilePasses_ends (context : BindContext) (align : Bool) (index : Nat)
    (linked : List LinkedPass) :
    (compilePasses context align index linked).Ends a
      (fun passes _ => passes.length = linked.length ∧ ∀ i l (p : CompiledPass),
        linked[i]? = some l → passes[i]? = some p → p.Of context align (index + i) l)
      (fun _ _ => True) := by
  induction linked generalizing index a with
  | nil => exact ⟨rfl, by simp⟩
  | cons l rest ih =>
    simp only [compilePasses, ends_bind, ends_pure]
    refine (compilePass_ends context align index l).mono_ok ?_
    intro p _ hp
    refine (ih (index + 1)).mono_ok ?_
    rintro later _ ⟨hlen, hlater⟩
    refine ⟨by simp [hlen], forall_getElem?_cons hp ?_⟩
    intro i m q hm hq
    have h := hlater i m q hm hq
    rwa [Nat.add_assoc, Nat.add_comm 1 i] at h

end Assembly

end

/-- The pool and the passes of a chain follow from a preset and settings. -/
structure BuiltFrom (δ : Type) [GpuDevice δ] (files : FileSystem) (preset : Preset)
    (settings : ChainSettings) (pool : TexturePool) (passes : List CompiledPass) : Prop where
  valid : preset.validate = .ok ()
  count : passes.length = preset.passes.length
  most : preset.passes.length ≤ settings.maxPasses
  history : ∃ slots, pool.history = .ofTextures slots settings.maxInput ∧
    ∃ d d' : δ, TexturePool.createHistory settings.maxInput historySlots d = .ok slots d'
  targets : pool.targets = List.replicate (preset.passes.length - 1) none
  pow2 : pool.pow2 = settings.pow2Targets
  passes : ∀ i pass p, preset.passes[i]? = some pass → passes[i]? = some p →
    ∃ l : LinkedPass, l.Of files settings.smooth pass (i + 1 == preset.passes.length) ∧
      p.Of ⟨pool.lookups, preset.vars.map (·.id), settings.smooth⟩ settings.texelAlignment i l

theorem Preset.passes_ne_nil {p : Preset} (h : p.validate = .ok ()) : p.passes ≠ [] := by
  intro hnil
  simp [validate, hnil, bind, Except.bind] at h

variable {δ : Type} [GpuDevice δ]

namespace BuiltFrom

variable {files : FileSystem} {preset : Preset} {settings : ChainSettings} {pool : TexturePool}
  {passes : List CompiledPass}

theorem passes_ne_nil (h : BuiltFrom δ files preset settings pool passes) : passes ≠ [] := by
  have hpos := List.length_pos_iff.mpr (Preset.passes_ne_nil h.valid)
  rw [← h.count] at hpos
  exact List.length_pos_iff.mp hpos

theorem texel (h : BuiltFrom δ files preset settings pool passes) :
    pool.history.texel = settings.maxInput := by
  obtain ⟨_, hhistory, _⟩ := h.history
  rw [hhistory]
  rfl

end BuiltFrom

theorem Assembly.build_ends (a : Assembly δ) (files : FileSystem) (preset : Preset)
    (settings : ChainSettings) :
    (Assembly.build files preset settings).Ends a
      (fun r _ => BuiltFrom δ files preset settings r.2.1 r.2.2) (fun _ _ => True) := by
  unfold Assembly.build
  generalize (Wgsl.Bundled.text? stockName).getD "" = stockText
  simp only [ends_bind, ends_ofExcept, ends_ite, ends_throw, ends_pure, ends_modify, onDevice,
    ends_on, implies_true, and_true, true_and]
  intro _ hvalid hmost
  refine (ends_true _).mono_ok ?_
  intro _ _ _
  refine (linkPasses_ends settings.smooth preset.passes).mono_ok ?_
  rintro linked _ ⟨hlinked, hlink⟩
  refine (TexturePool.create_ends _ _ _ _).mono_ok ?_
  rintro pool _ ⟨hhistory, htargets, _, hpow2⟩
  refine (loadLookups_ends preset.lookups pool).mono_ok ?_
  rintro _ _ ⟨lookups, h⟩
  subst h
  refine (compilePasses_ends _ settings.texelAlignment 0 linked).mono_ok ?_
  rintro passes _ ⟨hpasses, hcompile⟩
  refine ⟨hvalid, hpasses.trans hlinked, Nat.not_lt.mp hmost, hhistory, htargets, hpow2, ?_⟩
  intro i pass p hpass hp
  have hi : i < linked.length := hpasses ▸ (List.getElem?_eq_some_iff.mp hp).1
  have hl : linked[i]? = some linked[i] := List.getElem?_eq_getElem hi
  refine ⟨linked[i], hlink i pass _ hpass hl, ?_⟩
  simpa using hcompile i _ p hl hp

namespace Chain

variable {device : δ} {files : FileSystem} {preset : Preset} {settings : ChainSettings}
  {c : Chain δ}

/-- A chain that has been built, and the assembly that it comes from. -/
theorem build_eq_ok (h : build device files preset settings = .ok c) :
    ∃ a, Assembly.build files preset settings { device } = .ok (c.stock, c.pool, c.passes) a ∧
      c = {
        device := GpuDevice.bindResting c.stock a.device, settings, passes := c.passes
        stock := c.stock, pool := c.pool, descriptions := preset.passes, programs := a.programs
        varIds := preset.vars.map (·.id), tracked := preset.vars.map fun _ => .ofNat 0 } := by
  unfold build at h
  split at h
  · simp at h
  · rename_i stock pool passes a ha
    simp only [Except.ok.injEq] at h
    subst h
    exact ⟨a, ha, rfl⟩

/-- A new chain waits for its first frame. -/
theorem build_idle (h : build device files preset settings = .ok c) :
    c.pending = false ∧ c.frameCount = 0 := by
  obtain ⟨_, _, hc⟩ := build_eq_ok h
  rw [hc]
  exact ⟨rfl, rfl⟩

theorem build_builtFrom (h : build device files preset settings = .ok c) :
    BuiltFrom δ files preset settings c.pool c.passes := by
  obtain ⟨_, ha, _⟩ := build_eq_ok h
  exact (Assembly.build_ends _ files preset settings).of_ok ha

end Chain

end PassChain
