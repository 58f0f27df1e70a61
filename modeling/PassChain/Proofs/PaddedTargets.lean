import PassChain.Proofs.FailedRequests
import PassChain.Proofs.TargetRequests

/-! What padding to powers of two makes of the targets of a pool, and where 32 bits do not suffice
for it. -/
namespace PassChain

open Attempt Recorder

/-- `p` is the least power of two that is not below `n`. -/
def IsNextPower (n p : Nat) : Prop := IsLeast {p | (∃ k, p = 2 ^ k) ∧ n ≤ p} p

theorem isNextPower_clog (n : Nat) : IsNextPower n (2 ^ Nat.clog 2 n) := by
  refine ⟨⟨⟨_, rfl⟩, Nat.le_pow_clog (by omega) n⟩, ?_⟩
  rintro _ ⟨⟨k, rfl⟩, hk⟩
  exact Nat.pow_le_pow_right (by omega) (Nat.clog_le_of_le_pow hk)

theorem isNextPower_iff {n p : Nat} : IsNextPower n p ↔ p = 2 ^ Nat.clog 2 n :=
  ⟨fun h => h.unique (isNextPower_clog n), fun h => h ▸ isNextPower_clog n⟩

/-- The texture with the least powers of two for edges that hold a picture. -/
structure Pads (logical texel : Size) : Prop where
  width : IsNextPower logical.width.toNat texel.width.toNat
  height : IsNextPower logical.height.toNat texel.height.toNat

/-- Whether the padded edges can be told in 32 bits. -/
def Size.Paddable (s : Size) : Prop := s.width ≤ 2147483648 ∧ s.height ≤ 2147483648

theorem TexturePool.texelSize?_eq_some_padded {pool : TexturePool} (hpow2 : pool.pow2 = true)
    {logical texel : Size} : pool.texelSize? logical = some texel ↔ Pads logical texel := by
  rw [texelSize?_eq_some, allocatedEdge, allocatedEdge, if_pos hpow2, if_pos hpow2]
  exact ⟨fun h => ⟨isNextPower_iff.mpr h.1, isNextPower_iff.mpr h.2⟩,
    fun h => ⟨isNextPower_iff.mp h.1, isNextPower_iff.mp h.2⟩⟩

theorem IsNextPower.pos {n : Nat} {p : UInt32} (h : IsNextPower n p.toNat) : 1 ≤ p := by
  rw [UInt32.le_iff_toNat_le, isNextPower_iff.mp h]
  exact Nat.one_le_two_pow

/-- A padded target can be made unless an edge exceeds the limit. -/
theorem Pads.fits_iff {r : Recorder} {logical texel : Size} (h : Pads logical texel) :
    r.Fits texel ↔ ¬ texel.Exceeds r.maxDimension := by
  have hwidth := h.width.pos
  have hheight := h.height.pos
  rw [Recorder.Fits, Size.Exceeds, not_or, UInt32.not_lt, UInt32.not_lt]
  tauto

/-- The textures that a device has been asked for, the first one first and whatever came of it. -/
structure Wishes where
  asked : List TextureDesc := []

namespace Wishes

instance : Observer Wishes where
  note event w := match event with
    | .wants desc => ⟨w.asked ++ [desc]⟩
    | _ => w
  refusal? _ _ := none

instance : Unobtrusive Wishes := ⟨fun _ _ => rfl⟩

end Wishes

/-- A device of which it is noted which textures it is asked for. -/
abbrev Surveyed (δ : Type) := Observed Wishes δ

namespace TexturePool

variable {pool : TexturePool} {r r' : Recorder} {pass : Nat} {logical : Size} {format : TexelFormat}

/-- How a request fails, and the textures that the device has been asked for by then. -/
inductive Refuses (pool : TexturePool) (r : Recorder) (pass : Nat) (logical : Size)
    (format : TexelFormat) : Error → List TextureDesc → Prop
  | placeless (h : pool.targets.length ≤ pass) :
    Refuses pool r pass logical format (.pool (.noTargetSlot pass)) []
  | overflow (h : pool.texelSize? logical = none) :
    Refuses pool r pass logical format (.pool (.paddingOverflow logical)) []
  | large {texel : Size} (padded : pool.texelSize? logical = some texel)
      (h : texel.Exceeds r.maxDimension) :
    Refuses pool r pass logical format (.pool (.targetSize pass texel r.maxDimension)) []
  | told {texel : Size} {pattern : String} (padded : pool.texelSize? logical = some texel)
      (small : ¬ texel.Exceeds r.maxDimension) (h : pattern ∈ r.allocationFaults) :
    Refuses pool r pass logical format
      (.device (.allocation (targetDesc pass texel format).label pattern))
      [targetDesc pass texel format]
  | misfit {texel : Size} (padded : pool.texelSize? logical = some texel)
      (small : ¬ texel.Exceeds r.maxDimension) (h : ¬ r.Fits texel) :
    Refuses pool r pass logical format
      (.device (.textureSize (targetDesc pass texel format).label texel))
      [targetDesc pass texel format]

/-- No more than the texture of the new target is asked for. -/
theorem ensureTarget_asks (pool : TexturePool) (pass : Nat) (logical : Size)
    (format : TexelFormat) (r : Recorder) :
    (pool.ensureTarget pass logical format).Ends (⟨r, {}⟩ : Surveyed Recorder)
      (fun answer w => pool.Grants r pass logical format answer w.inner ∧
        w.notes.asked = if answer.2.1.isFresh then [targetDesc pass answer.1.texel format] else [])
      (fun e w => w.inner = r ∧ pool.Refuses r pass logical format e w.notes.asked) := by
  have hcreate (texel : Size) (hpadded : pool.texelSize? logical = some texel)
      (hsmall : ¬ texel.Exceeds r.maxDimension) :
      (GpuDevice.createTexture (targetDesc pass texel format)).Ends (⟨r, {}⟩ : Surveyed Recorder)
        (fun id w => id = ⟨r.nextId⟩ ∧ r.Fits texel ∧
          w = ⟨r.withTexture (targetDesc pass texel format), ⟨[targetDesc pass texel format]⟩⟩)
        (fun e w => w.inner = r ∧ pool.Refuses r pass logical format e w.notes.asked) := by
    refine Observed.ends_watch.mpr ((createTexture_ends r _).mono ?_ ?_)
    · rintro _ _ ⟨rfl, rfl, hfits⟩
      exact ⟨rfl, hfits, rfl⟩
    · rintro _ _ ⟨rfl, ⟨pattern, hpattern, rfl⟩ | ⟨rfl, hmisfit⟩⟩
      · exact ⟨rfl, .told hpadded hsmall hpattern⟩
      · exact ⟨rfl, .misfit hpadded hsmall hmisfit⟩
  refine ensureTarget_cases (fun h => ⟨rfl, .placeless h⟩) (fun _ _ held h => ⟨.kept held h, rfl⟩)
    (fun _ h => ⟨rfl, .overflow h⟩) (fun _ _ hpadded h => ⟨rfl, .large hpadded h⟩) ?_ ?_
  · intro texel hplace hempty hpadded hsmall
    refine (hcreate texel hpadded hsmall).mono_ok ?_
    rintro _ _ ⟨rfl, hfits, rfl⟩
    exact ⟨.made hplace hempty hpadded hfits, rfl⟩
  · intro texel old hplace hheld hunfit hpadded hsmall
    refine (hcreate texel hpadded hsmall).mono_ok ?_
    rintro _ _ ⟨rfl, hfits, rfl⟩
    exact ⟨.replaced hplace hheld hunfit hpadded hfits, rfl⟩

/-- The targets are of the sizes that they were asked for, and these can be made. -/
def Dimensioned (pool : TexturePool) (r : Recorder) : Prop :=
  ∀ i t, pool.target? i = some t →
    pool.texelSize? t.logical = some t.texel ∧ r.Fits t.texel ∧ t.texture.index < r.nextId

end TexturePool

namespace Recorder

variable {r r' : Recorder}

/-- No call takes ids back, or changes the limit of textures. -/
structure Later (r r' : Recorder) : Prop where
  nextId : r.nextId ≤ r'.nextId
  maxDimension : r'.maxDimension = r.maxDimension

theorem releaseTexture_later (r : Recorder) (id : TextureId) : r.Later (r.releaseTexture id) := by
  unfold releaseTexture
  split <;> exact ⟨Nat.le_refl _, rfl⟩

theorem Does.later {call : RecorderCall} {reply : RecorderReply} (h : r.Does call reply r') :
    r.Later r' := by
  cases h with
  | createTexture | createBuffer | createProgram => exact ⟨Nat.le_succ _, rfl⟩
  | releaseTexture id => exact releaseTexture_later r id
  | abortFrame => unfold Recorder.abortFrame; split <;> exact ⟨Nat.le_refl _, rfl⟩
  | _ => exact ⟨Nat.le_refl _, rfl⟩

theorem later_after (r : Recorder) (call : RecorderCall) : r.Later (r.after call) := by
  rcases r.after_cases call with ⟨_, _, hdoes⟩ | ⟨_, _, hsame⟩
  · exact hdoes.later
  · rw [hsame]
    exact ⟨Nat.le_refl _, rfl⟩

theorem later_kept (r : Recorder) : KeptByCalls r.Later :=
  kept_of_after fun call r' h => by
    have hstep := later_after r' call
    exact ⟨Nat.le_trans h.nextId hstep.nextId, hstep.maxDimension.trans h.maxDimension⟩

end Recorder

namespace TexturePool

variable {pool pool' : TexturePool} {r r' : Recorder} {pass : Nat} {logical : Size}
  {format : TexelFormat}

theorem Dimensioned.later (h : pool.Dimensioned r) (hr : r.Later r') : pool.Dimensioned r' := by
  intro i t ht
  obtain ⟨htexel, hfits, hid⟩ := h i t ht
  exact ⟨htexel, hfits.of_limit hr.maxDimension, Nat.lt_of_lt_of_le hid hr.nextId⟩

theorem Dimensioned.of_targets (h : pool.Dimensioned r) (htargets : pool'.targets = pool.targets)
    (hpow2 : pool'.pow2 = pool.pow2) : pool'.Dimensioned r := by
  intro i t ht
  rw [target?, htargets] at ht
  rw [texelSize?, hpow2]
  exact h i t ht

/-- A pool without targets. -/
theorem dimensioned_of_empty (h : ∀ held ∈ pool.targets, held = none) : pool.Dimensioned r := by
  intro i t ht
  exact absurd (h _ (List.mem_of_getElem? (target?_eq_some ht))) (by simp)

theorem Dimensioned.withNewTarget (h : pool.Dimensioned r) (hplace : pass < pool.targets.length)
    {texel : Size} (hpadded : pool.texelSize? logical = some texel) (hfits : r.Fits texel)
    (hr : r.Later r') (hid : r.nextId < r'.nextId) :
    (pool.withTarget pass ⟨⟨r.nextId⟩, logical, texel, format⟩).Dimensioned r' := by
  intro i t ht
  rw [target?_withTarget hplace] at ht
  split at ht
  · cases ht
    exact ⟨hpadded, hfits.of_limit hr.maxDimension, hid⟩
  · exact h.later hr i t ht

theorem Dimensioned.granted (h : pool.Dimensioned r)
    {answer : RenderTarget × TargetStatus × TexturePool}
    (hgrants : pool.Grants r pass logical format answer r') : answer.2.2.Dimensioned r' := by
  cases hgrants with
  | kept held serves => exact h
  | made place empty padded fits =>
    exact h.withNewTarget place padded fits ⟨Nat.le_succ _, rfl⟩ (Nat.lt_succ_self _)
  | @replaced texel old place held unfit padded fits =>
    have hreleased :=
      releaseTexture_later (r.withTexture (targetDesc pass texel format)) old.texture
    exact h.withNewTarget place padded fits
      ⟨Nat.le_trans (Nat.le_succ _) hreleased.nextId, hreleased.maxDimension⟩ hreleased.nextId

theorem insertLookup_ends (pool : TexturePool) (description : LookupImage) (image : Image)
    (r : Recorder) : (pool.insertLookup description image).Ends r
      (fun pool' _ => ∃ lookups, pool' = { pool with lookups }) (fun _ _ => True) := by
  unfold insertLookup
  simp only [ends_bind, ends_get, ends_ite, ends_throw, ends_tryCatch, ends_modify, ends_pure,
    implies_true, true_and]
  refine fun _ _ => (ends_true _).mono_ok ?_
  intro _ _ _
  exact (ends_true _).mono_ok fun _ _ _ => ⟨_, rfl⟩

end TexturePool

namespace PoolSession

variable {s : PoolSession Recorder}

theorem exec_dimensioned (h : s.pool.Dimensioned s.device) (call : PoolCall) :
    (exec call).Ends s (fun _ t => t.pool.Dimensioned t.device)
      (fun _ t => t.pool.Dimensioned t.device) := by
  have hlater := exec_kept (later_kept s.device) call s ⟨Nat.le_refl _, rfl⟩
  cases call with
  | ensureTarget pass logical format =>
    simp only [exec, ends_bind, ends_renew, ends_pure]
    exact (s.pool.ensureTarget_grants pass logical format s.device).mono
      (fun _ _ hgrants => h.granted hgrants) (fun _ _ hsame => hsame.1 ▸ h)
  | writeFrame frame =>
    simp only [exec, ends_bind, ends_renew, ends_pure] at hlater ⊢
    refine ((s.pool.writeFrame_ends frame s.device).and hlater).mono ?_
      (fun _ _ hr => h.later hr.2)
    rintro _ _ ⟨rfl, hr⟩
    exact (h.later hr).of_targets rfl rfl
  | insertLookup description image =>
    simp only [exec, ends_bind, ends_renew, ends_pure] at hlater ⊢
    refine ((s.pool.insertLookup_ends description image s.device).and hlater).mono ?_
      (fun _ _ hr => h.later hr.2)
    rintro _ _ ⟨⟨lookups, rfl⟩, hr⟩
    exact (h.later hr).of_targets rfl rfl
  | loadLookup files description =>
    simp only [exec, ends_bind, ends_renew, ends_pure] at hlater ⊢
    refine ((s.pool.loadLookup_ends files description s.device).and hlater).mono ?_
      (fun _ _ hr => h.later hr.2)
    rintro _ _ ⟨⟨lookups, rfl⟩, hr⟩
    exact (h.later hr).of_targets rfl rfl
  | advance => exact h.of_targets rfl rfl
  | releaseAll => exact TexturePool.dimensioned_of_empty (by simp [TexturePool.releaseAll])

theorem Reachable.dimensioned (h : s.Reachable) : s.pool.Dimensioned s.device := by
  induction h with
  | created hr hcreate =>
    obtain ⟨_, htargets, _, _⟩ := (TexturePool.create_ends _ _ _ _).of_ok hcreate
    exact TexturePool.dimensioned_of_empty (by simp [htargets])
  | after _ call ih => exact after_of_ends (exec_dimensioned ih call)
  | deviceAfter _ call ih => exact ih.later (later_after _ call)

end PoolSession

/-- A request of a pool that pads its targets, on a recorder that notes what it is asked for. It is
met with a target of the least powers of two that hold the picture, if these keep to the limit. If
32 bits cannot tell them, the program crashes before anything is asked for. Otherwise the request
fails if an edge exceeds the limit, or if the recorder has been told to refuse it. -/
theorem padded_targets {s : PoolSession Recorder} (hs : s.Reachable) (hpow2 : s.pool.pow2 = true)
    {pass : Nat} (hpass : pass < s.pool.targets.length) (logical : Size) (format : TexelFormat) :
    let limit := s.device.maxDimension
    let desc (texel : Size) : TextureDesc := ⟨s!"pass{pass}-target", texel, format, true⟩
    (s.pool.ensureTarget pass logical format).Ends (⟨s.device, {}⟩ : Surveyed Recorder)
      (fun answer w => logical.Paddable ∧ Pads logical answer.1.texel ∧
        ¬ answer.1.texel.Exceeds limit ∧ answer.1.Serves logical format ∧
          (answer.2.1 = .reused ∧ w.inner = s.device ∧ w.notes.asked = [] ∨
            answer.2.1.isFresh ∧ w.notes.asked = [desc answer.1.texel] ∧
              w.inner.texture? answer.1.texture = some (desc answer.1.texel)))
      (fun e w => w.inner = s.device ∧
        (¬ logical.Paddable ∧ w.notes.asked = [] ∧ e = .pool (.paddingOverflow logical) ∧
            e.isCrash ∨
          logical.Paddable ∧ ¬ e.isCrash ∧ ∃ texel, Pads logical texel ∧
            (texel.Exceeds limit ∧ w.notes.asked = [] ∧ e = .pool (.targetSize pass texel limit) ∨
              ¬ texel.Exceeds limit ∧ w.notes.asked = [desc texel] ∧
                ∃ pattern ∈ s.device.allocationFaults,
                  e = .device (.allocation (desc texel).label pattern)))) := by
  have hdimensioned := hs.dimensioned
  have hissued := issued_reachable hs.device
  have hpads {texel : Size} (h : s.pool.texelSize? logical = some texel) :
      logical.Paddable ∧ Pads logical texel := by
    refine ⟨?_, (TexturePool.texelSize?_eq_some_padded hpow2).mp h⟩
    by_contra hlarge
    rw [TexturePool.texelSize?_eq_none.mpr ⟨hpow2, hlarge⟩] at h
    cases h
  refine (s.pool.ensureTarget_asks pass logical format s.device).mono ?_ ?_
  · rintro answer ⟨inner, asked⟩ ⟨hgrants, hasked⟩
    cases hgrants with
    | @kept t held serves =>
      obtain ⟨hpadded, hfits, _⟩ := hdimensioned _ _ held
      rw [serves.1] at hpadded
      obtain ⟨hpaddable, hpads⟩ := hpads hpadded
      exact ⟨hpaddable, hpads, hpads.fits_iff.mp hfits, serves, .inl ⟨rfl, rfl, hasked⟩⟩
    | made place empty padded fits =>
      obtain ⟨hpaddable, hpads⟩ := hpads padded
      refine ⟨hpaddable, hpads, hpads.fits_iff.mp fits, ⟨rfl, rfl⟩, .inr ⟨rfl, hasked, ?_⟩⟩
      exact (hissued.texture?_withTexture _ _).trans (if_pos rfl)
    | @replaced texel old place held unfit padded fits =>
      obtain ⟨hpaddable, hpads⟩ := hpads padded
      have hapart : (⟨s.device.nextId⟩ : TextureId) ≠ old.texture := by
        intro heq
        obtain ⟨_, _, hlt⟩ := hdimensioned _ _ held
        simp [← heq] at hlt
      refine ⟨hpaddable, hpads, hpads.fits_iff.mp fits, ⟨rfl, rfl⟩, .inr ⟨rfl, hasked, ?_⟩⟩
      exact (texture?_releaseTexture _ _).trans ((if_neg hapart).trans
        ((hissued.texture?_withTexture _ _).trans (if_pos rfl)))
  · rintro e ⟨inner, ⟨asked⟩⟩ ⟨hinner, hrefuses⟩
    refine ⟨hinner, ?_⟩
    cases hrefuses with
    | placeless h => omega
    | overflow h =>
      exact .inl ⟨(TexturePool.texelSize?_eq_none.mp h).2, rfl, rfl, rfl⟩
    | large padded h =>
      obtain ⟨hpaddable, hpads⟩ := hpads padded
      exact .inr ⟨hpaddable, nofun, _, hpads, .inl ⟨h, rfl, rfl⟩⟩
    | told padded small h =>
      obtain ⟨hpaddable, hpads⟩ := hpads padded
      exact .inr ⟨hpaddable, nofun, _, hpads, .inr ⟨small, rfl, _, h, rfl⟩⟩
    | misfit padded small h =>
      exact absurd ((hpads padded).2.fits_iff.mpr small) h

theorem odd_target_is_padded : ∃ pool r answer w,
    TexturePool.create 1 ⟨1, 1⟩ true ({} : Recorder) = .ok pool r ∧
    pool.ensureTarget 0 ⟨3, 5⟩ .rgba8 (⟨r, {}⟩ : Surveyed Recorder) = .ok answer w ∧
    Pads ⟨3, 5⟩ answer.1.texel ∧
    w.notes.asked = [⟨"pass0-target", answer.1.texel, .rgba8, true⟩] ∧
    w.inner.texture? answer.1.texture = some ⟨"pass0-target", answer.1.texel, .rgba8, true⟩ := by
  obtain ⟨pool, r, hcreate, hpow2, hplace, answer, hanswer, hstatus⟩ : ∃ pool r,
      TexturePool.create 1 ⟨1, 1⟩ true ({} : Recorder) = .ok pool r ∧ pool.pow2 = true ∧
      0 < pool.targets.length ∧ ∃ answer, ((pool.ensureTarget 0 ⟨3, 5⟩ .rgba8).outcome
        (⟨r, {}⟩ : Surveyed Recorder)).1.toOption = some answer ∧ answer.2.1 = .created :=
    ⟨_, _, rfl, rfl, by decide, _, rfl, by decide +kernel⟩
  obtain ⟨w, hw⟩ := exists_eq_ok hanswer
  have hends := padded_targets (s := ⟨pool, r⟩) (.created (.fresh 8192) hcreate) hpow2 hplace ⟨3, 5⟩
    .rgba8
  obtain ⟨_, hpads, _, _, ⟨hreused, _⟩ | ⟨_, hasked, hbacked⟩⟩ := hends.of_ok hw
  · rw [hstatus] at hreused
    cases hreused
  · exact ⟨pool, r, answer, w, hcreate, hw, hpads, hasked, hbacked⟩

/-- The rules of a pass that is one pixel high, and wider than any power of two in 32 bits. -/
def ScaleRules.overwide : ScaleRules := ⟨.absolute 2147483649, .absolute 1⟩

/-- Scale rules lead to a size for which a padded target cannot even be refused: the program
crashes. -/
theorem wide_target_crashes : ∃ pool r w,
    TexturePool.create 1 ⟨1, 1⟩ true ({} : Recorder) = .ok pool r ∧
    ScaleRules.overwide.validate = .ok () ∧
    ScaleRules.overwide.resolve ⟨1, 1⟩ ⟨1, 1⟩ = .ok ⟨2147483649, 1⟩ ∧
    pool.ensureTarget 0 ⟨2147483649, 1⟩ .rgba8 (⟨r, {}⟩ : Surveyed Recorder) =
      .error (.pool (.paddingOverflow ⟨2147483649, 1⟩)) w ∧
    (Error.pool (.paddingOverflow ⟨2147483649, 1⟩)).isCrash = true ∧ w.notes.asked = [] :=
  ⟨_, _, _, rfl, rfl, rfl, rfl, rfl, rfl⟩

end PassChain
