import PassChain.Pool
import PassChain.Proofs.Attempt

/-! The targets of a pool, and the courses that a request for one can take on any device. -/
namespace PassChain

open Attempt

/-- Whether the target is one for pictures of this size and format. -/
def RenderTarget.Serves (t : RenderTarget) (logical : Size) (format : TexelFormat) : Prop :=
  t.logical = logical ∧ t.format = format

/-- Whether an edge exceeds a limit. -/
def Size.Exceeds (size : Size) (limit : UInt32) : Prop := limit < size.width ∨ limit < size.height

/-- The texture that is made for the target of a pass. -/
def targetDesc (pass : Nat) (texel : Size) (format : TexelFormat) : TextureDesc :=
  ⟨s!"pass{pass}-target", texel, format, true⟩

namespace TexturePool

variable {pool : TexturePool} {i : Nat} {t : RenderTarget}

/-- The pool with a target for a pass. -/
def withTarget (pool : TexturePool) (pass : Nat) (t : RenderTarget) : TexturePool :=
  { pool with targets := pool.targets.set pass (some t) }

theorem target?_withTarget (hi : i < pool.targets.length) (j : Nat) :
    (pool.withTarget i t).target? j = if i = j then some t else pool.target? j := by
  unfold target? withTarget
  by_cases hij : i = j
  · subst hij; simp [hi]
  · simp [hij]

theorem target?_eq_some (h : pool.target? i = some t) : pool.targets[i]? = some (some t) := by
  simpa [target?, Option.join_eq_some_iff] using h

theorem target?_eq_none (hi : i < pool.targets.length) (h : pool.target? i = none) :
    pool.targets[i]? = some none := by
  simpa [target?, hi] using h

theorem withTarget_of_target? (h : pool.target? i = some t) : pool.withTarget i t = pool := by
  have hi := target?_eq_some h
  obtain ⟨hlt, hget⟩ := List.getElem?_eq_some_iff.mp hi
  unfold withTarget
  rw [← hget, List.set_getElem_self]

/-- The target of a pass, if it has one, is not of this size and format. -/
def Lacks (pool : TexturePool) (pass : Nat) (logical : Size) (format : TexelFormat) : Prop :=
  ∀ t, pool.target? pass = some t → ¬ t.Serves logical format

variable {δ : Type} [GpuDevice δ] {pass : Nat} {logical : Size} {format : TexelFormat}

/-- The courses that a request can take: the pass has no place for a target, its target serves, no
power of two covers the target, the target would be too large, or the device is asked for a texture,
after which the old target goes. -/
theorem ensureTarget_cases {d : δ} {ok : RenderTarget × TargetStatus × TexturePool → δ → Prop}
    {err : Error → δ → Prop}
    (placeless : pool.targets.length ≤ pass → err (.pool (.noTargetSlot pass)) d)
    (kept : ∀ t, pass < pool.targets.length → pool.target? pass = some t →
      t.Serves logical format → ok (t, .reused, pool) d)
    (overflow : pool.Lacks pass logical format → pool.texelSize? logical = none →
      err (.pool (.paddingOverflow logical)) d)
    (large : ∀ texel, pool.Lacks pass logical format → pool.texelSize? logical = some texel →
      texel.Exceeds (GpuDevice.maxDimension d) →
      err (.pool (.targetSize pass texel (GpuDevice.maxDimension d))) d)
    (made : ∀ texel, pass < pool.targets.length → pool.target? pass = none →
      pool.texelSize? logical = some texel → ¬ texel.Exceeds (GpuDevice.maxDimension d) →
      (GpuDevice.createTexture (targetDesc pass texel format)).Ends d
        (fun id => ok (⟨id, logical, texel, format⟩, .created,
          pool.withTarget pass ⟨id, logical, texel, format⟩)) err)
    (replaced : ∀ texel old, pass < pool.targets.length → pool.target? pass = some old →
      ¬ old.Serves logical format → pool.texelSize? logical = some texel →
      ¬ texel.Exceeds (GpuDevice.maxDimension d) →
      (GpuDevice.createTexture (targetDesc pass texel format)).Ends d
        (fun id d' => ok (⟨id, logical, texel, format⟩, .resized,
          pool.withTarget pass ⟨id, logical, texel, format⟩)
          (GpuDevice.releaseTexture old.texture d')) err) :
    (pool.ensureTarget pass logical format).Ends d ok err := by
  unfold ensureTarget
  split
  · rename_i hnone
    exact placeless (List.getElem?_eq_none_iff.mp hnone)
  · rename_i held hheld
    have hlt : pass < pool.targets.length := (List.getElem?_eq_some_iff.mp hheld).1
    have htarget : pool.target? pass = held := by simp [target?, hheld]
    split
    · rename_i t hkeep
      obtain ⟨rfl, ht⟩ := Option.filter_eq_some_iff.mp hkeep
      simp only [Bool.and_eq_true, beq_iff_eq] at ht
      exact kept t hlt htarget ht
    · rename_i hunfit
      have hlacks : pool.Lacks pass logical format := by
        intro t ht
        rw [htarget] at ht
        simpa [ht, RenderTarget.Serves] using hunfit
      split
      · rename_i hnone
        exact overflow hlacks hnone
      · rename_i texel htexel
        simp only [ends_bind, ends_get, ends_ite, ends_throw]
        refine ⟨large texel hlacks htexel, fun hsmall => ?_⟩
        cases held with
        | none => exact made texel hlt htarget htexel hsmall
        | some old =>
          simp only [ends_bind, ends_modify, ends_pure]
          exact replaced texel old hlt htarget (hlacks old htarget) htexel hsmall

end TexturePool

end PassChain
