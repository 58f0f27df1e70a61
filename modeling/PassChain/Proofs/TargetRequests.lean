import PassChain.Proofs.Sizes

/-! What a request for a target comes to, on any device and on a recorder. -/
namespace PassChain

open Attempt Recorder

variable {pool : TexturePool} {r r' : Recorder} {pass : Nat} {logical : Size} {format : TexelFormat}

namespace TexturePool

/-- How a recorder grants a request. -/
inductive Grants (pool : TexturePool) (r : Recorder) (pass : Nat) (logical : Size)
    (format : TexelFormat) : RenderTarget × TargetStatus × TexturePool → Recorder → Prop
  | kept {t : RenderTarget} (held : pool.target? pass = some t) (serves : t.Serves logical format) :
    Grants pool r pass logical format (t, .reused, pool) r
  | made {texel : Size} (place : pass < pool.targets.length) (empty : pool.target? pass = none)
      (padded : pool.texelSize? logical = some texel) (fits : r.Fits texel) :
    Grants pool r pass logical format
      (⟨⟨r.nextId⟩, logical, texel, format⟩, .created,
        pool.withTarget pass ⟨⟨r.nextId⟩, logical, texel, format⟩)
      (r.withTexture (targetDesc pass texel format))
  | replaced {texel : Size} {old : RenderTarget} (place : pass < pool.targets.length)
      (held : pool.target? pass = some old) (unfit : ¬ old.Serves logical format)
      (padded : pool.texelSize? logical = some texel) (fits : r.Fits texel) :
    Grants pool r pass logical format
      (⟨⟨r.nextId⟩, logical, texel, format⟩, .resized,
        pool.withTarget pass ⟨⟨r.nextId⟩, logical, texel, format⟩)
      ((r.withTexture (targetDesc pass texel format)).releaseTexture old.texture)

/-- A recorder grants a request in one of three ways, or it stays as it was; a request that the
target of the pass serves is granted. -/
theorem ensureTarget_grants (pool : TexturePool) (pass : Nat) (logical : Size)
    (format : TexelFormat) (r : Recorder) :
    (pool.ensureTarget pass logical format).Ends r (pool.Grants r pass logical format)
      (fun _ r' => r' = r ∧ pool.Lacks pass logical format) := by
  refine ensureTarget_cases ?_ (fun _ _ => .kept) (fun hlacks _ => ⟨rfl, hlacks⟩)
    (fun _ hlacks _ _ => ⟨rfl, hlacks⟩) ?_ ?_
  · intro hplaceless
    have hempty : pool.target? pass = none := by
      rw [target?, List.getElem?_eq_none_iff.mpr hplaceless]
      rfl
    exact ⟨rfl, by simp [Lacks, hempty]⟩
  · intro texel hplace hempty hpadded _
    refine (createTexture_ends r _).mono ?_ (fun _ _ hfail => ⟨hfail.1, by simp [Lacks, hempty]⟩)
    rintro _ _ ⟨rfl, rfl, hfits⟩
    exact .made hplace hempty hpadded hfits
  · intro texel old hplace hheld hunfit hpadded _
    refine (createTexture_ends r _).mono ?_ (fun _ _ hfail => ⟨hfail.1, by simpa [Lacks, hheld]⟩)
    rintro _ _ ⟨rfl, rfl, hfits⟩
    exact .replaced hplace hheld hunfit hpadded hfits

end TexturePool

theorem le_allocatedEdge (pow2 : Bool) (n : UInt32) : n.toNat ≤ allocatedEdge pow2 n := by
  cases pow2 with
  | false => exact Nat.le_refl _
  | true => exact Nat.le_pow_clog (by omega) _

/-- A target holds its picture. -/
theorem TexturePool.texelSize?_covers {texel : Size} (h : pool.texelSize? logical = some texel) :
    logical.width ≤ texel.width ∧ logical.height ≤ texel.height := by
  obtain ⟨hwidth, hheight⟩ := texelSize?_eq_some.mp h
  rw [UInt32.le_iff_toNat_le, UInt32.le_iff_toNat_le, hwidth, hheight]
  exact ⟨le_allocatedEdge _ _, le_allocatedEdge _ _⟩

end PassChain
