import Mathlib.Algebra.Order.Ring.Nat
import Mathlib.Data.Nat.Log
import PassChain.Proofs.Compiling
import PassChain.Proofs.RecordedFrames
import PassChain.Proofs.Resources

/-! Sizes of pictures along a chain, and of the textures that are made for them. -/
namespace PassChain

open Recorder

/-- The size of the last of a row of pictures, the first one made from `source`, and each other one
from the one before it. -/
def ScaleRules.resolveAll (rules : List ScaleRules) (source viewport : Size) :
    Except ScaleFault Size :=
  rules.foldlM (fun size rule => rule.resolve size viewport) source

/-- The edge of a texture that holds an edge of `n` pixels: as long, or the least power of two that
is not shorter. -/
def allocatedEdge (pow2 : Bool) (n : UInt32) : Nat :=
  if pow2 then 2 ^ Nat.clog 2 n.toNat else n.toNat

namespace ScaleRules

theorem resolveAll_take_succ {rules : List ScaleRules} {source viewport : Size} {i : Nat}
    {rule : ScaleRules} (h : rules[i]? = some rule) :
    resolveAll (rules.take (i + 1)) source viewport =
      resolveAll (rules.take i) source viewport >>= fun size => rule.resolve size viewport := by
  obtain ⟨hi, hrule⟩ := List.getElem?_eq_some_iff.mp h
  unfold resolveAll
  rw [List.take_succ_eq_append_getElem hi, List.foldlM_append, hrule]
  simp

end ScaleRules

theorem ScaleRule.resolveAxis_pos {rule : ScaleRule} {source viewport n : UInt32}
    (h : rule.resolveAxis source viewport = .ok n) : 1 ≤ n := by
  unfold resolveAxis at h
  cases rule with
  | absolute size =>
    simp only at h
    split at h
    · simp at h
    · rename_i hne
      cases h
      have hpos : n.toNat ≠ 0 := fun h0 => hne (UInt32.toNat_inj.mp h0)
      exact UInt32.le_iff_toNat_le.mpr (Nat.one_le_iff_ne_zero.mpr hpos)
  | input factor | viewport factor =>
    simp only at h
    split at h
    · simp at h
    · split at h
      · simp at h
      · split at h
        · rename_i hlt hle
          cases h
          rw [UInt32.le_iff_toNat_le, UInt32.toNat_ofNat_of_lt' (Nat.lt_succ_of_le hle)]
          exact Nat.not_lt.mp hlt
        · simp at h

theorem ScaleRules.resolve_pos {rules : ScaleRules} {source viewport size : Size}
    (h : rules.resolve source viewport = .ok size) : 1 ≤ size.width ∧ 1 ≤ size.height := by
  obtain ⟨width, hwidth, h⟩ := bind_eq_ok.mp h
  obtain ⟨height, hheight, h⟩ := bind_eq_ok.mp h
  cases h
  exact ⟨ScaleRule.resolveAxis_pos hwidth, ScaleRule.resolveAxis_pos hheight⟩

/-- The next power of two is found just when 32 bits hold it. -/
theorem nextPowerOfTwo?_eq_some {n p : UInt32} :
    nextPowerOfTwo? n = some p ↔ p.toNat = 2 ^ Nat.clog 2 n.toNat := by
  unfold nextPowerOfTwo?
  split
  · rename_i h
    rw [UInt32.le_iff_toNat_le] at h
    rw [Nat.clog_of_right_le_one h, Option.some.injEq, ← UInt32.toNat_inj]
    exact eq_comm
  · rename_i h
    rw [UInt32.le_iff_toNat_le, UInt32.toNat_one, Nat.not_le] at h
    split
    · rename_i hsmall
      have hclog : Nat.clog 2 n.toNat = (n.toNat - 1).log2 + 1 := by
        apply Nat.le_antisymm
        · have hlt := Nat.lt_log2_self (n := n.toNat - 1)
          exact Nat.clog_le_of_le_pow (by omega)
        · have hle := Nat.log2_self_le (n := n.toNat - 1) (by omega)
          exact (Nat.lt_clog_iff_pow_lt (by omega)).mpr (by omega)
      have hle : Nat.clog 2 n.toNat ≤ 31 :=
        Nat.clog_le_of_le_pow (UInt32.le_iff_toNat_le.mp hsmall)
      have hpow : 2 ^ Nat.clog 2 n.toNat < 2 ^ 32 := Nat.pow_lt_pow_right (by omega) (by omega)
      rw [Option.some.injEq, ← UInt32.toNat_inj, UInt32.toNat_ofNat', ← hclog,
        Nat.pow_eq, Nat.mod_eq_of_lt hpow]
      exact eq_comm
    · rename_i hlarge
      have hclog : 32 ≤ Nat.clog 2 n.toNat := (Nat.lt_clog_iff_pow_lt (by omega)).mpr
        (Nat.not_le.mp fun h => hlarge (UInt32.le_iff_toNat_le.mpr h))
      have hpow : 2 ^ 32 ≤ 2 ^ Nat.clog 2 n.toNat := Nat.pow_le_pow_right (by omega) hclog
      have hp := p.toNat_lt
      exact iff_of_false (by simp) (by omega)

theorem nextPowerOfTwo?_isSome {n : UInt32} : (nextPowerOfTwo? n).isSome ↔ n ≤ 2147483648 := by
  unfold nextPowerOfTwo?
  split
  · rename_i h
    simp only [Option.isSome_some, true_iff]
    exact UInt32.le_trans h (by decide)
  · split <;> simp_all

/-- The size of a target is found just when 32 bits hold its edges. -/
theorem TexturePool.texelSize?_eq_some {pool : TexturePool} {size texel : Size} :
    pool.texelSize? size = some texel ↔
      texel.width.toNat = allocatedEdge pool.pow2 size.width ∧
        texel.height.toNat = allocatedEdge pool.pow2 size.height := by
  unfold texelSize? allocatedEdge
  cases pool.pow2 with
  | false =>
    simp only [Bool.false_eq_true, if_false, Option.some.injEq, UInt32.toNat_inj]
    exact ⟨by rintro rfl; exact ⟨rfl, rfl⟩, fun h => congrArg₂ Size.mk h.1.symm h.2.symm⟩
  | true =>
    simp only [if_true, ← nextPowerOfTwo?_eq_some]
    constructor
    · intro h
      split at h
      · rename_i hwidth hheight
        cases h
        exact ⟨hwidth, hheight⟩
      · simp at h
    · rintro ⟨hwidth, hheight⟩
      rw [hwidth, hheight]

theorem TexturePool.texelSize?_eq_none {pool : TexturePool} {size : Size} :
    pool.texelSize? size = none ↔
      pool.pow2 = true ∧ ¬ (size.width ≤ 2147483648 ∧ size.height ≤ 2147483648) := by
  unfold texelSize?
  cases pool.pow2 with
  | false => simp
  | true =>
    rw [← nextPowerOfTwo?_isSome, ← nextPowerOfTwo?_isSome]
    cases nextPowerOfTwo? size.width <;> cases nextPowerOfTwo? size.height <;> simp

/-- A target can be made just when both of its edges keep to the limit. -/
theorem TexturePool.hasRoom_iff {r : Recorder} {pool : TexturePool} {size : Size}
    (h : 1 ≤ size.width ∧ 1 ≤ size.height) : pool.HasRoom r size ↔
      allocatedEdge pool.pow2 size.width ≤ r.maxDimension.toNat ∧
        allocatedEdge pool.pow2 size.height ≤ r.maxDimension.toNat := by
  have hpos {n : UInt32} (hn : 1 ≤ n) : 1 ≤ allocatedEdge pool.pow2 n := by
    unfold allocatedEdge
    split
    · exact Nat.one_le_two_pow
    · exact UInt32.le_iff_toNat_le.mp hn
  constructor
  · rintro ⟨texel, htexel, ⟨_, hwidth⟩, ⟨_, hheight⟩⟩
    obtain ⟨hw, hh⟩ := texelSize?_eq_some.mp htexel
    rw [← hw, ← hh]
    exact ⟨UInt32.le_iff_toNat_le.mp hwidth, UInt32.le_iff_toNat_le.mp hheight⟩
  · rintro ⟨hwidth, hheight⟩
    have hlimit : r.maxDimension.toNat < UInt32.size := r.maxDimension.toNat_lt
    have hedge {n : Nat} (hn : n ≤ r.maxDimension.toNat) : (UInt32.ofNat n).toNat = n :=
      UInt32.toNat_ofNat_of_lt' (by omega)
    refine ⟨⟨.ofNat _, .ofNat _⟩, texelSize?_eq_some.mpr ⟨hedge hwidth, hedge hheight⟩, ?_⟩
    simp only [Recorder.Fits, UInt32.le_iff_toNat_le, hedge hwidth, hedge hheight]
    exact ⟨⟨hpos h.1, hwidth⟩, hpos h.2, hheight⟩

/-- The rules by which the passes of a preset draw into targets. -/
def Preset.targetRules (p : Preset) : List ScaleRules := p.passes.map (·.scaleRules false)

/-- The passes of a chain draw into targets by the rules of the preset. -/
theorem BuiltFrom.take_scales {δ : Type} [GpuDevice δ] {files : FileSystem} {preset : Preset}
    {settings : ChainSettings} {pool : TexturePool} {passes : List CompiledPass}
    (h : BuiltFrom δ files preset settings pool passes) {j : Nat} (hj : j < preset.passes.length) :
    (passes.map (·.scale)).take j = preset.targetRules.take j := by
  refine List.ext_getElem? fun i => ?_
  rw [List.getElem?_take, List.getElem?_take]
  split
  · rename_i hi
    have hpass : preset.passes[i]? = some preset.passes[i] := List.getElem?_eq_getElem (by omega)
    obtain ⟨p, hp⟩ : ∃ p, passes[i]? = some p :=
      ⟨_, List.getElem?_eq_getElem (by rw [h.count]; omega)⟩
    obtain ⟨l, hl, hcompiled⟩ := h.passes i _ _ hpass hp
    have hlast : (i + 1 == preset.passes.length) = false := beq_eq_false_iff_ne.mpr (by omega)
    rw [hlast] at hl
    simp only [Preset.targetRules, List.getElem?_map, hpass, hp, Option.map_some,
      hcompiled.scale, hl.scale]
  · rfl

namespace Chain

theorem Continues.scales {δ : Type} {c c' : Chain δ} (h : c.Continues c') :
    c'.passes.map (·.scale) = c.passes.map (·.scale) := by
  have hplans := congrArg (List.map (·.scale)) h.plans
  simpa [Function.comp_def, CompiledPass.plan] using hplans

/-- Each pass draws from a picture of the size that all passes before it lead to. -/
theorem drawing_source (c : Chain Recorder) {j : Nat} (hdrawn : j ≤ c.drawing.drawn)
    (hj : j < c.passes.length) :
    ScaleRules.resolveAll ((c.passes.map (·.scale)).take j) c.pool.history.current.size
      c.viewport.size =
      .ok (c.drawing.pool.source c.pool.history.frameTextures.orig j).content := by
  induction j with
  | zero => rfl
  | succ j ih =>
    obtain ⟨pass, draw, size, canvas, hpass, h⟩ := drawing_pass hdrawn (Nat.lt_of_succ_lt hj)
    obtain ⟨hsize, t, clear, ht, rfl, _⟩ := h.inner hj
    have hrule : (c.passes.map (·.scale))[j]? = some pass.scale := by
      rw [List.getElem?_map, hpass]; rfl
    rw [ScaleRules.resolveAll_take_succ hrule, ih (by omega) (by omega),
      TexturePool.source_succ ht]
    rw [c.viewport_inputs] at hsize
    exact hsize

end Chain

end PassChain
