import Mathlib.Algebra.Order.Ring.Nat
import PassChain.Proofs.MemberTypes

/-! Each field has a place of its own in the uniform block, and its value stands there. -/
namespace PassChain

open Wgsl

/-- The alignment of what a member of this kind can receive. -/
def MemberKind.align : MemberKind → Nat
  | matrix => 16
  | pair => 8
  | number => 4
  | other => 1

theorem MemberKind.align_dvd {kind : MemberKind} {k : Nat} (h : kind.align ≤ 2 ^ k) :
    kind.align ∣ 2 ^ k := by
  obtain ⟨j, hj⟩ : ∃ j, kind.align = 2 ^ j := by
    cases kind
    · exact ⟨4, rfl⟩
    · exact ⟨3, rfl⟩
    · exact ⟨2, rfl⟩
    · exact ⟨0, rfl⟩
  rw [hj] at h ⊢
  exact Nat.pow_dvd_pow 2 ((Nat.pow_le_pow_iff_right Nat.one_lt_two).mp h)

namespace Wgsl

/-- A type is aligned at least as far as what its values can receive. -/
theorem Ty.align_le {structs : List StructType} {t : Ty} {facts : TypeFacts}
    (h : t.facts structs = some facts) : (MemberKind.ofType t).align ≤ max 1 facts.align := by
  unfold MemberKind.ofType
  split
  · rename_i k
    split
    · rename_i hk
      have hsize := Scalar.le_byteSize hk
      have halign : vectorAlign 4 k = 4 * k.byteSize := rfl
      simp only [Ty.facts, halign, Option.some.injEq] at h
      simp only [← h, MemberKind.align]
      omega
    · exact Nat.le_max_left _ _
  · rename_i k
    split
    · rename_i hk
      have hsize := Scalar.le_byteSize hk
      have halign : vectorAlign 2 k = 2 * k.byteSize := rfl
      simp only [Ty.facts, numericFacts, halign, Option.some.injEq] at h
      simp only [← h, MemberKind.align]
      omega
    · exact Nat.le_max_left _ _
  · rename_i k
    split
    · rename_i hk
      have hsize := Scalar.le_byteSize hk
      simp only [Ty.facts, numericFacts, Option.some.injEq] at h
      simp only [← h, MemberKind.align]
      omega
    · exact Nat.le_max_left _ _
  · exact Nat.le_max_left _ _

/-- A member is aligned to a power of two that suits what it can receive. -/
structure SizedMember.Aligned (m : SizedMember) : Prop where
  power : ∃ k, m.align = 2 ^ k
  kind : (MemberKind.ofType m.type).align ∣ m.align

theorem MemberDecl.aligned_sized {g : Scope} {d : MemberDecl} {m : SizedMember}
    (h : d.sized g = some m) : m.Aligned := by
  obtain ⟨type, _, h⟩ := Option.bind_eq_some_iff.mp h
  obtain ⟨facts, hfacts, h⟩ := Option.bind_eq_some_iff.mp h
  obtain ⟨size, _, h⟩ := Option.bind_eq_some_iff.mp h
  obtain ⟨align, halign, h⟩ := Option.bind_eq_some_iff.mp h
  split at h
  · rename_i hpow
    obtain rfl := Option.some.inj h
    refine ⟨⟨align.log2, hpow.symm⟩, ?_⟩
    show (MemberKind.ofType type).align ∣ align
    have hpos : 1 ≤ align := hpow ▸ Nat.two_pow_pos _
    have hle := Nat.le_trans (Ty.align_le hfacts) (Nat.max_le.mpr ⟨hpos, le_attributeOr halign⟩)
    rw [← hpow] at hle ⊢
    exact MemberKind.align_dvd hle
  · simp at h

/-- The greatest of several powers of two is a multiple of them all. -/
theorem dvd_foldl_max {ms : List SizedMember} (h : ∀ m ∈ ms, m.Aligned) (j : Nat) :
    2 ^ j ∣ ms.foldl (fun a m => max a m.align) (2 ^ j) ∧
      ∀ m ∈ ms, m.align ∣ ms.foldl (fun a m => max a m.align) (2 ^ j) := by
  induction ms generalizing j with
  | nil => exact ⟨Nat.dvd_refl _, nofun⟩
  | cons m ms ih =>
    obtain ⟨k, hk⟩ := (h m List.mem_cons_self).power
    have hmax : max (2 ^ j) m.align = 2 ^ max j k := by
      rw [hk]
      exact ((pow_right_mono₀ one_le_two).map_max).symm
    obtain ⟨hfirst, hrest⟩ := ih (fun m' hm' => h m' (List.mem_cons_of_mem m hm')) (max j k)
    rw [List.foldl_cons, hmax]
    refine ⟨(Nat.pow_dvd_pow 2 (Nat.le_max_left j k)).trans hfirst, ?_⟩
    refine List.forall_mem_cons.mpr ⟨?_, hrest⟩
    rw [hk]
    exact (Nat.pow_dvd_pow 2 (Nat.le_max_right j k)).trans hfirst

/-- Whether a structure ends at a multiple of the alignment of each of its members. -/
def StructType.EndsAligned (s : StructType) : Prop :=
  ∀ x ∈ s.members, (MemberKind.ofType x.type).align ∣ s.span

theorem StructType.endsAligned_ofMembers {name : String} {ms : List SizedMember}
    {io : List (Option IoBinding)} {s : StructType} (hms : ∀ m ∈ ms, m.Aligned)
    (h : ofMembers name ms io = some s) : s.EndsAligned := by
  obtain ⟨hmembers, hspan⟩ := placed_ofMembers h
  intro x hx
  have htype := List.mem_map_of_mem (f := StructMember.type) hx
  rw [hmembers, map_type_placeMembers] at htype
  obtain ⟨m, hm, heq⟩ := List.mem_map.mp htype
  rw [← heq, hspan]
  exact ((hms m hm).kind.trans ((dvd_foldl_max hms 0).2 m hm)).trans (Nat.dvd_mul_left _ _)

/-- Whether all structures of a module end so. -/
def Module.EndsAligned (m : Module) : Prop := ∀ s ∈ m.structs, s.EndsAligned

theorem Module.endsAligned_ofText {text : String} {m : Module} (h : ofText? text = some m) :
    m.EndsAligned := by
  have hstep (ds : List Decl) (g : Scope) (m : Module) (d : Decl) (state : Scope × Module)
      (hm : m.EndsAligned) (hd : Declares g m d state) : state.2.EndsAligned := by
    cases hd with
    | name | const | var | fn | entry => exact hm
    | struct sizes forms =>
      refine List.forall_mem_append.mpr ⟨hm, List.forall_mem_singleton.mpr ?_⟩
      refine StructType.endsAligned_ofMembers (fun x hx => ?_) forms
      obtain ⟨_, _, hsized⟩ := mem_of_mapM_eq_some sizes x hx
      exact MemberDecl.aligned_sized hsized
  obtain ⟨_, _, _, haligned⟩ :=
    ofText_run (P := fun _ state => state.2.EndsAligned) nofun hstep h
  exact haligned

end Wgsl

namespace Program

/-- The size of a block, computed in words of 32 bits from the span of its structure: so many whole
pieces of 16 bytes. -/
def blockSize (span : UInt32) : UInt32 := (span / 16 + if span % 16 = 0 then 0 else 1) * 16

/-- The words hold the result if the structure ends at a multiple of 16. For others the last piece
can lie beyond them. -/
theorem toNat_blockSize {span : UInt32} (h : 16 ∣ span.toNat) :
    (blockSize span).toNat = span.toNat := by
  have hmod : span % 16 = 0 := by
    rw [← UInt32.toNat_inj, UInt32.toNat_mod]
    exact Nat.mod_eq_zero_of_dvd h
  have hlt := span.toNat_lt
  simp only [blockSize, hmod, if_true, UInt32.add_zero, UInt32.toNat_mul, UInt32.toNat_div]
  rw [show (16 : UInt32).toNat = 16 from rfl, Nat.div_mul_cancel h, Nat.mod_eq_of_lt hlt]

example : blockSize 4294967281 = 0 := by decide

variable {m : Wgsl.Module} {label text : String} {p : Program}

/-- The block of a program is as large as its structure. -/
theorem uniformSize_ofModule (hvalid : m.Validated) (haligned : m.EndsAligned)
    (h : ofModule label m = .ok p) :
    ∃ s, HasBlock m p.uniformBinding s ∧ p.uniformSize = s.span ∧ 16 ∣ s.span := by
  obtain ⟨f, hf, _, rfl⟩ := (ofModule_eq_ok hvalid).mp h
  have hpasses := inspect_eq_ok.mp hf
  obtain ⟨name, huniform, hstruct⟩ := hpasses.uniform
  obtain ⟨v, hv, hspace, htype, hbinding⟩ := (uniform_eq_some_iff hvalid hf).mp huniform
  have hdvd : 16 ∣ f.struct.span := by
    obtain ⟨field, hfield, hrole⟩ := List.any_eq_true.mp hpasses.mvp
    rw [beq_iff_eq] at hrole
    obtain ⟨x, hx, _, _, hkind⟩ := (sortMembers_types hpasses.members).1 field hfield
    have hends := haligned _ (List.mem_of_find?_eq_some hstruct) x hx
    rw [hkind, hrole] at hends
    exact hends
  refine ⟨f.struct, ⟨v, hv, hspace, hbinding, name, htype, hstruct⟩, ?_, hdvd⟩
  show (f.struct.span + 15) / 16 * 16 = f.struct.span
  omega

/-- When the block is filled, each field gets the bytes of its value. -/
theorem Laid.value_write (h : p.Laid) {index : Nat} {frameCountMod : UInt32} {sampler : Sampler}
    {c : BindContext} {f : Field} (hf : f ∈ p.fields) {v : UniformValue}
    (hv : BindingTable.valueOf? c index f.role = some v) (params : FrameParams) {out : List UInt8}
    (hout : out.length = p.uniformSize) :
    let t := BindingTable.ofProgram p index frameCountMod sampler c
    ((t.write params out).drop f.offset).take f.role.byteSize = t.bytesOf params v := by
  intro t
  have hbytes := BindingTable.byteSize_valueOf hv
  have hw : ⟨f.offset, v⟩ ∈ t.uniforms := List.mem_filterMap.mpr ⟨f, hf, by rw [hv]; rfl⟩
  have hfits : f.offset + v.byteSize ≤ out.length := by
    rw [hbytes, hout]
    exact h.inside f hf
  rw [← hbytes]
  exact (BindingTable.apart_ofProgram h).value_write params out hw hfits

/-- Each field of a program has a place of its own in the block of its module, and gets the bytes of
its value there. The size of the block can be computed in words of 32 bits if that of its structure
can. -/
structure InPlace (m : Wgsl.Module) (p : Program) : Prop where
  apart : p.fields.Pairwise fun f f' => f.stop ≤ f'.offset
  inside : ∀ f ∈ p.fields, f.stop ≤ p.uniformSize
  whole : 16 ∣ p.uniformSize
  block : ∃ s, HasBlock m p.uniformBinding s ∧ p.uniformSize = s.span ∧
    ∀ span : UInt32, span.toNat = s.span → (blockSize span).toNat = p.uniformSize
  values : ∀ index frameCountMod sampler c params (out : List UInt8), out.length = p.uniformSize →
    let t := BindingTable.ofProgram p index frameCountMod sampler c
    ∀ f ∈ p.fields, ∀ v, BindingTable.valueOf? c index f.role = some v →
      (t.bytesOf params v).length = f.role.byteSize ∧
        ((t.write params out).drop f.offset).take f.role.byteSize = t.bytesOf params v

theorem inPlace_ofModule (hvalid : m.Validated) (hm : m.Laid) (haligned : m.EndsAligned)
    (h : ofModule label m = .ok p) : p.InPlace m := by
  obtain ⟨s, hblock, hsize, hdvd⟩ := uniformSize_ofModule hvalid haligned h
  have hlaid := laid_ofModule hm h
  refine ⟨hlaid.apart, hlaid.inside, hsize ▸ hdvd, ⟨s, hblock, hsize, fun span hspan => ?_⟩, ?_⟩
  · rw [toNat_blockSize (hspan ▸ hdvd), hspan, hsize]
  · intro index frameCountMod sampler c params out hout t f hf v hv
    refine ⟨?_, hlaid.value_write hf hv params hout⟩
    rw [BindingTable.length_bytesOf, BindingTable.byteSize_valueOf hv]

/-- The fields of a program take up separate ranges of its block, which is as large as its structure
and a multiple of 16. When the block is filled, no field is dropped, and afterwards each one that
has a value has just that, whatever other members are called. So it is with any module that is in
order, and with any text that can be used. -/
theorem fields_stand_apart :
    (∀ text m, Module.ofText? text = some m → m.Validated ∧ m.Laid ∧ m.EndsAligned) ∧
    (∀ m label p, m.Validated → m.Laid → m.EndsAligned → ofModule label m = .ok p → p.InPlace m) ∧
    ∀ label text p, ofText label text = .ok p →
      ∃ m, Module.ofText? text = some m ∧ p.InPlace m := by
  have htexts (text : String) (m : Wgsl.Module) (hm : Module.ofText? text = some m) :
      m.Validated ∧ m.Laid ∧ m.EndsAligned :=
    ⟨Module.validated_ofText hm, Module.laid_ofText hm, Module.endsAligned_ofText hm⟩
  refine ⟨htexts, fun _ _ _ => inPlace_ofModule, fun label text p h => ?_⟩
  obtain ⟨m, hm, hp⟩ := ofText_eq_ok.mp h
  obtain ⟨hvalid, hlaid, haligned⟩ := htexts text m hm
  exact ⟨m, hm, inPlace_ofModule hvalid hlaid haligned hp⟩

/-- A program with members of one name, and others between them. -/
def namesakes : String := "
struct Light \x7b @size(20) tint: vec3<f32>, level: f32 \x7d
struct Params \x7b
  lives: f32,
  @align(32) lives: f32,
  lights: array<Light, 2>,
  mvp: mat4x4<f32>,
  @size(12) lives: f32,
  source_video_size: vec2<f32>
\x7d
@group(0) @binding(0) var<uniform> params: Params;
@vertex fn vs_main() -> @builtin(position) vec4<f32> \x7b return params.mvp[0]; \x7d
@fragment fn fs_main() -> @location(0) vec4<f32> \x7b return vec4<f32>(1.0); \x7d
"

set_option maxRecDepth 100000 in
theorem namesakes_stand_apart :
    ∃ p, ofText "" namesakes = .ok p ∧
      (p.fields.filter (·.name == "lives")).map (·.offset) = [0, 32, 176] ∧
      p.fields.Pairwise (fun f f' => f.stop ≤ f'.offset) ∧
      ∀ params : FrameParams, params.tracked = [.ofNat 3] → ∀ out : List UInt8,
        out.length = p.uniformSize →
        let t := BindingTable.ofProgram p 0 0 ⟨false, .border⟩ ⟨[], ["lives"], false⟩
        ∀ f ∈ p.fields, f.name = "lives" →
          ((t.write params out).drop f.offset).take 4 = (Single.ofNat 3).toBytes := by
  have htext : ∃ p, ofText "" namesakes = .ok p ∧
      (p.fields.filter (·.name == "lives")).map (·.offset) = [0, 32, 176] ∧
      ∀ f ∈ p.fields, f.name = "lives" → f.role = .tracked "lives" :=
    interface_ofText rfl (by decide +kernel)
  obtain ⟨p, hp, hoffsets, hroles⟩ := htext
  obtain ⟨m, _, hapart, _, _, _, hvalues⟩ := fields_stand_apart.2.2 _ _ p hp
  refine ⟨p, hp, hoffsets, hapart, ?_⟩
  intro params htracked out hout t f hf hname
  have hrole := hroles f hf hname
  have hvalue : BindingTable.valueOf? ⟨[], ["lives"], false⟩ 0 f.role = some (.tracked 0) := by
    rw [hrole]
    rfl
  obtain ⟨_, hbytes⟩ := hvalues 0 0 ⟨false, .border⟩ _ params out hout f hf _ hvalue
  rw [hrole] at hbytes
  refine hbytes.trans ?_
  rw [BindingTable.bytesOf, htracked]
  rfl

end Program

end PassChain
