import Mathlib.Data.Bool.Basic
import PassChain.Proofs.Declarations
import PassChain.Proofs.Recording

/-! Which modules a chain can use, and what it finds in them. -/
namespace PassChain

namespace Wgsl

/-- Whether the type is that of two-dimensional textures that are not arrays. -/
def Ty.isPicture : Ty → Bool
  | image .d2 false _ => true
  | _ => false

/-- Whether the type is that of samplers of any kind. -/
def Ty.isSampler : Ty → Bool
  | sampler _ => true
  | _ => false

namespace Variable

/-- The name and the number of a variable that is bound from outside. -/
def numbered? (v : Variable) : Option (String × Nat) := v.binding.map fun b => (v.name, b.2)

/-- The variable as a two-dimensional texture. -/
def picture? (v : Variable) : Option (String × Nat) :=
  if v.type.isPicture then v.numbered? else none

/-- The variable as a sampler. -/
def sampler? (v : Variable) : Option (String × Nat) :=
  if v.type.isSampler then v.numbered? else none

/-- The variable as a uniform block. -/
def block? (v : Variable) : Option (Nat × Ty) :=
  if v.space = .uniform then v.binding.map fun b => (b.2, v.type) else none

/-- Whether a chain can use the variable, if it is bound from outside. -/
def Usable (v : Variable) : Prop :=
  ∀ group number, v.binding = some (group, number) → group = 0 ∧
    (v.space = .uniform ∨ v.space = .handle ∧ (v.type.isPicture = true ∨ v.type = .sampler false))

/-- Whether a variable lies with the textures and samplers just when it is one. -/
def Housed (v : Variable) : Prop := v.space = .handle ↔ v.type.isHandle = true

end Variable

theorem Ty.isHandle_of_isPicture {t : Ty} (h : t.isPicture = true) : t.isHandle = true := by
  cases t <;> simp_all [isPicture, isHandle]

theorem Ty.isHandle_of_isSampler {t : Ty} (h : t.isSampler = true) : t.isHandle = true := by
  cases t <;> simp_all [isSampler, isHandle]

theorem Ty.isSampler_of_isPicture {t : Ty} (h : t.isPicture = true) : t.isSampler = false := by
  cases t <;> simp_all [isSampler, isPicture]

namespace Module

/-- The two-dimensional textures of a module, in the order in which they are declared. -/
def textures (m : Module) : List (String × Nat) := m.globals.filterMap Variable.picture?

/-- The samplers of a module, in the order in which they are declared. -/
def samplers (m : Module) : List (String × Nat) := m.globals.filterMap Variable.sampler?

end Module

end Wgsl

open Wgsl

namespace Resources

variable {r r' : Resources} {v : Wgsl.Variable} {vs : List Wgsl.Variable}

/-- Whatever is bound from outside and cannot be used is refused. -/
theorem usable_of_add (h : r.add v = .ok r') : v.Usable := by
  intro group number hb
  unfold add at h
  rw [hb] at h
  dsimp only at h
  split at h
  · simp at h
  · rename_i hgroup
    refine ⟨not_not.mp hgroup, ?_⟩
    split at h
    · rename_i hs
      exact .inl hs
    · rename_i hs ht
      exact .inr ⟨hs, .inl (by rw [ht]; rfl)⟩
    · rename_i hs ht
      exact .inr ⟨hs, .inr ht⟩
    · simp at h

/-- The resources with what a variable is. -/
def plus (r : Resources) (v : Wgsl.Variable) : Resources where
  uniform := r.uniform.or v.block?
  textures := r.textures ++ v.picture?.toList
  samplers := r.samplers ++ v.sampler?.toList

/-- A variable that can be used is taken in, unless it is a second uniform block. -/
theorem add_usable (hv : v.Housed) (husable : v.Usable) :
    r.add v = if r.uniform.isSome ∧ v.block?.isSome then .error .secondUniform
      else .ok (r.plus v) := by
  cases hb : v.binding with
  | none =>
    simp [add, plus, Variable.block?, Variable.picture?, Variable.sampler?, Variable.numbered?, hb]
  | some b =>
    obtain ⟨group, number⟩ := b
    obtain ⟨rfl, hs | ⟨hs, ht | ht⟩⟩ := husable group number hb
    · have hnot : v.type.isHandle = false := by
        simpa [Variable.Housed, hs] using hv
      have hpicture : v.type.isPicture = false :=
        Bool.eq_false_of_not_eq_true fun h => by simp [Ty.isHandle_of_isPicture h] at hnot
      have hsampler : v.type.isSampler = false :=
        Bool.eq_false_of_not_eq_true fun h => by simp [Ty.isHandle_of_isSampler h] at hnot
      cases hu : r.uniform <;> simp [add, plus, Variable.block?, Variable.picture?,
        Variable.sampler?, hb, hs, hpicture, hsampler, hu]
    · have hsampler := Ty.isSampler_of_isPicture ht
      unfold Ty.isPicture at ht
      split at ht
      · rename_i htype
        simp [add, plus, Variable.block?, Variable.picture?, Variable.sampler?,
          Variable.numbered?, Ty.isPicture, Ty.isSampler, hb, hs, htype]
      · simp at ht
    · simp [add, plus, Variable.block?, Variable.picture?, Variable.sampler?, Variable.numbered?,
        Ty.isPicture, Ty.isSampler, hb, hs, ht]

/-- The resources of variables that can be used. -/
theorem foldlM_add_usable (hv : ∀ v ∈ vs, v.Housed) (husable : ∀ v ∈ vs, v.Usable) :
    vs.foldlM add r =
      if (r.uniform.toList ++ vs.filterMap Variable.block?).length ≤ 1 then
        .ok {
          uniform := (r.uniform.toList ++ vs.filterMap Variable.block?).head?
          textures := r.textures ++ vs.filterMap Variable.picture?
          samplers := r.samplers ++ vs.filterMap Variable.sampler? }
      else .error .secondUniform := by
  induction vs generalizing r with
  | nil =>
    obtain ⟨uniform, textures, samplers⟩ := r
    cases uniform <;> simp [pure, Except.pure]
  | cons v vs ih =>
    obtain ⟨hv, hvs⟩ := List.forall_mem_cons.mp hv
    obtain ⟨husable, hrest⟩ := List.forall_mem_cons.mp husable
    rw [List.foldlM_cons, add_usable hv husable]
    simp only [filterMap_cons_toList]
    split
    · rename_i hboth
      obtain ⟨u, hu⟩ := Option.isSome_iff_exists.mp hboth.1
      obtain ⟨b, hb⟩ := Option.isSome_iff_exists.mp hboth.2
      simp [hu, hb, bind, Except.bind]
    · rename_i hone
      have huniform : (r.plus v).uniform.toList = r.uniform.toList ++ v.block?.toList := by
        unfold plus
        cases hu : r.uniform <;> cases hb : v.block? <;> simp_all
      show vs.foldlM add (r.plus v) = _
      rw [ih hvs hrest, huniform]
      simp only [plus, List.append_assoc]

/-- Just when all variables can be used, and one of them at most is a uniform block, are they taken
in. -/
theorem foldlM_add_eq_ok (hv : ∀ v ∈ vs, v.Housed) : vs.foldlM add {} = .ok r ↔
    (∀ v ∈ vs, v.Usable) ∧ (vs.filterMap Variable.block?).length ≤ 1 ∧
      r = ⟨(vs.filterMap Variable.block?).head?, vs.filterMap Variable.picture?,
        vs.filterMap Variable.sampler?⟩ := by
  have husable {r r' : Resources} (h : vs.foldlM add r = .ok r') : ∀ v ∈ vs, v.Usable := by
    clear hv
    induction vs generalizing r with
    | nil => exact nofun
    | cons v vs ih =>
      rw [List.foldlM_cons] at h
      obtain ⟨r₁, hadd, h⟩ := bind_eq_ok.mp h
      exact List.forall_mem_cons.mpr ⟨usable_of_add hadd, ih h⟩
  constructor
  · intro h
    have hall := husable h
    rw [foldlM_add_usable hv hall] at h
    split at h
    · rename_i hone
      exact ⟨hall, by simpa using hone, (Except.ok.inj h).symm⟩
    · simp at h
  · rintro ⟨hall, hone, rfl⟩
    rw [foldlM_add_usable hv hall, if_pos (by simpa using hone)]
    rfl

end Resources

namespace Program

variable {m : Wgsl.Module} {label : String}

/-- What is found in a module before its samplers are given to its textures. -/
structure Findings where
  resources : Resources
  uniformBinding : Nat
  struct : StructType
  fields : List Field
  ignored : List String

/-- The number and the structure of the uniform block. -/
def blockOf (m : Wgsl.Module) (r : Resources) : Except ProgramFault (Nat × StructType) :=
  match r.uniform with
  | none => .error .noUniform
  | some (number, .struct name) => match m.structs.find? (·.name == name) with
    | some s => .ok (number, s)
    | none => .error .uniformNotStruct
  | some _ => .error .uniformNotStruct

/-- All checks of a module but that of its samplers. -/
def inspect (m : Wgsl.Module) : Except ProgramFault Findings := do
  checkEntryPoints m
  let resources ← m.globals.foldlM Resources.add {}
  let (uniformBinding, struct) ← blockOf m resources
  let (fields, ignored) ← sortMembers struct.members
  if fields.any (·.role == .mvp) then pure { resources, uniformBinding, struct, fields, ignored }
  else .error .noMvp

/-- The interface that findings lead to, if no sampler is left over. -/
def Findings.interface (f : Findings) (label : String) : Except ProgramFault Program :=
  let (slots, left) := Resources.pair f.resources.textures f.resources.samplers
  match left with
  | (name, _) :: _ => .error (.orphanSampler name)
  | [] => .ok {
      label
      uniformBinding := f.uniformBinding
      uniformSize := (f.struct.span + 15) / 16 * 16
      fields := f.fields
      textures := sortSlots slots
      ignored := f.ignored }

theorem ofModule_eq (label : String) (m : Wgsl.Module) :
    ofModule label m = inspect m >>= (·.interface label) := by
  unfold ofModule inspect
  cases checkEntryPoints m with
  | error e => rfl
  | ok _ =>
    cases m.globals.foldlM Resources.add {} with
    | error e => rfl
    | ok resources =>
      cases hu : resources.uniform with
      | none => simp [blockOf, hu, bind, Except.bind]
      | some u =>
        obtain ⟨number, type⟩ := u
        simp only [blockOf, hu, bind, Except.bind]
        cases type with
        | struct name =>
          cases hfind : m.structs.find? (·.name == name) with
          | none => simp only [hfind]
          | some struct =>
            cases hmembers : sortMembers struct.members with
            | error e => simp only [hfind, hmembers]
            | ok sorted =>
              simp only [hfind, hmembers]
              cases sorted.1.any (·.role == .mvp) <;> rfl
        | _ => rfl

/-- What a module has when it passes these checks. -/
structure Passes (m : Wgsl.Module) (f : Findings) : Prop where
  entries : ("vs_main", Stage.vertex) ∈ m.entryPoints ∧ ("fs_main", Stage.fragment) ∈ m.entryPoints
  resources : m.globals.foldlM Resources.add {} = .ok f.resources
  uniform : ∃ name, f.resources.uniform = some (f.uniformBinding, .struct name) ∧
    m.structs.find? (·.name == name) = some f.struct
  members : sortMembers f.struct.members = .ok (f.fields, f.ignored)
  mvp : f.fields.any (·.role == .mvp) = true

theorem checkEntryPoints_eq_ok : checkEntryPoints m = .ok () ↔
    ("vs_main", Stage.vertex) ∈ m.entryPoints ∧ ("fs_main", Stage.fragment) ∈ m.entryPoints := by
  unfold checkEntryPoints
  split
  · simp_all
  · split <;> simp_all

theorem blockOf_eq_ok {r : Resources} {number : Nat} {s : StructType} :
    blockOf m r = .ok (number, s) ↔ ∃ name, r.uniform = some (number, .struct name) ∧
      m.structs.find? (·.name == name) = some s := by
  unfold blockOf
  split
  · rename_i hu
    simp [hu]
  · rename_i n name hu
    rw [hu]
    split
    · rename_i s' hs
      simp only [Except.ok.injEq, Prod.mk.injEq, Option.some.injEq, Ty.struct.injEq]
      constructor
      · rintro ⟨rfl, rfl⟩
        exact ⟨name, ⟨rfl, rfl⟩, hs⟩
      · rintro ⟨_, ⟨rfl, rfl⟩, hs'⟩
        exact ⟨rfl, Option.some.inj (hs.symm.trans hs')⟩
    · rename_i hs
      constructor
      · exact nofun
      · rintro ⟨_, heq, hs'⟩
        cases heq
        exact absurd (hs.symm.trans hs') nofun
  · rename_i hother hu
    constructor
    · exact nofun
    · rintro ⟨name, heq, _⟩
      exact (hother number name (Option.some.inj (hu.symm.trans heq))).elim

theorem inspect_eq_ok {f : Findings} : inspect m = .ok f ↔ Passes m f := by
  constructor
  · intro h
    obtain ⟨_, hentries, h⟩ := bind_eq_ok.mp h
    obtain ⟨resources, hresources, h⟩ := bind_eq_ok.mp h
    obtain ⟨⟨number, struct⟩, hblock, h⟩ := bind_eq_ok.mp h
    obtain ⟨⟨fields, ignored⟩, hmembers, h⟩ := bind_eq_ok.mp h
    dsimp only at h
    split at h
    · rename_i hmvp
      simp only [pure, Except.pure, Except.ok.injEq] at h
      subst h
      exact ⟨checkEntryPoints_eq_ok.mp hentries, hresources, blockOf_eq_ok.mp hblock, hmembers,
        hmvp⟩
    · simp at h
  · intro h
    unfold inspect
    rw [checkEntryPoints_eq_ok.mpr h.entries, h.resources]
    simp [blockOf_eq_ok.mpr h.uniform, h.members, h.mvp, bind, Except.bind, pure, Except.pure]

end Program

end PassChain
