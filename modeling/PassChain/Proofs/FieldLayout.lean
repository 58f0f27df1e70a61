import PassChain.Proofs.Reflection
import PassChain.Proofs.UniformWrites

/-! The fields of a program lie apart from each other and inside its uniform block. -/
namespace PassChain

/-- Bytes of what a member of this kind can receive. -/
def MemberKind.byteSize : MemberKind → Nat
  | matrix => 64
  | pair => 8
  | number => 4
  | other => 0

/-- Bytes of what a member with this role receives. -/
def Role.byteSize : Role → Nat
  | mvp => 64
  | size .. | outputSize => 8
  | frameCount | frameDirection | tracked _ => 4

namespace Wgsl

theorem le_roundUp {align : Nat} (h : 0 < align) (n : Nat) : n ≤ roundUp align n := by
  have hdiv := Nat.div_add_mod (n + align - 1) align
  have hmod := Nat.mod_lt (n + align - 1) h
  have hmul : (n + align - 1) / align * align = align * ((n + align - 1) / align) :=
    Nat.mul_comm _ _
  unfold roundUp
  omega

theorem Scalar.le_byteSize {k : Scalar} (h : k.isFloat = true) : 4 ≤ k.byteSize := by
  cases k <;> simp_all [isFloat, byteSize]

/-- A type is at least as large as what its values can receive. -/
theorem Ty.byteSize_le_size {structs : List StructType} {t : Ty} {facts : TypeFacts}
    (h : t.facts structs = some facts) : (MemberKind.ofType t).byteSize ≤ facts.size := by
  unfold MemberKind.ofType
  split
  · rename_i k
    split
    · rename_i hk
      have hsize := Scalar.le_byteSize hk
      have halign : vectorAlign 4 k = 4 * k.byteSize := rfl
      simp only [Ty.facts, halign, Option.some.injEq] at h
      simp only [← h, MemberKind.byteSize]
      omega
    · exact Nat.zero_le _
  · rename_i k
    split
    · rename_i hk
      have hsize := Scalar.le_byteSize hk
      simp only [Ty.facts, numericFacts, Option.some.injEq] at h
      simp only [← h, MemberKind.byteSize]
      omega
    · exact Nat.zero_le _
  · rename_i k
    split
    · rename_i hk
      simp only [Ty.facts, numericFacts, Option.some.injEq] at h
      simp only [← h, MemberKind.byteSize]
      exact Scalar.le_byteSize hk
    · exact Nat.zero_le _
  · exact Nat.zero_le _

/-- A member has room for what it can receive. -/
structure SizedMember.Roomy (m : SizedMember) : Prop where
  align : 0 < m.align
  size : (MemberKind.ofType m.type).byteSize ≤ m.size

theorem le_attributeOr {g : Scope} {least n : Nat} {e : Option Expr}
    (h : attributeOr g least e = some n) : least ≤ n := by
  cases e with
  | none =>
    simp only [attributeOr, Option.some.injEq] at h
    omega
  | some e =>
    obtain ⟨k, _, hk⟩ := Option.bind_eq_some_iff.mp h
    split at hk
    · simp at hk
    · simp only [Option.some.injEq] at hk
      omega

theorem MemberDecl.roomy_sized {g : Scope} {d : MemberDecl} {m : SizedMember}
    (h : d.sized g = some m) : m.Roomy := by
  obtain ⟨type, _, h⟩ := Option.bind_eq_some_iff.mp h
  obtain ⟨facts, hfacts, h⟩ := Option.bind_eq_some_iff.mp h
  obtain ⟨size, hsize, h⟩ := Option.bind_eq_some_iff.mp h
  obtain ⟨align, _, h⟩ := Option.bind_eq_some_iff.mp h
  split at h
  · rename_i hpow
    simp only [pure, Option.some.injEq] at h
    subst h
    refine ⟨?_, Nat.le_trans (Ty.byteSize_le_size hfacts) (le_attributeOr hsize)⟩
    rw [← hpow]
    exact Nat.two_pow_pos _
  · simp at h

/-- Where what the member receives ends. -/
def StructMember.stop (m : StructMember) : Nat := m.offset + (MemberKind.ofType m.type).byteSize

/-- Members are placed one after another. -/
theorem placeMembers_apart {ms : List SizedMember} (h : ∀ m ∈ ms, m.Roomy) (start : Nat) :
    let placed := placeMembers start ms
    start ≤ placed.2 ∧ placed.1.Pairwise (fun m m' => m.stop ≤ m'.offset) ∧
      ∀ m ∈ placed.1, start ≤ m.offset ∧ m.stop ≤ placed.2 := by
  induction ms generalizing start with
  | nil => exact ⟨Nat.le_refl _, .nil, nofun⟩
  | cons m rest ih =>
    obtain ⟨halign, hsize⟩ := h m (by simp)
    have hstart := le_roundUp halign start
    obtain ⟨hle, hpairs, hbounds⟩ :=
      ih (fun m hm => h m (by simp [hm])) (roundUp m.align start + m.size)
    simp only [placeMembers]
    refine ⟨by omega, List.pairwise_cons.mpr ⟨?_, hpairs⟩, ?_⟩
    · intro m' hm'
      have hbound := hbounds m' hm'
      simp only [StructMember.stop] at hbound ⊢
      omega
    · intro m' hm'
      rcases List.mem_cons.mp hm' with rfl | hm'
      · simp only [StructMember.stop]
        omega
      · have hbound := hbounds m' hm'
        omega

/-- The members of a structure lie apart from each other and inside it. -/
structure StructType.Laid (s : StructType) : Prop where
  apart : s.members.Pairwise fun m m' => m.stop ≤ m'.offset
  inside : ∀ m ∈ s.members, m.stop ≤ s.span

/-- The members of a structure are placed one after another, and it ends with the last one. -/
theorem StructType.placed_ofMembers {name : String} {ms : List SizedMember}
    {io : List (Option IoBinding)} {s : StructType} (h : ofMembers name ms io = some s) :
    s.members = (placeMembers 0 ms).1 ∧
      s.span = roundUp (ms.foldl (fun a m => max a m.align) 1) (placeMembers 0 ms).2 := by
  unfold ofMembers at h
  dsimp only at h
  split at h
  · simp at h
  · split at h
    · simp at h
    · obtain rfl := Option.some.inj h
      exact ⟨rfl, rfl⟩

theorem StructType.laid_ofMembers {name : String} {ms : List SizedMember}
    {io : List (Option IoBinding)} {s : StructType} (hms : ∀ m ∈ ms, m.Roomy)
    (h : ofMembers name ms io = some s) : s.Laid := by
  obtain ⟨_, hpairs, hbounds⟩ := placeMembers_apart hms 0
  have halign (ms : List SizedMember) (a : Nat) :
      a ≤ ms.foldl (fun a m => max a m.align) a := by
    induction ms generalizing a with
    | nil => exact Nat.le_refl _
    | cons m ms ih => exact Nat.le_trans (Nat.le_max_left a m.align) (ih _)
  have hspan := le_roundUp (halign ms 1) (placeMembers 0 ms).2
  obtain ⟨hmembers, hstop⟩ := placed_ofMembers h
  rw [← hstop] at hspan
  constructor
  · rw [hmembers]
    exact hpairs
  · rw [hmembers]
    exact fun m hm => Nat.le_trans (hbounds m hm).2 hspan

/-- Each structure of a module is laid out. -/
def Module.Laid (m : Module) : Prop := ∀ s ∈ m.structs, s.Laid

theorem Module.laid_ofText {text : String} {m : Module} (h : ofText? text = some m) : m.Laid := by
  have hstep (ds : List Decl) (g : Scope) (m : Module) (d : Decl) (state : Scope × Module)
      (hm : m.Laid) (hd : Declares g m d state) : state.2.Laid := by
    cases hd with
    | name | const | var | fn | entry => exact hm
    | struct sizes forms =>
      refine List.forall_mem_append.mpr ⟨hm, List.forall_mem_singleton.mpr ?_⟩
      refine StructType.laid_ofMembers (fun x hx => ?_) forms
      obtain ⟨_, _, hsized⟩ := mem_of_mapM_eq_some sizes x hx
      exact MemberDecl.roomy_sized hsized
  obtain ⟨_, _, _, hlaid⟩ := ofText_run (P := fun _ state => state.2.Laid) nofun hstep h
  exact hlaid

end Wgsl

/-- Where what the field receives ends. -/
def Field.stop (f : Field) : Nat := f.offset + f.role.byteSize

/-- The fields of a program lie apart from each other and inside its uniform block. -/
structure Program.Laid (p : Program) : Prop where
  apart : p.fields.Pairwise fun f f' => f.stop ≤ f'.offset
  inside : ∀ f ∈ p.fields, f.stop ≤ p.uniformSize

namespace Role

/-- The kind of the members that this role is for. -/
def kind : Role → MemberKind
  | mvp => .matrix
  | size .. | outputSize => .pair
  | frameCount | frameDirection | tracked _ => .number

/-- The role that a name stands for, whatever the type of the member. -/
def named? (name : String) : Option Role :=
  match name with
  | "mvp" => some mvp
  | "frame_count" => some frameCount
  | "frame_direction" => some frameDirection
  | "output_size" => some outputSize
  | "video_size" => some (size .source .video)
  | "texture_size" => some (size .source .texture)
  | _ => ((sized? name).filter (!·.1.isLut)).map fun s => size s.1 s.2

/-- A name that stands for a role asks for its kind; all other members are tracked if they are
numbers. -/
theorem ofMember_eq_ok {name : String} {kind : MemberKind} {role? : Option Role} :
    ofMember name kind = .ok role? ↔ match named? name with
      | some role => kind = role.kind ∧ role? = some role
      | none => role? = if kind = .number then some (tracked name) else none := by
  have hexpect (wanted : MemberKind) (expected : String) (role : Role) :
      expect name kind wanted expected role = .ok role? ↔ kind = wanted ∧ role? = some role := by
    unfold expect
    split <;> simp_all [eq_comm]
  unfold ofMember
  dsimp only
  split
  · exact hexpect ..
  · exact hexpect ..
  · exact hexpect ..
  · exact hexpect ..
  · exact hexpect ..
  · exact hexpect ..
  · have hnamed : named? name =
        ((sized? name).filter (!·.1.isLut)).map fun s => size s.1 s.2 := by
      unfold named?
      split <;> simp_all
    rw [hnamed]
    cases (sized? name).filter (!·.1.isLut) with
    | some s => exact hexpect ..
    | none => simp [eq_comm]

theorem kind_ofMember {name : String} {kind : MemberKind} {role : Role}
    (h : ofMember name kind = .ok (some role)) : kind = role.kind := by
  rw [ofMember_eq_ok] at h
  split at h
  · exact Option.some.inj h.2 ▸ h.1
  · split at h
    · rename_i hnumber
      obtain rfl := Option.some.inj h
      exact hnumber
    · simp at h

/-- A role asks for as many bytes as its kind of members receives. -/
theorem byteSize_ofMember {name : String} {kind : MemberKind} {role : Role}
    (h : ofMember name kind = .ok (some role)) : role.byteSize = kind.byteSize := by
  rw [kind_ofMember h]
  cases role <;> rfl

end Role

theorem Program.sortMembers_laid {members : List Wgsl.StructMember} {fields : List Field}
    {ignored : List String} (hmembers : members.Pairwise fun m m' => m.stop ≤ m'.offset)
    (h : sortMembers members = .ok (fields, ignored)) :
    fields.Pairwise (fun f f' => f.stop ≤ f'.offset) ∧
      ∀ f ∈ fields, ∃ m ∈ members, m.offset = f.offset ∧ f.stop ≤ m.stop := by
  induction members generalizing fields ignored with
  | nil =>
    simp only [sortMembers, Except.ok.injEq, Prod.mk.injEq] at h
    rw [← h.1]
    exact ⟨.nil, nofun⟩
  | cons m rest ih =>
    obtain ⟨hhead, hrest⟩ := List.pairwise_cons.mp hmembers
    obtain ⟨role, hrole, h⟩ := bind_eq_ok.mp h
    obtain ⟨⟨later, others⟩, hlater, h⟩ := bind_eq_ok.mp h
    obtain ⟨hpairs, hof⟩ := ih hrest hlater
    cases role with
    | none =>
      simp only [pure, Except.pure, Except.ok.injEq, Prod.mk.injEq] at h
      rw [← h.1]
      refine ⟨hpairs, fun f hf => ?_⟩
      obtain ⟨m', hm', hmf⟩ := hof f hf
      exact ⟨m', List.mem_cons_of_mem _ hm', hmf⟩
    | some role =>
      simp only [pure, Except.pure, Except.ok.injEq, Prod.mk.injEq] at h
      rw [← h.1]
      have hsize := Role.byteSize_ofMember hrole
      have hstop : (⟨m.name, role, m.offset⟩ : Field).stop ≤ m.stop := by
        simp only [Field.stop, Wgsl.StructMember.stop]
        omega
      refine ⟨List.pairwise_cons.mpr ⟨fun f hf => ?_, hpairs⟩, fun f hf => ?_⟩
      · obtain ⟨m', hm', hoffset, _⟩ := hof f hf
        rw [← hoffset]
        exact Nat.le_trans hstop (hhead m' hm')
      · rcases List.mem_cons.mp hf with rfl | hf
        · exact ⟨m, List.mem_cons_self, rfl, hstop⟩
        · obtain ⟨m', hm', hmf⟩ := hof f hf
          exact ⟨m', List.mem_cons_of_mem _ hm', hmf⟩

/-- What the interface of a program is made of. -/
structure Program.Of (m : Wgsl.Module) (p : Program) : Prop where
  fields : ∃ s ∈ m.structs, sortMembers s.members = .ok (p.fields, p.ignored) ∧
    s.span ≤ p.uniformSize
  textures : ∃ resources : Resources, ∃ slots, p.textures = sortSlots slots ∧
    Resources.pair resources.textures resources.samplers = (slots, [])

theorem Program.of_ofModule {label : String} {m : Wgsl.Module} {p : Program}
    (h : ofModule label m = .ok p) : p.Of m := by
  rw [ofModule_eq] at h
  obtain ⟨f, hf, h⟩ := bind_eq_ok.mp h
  have hpasses := inspect_eq_ok.mp hf
  obtain ⟨name, _, hstruct⟩ := hpasses.uniform
  unfold Findings.interface at h
  cases hpair : Resources.pair f.resources.textures f.resources.samplers with | mk slots left =>
  rw [hpair] at h
  cases left with
  | cons => simp at h
  | nil =>
    obtain rfl := Except.ok.inj h
    refine ⟨⟨f.struct, List.mem_of_find?_eq_some hstruct, hpasses.members, ?_⟩,
      f.resources, slots, rfl, hpair⟩
    show f.struct.span ≤ (f.struct.span + 15) / 16 * 16
    omega

/-- A text can be used just if it is that of a module that can. -/
theorem Program.ofText_eq_ok {label text : String} {p : Program} : ofText label text = .ok p ↔
    ∃ m, Wgsl.Module.ofText? text = some m ∧ ofModule label m = .ok p := by
  unfold ofText
  split <;> rename_i h <;> simp [h]

/-- The fields of a module's program do not overlap. -/
theorem Program.laid_ofModule {label : String} {m : Wgsl.Module} {p : Program} (hm : m.Laid)
    (h : ofModule label m = .ok p) : p.Laid := by
  obtain ⟨s, hs, hsorted, hspan⟩ := (of_ofModule h).fields
  have hlaid := hm s hs
  obtain ⟨hpairs, hfields⟩ := sortMembers_laid hlaid.apart hsorted
  refine ⟨hpairs, fun f hf => ?_⟩
  obtain ⟨member, hmember, _, hstop⟩ := hfields f hf
  exact Nat.le_trans hstop (Nat.le_trans (hlaid.inside member hmember) hspan)

theorem Program.laid_ofText {label text : String} {p : Program} (h : ofText label text = .ok p) :
    p.Laid := by
  obtain ⟨m, hm, hp⟩ := ofText_eq_ok.mp h
  exact laid_ofModule (Wgsl.Module.laid_ofText hm) hp

namespace BindingTable

variable {p : Program} {index : Nat} {frameCountMod : UInt32} {sampler : Sampler} {c : BindContext}

theorem byteSize_valueOf {role : Role} {v : UniformValue} (h : valueOf? c index role = some v) :
    v.byteSize = role.byteSize := by
  cases role with
  | tracked id =>
    obtain ⟨k, _, rfl⟩ := Option.map_eq_some_iff.mp h
    rfl
  | mvp | size | outputSize | frameCount | frameDirection =>
    simp only [valueOf?, Option.some.injEq] at h
    subst h
    rfl

/-- A write that stands for a field of the program. -/
theorem field_of_write {w : UniformWrite}
    (h : w ∈ (ofProgram p index frameCountMod sampler c).uniforms) :
    ∃ f ∈ p.fields, valueOf? c index f.role = some w.value ∧ w.offset = f.offset ∧
      w.offset + w.value.byteSize = f.stop := by
  obtain ⟨f, hf, hw⟩ := List.mem_filterMap.mp h
  obtain ⟨v, hv, rfl⟩ := Option.map_eq_some_iff.mp hw
  refine ⟨f, hf, hv, rfl, ?_⟩
  rw [byteSize_valueOf hv]
  rfl

theorem apart_ofProgram (h : p.Laid) : (ofProgram p index frameCountMod sampler c).Apart := by
  refine List.pairwise_filterMap.mpr (h.apart.imp ?_)
  intro f f' hff' w hw w' hw'
  obtain ⟨v, hv, rfl⟩ := Option.map_eq_some_iff.mp hw
  obtain ⟨v', hv', rfl⟩ := Option.map_eq_some_iff.mp hw'
  refine .inl ?_
  rw [byteSize_valueOf hv]
  exact hff'

theorem inside_ofProgram (h : p.Laid) :
    ∀ w ∈ (ofProgram p index frameCountMod sampler c).uniforms,
      w.offset + w.value.byteSize ≤ p.uniformSize := by
  intro w hw
  obtain ⟨f, hf, _, _, hstop⟩ := field_of_write hw
  rw [hstop]
  exact h.inside f hf

end BindingTable

end PassChain
