import PassChain.Proofs.SamplerPairs

/-! Which types the members and textures of a program have. -/
namespace PassChain

namespace Wgsl

variable {g : Scope} {m : Module} {d : Decl} {t : Ty}

/-- Whether a type can be written: there are no abstract numbers in it. -/
def Ty.Settled (t : Ty) : Prop := t.concrete = t

/-- Whether all names of types stand for types that can be written. -/
def Scope.Settled (g : Scope) : Prop := ∀ x ∈ g.meanings, ∀ t, x.2 = .type t → t.Settled

theorem settled_scalarNamed {id : String} {k : Scalar} (h : scalarNamed? id = some k) :
    k.concrete = k := by
  unfold scalarNamed? at h
  split at h <;> cases h <;> rfl

theorem settled_plainType {id : String} (h : plainType? id = some t) : t.Settled := by
  unfold plainType? at h
  split at h <;> cases h <;> rfl

theorem settled_storageImage {id : String} (h : storageImage? id = some t) : t.Settled := by
  unfold storageImage? at h
  split at h <;> cases h <;> rfl

theorem settled_sampledImage {id : String} {image : Scalar → Ty}
    (h : sampledImage? id = some image) (k : Scalar) : (image k).Settled := by
  unfold sampledImage? at h
  split at h <;> cases h <;> rfl

/-- Vectors and matrices are settled with their numbers, and so are those that a name gives. -/
theorem settled_shapeNamed {id : String} {shape : Scalar → Ty} {own : Option Scalar}
    (h : shapeNamed? id = some (shape, own)) :
    (∀ k, k.concrete = k → (shape k).Settled) ∧ ∀ k, own = some k → k.concrete = k := by
  have hvector (n : Nat) (k : Scalar) (hk : k.concrete = k) : (Ty.vector n k).Settled :=
    congrArg (Ty.vector n) hk
  have hmatrix (c r : Nat) (k : Scalar) (hk : k.concrete = k) : (Ty.matrix c r k).Settled :=
    congrArg (Ty.matrix c r) hk
  unfold shapeNamed? at h
  split at h
  · obtain ⟨n, _, h⟩ := Option.map_eq_some_iff.mp h
    cases h
    exact ⟨hvector n, nofun⟩
  · obtain ⟨n, _, h⟩ := Option.bind_eq_some_iff.mp h
    obtain ⟨k, hk, h⟩ := Option.bind_eq_some_iff.mp h
    cases h
    refine ⟨hvector n, fun k' hk' => ?_⟩
    obtain rfl := Option.some.inj hk'
    unfold scalarOfLetter? at hk
    split at hk <;> cases hk <;> rfl
  · obtain ⟨c, _, h⟩ := Option.bind_eq_some_iff.mp h
    obtain ⟨r, _, h⟩ := Option.bind_eq_some_iff.mp h
    cases h
    exact ⟨hmatrix c r, nofun⟩
  · obtain ⟨c, _, h⟩ := Option.bind_eq_some_iff.mp h
    obtain ⟨r, _, h⟩ := Option.bind_eq_some_iff.mp h
    cases h
    exact ⟨hmatrix c r, fun k hk => Option.some.inj hk ▸ rfl⟩
  · cases h

/-- Whatever type an expression writes can be written. -/
theorem settled_resolveType (hg : g.Settled) {e : Expr} (h : resolveType g e = some t) :
    t.Settled := by
  -- only vectors, matrices and textures take over the number in the brackets; arrays are settled
  -- whatever they hold
  fun_induction resolveType g e generalizing t with
  | case1 id k hk => exact Option.some.inj h ▸ congrArg Ty.scalar (settled_scalarNamed hk)
  | case2 id t' ht' => exact Option.some.inj h ▸ settled_plainType ht'
  | case3 id shape k hshape =>
    have hsettled := settled_shapeNamed hshape
    exact Option.some.inj h ▸ hsettled.1 k (hsettled.2 k rfl)
  | case5 id _ t' ht' =>
    obtain ⟨x, hx, ht'⟩ := Option.map_eq_some_iff.mp ht'
    exact Option.some.inj h ▸ hg x (List.mem_of_find?_eq_some hx) t' ht'
  | case7 base ih =>
    obtain ⟨_, _, h⟩ := Option.bind_eq_some_iff.mp h
    obtain ⟨_, _, h⟩ := Option.bind_eq_some_iff.mp h
    cases h
    rfl
  | case8 base count ih =>
    obtain ⟨base, _, h⟩ := Option.bind_eq_some_iff.mp h
    have harray (n : Option Int) (h : (n.bind fun n => (g.facts? (.array base none)).bind fun _ =>
        if 0 < n ∧ n < UInt32.size then some (Ty.array base (some n.toNat)) else none) = some t) :
        t.Settled := by
      obtain ⟨_, _, h⟩ := Option.bind_eq_some_iff.mp h
      obtain ⟨_, _, h⟩ := Option.bind_eq_some_iff.mp h
      split at h <;> cases h
      rfl
    split at h
    · split at h
      · exact harray _ h
      · exact harray _ h
    · exact harray _ h
  | case9 | case10 => exact Option.some.inj h ▸ rfl
  | case12 | case13 =>
    obtain ⟨_, _, rfl⟩ := Option.map_eq_some_iff.mp h
    rfl
  | case14 =>
    obtain ⟨t', ht', h⟩ := Option.bind_eq_some_iff.mp h
    split at h
    · exact Option.some.inj h ▸ settled_storageImage ht'
    · cases h
  | case15 id base _ _ _ k hk shape hshape _ _ _ _ _ ih
  | case17 id base _ _ _ k hk shape hshape _ ih =>
    have hsettled := settled_shapeNamed hshape
    exact Option.some.inj h ▸ hsettled.1 k (Ty.scalar.inj (ih hk))
  | case18 id base _ _ _ k hk image himage =>
    exact Option.some.inj h ▸ settled_sampledImage himage k
  | case4 | case6 | case11 | case16 | case19 | case20 | case21 | case22 => cases h

theorem MemberDecl.settled_sized (hg : g.Settled) {d : MemberDecl} {x : SizedMember}
    (h : d.sized g = some x) : x.type.Settled := by
  obtain ⟨type, htype, h⟩ := Option.bind_eq_some_iff.mp h
  obtain ⟨_, _, h⟩ := Option.bind_eq_some_iff.mp h
  obtain ⟨_, _, h⟩ := Option.bind_eq_some_iff.mp h
  obtain ⟨_, _, h⟩ := Option.bind_eq_some_iff.mp h
  split at h
  · obtain rfl := Option.some.inj h
    exact settled_resolveType hg htype
  · simp at h

theorem map_type_placeMembers (start : Nat) (ms : List SizedMember) :
    (placeMembers start ms).1.map (·.type) = ms.map (·.type) := by
  induction ms generalizing start with
  | nil => rfl
  | cons m ms ih => exact congrArg (m.type :: ·) (ih _)

/-- What is kept of declarations: types that are named, and those of members, can be written. -/
structure TypesSettled (state : Scope × Module) : Prop where
  named : state.1.Settled
  members : ∀ s ∈ state.2.structs, ∀ x ∈ s.members, x.type.Settled

theorem Scope.Settled.means (hg : g.Settled) {x : Meaning} (hx : ∀ t, x = .type t → t.Settled)
    (name : String) : (g.means name x).Settled :=
  List.forall_mem_cons.mpr ⟨hx, hg⟩

theorem TypesSettled.step {state : Scope × Module} (h : TypesSettled (g, m))
    (hd : Declares g m d state) : TypesSettled state := by
  obtain ⟨hnamed, hmembers⟩ := h
  cases hd with
  | name resolves =>
    refine ⟨hnamed.means ?_ _, hmembers⟩
    rintro _ ⟨⟩
    exact settled_resolveType hnamed resolves
  | struct sizes forms =>
    constructor
    · refine hnamed.means ?_ _
      rintro _ ⟨⟩
      rfl
    · refine List.forall_mem_append.mpr ⟨hmembers, List.forall_mem_singleton.mpr ?_⟩
      intro x hx
      rw [(StructType.placed_ofMembers forms).1] at hx
      have htype := List.mem_map_of_mem (f := StructMember.type) hx
      rw [map_type_placeMembers] at htype
      obtain ⟨y, hy, heq⟩ := List.mem_map.mp htype
      obtain ⟨_, _, hsized⟩ := mem_of_mapM_eq_some sizes y hy
      exact heq ▸ MemberDecl.settled_sized hnamed hsized
  | const | var | fn | entry =>
    refine ⟨hnamed.means ?_ _, hmembers⟩
    rintro _ ⟨⟩

/-- Whether the types of all members can be written. -/
def Module.Settled (m : Module) : Prop := ∀ s ∈ m.structs, ∀ x ∈ s.members, x.type.Settled

theorem Module.settled_ofText {text : String} (h : ofText? text = some m) : m.Settled := by
  obtain ⟨_, g, _, hsettled⟩ := ofText_run (P := fun _ => TypesSettled) ⟨nofun, nofun⟩
    (fun _ _ _ _ _ => TypesSettled.step) h
  exact hsettled.members

end Wgsl

open Wgsl

/-- The type of a member with this role, over its elementary type. -/
def Role.typeOver (role : Role) (k : Scalar) : Ty :=
  match role.kind with
  | .matrix => .matrix 4 4 k
  | .pair => .vector 2 k
  | _ => .scalar k

/-- Fractions that can be written have four or eight bytes. -/
theorem Wgsl.Scalar.isFloat_iff {k : Scalar} (hk : k.concrete = k) :
    k.isFloat = true ↔ k = .f32 ∨ k = .f64 := by
  cases k <;> simp_all [isFloat, concrete]

/-- A member is of the kind of a role just when its type is that of the role, over one of the two
kinds of fractions. -/
theorem ofType_eq_kind {t : Ty} (ht : t.Settled) (role : Role) :
    MemberKind.ofType t = role.kind ↔ ∃ k, (k = .f32 ∨ k = .f64) ∧ t = role.typeOver k := by
  constructor
  · intro h
    have hother : MemberKind.other ≠ role.kind := by cases role <;> simp [Role.kind]
    have hfloat {kind : MemberKind} {k : Scalar} (hk : k.concrete = k)
        (h : (if k.isFloat then kind else .other) = role.kind) :
        kind = role.kind ∧ (k = .f32 ∨ k = .f64) := by
      split at h
      · rename_i hfloat
        exact ⟨h, (Scalar.isFloat_iff hk).mp hfloat⟩
      · exact absurd h hother
    unfold MemberKind.ofType at h
    unfold Role.typeOver
    split at h
    · obtain ⟨hkind, hk⟩ := hfloat (Ty.matrix.inj ht).2.2 h
      rw [← hkind]
      exact ⟨_, hk, rfl⟩
    · obtain ⟨hkind, hk⟩ := hfloat (Ty.vector.inj ht).2 h
      rw [← hkind]
      exact ⟨_, hk, rfl⟩
    · obtain ⟨hkind, hk⟩ := hfloat (Ty.scalar.inj ht) h
      rw [← hkind]
      exact ⟨_, hk, rfl⟩
    · exact absurd h hother
  · rintro ⟨k, rfl | rfl, rfl⟩ <;> cases role <;> rfl

/-- What is stored for a role fills a member just when its fractions have four bytes. -/
theorem BindingTable.fills_iff {role : Role} {k : Scalar} (hk : k = .f32 ∨ k = .f64)
    (structs : List StructType) : ∃ facts, (role.typeOver k).facts structs = some facts ∧
      ∀ c index v, valueOf? c index role = some v →
        ∀ t params, (bytesOf t params v).length = facts.size ↔ k = .f32 := by
  have hsize : ∃ facts, (role.typeOver k).facts structs = some facts ∧
      (role.byteSize = facts.size ↔ k = .f32) := by
    rcases hk with rfl | rfl
    · cases role <;> exact ⟨_, rfl, iff_of_true rfl rfl⟩
    · cases role <;> refine ⟨_, rfl, iff_of_false ?_ nofun⟩ <;>
        simp [Role.byteSize, numericFacts, vectorAlign, Scalar.byteSize]
  obtain ⟨facts, hfacts, hiff⟩ := hsize
  refine ⟨facts, hfacts, fun c index v hv t params => ?_⟩
  rw [length_bytesOf, byteSize_valueOf hv, hiff]

namespace Program

/-- Every field comes from a member, and no member is refused. -/
theorem sortMembers_types {members : List StructMember} {fields : List Field}
    {ignored : List String} (h : sortMembers members = .ok (fields, ignored)) :
    (∀ f ∈ fields, ∃ x ∈ members, x.name = f.name ∧ x.offset = f.offset ∧
      MemberKind.ofType x.type = f.role.kind) ∧
    ∀ x ∈ members, ∀ role, Role.named? x.name = some role →
      MemberKind.ofType x.type = role.kind := by
  induction members generalizing fields ignored with
  | nil =>
    cases h
    exact ⟨nofun, nofun⟩
  | cons x rest ih =>
    obtain ⟨role?, hrole, h⟩ := bind_eq_ok.mp h
    obtain ⟨⟨later, others⟩, hlater, h⟩ := bind_eq_ok.mp h
    obtain ⟨hfields, hnamed⟩ := ih hlater
    have hfields' : ∀ f ∈ later, ∃ x' ∈ x :: rest, x'.name = f.name ∧ x'.offset = f.offset ∧
        MemberKind.ofType x'.type = f.role.kind := by
      intro f hf
      obtain ⟨x', hx', hof⟩ := hfields f hf
      exact ⟨x', List.mem_cons_of_mem _ hx', hof⟩
    constructor
    · cases role? with
      | none =>
        cases h
        exact hfields'
      | some role =>
        cases h
        refine List.forall_mem_cons.mpr ⟨?_, hfields'⟩
        exact ⟨x, List.mem_cons_self, rfl, rfl, Role.kind_ofMember hrole⟩
    · refine List.forall_mem_cons.mpr ⟨fun role hname => ?_, hnamed⟩
      rw [Role.ofMember_eq_ok, hname] at hrole
      exact hrole.1

theorem bind_ne_error {ε α β : Type} {x : Except ε α} {f : α → Except ε β} {e : ε}
    (hx : x ≠ .error e) (hf : ∀ a, f a ≠ .error e) : x >>= f ≠ .error e := by
  cases x with
  | error e' => exact fun h => hx (congrArg Except.error (Except.error.inj h))
  | ok a => exact hf a

theorem foldlM_add_ne_invalid (vs : List Wgsl.Variable) (r : Resources) :
    vs.foldlM Resources.add r ≠ .error .invalid := by
  induction vs generalizing r with
  | nil => exact nofun
  | cons v vs ih =>
    rw [List.foldlM_cons]
    refine bind_ne_error ?_ ih
    unfold Resources.add
    split
    · exact nofun
    · split
      · exact nofun
      · split
        · split <;> exact nofun
        all_goals exact nofun

theorem sortMembers_ne_invalid (members : List StructMember) :
    sortMembers members ≠ .error .invalid := by
  induction members with
  | nil => exact nofun
  | cons x rest ih =>
    refine bind_ne_error ?_ fun role => bind_ne_error ih fun _ => ?_
    · have hexpect (wanted : MemberKind) (expected : String) (role : Role) :
          Role.expect x.name (.ofType x.type) wanted expected role ≠ .error .invalid := by
        unfold Role.expect
        split <;> exact nofun
      unfold Role.ofMember
      dsimp only
      split
      iterate 6 exact hexpect _ _ _
      split
      · exact hexpect _ _ _
      · exact nofun
    · cases role <;> rintro ⟨⟩

/-- A module is never refused for what its text would be refused for. -/
theorem ofModule_ne_invalid (label : String) (m : Wgsl.Module) :
    ofModule label m ≠ .error .invalid := by
  rw [ofModule_eq]
  refine bind_ne_error ?_ fun f => ?_
  · refine bind_ne_error ?_ fun _ => bind_ne_error (foldlM_add_ne_invalid _ _) fun _ =>
      bind_ne_error ?_ fun _ => bind_ne_error (sortMembers_ne_invalid _) fun _ => ?_
    · unfold checkEntryPoints
      split
      · exact nofun
      · split <;> exact nofun
    · unfold blockOf
      split
      · exact nofun
      · split <;> exact nofun
      · exact nofun
    · dsimp only
      split <;> exact nofun
  · unfold Findings.interface
    dsimp only
    split <;> exact nofun

/-- Whether a field is this member, of the type that its role asks for over these numbers. Only if
they have four bytes does what is stored fill it. -/
structure IsMember (m : Wgsl.Module) (f : Field) (k : Scalar) (x : StructMember) : Prop where
  name : x.name = f.name
  offset : x.offset = f.offset
  type : x.type = f.role.typeOver k
  filled : ∃ facts, x.type.facts m.structs = some facts ∧
    ∀ c index v, BindingTable.valueOf? c index f.role = some v →
      ∀ t params, (BindingTable.bytesOf t params v).length = facts.size ↔ k = .f32

/-- Whether this is the structure of a uniform block of this number. -/
def HasBlock (m : Wgsl.Module) (number : Nat) (s : StructType) : Prop :=
  ∃ v ∈ m.globals, v.space = .uniform ∧ v.binding = some (0, number) ∧
    ∃ name, v.type = .struct name ∧ m.structs.find? (·.name == name) = some s

/-- Whether the fields of a program are members made of such numbers, and its textures
two-dimensional with such contents. -/
structure Typed (p : Program) (m : Wgsl.Module) (numbers : List Scalar)
    (contents : ImageClass → Prop) : Prop where
  fields : ∃ s, HasBlock m p.uniformBinding s ∧
    ∀ f ∈ p.fields, ∃ x ∈ s.members, ∃ k ∈ numbers, IsMember m f k x
  textures : ∀ s ∈ p.textures, ∃ v ∈ m.globals, v.name = s.name ∧
    v.binding = some (0, s.binding) ∧
      ∃ content, contents content ∧ v.type = .image .d2 false content

/-- Whether a module has neither numbers of eight bytes where a role could be nor two-dimensional
textures of anything but fractions of four bytes. -/
structure Plain (m : Wgsl.Module) : Prop where
  numbers : ∀ s ∈ m.structs, ∀ x ∈ s.members,
    x.type ∉ [.matrix 4 4 .f64, .vector 2 .f64, .scalar .f64]
  contents : ∀ v ∈ m.globals, v.type.isPicture = true →
    v.type = .image .d2 false (.sampled .f32 false)

/-- Whether a texture or a member that has a role is of another type than that. -/
inductive Mistyped (m : Wgsl.Module) : Prop
  | texture (v : Wgsl.Variable) (declared : v ∈ m.globals) (shape : ImageShape) (arrayed : Bool)
      (content : ImageClass) (type : v.type = .image shape arrayed content)
      (other : shape ≠ .d2 ∨ arrayed = true)
  | member (v : Wgsl.Variable) (declared : v ∈ m.globals) (space : v.space = .uniform)
      (name : String) (type : v.type = .struct name) (s : StructType)
      (struct : m.structs.find? (·.name == name) = some s) (x : StructMember) (mem : x ∈ s.members)
      (role : Role) (named : Role.named? x.name = some role)
      (other : ∀ k, k = .f32 ∨ k = .f64 → x.type ≠ role.typeOver k)

variable {m : Wgsl.Module} {label text : String} {p : Program}

theorem block?_eq_some_iff {v : Wgsl.Variable} {number : Nat} {t : Ty} :
    v.block? = some (number, t) ↔
      v.space = .uniform ∧ v.type = t ∧ ∃ group, v.binding = some (group, number) := by
  unfold Variable.block?
  split <;> simp_all [and_comm]

/-- The variables of a module that passes lie in the first group, and the uniform block is the only
one. -/
theorem uniform_eq_some_iff {f : Findings} (hm : m.Validated) (hf : inspect m = .ok f)
    {number : Nat} {t : Ty} : f.resources.uniform = some (number, t) ↔
      ∃ v ∈ m.globals, v.space = .uniform ∧ v.type = t ∧ v.binding = some (0, number) := by
  obtain ⟨husable, hone, hresources⟩ :=
    (Resources.foldlM_add_eq_ok hm.handles).mp (inspect_eq_ok.mp hf).resources
  -- with one block at most, the first one is any one
  have hhead (us : List (Nat × Ty)) (h : us.length ≤ 1) (u : Nat × Ty) :
      us.head? = some u ↔ u ∈ us := by
    match us, h with
    | [], _ => simp
    | [u'], _ => simp [eq_comm]
  rw [hresources, hhead _ hone, List.mem_filterMap]
  refine exists_congr fun v => and_congr_right fun hv => ?_
  rw [block?_eq_some_iff]
  refine and_congr_right fun _ => and_congr_right fun _ => ⟨?_, fun h => ⟨0, h⟩⟩
  rintro ⟨group, hb⟩
  obtain ⟨rfl, _⟩ := husable v hv group number hb
  exact hb

theorem typed_ofModule (hm : m.Validated) (hsettled : m.Settled) (h : ofModule label m = .ok p) :
    p.Typed m [.f32, .f64] fun _ => True := by
  obtain ⟨f, hf, howned, rfl⟩ := (ofModule_eq_ok hm).mp h
  have hpasses := inspect_eq_ok.mp hf
  obtain ⟨name, huniform, hstruct⟩ := hpasses.uniform
  constructor
  · obtain ⟨v, hv, hspace, htype, hbinding⟩ := (uniform_eq_some_iff hm hf).mp huniform
    refine ⟨f.struct, ⟨v, hv, hspace, hbinding, name, htype, hstruct⟩, fun field hfield => ?_⟩
    obtain ⟨x, hx, hname, hoffset, hkind⟩ := (sortMembers_types hpasses.members).1 field hfield
    have hwritten := hsettled f.struct (List.mem_of_find?_eq_some hstruct) x hx
    obtain ⟨k, hk, hmember⟩ := (ofType_eq_kind hwritten field.role).mp hkind
    refine ⟨x, hx, k, by simpa using hk, hname, hoffset, hmember, ?_⟩
    rw [hmember]
    exact BindingTable.fills_iff hk m.structs
  · intro s hs
    obtain ⟨t, ht, rfl⟩ := List.mem_map.mp ((Resources.sortSlots_perm _).mem_iff.mp hs)
    obtain ⟨v, hv, hpicture⟩ := List.mem_filterMap.mp ht
    unfold Variable.picture? at hpicture
    split at hpicture
    · rename_i htype
      obtain ⟨⟨group, number⟩, hb, rfl⟩ := Option.map_eq_some_iff.mp hpicture
      obtain ⟨rfl, _⟩ := (resources_of_inspect hm hf).1 v hv group number hb
      refine ⟨v, hv, rfl, hb, ?_⟩
      unfold Ty.isPicture at htype
      split at htype
      · exact ⟨_, trivial, ‹_›⟩
      · simp at htype
    · simp at hpicture

/-- In a plain module there is nothing else that fields and textures could be. -/
theorem Typed.of_plain (h : p.Typed m [.f32, .f64] fun _ => True) (hplain : Plain m) :
    p.Typed m [.f32] (· = .sampled .f32 false) := by
  obtain ⟨⟨s, hblock, hfields⟩, htextures⟩ := h
  constructor
  · refine ⟨s, hblock, fun f hf => ?_⟩
    obtain ⟨x, hx, k, hk, hmember⟩ := hfields f hf
    obtain ⟨v, _, _, _, name, _, hstruct⟩ := hblock
    have hsingle : k = .f32 := by
      rcases List.mem_cons.mp hk with hsingle | hdouble
      · exact hsingle
      · rw [List.mem_singleton] at hdouble
        have hother := hplain.numbers s (List.mem_of_find?_eq_some hstruct) x hx
        rw [hmember.type, hdouble] at hother
        cases hrole : f.role <;> simp [hrole, Role.typeOver, Role.kind] at hother
    exact ⟨x, hx, k, List.mem_singleton.mpr hsingle, hmember⟩
  · intro s hs
    obtain ⟨v, hv, hname, hbinding, content, _, htype⟩ := htextures s hs
    exact ⟨v, hv, hname, hbinding, _, rfl, hplain.contents v hv (by rw [htype]; rfl)⟩

theorem not_mistyped_of_ofModule (hm : m.Validated) (hsettled : m.Settled)
    (h : ofModule label m = .ok p) : ¬Mistyped m := by
  obtain ⟨f, hf, _⟩ := (ofModule_eq_ok hm).mp h
  have hbound {v : Wgsl.Variable} (hv : v ∈ m.globals) (hspace : v.space.isResource = true) :
      ∃ number, v.binding = some (0, number) ∧ v.Usable := by
    have husable := (resources_of_inspect hm hf).1 v hv
    obtain ⟨⟨group, number⟩, hb⟩ := Option.isSome_iff_exists.mp (hm.bound v hv ▸ hspace)
    obtain ⟨rfl, _⟩ := husable group number hb
    exact ⟨number, hb, husable⟩
  intro hmistyped
  cases hmistyped with
  | texture v hv shape arrayed content htype hother =>
    have hspace := (hm.handles v hv).mpr (by rw [htype]; rfl)
    obtain ⟨number, hb, husable⟩ := hbound hv (by rw [hspace]; rfl)
    obtain ⟨_, hu | ⟨_, hpicture | hsampler⟩⟩ := husable 0 number hb
    · simp [hspace] at hu
    · rw [htype] at hpicture
      unfold Ty.isPicture at hpicture
      split at hpicture
      · simp_all
      · simp at hpicture
    · simp [htype] at hsampler
  | member v hv hspace name htype s hs x hx role hrole hother =>
    obtain ⟨number, hb, _⟩ := hbound hv (by rw [hspace]; rfl)
    have hpasses := inspect_eq_ok.mp hf
    obtain ⟨name', huniform, hstruct⟩ := hpasses.uniform
    have huniform' := (uniform_eq_some_iff hm hf).mpr ⟨v, hv, hspace, htype, hb⟩
    obtain ⟨⟩ := huniform.symm.trans huniform'
    obtain rfl := Option.some.inj (hs.symm.trans hstruct)
    have hkind := (sortMembers_types hpasses.members).2 x hx role hrole
    have hwritten := hsettled f.struct (List.mem_of_find?_eq_some hs) x hx
    obtain ⟨k, hk, hmember⟩ := (ofType_eq_kind hwritten role).mp hkind
    exact hother k hk hmember

theorem exists_fault_of_mistyped (hm : m.Validated) (hsettled : m.Settled) (h : Mistyped m) :
    ∃ fault, ofModule label m = .error fault ∧ fault ≠ .invalid := by
  cases hp : ofModule label m with
  | error fault => exact ⟨fault, rfl, fun heq => ofModule_ne_invalid label m (heq ▸ hp)⟩
  | ok p => exact absurd h (not_mistyped_of_ofModule hm hsettled hp)

/-- Members and textures have the shapes that the interface of a program gives them, but numbers may
have eight bytes and textures hold anything; not so in a plain module. A module in which something
has another shape is refused. So it is with any module that is in order, and a text can be used only
if it is that of such a module. -/
theorem types_of_program (label text : String) :
    (∀ m, Module.ofText? text = some m → m.Validated ∧ m.Settled) ∧
    (∀ m : Wgsl.Module, m.Validated → m.Settled →
      (∀ p, ofModule label m = .ok p → p.Typed m [.f32, .f64] (fun _ => True) ∧
        (Plain m → p.Typed m [.f32] (· = .sampled .f32 false))) ∧
      (Mistyped m → ∃ fault, ofModule label m = .error fault ∧ fault ≠ .invalid)) ∧
    (∀ p, ofText label text = .ok p → ∃ m, Module.ofText? text = some m ∧
      p.Typed m [.f32, .f64] (fun _ => True) ∧
      (Plain m → p.Typed m [.f32] (· = .sampled .f32 false))) ∧
    ∀ m, Module.ofText? text = some m → Mistyped m →
      ∃ fault, ofText label text = .error fault ∧ fault ≠ .invalid := by
  refine ⟨fun _ hm => ⟨Module.validated_ofText hm, Module.settled_ofText hm⟩, ?_, ?_⟩
  · refine fun m hvalid hsettled => ⟨fun p h => ?_, exists_fault_of_mistyped hvalid hsettled⟩
    have htyped := typed_ofModule hvalid hsettled h
    exact ⟨htyped, htyped.of_plain⟩
  · refine ⟨fun p h => ?_, fun m hm hmistyped => ?_⟩
    · obtain ⟨m, hm, hp⟩ := ofText_eq_ok.mp h
      have htyped := typed_ofModule (Module.validated_ofText hm) (Module.settled_ofText hm) hp
      exact ⟨m, hm, htyped, htyped.of_plain⟩
    · rw [ofText_eq_ofModule hm]
      exact exists_fault_of_mistyped (Module.validated_ofText hm) (Module.settled_ofText hm)
        hmistyped

/-- A program with a texture of another shape. -/
def solidTexture : String := "
struct Params \x7b mvp: mat4x4<f32> \x7d
@group(0) @binding(0) var<uniform> params: Params;
@group(0) @binding(1) var source: texture_3d<f32>;
@vertex fn vs_main() -> @builtin(position) vec4<f32> \x7b return params.mvp[0]; \x7d
@fragment fn fs_main() -> @location(0) vec4<f32> \x7b return vec4<f32>(1.0); \x7d
"

set_option maxRecDepth 100000 in
theorem solid_texture_refused :
    (∃ (m : Wgsl.Module) (p : Program), Module.ofText? Wgsl.Bundled.stock = some m ∧
      ofText "" Wgsl.Bundled.stock = .ok p ∧ p.Typed m [.f32] (· = .sampled .f32 false)) ∧
      ∃ fault, ofText "" solidTexture = .error fault ∧ fault ≠ .invalid := by
  constructor
  · have htext : ∃ m, Module.ofText? Wgsl.Bundled.stock = some m ∧
        (∀ s ∈ m.structs, ∀ x ∈ s.members,
          x.type ∉ [.matrix 4 4 .f64, .vector 2 .f64, .scalar .f64]) ∧
        ∀ v ∈ m.globals, v.type.isPicture = true →
          v.type = .image .d2 false (.sampled .f32 false) :=
      Module.checked_ofText rfl (by decide +kernel)
    obtain ⟨m, hm, hnumbers, hcontents⟩ := htext
    obtain ⟨p, hp⟩ := ofText_stock ""
    obtain ⟨m', hm', _, hplain⟩ := (types_of_program "" _).2.2.1 p hp
    obtain rfl := Option.some.inj (hm.symm.trans hm')
    exact ⟨m, p, hm, hp, hplain ⟨hnumbers, hcontents⟩⟩
  · have htext : ∃ m, Module.ofText? solidTexture = some m ∧
        ∃ v ∈ m.globals, v.type = .image .d3 false (.sampled .f32 false) :=
      Module.checked_ofText rfl (by decide +kernel)
    obtain ⟨m, hm, v, hv, htype⟩ := htext
    refine (types_of_program "" solidTexture).2.2.2 m hm (.texture v hv _ _ _ htype (.inl ?_))
    decide

/-- A program with a texture of whole numbers and a frame counter of eight bytes. -/
def otherNumbers : String := "
struct Params \x7b mvp: mat4x4<f32>, frame_count: f64 \x7d
@group(0) @binding(0) var<uniform> params: Params;
@group(0) @binding(1) var source: texture_2d<i32>;
@vertex fn vs_main() -> @builtin(position) vec4<f32> \x7b return params.mvp[0]; \x7d
@fragment fn fs_main() -> @location(0) vec4<f32> \x7b return vec4<f32>(1.0); \x7d
"

set_option maxRecDepth 100000 in
theorem other_numbers_accepted :
    ∃ m p, Module.ofText? otherNumbers = some m ∧ ofText "" otherNumbers = .ok p ∧
      (∃ s ∈ p.textures, ∀ v ∈ m.globals, v.name = s.name →
        v.type = .image .d2 false (.sampled .i32 false)) ∧
      ∃ f ∈ p.fields, f.role = .frameCount ∧ ∀ s ∈ m.structs, ∀ x ∈ s.members,
        x.name = f.name → x.type = .scalar .f64 :=
  checked_ofText rfl (by decide +kernel)

end Program

end PassChain
