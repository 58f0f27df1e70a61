import Mathlib.Data.List.Nodup
import PassChain.Wgsl.Module

/-! What each declaration adds to a module, and what follows for the modules of texts. -/
namespace PassChain.Wgsl

variable {g g' : Scope} {m m' : Module} {d : Decl} {state : Scope × Module}

/-- The scope with one more name. -/
def Scope.means (g : Scope) (name : String) (x : Meaning) : Scope :=
  { g with meanings := (name, x) :: g.meanings }

/-- What a declaration that follows the rules leads to. -/
inductive Declares (g : Scope) (m : Module) : Decl → Scope × Module → Prop
  | name {name : String} {type : Expr} {t : Ty} (resolves : resolveType g type = some t) :
    Declares g m ⟨name, .alias type⟩ (g.means name (.type t), m)
  | struct {name : String} {members : List MemberDecl} {sized : List SizedMember} {s : StructType}
      (sizes : members.mapM (·.sized g) = some sized)
      (forms : StructType.ofMembers name sized (members.map (·.io)) = some s) :
    Declares g m ⟨name, .struct members⟩
      ({ g.means name (.type (.struct name)) with structs := g.structs ++ [s] },
        { m with structs := m.structs ++ [s] })
  | const {name : String} {type : Option Expr} {value : Expr} (known : Known) (n : Option Int) :
    Declares g m ⟨name, .const type value⟩ (g.means name (.const known n), m)
  | var {name : String} {v : VariableDecl} {t : Ty} {facts : TypeFacts}
      {binding : Option (Nat × Nat)} (resolves : resolveType g v.type = some t)
      (known : g.facts? t = some facts) (admits : v.space.admits facts t = true)
      (bound : v.space.isResource = binding.isSome) :
    Declares g m ⟨name, .var v⟩ (g.means name (.var ⟨name, v.space, t, binding⟩),
      { m with globals := m.globals ++ [⟨name, v.space, t, binding⟩] })
  | fn {name : String} {f : FunctionDecl} (params : Nat) (result : Option Ty)
      (used : List Variable) :
    Declares g m ⟨name, .fn f⟩ (g.means name (.fn params result used), m)
  | entry {name : String} {f : FunctionDecl} (params : Nat) (result : Option Ty)
      (used : List Variable) (stage : Stage) :
    Declares g m ⟨name, .fn f⟩ (g.means name (.fn params result used),
      { m with entryPoints := m.entryPoints ++ [(name, stage)] })

/-- Every declaration does one of these things, if it follows the rules. -/
theorem declares_of_declare (h : declare (g, m) d = some state) : Declares g m d state := by
  obtain ⟨name, kind⟩ := d
  cases kind with
  | struct members =>
    obtain ⟨sized, hsized, h⟩ := Option.bind_eq_some_iff.mp h
    obtain ⟨s, hs, h⟩ := Option.bind_eq_some_iff.mp h
    obtain rfl := Option.some.inj h
    exact .struct hsized hs
  | const type value =>
    unfold declare at h
    dsimp only at h
    split at h
    all_goals
      obtain ⟨_, _, h⟩ := Option.bind_eq_some_iff.mp h
      obtain ⟨_, _, h⟩ := Option.bind_eq_some_iff.mp h
      obtain rfl := Option.some.inj h
      exact .const _ _
  | var v =>
    obtain ⟨t, ht, h⟩ := Option.bind_eq_some_iff.mp h
    obtain ⟨facts, hfacts, h⟩ := Option.bind_eq_some_iff.mp h
    obtain ⟨group, _, h⟩ := Option.bind_eq_some_iff.mp h
    obtain ⟨number, _, h⟩ := Option.bind_eq_some_iff.mp h
    dsimp only at h
    have hbound (binding : Option (Nat × Nat))
        (h : (if v.space.admits facts t && v.space.isResource == binding.isSome then
          some (g.means name (.var ⟨name, v.space, t, binding⟩),
            { m with globals := m.globals ++ [⟨name, v.space, t, binding⟩] })
          else none) = some state) : Declares g m ⟨name, .var v⟩ state := by
      split at h
      · rename_i hadmits
        simp only [Bool.and_eq_true, beq_iff_eq] at hadmits
        obtain rfl := Option.some.inj h
        exact .var ht hfacts hadmits.1 hadmits.2
      · simp at h
    split at h
    · obtain ⟨_, _, h⟩ := Option.bind_eq_some_iff.mp h
      exact hbound _ h
    · exact hbound _ h
  | fn f =>
    obtain ⟨params, _, h⟩ := Option.bind_eq_some_iff.mp h
    obtain ⟨result, _, h⟩ := Option.bind_eq_some_iff.mp h
    obtain ⟨_, _, h⟩ := Option.bind_eq_some_iff.mp h
    dsimp only at h
    split at h
    · simp at h
    · obtain ⟨_, _, h⟩ := Option.bind_eq_some_iff.mp h
      split at h
      · simp at h
      · split at h
        · obtain rfl := Option.some.inj h
          exact .fn _ _ _
        · obtain ⟨_, _, h⟩ := Option.bind_eq_some_iff.mp h
          obtain rfl := Option.some.inj h
          exact .entry _ _ _ _
  | _ type =>
    obtain ⟨t, ht, h⟩ := Option.bind_eq_some_iff.mp h
    obtain rfl := Option.some.inj h
    exact .name ht

/-- What a fold that may fail keeps, if each of its steps does. -/
theorem foldlM_keeps {α β : Type} {f : β → α → Option β} {xs : List α} {b b' : β}
    (h : xs.foldlM f b = some b') {R : β → β → Prop} (hrefl : ∀ b, R b b)
    (htrans : ∀ a b c, R a b → R b c → R a c) (hstep : ∀ b a b', f b a = some b' → R b b') :
    R b b' := by
  induction xs generalizing b with
  | nil => exact Option.some.inj h ▸ hrefl b
  | cons x xs ih =>
    rw [List.foldlM_cons] at h
    obtain ⟨b₁, hb, h⟩ := Option.bind_eq_some_iff.mp h
    exact htrans _ _ _ (hstep _ _ _ hb) (ih h)

theorem mem_of_mapM_eq_some {α β : Type} {f : α → Option β} {xs : List α} {ys : List β}
    (h : xs.mapM f = some ys) : ∀ y ∈ ys, ∃ x ∈ xs, f x = some y := by
  induction xs generalizing ys with
  | nil =>
    obtain rfl := Option.some.inj h
    exact nofun
  | cons x xs ih =>
    rw [List.mapM_cons] at h
    obtain ⟨first, hfirst, h⟩ := Option.bind_eq_some_iff.mp h
    obtain ⟨rest, hrest, h⟩ := Option.bind_eq_some_iff.mp h
    obtain rfl := Option.some.inj h
    refine List.forall_mem_cons.mpr ⟨⟨x, List.mem_cons_self, hfirst⟩, fun y hy => ?_⟩
    obtain ⟨x', hx', hy'⟩ := ih hrest y hy
    exact ⟨x', List.mem_cons_of_mem _ hx', hy'⟩

/-- Each name is settled once, and none of those that wait. -/
structure Settles (waiting : List String) (settled settled' : List Decl) : Prop where
  nodup : (settled.map (·.name)).Nodup → (settled'.map (·.name)).Nodup
  waits : ∀ x ∈ settled', x.name ∈ waiting → x ∈ settled

theorem Settles.refl (waiting : List String) (settled : List Decl) :
    Settles waiting settled settled := ⟨id, fun _ hx _ => hx⟩

theorem Settles.trans {waiting : List String} {a b c : List Decl} (h : Settles waiting a b)
    (h' : Settles waiting b c) : Settles waiting a c :=
  ⟨h'.nodup ∘ h.nodup, fun x hx hw => h.waits x (h'.waits x hx hw) hw⟩

theorem settles_of_settle {decls settled settled' : List Decl} {n : Nat} {waiting : List String}
    (h : settle decls n waiting settled d = some settled') : Settles waiting settled settled' := by
  induction n generalizing waiting settled d settled' with
  | zero => simp [settle] at h
  | succ n ih =>
    unfold settle at h
    split at h
    · exact Option.some.inj h ▸ .refl _ _
    · rename_i hnew
      split at h
      · simp at h
      · rename_i hfree
        obtain ⟨before, hbefore, h⟩ := Option.bind_eq_some_iff.mp h
        obtain rfl := Option.some.inj h
        obtain ⟨hnodup, hwaits⟩ : Settles (d.name :: waiting) settled before :=
          foldlM_keeps hbefore (.refl _) (fun _ _ _ => .trans) (fun _ _ _ => ih)
        simp only [List.any_eq_true, beq_iff_eq, not_exists, not_and] at hnew
        rw [List.contains_iff_mem] at hfree
        constructor
        · intro hsettled
          rw [List.map_append, List.nodup_append]
          refine ⟨hnodup hsettled, List.nodup_singleton _, ?_⟩
          intro name hname other hother heq
          obtain ⟨x, hx, rfl⟩ := List.mem_map.mp hname
          have hsame : x.name = d.name := heq.trans (List.mem_singleton.mp hother)
          exact hnew x (hwaits x hx (hsame ▸ List.mem_cons_self)) hsame
        · intro x hx hw
          rcases List.mem_append.mp hx with hx | hx
          · exact hwaits x hx (List.mem_cons_of_mem _ hw)
          · exact absurd (List.mem_singleton.mp hx ▸ hw) hfree

/-- Declarations are settled under different names. -/
theorem nodup_inOrder {decls ordered : List Decl} (h : inOrder decls = some ordered) :
    (ordered.map (·.name)).Nodup := by
  unfold inOrder at h
  have hsettles : Settles [] [] ordered :=
    foldlM_keeps h (.refl _) (fun _ _ _ => .trans) (fun _ _ _ => settles_of_settle)
  exact hsettles.nodup .nil

/-- What holds at first and is kept by each declaration holds of the module of a text. -/
theorem Module.ofText_run {P : List Decl → Scope × Module → Prop} (hfirst : P [] ({}, {}))
    (hstep : ∀ ds g m d state, P ds (g, m) → Declares g m d state → P (ds ++ [d]) state)
    {text : String} (h : ofText? text = some m) :
    ∃ ordered g, (ordered.map Decl.name).Nodup ∧ P ordered (g, m) := by
  have hfold (earlier later : List Decl) (state : Scope × Module) (hstate : P earlier state)
      (state' : Scope × Module) (h : later.foldlM declare state = some state') :
      P (earlier ++ later) state' := by
    induction later generalizing earlier state with
    | nil => exact (List.append_nil earlier).symm ▸ Option.some.inj h ▸ hstate
    | cons d rest ih =>
      rw [List.foldlM_cons] at h
      obtain ⟨next, hnext, h⟩ := Option.bind_eq_some_iff.mp h
      rw [List.append_cons]
      exact ih _ next (hstep _ _ _ _ _ hstate (declares_of_declare hnext)) h
  obtain ⟨decls, _, h⟩ := Option.bind_eq_some_iff.mp h
  dsimp only at h
  split at h
  · simp at h
  · obtain ⟨ordered, hordered, h⟩ := Option.bind_eq_some_iff.mp h
    obtain ⟨⟨g, m'⟩, hr, h⟩ := Option.bind_eq_some_iff.mp h
    obtain rfl := Option.some.inj h
    exact ⟨ordered, g, nodup_inOrder hordered, hfold [] ordered _ hfirst _ hr⟩

/-- Whether values of the type are textures or samplers. -/
def Ty.isHandle : Ty → Bool
  | image .. | sampler _ | bindingArray => true
  | _ => false

/-- Textures and samplers lie where nothing else does. -/
theorem AddressSpace.admits_iff_isHandle {space : AddressSpace} {t : Ty} {facts : TypeFacts}
    (hfacts : g.facts? t = some facts) (h : space.admits facts t = true) :
    space = .handle ↔ t.isHandle = true := by
  constructor
  · rintro rfl
    cases t <;> simp_all [admits, Ty.isHandle]
  · intro ht
    have hhandle : facts = handleFacts := by
      cases t <;> simp_all [Ty.isHandle, Scope.facts?, Ty.facts]
    subst hhandle
    cases space <;> simp_all [admits, handleFacts]

/-- A module whose variables have different names, of which those of textures and samplers lie
where such variables lie, and those that are bound from outside say where. -/
structure Module.Validated (m : Module) : Prop where
  names : (m.globals.map (·.name)).Nodup
  handles : ∀ v ∈ m.globals, v.space = .handle ↔ v.type.isHandle = true
  bound : ∀ v ∈ m.globals, v.space.isResource = v.binding.isSome

/-- What is kept of declarations for `Module.Validated`. -/
structure Declared (ds : List Decl) (state : Scope × Module) : Prop where
  names : (state.2.globals.map (·.name)).Sublist (ds.map (·.name))
  handles : ∀ v ∈ state.2.globals, v.space = .handle ↔ v.type.isHandle = true
  bound : ∀ v ∈ state.2.globals, v.space.isResource = v.binding.isSome

theorem Declared.step {ds : List Decl} (h : Declared ds (g, m)) (hd : Declares g m d state) :
    Declared (ds ++ [d]) state := by
  have hlonger : (m.globals.map (·.name)).Sublist ((ds ++ [d]).map (·.name)) := by
    rw [List.map_append]
    exact h.names.trans (List.sublist_append_left _ _)
  cases hd with
  | name | struct | const | fn | entry => exact ⟨hlonger, h.handles, h.bound⟩
  | var resolves known admits bound =>
    constructor
    · rw [List.map_append, List.map_append]
      exact h.names.append (.refl _)
    · rw [List.forall_mem_append, List.forall_mem_singleton]
      exact ⟨h.handles, AddressSpace.admits_iff_isHandle known admits⟩
    · rw [List.forall_mem_append, List.forall_mem_singleton]
      exact ⟨h.bound, bound⟩

theorem Module.validated_ofText {text : String} (h : ofText? text = some m) : m.Validated := by
  obtain ⟨ordered, g, hnodup, hdeclared⟩ := ofText_run (P := Declared)
    ⟨.slnil, by simp, by simp⟩ (fun _ _ _ _ _ => Declared.step) h
  exact ⟨hdeclared.names.nodup hnodup, hdeclared.handles, hdeclared.bound⟩

end PassChain.Wgsl
