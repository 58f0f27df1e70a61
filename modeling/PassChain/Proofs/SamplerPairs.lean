import Mathlib.Data.List.Perm.Basic
import PassChain.Proofs.Naming

/-! The textures of a program, in the order of their bindings and with the samplers named after
them. -/
namespace PassChain

open Wgsl

namespace Resources

variable {textures samplers left : List (String × Nat)} {slots : List TextureSlot}
  {name : String} {number : Nat}

/-- Only the order changes of what stays. -/
theorem cons_swapRemove_perm {α : Type} {xs : List α} {i : Nat} (hi : i < xs.length) :
    (xs[i] :: swapRemove xs i).Perm xs := by
  obtain rfl | ⟨ys, last, rfl⟩ := List.eq_nil_or_concat' xs
  · simp at hi
  · rw [List.length_append, List.length_singleton] at hi
    by_cases hlast : i = ys.length
    · subst hlast
      have hremove : swapRemove (ys ++ [last]) ys.length = ys := by simp [swapRemove]
      rw [hremove, List.getElem_concat_length rfl]
      exact (List.perm_append_singleton last ys).symm
    · have hi : i < ys.length := by omega
      have hremove : swapRemove (ys ++ [last]) i = ys.set i last := by
        simp [swapRemove, hlast, List.set_append_left _ _ hi]
      rw [hremove, List.getElem_append_left hi]
      -- the last one comes first, then what it replaces
      have hset := (List.set_perm_cons_eraseIdx hi last).cons ys[i]
      have hback := (List.getElem_cons_eraseIdx_perm hi).cons last
      exact (hset.trans (.swap _ _ _)).trans (hback.trans (List.perm_append_singleton _ _).symm)

theorem lookup_eq_some_iff_mem (h : (samplers.map (·.1)).Nodup) :
    samplers.lookup name = some number ↔ (name, number) ∈ samplers := by
  rw [List.lookup_eq_some_iff]
  constructor
  · rintro ⟨before, after, rfl, _⟩
    simp
  · intro hmem
    obtain ⟨before, after, rfl⟩ := List.append_of_mem hmem
    refine ⟨before, after, rfl, fun s hs => ?_⟩
    rw [List.map_append, List.nodup_append] at h
    have hne := h.2.2 s.1 (List.mem_map_of_mem hs) name (by simp)
    exact bne_iff_ne.mpr (Ne.symm hne)

/-- Lists that agree on a name find the same number for it. -/
theorem lookup_eq_of_mem_iff (hsamplers : (samplers.map (·.1)).Nodup)
    (hleft : (left.map (·.1)).Nodup)
    (h : ∀ number, (name, number) ∈ left ↔ (name, number) ∈ samplers) :
    left.lookup name = samplers.lookup name := by
  refine Option.ext fun number => ?_
  rw [lookup_eq_some_iff_mem hleft, lookup_eq_some_iff_mem hsamplers, h]

/-- Taking out the sampler of a name finds its number and leaves all others. -/
theorem take_sampler (h : (samplers.map (·.1)).Nodup) (name : String) :
    let own := samplers.findIdx? (·.1 == name)
    own.bind (fun i => samplers[i]?.map (·.2)) = samplers.lookup name ∧
      ((own.map (swapRemove samplers)).getD samplers).Perm (samplers.filter (·.1 != name)) := by
  intro own
  cases hown : own with
  | none =>
    have hnone := List.findIdx?_eq_none_iff.mp hown
    constructor
    · refine (List.lookup_eq_none_iff.mpr fun s hs => ?_).symm
      exact bne_iff_ne.mpr (Ne.symm (beq_eq_false_iff_ne.mp (hnone s hs)))
    · refine .of_eq (List.filter_eq_self.mpr fun s hs => ?_).symm
      exact bne_iff_ne.mpr (beq_eq_false_iff_ne.mp (hnone s hs))
  | some i =>
    obtain ⟨hi, hname, _⟩ := List.findIdx?_eq_some_iff_getElem.mp hown
    rw [beq_iff_eq] at hname
    have hperm := cons_swapRemove_perm hi
    constructor
    · refine Eq.symm ?_
      rw [Option.bind_some, List.getElem?_eq_getElem hi, Option.map_some,
        lookup_eq_some_iff_mem h, ← hname]
      exact List.getElem_mem hi
    · have hnodup := (hperm.map Prod.fst).nodup_iff.mpr h
      rw [List.map_cons, List.nodup_cons, hname] at hnodup
      have hrest : ∀ s ∈ swapRemove samplers i, (s.1 != name) = true := fun s hs =>
        bne_iff_ne.mpr fun heq => hnodup.1 (heq ▸ List.mem_map_of_mem hs)
      have hfilter := hperm.filter (·.1 != name)
      rw [List.filter_cons_of_neg (by simp [hname]), List.filter_eq_self.mpr hrest] at hfilter
      exact hfilter

/-- The slot of a texture beside these samplers. -/
def slotOf (samplers : List (String × Nat)) (t : String × Nat) : TextureSlot :=
  ⟨t.1, .ofName t.1, t.2, samplers.lookup (t.1 ++ "_sampler")⟩

/-- Whether a sampler is that of one of the textures. -/
def owned (textures : List (String × Nat)) (s : String × Nat) : Bool :=
  textures.any fun t => s.1 == t.1 ++ "_sampler"

/-- Which samplers the textures before took does not matter to a texture. -/
theorem pair_eq (htextures : (textures.map (·.1)).Nodup) (hsamplers : (samplers.map (·.1)).Nodup) :
    (pair textures samplers).1 = textures.map (slotOf samplers) ∧
      (pair textures samplers).2.Perm (samplers.filter (!owned textures ·)) := by
  induction textures generalizing samplers with
  | nil => exact ⟨rfl, .of_eq (List.filter_eq_self.mpr fun _ _ => rfl).symm⟩
  | cons t rest ih =>
    obtain ⟨name, binding⟩ := t
    rw [List.map_cons, List.nodup_cons] at htextures
    obtain ⟨hnew, hrest⟩ := htextures
    obtain ⟨hlookup, hperm⟩ := take_sampler hsamplers (name ++ "_sampler")
    generalize hleft : ((samplers.findIdx? (·.1 == name ++ "_sampler")).map
      (swapRemove samplers)).getD samplers = left at hperm
    have hnodup : (left.map (·.1)).Nodup :=
      (hperm.map _).nodup_iff.mpr ((List.filter_sublist.map _).nodup hsamplers)
    -- what is left has lost one sampler only, and that is no other texture's
    obtain ⟨hslots, howned⟩ := ih hrest hnodup
    simp only [pair, hleft, hlookup, hslots, List.map_cons]
    constructor
    · refine congrArg₂ _ rfl (List.map_congr_left fun t ht => ?_)
      have hne : t.1 ++ "_sampler" ≠ name ++ "_sampler" := by
        rw [Ne, String.append_left_inj]
        exact fun heq => hnew (List.mem_map.mpr ⟨t, ht, heq⟩)
      have hsame : left.lookup (t.1 ++ "_sampler") = samplers.lookup (t.1 ++ "_sampler") := by
        refine lookup_eq_of_mem_iff hsamplers hnodup fun number => ?_
        rw [hperm.mem_iff, List.mem_filter, and_iff_left (bne_iff_ne.mpr hne)]
      rw [slotOf, slotOf, hsame]
    · refine howned.trans ((hperm.filter _).trans (.of_eq ?_))
      rw [List.filter_filter]
      refine List.filter_congr fun s _ => ?_
      simp only [owned, List.any_cons, Bool.not_or, bne]
      exact Bool.and_comm _ _

/-- Nothing stands before a slot of a smaller number. -/
theorem pairwise_insertSlot (s : TextureSlot) (h : slots.Pairwise (·.binding ≤ ·.binding)) :
    (insertSlot s slots).Pairwise (·.binding ≤ ·.binding) := by
  induction slots with
  | nil => exact List.pairwise_singleton _ _
  | cons t rest ih =>
    obtain ⟨hfirst, hrest⟩ := List.pairwise_cons.mp h
    unfold insertSlot
    split
    · rename_i hlt
      refine List.pairwise_cons.mpr ⟨List.forall_mem_cons.mpr ⟨Nat.le_of_lt hlt, ?_⟩, h⟩
      exact fun u hu => Nat.le_trans (Nat.le_of_lt hlt) (hfirst u hu)
    · rename_i hle
      refine List.pairwise_cons.mpr ⟨fun u hu => ?_, ih hrest⟩
      rcases List.mem_cons.mp ((insertSlot_perm s rest).mem_iff.mp hu) with rfl | hu
      · exact Nat.le_of_not_lt hle
      · exact hfirst u hu

/-- A slot goes after all of its number. -/
theorem filter_insertSlot (s : TextureSlot) (h : slots.Pairwise (·.binding ≤ ·.binding)) :
    (insertSlot s slots).filter (·.binding == number) =
      slots.filter (·.binding == number) ++ [s].filter (·.binding == number) := by
  induction slots with
  | nil => rfl
  | cons t rest ih =>
    obtain ⟨hfirst, hrest⟩ := List.pairwise_cons.mp h
    unfold insertSlot
    split
    · rename_i hlt
      by_cases hs : s.binding = number
      · have hnone : (t :: rest).filter (·.binding == number) = [] := by
          refine List.filter_eq_nil_iff.mpr fun u hu => ?_
          have hle : t.binding ≤ u.binding := by
            rcases List.mem_cons.mp hu with rfl | hu
            · exact Nat.le_refl _
            · exact hfirst u hu
          rw [beq_iff_eq]
          omega
        rw [List.filter_cons_of_pos (by simpa using hs), hnone]
        simp [hs]
      · rw [List.filter_cons_of_neg (by simpa using hs)]
        simp [hs]
    · rw [List.filter_cons, List.filter_cons, ih hrest]
      split <;> rfl

/-- Sorted slots stand in the order of their numbers; those of one number keep their order. -/
theorem sorted_sortSlots (slots : List TextureSlot) :
    (sortSlots slots).Pairwise (·.binding ≤ ·.binding) ∧
      ∀ number, (sortSlots slots).filter (·.binding == number) =
        slots.filter (·.binding == number) := by
  have hfold (sorted : List TextureSlot) (h : sorted.Pairwise (·.binding ≤ ·.binding)) :
      (slots.foldl (fun sorted s => insertSlot s sorted) sorted).Pairwise
          (·.binding ≤ ·.binding) ∧
        ∀ number, (slots.foldl (fun sorted s => insertSlot s sorted) sorted).filter
            (·.binding == number) =
          sorted.filter (·.binding == number) ++ slots.filter (·.binding == number) := by
    induction slots generalizing sorted with
    | nil => exact ⟨h, fun _ => (List.append_nil _).symm⟩
    | cons s rest ih =>
      obtain ⟨hsorted, hfilter⟩ := ih _ (pairwise_insertSlot s h)
      refine ⟨hsorted, fun number => ?_⟩
      rw [List.foldl_cons, hfilter, filter_insertSlot s h, List.append_assoc,
        ← List.filter_append, List.singleton_append]
  exact hfold [] .nil

end Resources

namespace Wgsl.Module

variable {m : Module} {vs : List Variable}

theorem Validated.nodup (hm : m.Validated) {f : Variable → Option (String × Nat)}
    (hf : ∀ v t, f v = some t → t.1 = v.name) : ((m.globals.filterMap f).map (·.1)).Nodup := by
  have hnames := List.pairwise_map.mp hm.names
  refine List.pairwise_map.mpr (hnames.filterMap f fun v v' hne t ht t' ht' => ?_)
  rwa [hf v t ht, hf v' t' ht']

theorem Validated.nodup_textures (hm : m.Validated) : (m.textures.map (·.1)).Nodup := by
  refine hm.nodup fun v t ht => ?_
  unfold Variable.picture? at ht
  split at ht
  · obtain ⟨_, _, rfl⟩ := Option.map_eq_some_iff.mp ht
    rfl
  · simp at ht

theorem Validated.nodup_samplers (hm : m.Validated) : (m.samplers.map (·.1)).Nodup := by
  refine hm.nodup fun v t ht => ?_
  unfold Variable.sampler? at ht
  split at ht
  · obtain ⟨_, _, rfl⟩ := Option.map_eq_some_iff.mp ht
    rfl
  · simp at ht

theorem Validated.perm (hm : m.Validated) (h : m.globals.Perm vs) :
    ({ m with globals := vs } : Module).Validated where
  names := (h.map _).nodup_iff.mp hm.names
  handles v hv := hm.handles v (h.mem_iff.mpr hv)
  bound v hv := hm.bound v (h.mem_iff.mpr hv)

/-- Whether these are the slots of the textures of a module: each texture has one, with the sampler
that is called after it. -/
structure Reflects (m : Module) (slots : List TextureSlot) : Prop where
  grouped : ∀ v ∈ m.globals, v.type.isPicture = true ∨ v.type.isSampler = true →
    ∃ number, v.binding = some (0, number)
  each : (slots.map fun s => (s.name, s.binding)).Perm m.textures
  once : (slots.map (·.name)).Nodup
  ascending : slots.Pairwise (·.binding ≤ ·.binding)
  stable : ∀ number, (slots.filter (·.binding == number)).map (·.name) =
    (m.textures.filter (·.2 == number)).map (·.1)
  named : ∀ s ∈ slots, s.texture = .ofName s.name
  sampled : ∀ s ∈ slots, ∀ number,
    s.sampler = some number ↔ (s.name ++ "_sampler", number) ∈ m.samplers
  paired : ∀ v ∈ m.samplers, ∃! s, s ∈ slots ∧ v.1 = s.name ++ "_sampler" ∧ s.sampler = some v.2

/-- Whether each sampler is called after a texture. -/
def Owned (m : Module) : Prop := ∀ s ∈ m.samplers, ∃ t ∈ m.textures, s.1 = t.1 ++ "_sampler"

end Wgsl.Module

namespace Program

variable {m : Wgsl.Module} {f : Findings} {label : String} {p : Program}

/-- The slots of a module. -/
def slotsOf (m : Wgsl.Module) : List TextureSlot :=
  sortSlots (m.textures.map (Resources.slotOf m.samplers))

theorem reflects_slotsOf (hm : m.Validated) (husable : ∀ v ∈ m.globals, v.Usable)
    (howned : m.Owned) : m.Reflects (slotsOf m) := by
  have hperm : (slotsOf m).Perm (m.textures.map (Resources.slotOf m.samplers)) :=
    Resources.sortSlots_perm _
  have hmem {s : TextureSlot} (hs : s ∈ slotsOf m) :
      ∃ t ∈ m.textures, Resources.slotOf m.samplers t = s :=
    List.mem_map.mp (hperm.mem_iff.mp hs)
  obtain ⟨hsorted, hfilter⟩ := Resources.sorted_sortSlots
    (m.textures.map (Resources.slotOf m.samplers))
  have honce : ((slotsOf m).map (·.name)).Nodup := by
    refine (hperm.map _).nodup_iff.mpr ?_
    rw [List.map_map]
    exact hm.nodup_textures
  have hsampled {s : TextureSlot} (hs : s ∈ slotsOf m) (number : Nat) :
      s.sampler = some number ↔ (s.name ++ "_sampler", number) ∈ m.samplers := by
    obtain ⟨t, _, rfl⟩ := hmem hs
    exact Resources.lookup_eq_some_iff_mem hm.nodup_samplers
  constructor
  case grouped =>
    intro v hv htype
    have hhandle := (hm.handles v hv).mpr
      (htype.elim Ty.isHandle_of_isPicture Ty.isHandle_of_isSampler)
    have hbound := hm.bound v hv
    rw [hhandle] at hbound
    obtain ⟨⟨group, number⟩, hb⟩ := Option.isSome_iff_exists.mp hbound.symm
    obtain ⟨rfl, _⟩ := husable v hv group number hb
    exact ⟨number, hb⟩
  case each =>
    refine (hperm.map _).trans (.of_eq ?_)
    rw [List.map_map]
    exact List.map_id _
  case once => exact honce
  case ascending => exact hsorted
  case stable =>
    intro number
    rw [slotsOf, hfilter, List.filter_map, List.map_map]
    rfl
  case named =>
    intro s hs
    obtain ⟨t, _, rfl⟩ := hmem hs
    rfl
  case sampled => exact fun s hs => hsampled hs
  case paired =>
    intro v hv
    obtain ⟨t, ht, hname⟩ := howned v hv
    have hs : Resources.slotOf m.samplers t ∈ slotsOf m :=
      hperm.mem_iff.mpr (List.mem_map_of_mem ht)
    refine ⟨_, ⟨hs, hname, (hsampled hs v.2).mpr (hname ▸ hv)⟩, ?_⟩
    rintro s ⟨hs', hname', _⟩
    rw [hname, String.append_left_inj] at hname'
    exact List.inj_on_of_nodup_map honce hs' hs hname'.symm

/-- What is found of the textures and samplers of a module. -/
theorem resources_of_inspect (hm : m.Validated) (h : inspect m = .ok f) :
    (∀ v ∈ m.globals, v.Usable) ∧ f.resources.textures = m.textures ∧
      f.resources.samplers = m.samplers := by
  obtain ⟨husable, _, hresources⟩ :=
    (Resources.foldlM_add_eq_ok hm.handles).mp (inspect_eq_ok.mp h).resources
  rw [hresources]
  exact ⟨husable, rfl, rfl⟩

/-- The program of these findings with these slots. -/
def Findings.program (f : Findings) (label : String) (slots : List TextureSlot) : Program where
  label := label
  uniformBinding := f.uniformBinding
  uniformSize := (f.struct.span + 15) / 16 * 16
  fields := f.fields
  textures := slots
  ignored := f.ignored

/-- The first sampler that no texture took, in whatever order they are, refuses a module. -/
theorem interface_cases (label : String) (hm : m.Validated) (h : inspect m = .ok f) :
    m.Owned ∧ f.interface label = .ok (f.program label (slotsOf m)) ∨
      ¬m.Owned ∧ ∃ name, f.interface label = .error (.orphanSampler name) := by
  obtain ⟨_, htextures, hsamplers⟩ := resources_of_inspect hm h
  obtain ⟨hslots, hleft⟩ := Resources.pair_eq hm.nodup_textures hm.nodup_samplers
  have hnil : (Resources.pair m.textures m.samplers).2 = [] ↔ m.Owned := by
    rw [← List.length_eq_zero_iff, hleft.length_eq, List.length_eq_zero_iff,
      List.filter_eq_nil_iff]
    simp [Resources.owned, Module.Owned]
  unfold Findings.interface slotsOf
  rw [htextures, hsamplers, ← hslots]
  generalize Resources.pair m.textures m.samplers = pairs at hnil ⊢
  obtain ⟨slots, left⟩ := pairs
  cases left with
  | nil => exact .inl ⟨hnil.mp rfl, rfl⟩
  | cons s rest => exact .inr ⟨mt hnil.mpr nofun, s.1, rfl⟩

theorem ofModule_eq_ok (hm : m.Validated) : ofModule label m = .ok p ↔
    ∃ f, inspect m = .ok f ∧ m.Owned ∧ p = f.program label (slotsOf m) := by
  rw [ofModule_eq, bind_eq_ok]
  refine exists_congr fun f => and_congr_right fun hf => ?_
  rcases interface_cases label hm hf with ⟨howned, hi⟩ | ⟨howned, _, hi⟩
  · simp [hi, howned, eq_comm]
  · simp [hi, howned]

/-- The slots do not depend on the order of the declarations if no two textures share a number. -/
theorem slotsOf_perm {vs : List Wgsl.Variable} (hm : m.Validated) (h : m.globals.Perm vs)
    (hnumbers : (m.textures.map (·.2)).Nodup) : slotsOf { m with globals := vs } = slotsOf m := by
  have hvs := hm.perm h
  have htextures : ({ m with globals := vs } : Wgsl.Module).textures.Perm m.textures :=
    (h.filterMap _).symm
  have hsamplers : ({ m with globals := vs } : Wgsl.Module).samplers.Perm m.samplers :=
    (h.filterMap _).symm
  have hslot : Resources.slotOf ({ m with globals := vs } : Wgsl.Module).samplers =
      Resources.slotOf m.samplers := by
    funext t
    unfold Resources.slotOf
    rw [Resources.lookup_eq_of_mem_iff hm.nodup_samplers hvs.nodup_samplers
      fun _ => hsamplers.mem_iff]
  have hperm : (slotsOf { m with globals := vs }).Perm (slotsOf m) := by
    unfold slotsOf
    rw [hslot]
    exact (Resources.sortSlots_perm _).trans
      ((htextures.map _).trans (Resources.sortSlots_perm _).symm)
  have hbindings : ((slotsOf m).map (·.binding)).Nodup := by
    refine ((Resources.sortSlots_perm _).map _).nodup_iff.mpr ?_
    rw [List.map_map]
    exact hnumbers
  refine hperm.eq_of_pairwise ?_ (Resources.sorted_sortSlots _).1 (Resources.sorted_sortSlots _).1
  intro s s' hs hs' hle hge
  exact List.inj_on_of_nodup_map hbindings (hperm.mem_iff.mp hs) hs' (Nat.le_antisymm hle hge)

/-- All else that is found does not depend on that order either. -/
theorem inspect_perm {vs : List Wgsl.Variable} (hm : m.Validated) (h : m.globals.Perm vs)
    (hf : inspect m = .ok f) : ∃ f', inspect { m with globals := vs } = .ok f' ∧
      f' = { f with resources := f'.resources } := by
  have hpasses := inspect_eq_ok.mp hf
  obtain ⟨husable, hone, hresources⟩ :=
    (Resources.foldlM_add_eq_ok hm.handles).mp hpasses.resources
  have hblocks := h.filterMap Wgsl.Variable.block?
  have hhead : (vs.filterMap Wgsl.Variable.block?).head? = f.resources.uniform := by
    rw [hresources]
    match hblock : m.globals.filterMap Wgsl.Variable.block?, hone with
    | [], _ =>
      rw [hblock] at hblocks
      rw [List.nil_perm.mp hblocks]
    | [u], _ =>
      rw [hblock] at hblocks
      rw [List.singleton_perm.mp hblocks]
  have hfold := (Resources.foldlM_add_eq_ok (hm.perm h).handles).mpr
    ⟨fun v hv => husable v (h.mem_iff.mpr hv), hblocks.length_eq ▸ hone, rfl⟩
  exact ⟨{ f with resources := _ }, inspect_eq_ok.mpr ⟨hpasses.entries, hfold,
    hhead ▸ hpasses.uniform, hpasses.members, hpasses.mvp⟩, rfl⟩

theorem owned_perm {vs : List Wgsl.Variable} (h : m.globals.Perm vs) (howned : m.Owned) :
    ({ m with globals := vs } : Wgsl.Module).Owned := by
  intro s hs
  obtain ⟨t, ht, hname⟩ := howned s ((h.filterMap _).mem_iff.mpr hs)
  exact ⟨t, (h.filterMap _).mem_iff.mp ht, hname⟩

/-- The textures of a program are those of its module, in the order of their bindings and each with
the sampler that is called after it. A sampler that is called after no texture refuses the module,
and nothing else about the samplers does. -/
theorem textures_with_samplers :
    (∀ text m, Module.ofText? text = some m → m.Validated) ∧
      ∀ (m : Wgsl.Module) (label : String), m.Validated →
        (∀ p, ofModule label m = .ok p → m.Reflects p.textures) ∧
        (∀ f, inspect m = .ok f →
          ((∃ name, ofModule label m = .error (.orphanSampler name)) ↔
            ∃ s ∈ m.samplers, ∀ t ∈ m.textures, s.1 ≠ t.1 ++ "_sampler") ∧
          ((∃ p, ofModule label m = .ok p) ↔
            ∀ s ∈ m.samplers, ∃ t ∈ m.textures, s.1 = t.1 ++ "_sampler")) ∧
        (∀ p vs, ofModule label m = .ok p → m.globals.Perm vs → (m.textures.map (·.2)).Nodup →
          ofModule label { m with globals := vs } = .ok p) := by
  refine ⟨fun _ _ => Module.validated_ofText, fun m label hm => ⟨?_, ?_, ?_⟩⟩
  · intro p h
    obtain ⟨f, hf, howned, rfl⟩ := (ofModule_eq_ok hm).mp h
    exact reflects_slotsOf hm (resources_of_inspect hm hf).1 howned
  · intro f hf
    rw [ofModule_eq, hf]
    show ((∃ name, f.interface label = _) ↔ _) ∧ ((∃ p, f.interface label = _) ↔ m.Owned)
    have horphan : (∃ s ∈ m.samplers, ∀ t ∈ m.textures, s.1 ≠ t.1 ++ "_sampler") ↔ ¬m.Owned := by
      simp [Module.Owned]
    rw [horphan]
    rcases interface_cases label hm hf with ⟨howned, hi⟩ | ⟨horphan, _, hi⟩
    · simp [hi, howned]
    · simp [hi, horphan]
  · intro p vs h hvs hnumbers
    obtain ⟨f, hf, howned, rfl⟩ := (ofModule_eq_ok hm).mp h
    obtain ⟨f', hf', hsame⟩ := inspect_perm hm hvs hf
    refine (ofModule_eq_ok (hm.perm hvs)).mpr ⟨f', hf', owned_perm hvs howned, ?_⟩
    rw [hsame, slotsOf_perm hm hvs hnumbers]
    rfl

/-- A program in which a texture is called like the sampler of another. -/
def lookalikes : String := "
struct Params \x7b mvp: mat4x4<f32> \x7d
@group(0) @binding(0) var<uniform> params: Params;
@group(0) @binding(7) var x: texture_2d<f32>;
@group(0) @binding(4) var x_sampler_sampler: sampler;
@group(0) @binding(3) var x_sampler: texture_2d<f32>;
@vertex fn vs_main() -> @builtin(position) vec4<f32> \x7b return params.mvp[0]; \x7d
@fragment fn fs_main() -> @location(0) vec4<f32> \x7b return vec4<f32>(1.0); \x7d
"

set_option maxRecDepth 100000 in
theorem lookalike_textures_told_apart :
    ∃ m p, Module.ofText? lookalikes = some m ∧ ofModule "" m = .ok p ∧ m.Reflects p.textures ∧
      ofModule "" { m with globals := m.globals.reverse } = .ok p ∧
      ∀ s ∈ m.samplers, ∃ t ∈ m.textures, s.1 = t.1 ++ "_sampler" := by
  obtain ⟨hvalidated, hall⟩ := textures_with_samplers
  have htext : ∃ m p, Module.ofText? lookalikes = some m ∧ ofText "" lookalikes = .ok p ∧
      (m.textures.map (·.2)).Nodup := checked_ofText rfl (by decide +kernel)
  obtain ⟨m, p, hm, hp, hnumbers⟩ := htext
  rw [ofText_eq_ofModule hm] at hp
  obtain ⟨hreflects, horphan, hperm⟩ := hall m "" (hvalidated _ m hm)
  have hinspect := hp
  rw [ofModule_eq] at hinspect
  obtain ⟨f, hf, _⟩ := bind_eq_ok.mp hinspect
  exact ⟨m, p, hm, hp, hreflects p hp, hperm p _ hp m.globals.reverse_perm.symm hnumbers,
    (horphan f hf).2.mp ⟨p, hp⟩⟩

end Program

end PassChain
