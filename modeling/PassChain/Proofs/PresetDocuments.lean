import Mathlib.Data.List.Induction
import PassChain.Preset.Document
import PassChain.Proofs.ExactRounding

/-! A preset comes back from its document as it was, if it is a valid one. -/
namespace PassChain

open Toml (Value Table Record)

namespace Toml

mutual

/-- Whether two values say the same. A table says what stands under each name, in whatever
order. -/
@[simp]
def Value.same : Value → Value → Bool
  | .text t, .text t' => t = t'
  | .integer n, .integer n' => n = n'
  | .float x, .float x' => x = x'
  | .boolean b, .boolean b' => b = b'
  | .moment, .moment => true
  | .array xs, .array ys => sameElements xs ys
  | .table fields, .table fields' =>
    sameFields fields fields' && fields'.all fun field => (fields.lookup field.1).isSome
  | _, _ => false

/-- Whether two arrays have the same elements. -/
@[simp]
def sameElements : List Value → List Value → Bool
  | [], [] => true
  | x :: xs, y :: ys => x.same y && sameElements xs ys
  | _, _ => false

/-- Whether each field says the same as the other table's field of this name. -/
@[simp]
def sameFields : List (String × Value) → Table → Bool
  | [], _ => true
  | (name, v) :: rest, fields' => (fields'.lookup name).any v.same && sameFields rest fields'

end

variable {α : Type} {v w : Value} {read : Value → Option α} {a default : α} {as : List α}
  {fields fields' : Table} {index : Nat} {name : String}

theorem eq_of_same_text {t : String} (h : (Value.text t).same w) : w = .text t := by
  cases w <;> simp_all [Value.same]

theorem eq_of_same_integer {n : Int} (h : (Value.integer n).same w) : w = .integer n := by
  cases w <;> simp_all [Value.same]

theorem eq_of_same_float {x : Double} (h : (Value.float x).same w) : w = .float x := by
  cases w <;> simp_all [Value.same]

theorem eq_of_same_boolean {b : Bool} (h : (Value.boolean b).same w) : w = .boolean b := by
  cases w <;> simp_all [Value.same]

theorem lookup_of_sameFields (h : sameFields fields fields') (hv : fields.lookup name = some v) :
    ∃ w, fields'.lookup name = some w ∧ v.same w := by
  induction fields with
  | nil => cases hv
  | cons field rest ih =>
    obtain ⟨other, v'⟩ := field
    simp only [sameFields, Bool.and_eq_true] at h
    rw [List.lookup_cons] at hv
    split at hv
    · rename_i heq
      cases hv
      cases eq_of_beq heq
      exact (Option.any_eq_true _ _).mp h.1
    · exact ih h.2 hv

/-- Whatever says the same as `v` is read as `a`. -/
def Reads (v : Value) (read : Value → Option α) (a : α) : Prop := ∀ w, v.same w → read w = some a

theorem reads_text (t : String) : Reads (.text t) Value.text? t := by
  intro w hw
  rw [eq_of_same_text hw]
  rfl

theorem reads_choice (t : String) : Reads (.text t) Value.choice? t := by
  intro w hw
  rw [eq_of_same_text hw]
  rfl

theorem reads_boolean (b : Bool) : Reads (.boolean b) Value.boolean? b := by
  intro w hw
  rw [eq_of_same_boolean hw]
  rfl

theorem reads_word (n : UInt32) : Reads (.integer n.toNat) Value.word? n := by
  intro w hw
  have hlt : n.toNat < UInt32.size := n.toNat_lt
  rw [eq_of_same_integer hw]
  simp [Value.word?, Value.below?, hlt]

theorem reads_single {x : Single} (hx : ∀ neg, x.value ≠ .nan neg) :
    Reads (.float (.ofSingle x)) Value.single? x := by
  intro w hw
  rw [eq_of_same_float hw, Value.single?, Double.toSingle_ofSingle hx]

theorem Reads.bind {β : Type} (h : Reads v read a) {next : α → Option β} {b : β}
    (hnext : next a = some b) : Reads v (fun w => (read w).bind next) b := by
  intro w hw
  show (read w).bind next = some b
  rw [h w hw, Option.bind_some, hnext]

/-- Lists are read element by element. -/
theorem reads_list {write : α → Value} (h : ∀ a ∈ as, Reads (write a) read a) :
    Reads (.array (as.map write)) (Value.list? read) as := by
  intro w hw
  cases w <;> simp only [Value.same, Bool.false_eq_true] at hw
  rename_i ys
  show ys.mapM read = some as
  induction as generalizing ys with
  | nil =>
    cases ys with
    | nil => rfl
    | cons y ys => simp [sameElements] at hw
  | cons a as ih =>
    obtain ⟨ha, has⟩ := List.forall_mem_cons.mp h
    cases ys with
    | nil => simp [sameElements] at hw
    | cons y ys =>
      simp only [List.map_cons, sameElements, Bool.and_eq_true] at hw
      rw [List.mapM_cons, ha y hw.1, Option.bind_eq_bind, Option.bind_some, ih has ys hw.2]
      rfl

/-- Two tables whose fields say the same. -/
def SameFields (fields fields' : Table) : Prop := (Value.table fields).same (.table fields')

theorem reads_table (h : ∀ fields', SameFields fields fields' → read (.table fields') = some a) :
    Reads (.table fields) read a := by
  intro w hw
  cases w with
  | table fields' => exact h fields' hw
  | _ => simp [Value.same] at hw

theorem SameFields.lookup (h : SameFields fields fields') (hv : fields.lookup name = some v)
    (hread : Reads v read a) : ∃ w, fields'.lookup name = some w ∧ read w = some a := by
  simp only [SameFields, Value.same, Bool.and_eq_true] at h
  obtain ⟨w, hw, hsame⟩ := lookup_of_sameFields h.1 hv
  exact ⟨w, hw, hread w hsame⟩

theorem SameFields.lookup_none (h : SameFields fields fields') (hv : fields.lookup name = none) :
    fields'.lookup name = none := by
  simp only [SameFields, Value.same, Bool.and_eq_true, List.all_eq_true] at h
  cases hw : fields'.lookup name with
  | none => rfl
  | some w =>
    obtain ⟨_, _, hfields', _⟩ := List.lookup_eq_some_iff.mp hw
    have hsome := h.2 (name, w) (by simp [hfields'])
    rw [hv] at hsome
    cases hsome

theorem SameFields.required (h : SameFields fields fields') (hv : fields.lookup name = some v)
    (hread : Reads v read a) : (Record.named fields').required index name read = some a := by
  obtain ⟨w, hw, hreadw⟩ := h.lookup hv hread
  rw [Record.required, Record.field?, hw, Option.bind_some, hreadw]

theorem SameFields.optional (h : SameFields fields fields') (hv : fields.lookup name = some v)
    (hread : Reads v read a) :
    (Record.named fields').optional index name read default = some a := by
  obtain ⟨w, hw, hreadw⟩ := h.lookup hv hread
  rw [Record.optional, Record.field?, hw]
  exact hreadw

theorem SameFields.optional_none (h : SameFields fields fields') (hv : fields.lookup name = none) :
    (Record.named fields').optional index name read default = some default := by
  rw [Record.optional, Record.field?, h.lookup_none hv]

/-- The text of a document is read as a document that says the same. -/
def ParsesBack (fields : Table) : Prop :=
  ∃ fields', parse (print fields) = some fields' ∧ SameFields fields fields'

end Toml

open Toml

theorem Filter.reads_name (f : Filter) : Reads (.text f.name) Filter.ofValue? f :=
  (reads_choice f.name).bind (by cases f <;> rfl)

theorem Wrap.reads_name (w : Wrap) : Reads (.text w.name) Wrap.ofValue? w :=
  (reads_choice w.name).bind (by cases w <;> rfl)

theorem VariableKind.reads_name (k : VariableKind) : Reads (.text k.name) VariableKind.ofValue? k :=
  (reads_choice k.name).bind (by cases k <;> rfl)

theorem VariableWidth.reads_name (w : VariableWidth) :
    Reads (.text w.name) VariableWidth.ofValue? w :=
  (reads_choice w.name).bind (by cases w <;> rfl)

theorem Path.reads_text (p : Path) : Reads (.text p.text) Path.ofValue? p := by
  intro w hw
  rw [eq_of_same_text hw]
  rfl

/-- Whether the rule has a number, if it has a factor. -/
def ScaleRule.IsNumber : ScaleRule → Prop
  | input factor | viewport factor => ∀ neg, factor.value ≠ .nan neg
  | absolute _ => True

theorem ScaleRule.reads {rule : ScaleRule} (h : rule.IsNumber) :
    Reads rule.toValue ScaleRule.ofValue? rule := by
  cases rule with
  | input factor =>
    refine reads_table fun fields' hfields => ?_
    obtain ⟨type, htype, hname⟩ :=
      hfields.lookup (show List.lookup "type" _ = _ from rfl) (reads_text "input")
    obtain ⟨number, hnumber, hfactor⟩ :=
      hfields.lookup (show List.lookup "factor" _ = _ from rfl) (reads_single h)
    simp [ofValue?, ofType?, htype, hname, hnumber, hfactor]
  | viewport factor =>
    refine reads_table fun fields' hfields => ?_
    obtain ⟨type, htype, hname⟩ :=
      hfields.lookup (show List.lookup "type" _ = _ from rfl) (reads_text "viewport")
    obtain ⟨number, hnumber, hfactor⟩ :=
      hfields.lookup (show List.lookup "factor" _ = _ from rfl) (reads_single h)
    simp [ofValue?, ofType?, htype, hname, hnumber, hfactor]
  | absolute size =>
    refine reads_table fun fields' hfields => ?_
    obtain ⟨type, htype, hname⟩ :=
      hfields.lookup (show List.lookup "type" _ = _ from rfl) (reads_text "absolute")
    obtain ⟨number, hnumber, hsize⟩ :=
      hfields.lookup (show List.lookup "size" _ = _ from rfl) (reads_word size)
    simp [ofValue?, ofType?, htype, hname, hnumber, hsize]

theorem Shader.onlyField?_of {fields : Table} {w : Value} {name text : String}
    (hw : fields.lookup name = some w) (htext : w.text? = some text) :
    onlyField? name (.table fields) = some text := by
  rw [onlyField?, hw, Option.bind_some, htext]

/-- A path is no table, and a table with the text of a program has no name of one. -/
theorem Shader.reads (shader : Shader) : Reads shader.toValue Shader.ofValue? shader := by
  cases shader with
  | file path =>
    intro w hw
    rw [eq_of_same_text hw]
    rfl
  | builtin name =>
    refine reads_table fun fields' hfields => ?_
    obtain ⟨w, hw, hname⟩ :=
      hfields.lookup (show List.lookup "builtin" _ = _ from rfl) (reads_text name)
    have htext : (Value.table fields').text? = none := rfl
    rw [ofValue?, htext, onlyField?_of hw hname]
  | inline text =>
    refine reads_table fun fields' hfields => ?_
    obtain ⟨w, hw, hinline⟩ :=
      hfields.lookup (show List.lookup "inline" _ = _ from rfl) (reads_text text)
    have hnone := hfields.lookup_none (show List.lookup "builtin" _ = none from rfl)
    have htext : (Value.table fields').text? = none := rfl
    have hbuiltin : onlyField? "builtin" (.table fields') = none := by
      rw [onlyField?, hnone, Option.bind_none]
    rw [ofValue?, htext, hbuiltin, onlyField?_of hw hinline]

namespace Pass

/-- Whether all scales of the pass have numbers, if they have factors. -/
def HasNumbers (p : Pass) : Prop :=
  ∀ rule, p.scale = some rule ∨ p.scaleX = some rule ∨ p.scaleY = some rule → rule.IsNumber

theorem lookup_ruleField (name other : String) (rule : Option ScaleRule) :
    (ruleField name rule).lookup other = if other = name then rule.map (·.toValue) else none := by
  cases rule with
  | none => simp [ruleField]
  | some r =>
    by_cases h : other = name
    · simp [ruleField, h]
    · have hne : (other == name) = false := beq_eq_false_iff_ne.mpr h
      simp [ruleField, List.lookup_cons, hne, h]

/-- A rule is read from its field, and no rule from no field. -/
theorem optional_rule {fields fields' : Table} (h : SameFields fields fields') {name : String}
    {rule : Option ScaleRule} (hlookup : fields.lookup name = rule.map (·.toValue))
    (hrule : ∀ r, rule = some r → r.IsNumber) (index : Nat) :
    (Record.named fields').optional index name (fun v => (ScaleRule.ofValue? v).map some) none =
      some rule := by
  cases rule with
  | none => exact h.optional_none hlookup
  | some r =>
    refine h.optional hlookup ?_
    intro w hw
    show (ScaleRule.ofValue? w).map some = some (some r)
    rw [ScaleRule.reads (hrule r rfl) w hw, Option.map_some]

/-- The fields of a pass in a document. -/
def fields (p : Pass) : Table :=
  [("shader", p.shader.toValue)] ++ ruleField "scale" p.scale ++ ruleField "scale_x" p.scaleX ++
    ruleField "scale_y" p.scaleY ++ [("filter", .text p.filter.name), ("wrap", .text p.wrap.name),
      ("frame_count_mod", .integer p.frameCountMod.toNat),
      ("float_framebuffer", .boolean p.floatTarget)]

/-- A rule that is left out does not put another one in its place. -/
theorem lookup_rules (p : Pass) : p.fields.lookup "scale" = p.scale.map (·.toValue) ∧
    p.fields.lookup "scale_x" = p.scaleX.map (·.toValue) ∧
    p.fields.lookup "scale_y" = p.scaleY.map (·.toValue) := by
  simp [fields, List.lookup_append, List.lookup_cons, lookup_ruleField]

theorem lookup_others (p : Pass) : p.fields.lookup "filter" = some (.text p.filter.name) ∧
    p.fields.lookup "wrap" = some (.text p.wrap.name) ∧
    p.fields.lookup "frame_count_mod" = some (.integer p.frameCountMod.toNat) ∧
    p.fields.lookup "float_framebuffer" = some (.boolean p.floatTarget) := by
  simp [fields, List.lookup_append, List.lookup_cons, lookup_ruleField]

theorem reads {p : Pass} (h : p.HasNumbers) : Reads p.toValue Pass.ofValue? p := by
  refine @reads_table _ _ _ p.fields fun fields' hfields => ?_
  obtain ⟨hscale, hscaleX, hscaleY⟩ := p.lookup_rules
  obtain ⟨hfilter, hwrap, hframe, hfloat⟩ := p.lookup_others
  have hshader : p.fields.lookup "shader" = some p.shader.toValue := rfl
  simp only [ofValue?, Value.record?, Option.bind_eq_bind, Option.bind_some,
    hfields.required hshader p.shader.reads,
    optional_rule hfields hscale fun r hr => h r (.inl hr),
    optional_rule hfields hscaleX fun r hr => h r (.inr (.inl hr)),
    optional_rule hfields hscaleY fun r hr => h r (.inr (.inr hr)),
    hfields.optional hfilter p.filter.reads_name, hfields.optional hwrap p.wrap.reads_name,
    hfields.optional hframe (reads_word p.frameCountMod),
    hfields.optional hfloat (reads_boolean p.floatTarget)]
  rfl

end Pass

theorem LookupImage.reads (l : LookupImage) : Reads l.toValue LookupImage.ofValue? l := by
  refine reads_table fun fields' hfields => ?_
  simp only [ofValue?, Value.record?, Option.bind_eq_bind, Option.bind_some,
    hfields.required (show List.lookup "id" _ = _ from rfl) (reads_text l.id),
    hfields.required (show List.lookup "path" _ = _ from rfl) l.path.reads_text,
    hfields.optional (show List.lookup "filter" _ = _ from rfl) l.filter.reads_name,
    hfields.optional (show List.lookup "wrap" _ = _ from rfl) l.wrap.reads_name]
  rfl

theorem Variable.reads (v : Variable) : Reads v.toValue Variable.ofValue? v := by
  refine reads_table fun fields' hfields => ?_
  simp only [ofValue?, Value.record?, Option.bind_eq_bind, Option.bind_some,
    hfields.required (show List.lookup "id" _ = _ from rfl) (reads_text v.id),
    hfields.required (show List.lookup "kind" _ = _ from rfl) v.kind.reads_name,
    hfields.required (show List.lookup "address" _ = _ from rfl) (reads_word v.address),
    hfields.optional (show List.lookup "width" _ = _ from rfl) v.width.reads_name,
    hfields.optional (show List.lookup "mask" _ = _ from rfl) (reads_word v.mask),
    hfields.optional (show List.lookup "equal" _ = _ from rfl) (reads_word v.equal)]
  rfl

namespace Preset

/-- A preset is found again in any document that says the same as its own. -/
theorem ofTable?_of_same {p : Preset} (h : ∀ pass ∈ p.passes, pass.HasNumbers) {fields : Table}
    (hfields : SameFields p.toTable fields) : ofTable? fields = some p := by
  have hpasses := reads_list fun pass hpass => Pass.reads (h pass hpass)
  simp only [ofTable?, Option.bind_eq_bind, Option.bind_some,
    hfields.optional (show List.lookup "passes" _ = _ from rfl) hpasses,
    hfields.optional (show List.lookup "luts" _ = _ from rfl)
      (reads_list fun l _ => LookupImage.reads l),
    hfields.optional (show List.lookup "variables" _ = _ from rfl)
      (reads_list fun v _ => Variable.reads v)]
  rfl

/-- What is wrong with the id at a position: it is empty, or it stands at an earlier one. -/
def idFault? (empty : Nat → PresetFault) (duplicate : String → PresetFault) (ids : List String)
    (i : Nat) : Option PresetFault :=
  (ids[i]?).bind fun id =>
    if id = "" then some (empty i) else if id ∈ ids.take i then some (duplicate id) else none

/-- What is wrong with the first id with which something is wrong. -/
def firstIdFault? (empty : Nat → PresetFault) (duplicate : String → PresetFault)
    (ids : List String) : Option PresetFault :=
  ((List.range ids.length).filterMap (idFault? empty duplicate ids)).head?

/-- The first thing that is wrong with a preset: with its passes, with the ids of its lookup
images, or with those of its variables. -/
def firstFault? (p : Preset) : Option PresetFault :=
  if p.passes = [] then some .noPasses
  else (firstIdFault? .emptyLookupId .duplicateLookupId (p.lookups.map (·.id))).or
    (firstIdFault? .emptyVariableId .duplicateVariableId (p.vars.map (·.id)))

/-- A preset with passes, whose ids each name one thing. -/
structure WellFormed (p : Preset) : Prop where
  passes : p.passes ≠ []
  lookups : ∀ l ∈ p.lookups, l.id ≠ ""
  lookupIds : (p.lookups.map (·.id)).Nodup
  vars : ∀ v ∈ p.vars, v.id ≠ ""
  varIds : (p.vars.map (·.id)).Nodup

section

variable {empty : Nat → PresetFault} {duplicate : String → PresetFault} {seen ids : List String}
  {id : String} {fault : PresetFault}

theorem idFault?_append {i : Nat} (hi : i < ids.length) (more : List String) :
    idFault? empty duplicate (ids ++ more) i = idFault? empty duplicate ids i := by
  rw [idFault?, idFault?, List.getElem?_append_left hi, List.take_append_of_le_length hi.le]

theorem firstIdFault?_concat (ids : List String) (id : String) :
    firstIdFault? empty duplicate (ids ++ [id]) = (firstIdFault? empty duplicate ids).or
      (if id = "" then some (empty ids.length)
        else if id ∈ ids then some (duplicate id) else none) := by
  have hprefix : (List.range ids.length).filterMap (idFault? empty duplicate (ids ++ [id])) =
      (List.range ids.length).filterMap (idFault? empty duplicate ids) :=
    List.filterMap_congr fun i hi => idFault?_append (List.mem_range.mp hi) [id]
  rw [firstIdFault?, List.length_append, List.length_singleton, List.range_succ,
    List.filterMap_append, List.head?_append, hprefix]
  have hid : idFault? empty duplicate (ids ++ [id]) ids.length = if id = "" then
      some (empty ids.length) else if id ∈ ids then some (duplicate id) else none := by
    simp [idFault?]
  rw [← hid, List.filterMap_cons, List.filterMap_nil]
  congr 1
  cases idFault? empty duplicate (ids ++ [id]) ids.length <;> rfl

/-- Later ids do not change what is wrong first. -/
theorem firstIdFault?_of_first (h : firstIdFault? empty duplicate ids = some fault)
    (more : List String) : firstIdFault? empty duplicate (ids ++ more) = some fault := by
  induction more using List.reverseRecOn with
  | nil => rw [List.append_nil, h]
  | append_singleton more id ih =>
    rw [← List.append_assoc, firstIdFault?_concat, ih, Option.some_or]

theorem firstIdFault?_eq_none_iff :
    firstIdFault? empty duplicate ids = none ↔ (∀ id ∈ ids, id ≠ "") ∧ ids.Nodup := by
  induction ids using List.reverseRecOn with
  | nil => simp [firstIdFault?]
  | append_singleton ids id ih =>
    rw [firstIdFault?_concat, Option.or_eq_none_iff, ih, List.forall_mem_append,
      List.nodup_append, List.forall_mem_singleton]
    by_cases hempty : id = ""
    · simp [hempty]
    · by_cases hmem : id ∈ ids
      · simp [hempty, hmem]
      · have hne : ∀ a ∈ ids, ¬ a = id := fun a ha heq => hmem (heq ▸ ha)
        simpa [hempty, hmem] using fun _ _ => hne

/-- The check goes by what it has seen; nothing was wrong with that. -/
theorem checkIds_eq (hseen : firstIdFault? empty duplicate seen = none) :
    checkIds empty duplicate seen ids =
      match firstIdFault? empty duplicate (seen ++ ids) with
      | none => .ok ()
      | some fault => .error fault := by
  induction ids generalizing seen with
  | nil => rw [List.append_nil, hseen, checkIds]
  | cons id ids ih =>
    have hconcat := @firstIdFault?_concat empty duplicate seen id
    rw [hseen, Option.none_or] at hconcat
    rw [List.append_cons]
    unfold checkIds
    by_cases hempty : id = ""
    · rw [if_pos hempty] at hconcat ⊢
      rw [firstIdFault?_of_first hconcat]
    · rw [if_neg hempty] at hconcat ⊢
      by_cases hmem : id ∈ seen
      · rw [if_pos hmem] at hconcat
        rw [if_pos (List.contains_iff_mem.mpr hmem), firstIdFault?_of_first hconcat]
      · rw [if_neg hmem] at hconcat
        rw [if_neg (mt List.contains_iff_mem.mp hmem)]
        exact ih hconcat

end

variable {p : Preset}

theorem firstFault?_eq_none_iff : p.firstFault? = none ↔ p.WellFormed := by
  unfold firstFault?
  by_cases hpasses : p.passes = []
  · rw [if_pos hpasses]
    exact ⟨nofun, fun h => absurd hpasses h.passes⟩
  · rw [if_neg hpasses, Option.or_eq_none_iff, firstIdFault?_eq_none_iff, firstIdFault?_eq_none_iff,
      List.forall_mem_map, List.forall_mem_map]
    exact ⟨fun ⟨⟨hl, hl'⟩, hv, hv'⟩ => ⟨hpasses, hl, hl', hv, hv'⟩,
      fun h => ⟨⟨h.lookups, h.lookupIds⟩, h.vars, h.varIds⟩⟩

theorem validate_eq : p.validate = match p.firstFault? with
    | none => .ok ()
    | some fault => .error fault := by
  have hnil (empty : Nat → PresetFault) (duplicate : String → PresetFault) :
      firstIdFault? empty duplicate [] = none := rfl
  unfold validate firstFault?
  cases hpasses : p.passes with
  | nil => rfl
  | cons pass passes =>
    rw [checkIds_eq (hnil _ _), checkIds_eq (hnil _ _), List.nil_append, List.nil_append]
    cases firstIdFault? .emptyLookupId .duplicateLookupId (p.lookups.map (·.id)) with
    | some fault => rfl
    | none => rfl

/-- If the text of a preset is read as a document that says the same, a well-formed preset comes
back as it was, and any other is refused for the first thing that is wrong with it. -/
theorem ofText_toText (hnumbers : ∀ pass ∈ p.passes, pass.HasNumbers)
    (hparse : Toml.ParsesBack p.toTable) :
    (p.WellFormed → ofText p.toText = .ok p) ∧
      (¬ p.WellFormed → ∃ fault, p.firstFault? = some fault ∧
        ofText p.toText = .error (.invalid fault)) := by
  obtain ⟨fields, hfields, hsame⟩ := hparse
  have htext : ofText p.toText = match p.firstFault? with
      | none => .ok p
      | some fault => .error (.invalid fault) := by
    simp only [ofText, toText, hfields, ofTable, ofTable?_of_same hnumbers hsame, validate_eq]
    cases p.firstFault? <;> rfl
  rw [htext, ← firstFault?_eq_none_iff]
  cases hfault : p.firstFault? with
  | none => exact ⟨fun _ => rfl, fun h => absurd rfl h⟩
  | some fault => exact ⟨nofun, fun _ => ⟨fault, rfl, rfl⟩⟩

/-- A preset of one pass, which is twice as large as the input. -/
def doubled : Preset :=
  { passes := [{ shader := .file ⟨"a.wgsl"⟩, scale := some (.input (.ofNat 2)) }] }

theorem print_doubled : Toml.print doubled.toTable =
    "luts = []\nvariables = []\n\n[[passes]]\nshader = \"a.wgsl\"\n" ++
    "filter = \"unspecified\"\nwrap = \"border\"\nframe_count_mod = 0\n" ++
    "float_framebuffer = false\n\n[passes.scale]\ntype = \"input\"\nfactor = 2.0\n" := by
  decide +kernel

set_option maxRecDepth 100000 in
theorem doubled_parsesBack : Toml.ParsesBack doubled.toTable := by
  rw [Toml.ParsesBack, print_doubled]
  apply (Option.any_eq_true _ _).mp
  decide +kernel

theorem doubled_hasNumbers : ∀ pass ∈ doubled.passes, pass.HasNumbers := by
  have hfactor (neg : Bool) : (Single.ofNat 2).value ≠ .nan neg := by
    cases neg <;> decide
  simp [doubled, Pass.HasNumbers, ScaleRule.IsNumber, hfactor]

theorem doubled_comes_back : doubled.WellFormed ∧ ofText doubled.toText = .ok doubled := by
  have hwell : doubled.WellFormed := ⟨nofun, nofun, .nil, nofun, .nil⟩
  exact ⟨hwell, (ofText_toText doubled_hasNumbers doubled_parsesBack).1 hwell⟩

end Preset

end PassChain
