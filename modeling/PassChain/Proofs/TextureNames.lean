import PassChain.Proofs.MemberTypes

/-! Which texture each name means, and which members receive the size of a texture. -/
namespace PassChain

/-- Whether these are digits, at least one, that write this number. Zeros may stand in front. -/
structure Writes (digits : List Char) (n : Nat) : Prop where
  nonempty : digits ≠ []
  decimal : ∀ c ∈ digits, c.isDigit = true
  value : Nat.ofDigitChars 10 digits 0 = n

theorem numberOfDigits?_eq_some_iff {digits : List Char} {n : Nat} :
    numberOfDigits? digits = some n ↔ Writes digits n := by
  unfold numberOfDigits?
  split
  · rename_i h
    simp only [Bool.or_eq_true, List.isEmpty_iff, Bool.not_eq_true', List.all_eq_false] at h
    refine iff_of_false nofun fun hw => ?_
    rcases h with h | ⟨c, hc, hno⟩
    · exact hw.nonempty h
    · exact hno (hw.decimal c hc)
  · rename_i h
    simp only [Bool.or_eq_true, List.isEmpty_iff, Bool.not_eq_true', not_or, Bool.not_eq_false,
      List.all_eq_true] at h
    rw [Option.some.injEq]
    exact ⟨fun hn => ⟨h.1, h.2, hn⟩, fun hw => hw.value⟩

/-- Every number is written by its decimal digits. -/
theorem writes_toDigits (n : Nat) : Writes (Nat.toDigits 10 n) n :=
  ⟨Nat.toDigits_ne_nil, fun _ => Nat.isDigit_of_mem_toDigits (by decide) (by decide),
    Nat.ofDigitChars_ten_toDigits⟩

theorem after?_eq_some_iff {stem text rest : List Char} :
    after? stem text = some rest ↔ text = stem ++ rest := by
  fun_induction after? stem text with
  | case1 text => simp
  | case2 stem d text ih => simp [ih]
  | case3 c stem d text h => simp [Ne.symm h]
  | case4 => simp

theorem before?_eq_some_iff {ending text rest : List Char} :
    before? ending text = some rest ↔ text = rest ++ ending := by
  unfold before?
  rw [Option.map_eq_some_iff]
  constructor
  · rintro ⟨r, hr, rfl⟩
    rw [after?_eq_some_iff] at hr
    rw [← List.reverse_reverse text, hr]
    simp
  · rintro rfl
    exact ⟨rest.reverse, after?_eq_some_iff.mpr (by simp), by simp⟩

/-- An ending comes off where it was put. -/
theorem before?_append (stem ending : String) :
    before? ending.toList (stem ++ ending).toList = some stem.toList :=
  before?_eq_some_iff.mpr (String.toList_append ..)

namespace TextureRef

/-- The words that stand for textures by themselves. -/
def words : List String := ["source", "orig", "prev"]

/-- The words that stand for textures together with a number. -/
def stems : List String := ["prev", "passprev", "pass"]

/-- The names that have a meaning of their own. -/
inductive Named : String → TextureRef → Prop
  | source : Named "source" .source
  | orig : Named "orig" .orig
  | last : Named "prev" (.prev 0)
  | prev {digits : List Char} {n : Nat} (number : Writes digits n) (low : 1 ≤ n) (high : n ≤ 6) :
    Named ("prev" ++ .ofList digits) (.prev n)
  | passPrev {digits : List Char} {n : Nat} (number : Writes digits n) (low : 1 ≤ n)
      (high : n < UInt64.size) : Named ("passprev" ++ .ofList digits) (.passPrev n)
  | pass {digits : List Char} {n : Nat} (number : Writes digits n) (low : 1 ≤ n)
      (high : n < UInt64.size) : Named ("pass" ++ .ofList digits) (.pass n)

variable {stem stem' : String} {digits digits' : List Char} {n : Nat}

/-- A word with a number is none of the words that stand alone. -/
theorem numbered_ne_word (hstem : stem ∈ stems) (hdigits : digits ≠ []) :
    stem ++ .ofList digits ∉ words := by
  simp only [stems, List.mem_cons, List.not_mem_nil, or_false] at hstem
  rcases hstem with rfl | rfl | rfl <;> simp [words, ← String.toList_inj, hdigits]

/-- No two of the words make the same name with whatever numbers. -/
theorem append_digits_inj (hstem : stem ∈ stems) (hstem' : stem' ∈ stems)
    (hdigits : ∀ c ∈ digits, c.isDigit = true) (hdigits' : ∀ c ∈ digits', c.isDigit = true)
    (h : stem.toList ++ digits = stem'.toList ++ digits') : stem = stem' ∧ digits = digits' := by
  have hletter (rest : List Char) (ds : List Char) (hds : ∀ c ∈ ds, c.isDigit = true) :
      ds ≠ 'p' :: rest := by
    rintro rfl
    exact absurd (hds 'p' List.mem_cons_self) (by decide)
  simp only [stems, List.mem_cons, List.not_mem_nil, or_false] at hstem hstem'
  rcases hstem with rfl | rfl | rfl <;> rcases hstem' with rfl | rfl | rfl <;>
    simp_all
  -- what is left is a number after the shorter of two words that would spell the longer one
  exact hletter _ _ hdigits' h.symm

theorem numbered?_eq_some_iff {name : List Char} : numbered? stem name = some n ↔
    ∃ digits, name = stem.toList ++ digits ∧ Writes digits n ∧ n < UInt64.size := by
  unfold numbered?
  simp only [bind, Option.bind_eq_some_iff, after?_eq_some_iff, numberOfDigits?_eq_some_iff]
  constructor
  · rintro ⟨digits, hname, k, hk, h⟩
    split at h
    · obtain rfl := Option.some.inj h
      exact ⟨digits, hname, hk, ‹_›⟩
    · cases h
  · rintro ⟨digits, hname, hn, hlt⟩
    exact ⟨digits, hname, n, hn, if_pos hlt⟩

/-- A number is only read after its own word. -/
theorem numbered?_append (hstem : stem ∈ stems) (hstem' : stem' ∈ stems) (h : Writes digits n)
    (hlt : n < UInt64.size) :
    numbered? stem' (stem.toList ++ digits) = if stem' = stem then some n else none := by
  split
  · rename_i heq
    subst heq
    exact numbered?_eq_some_iff.mpr ⟨digits, rfl, h, hlt⟩
  · rename_i hne
    refine Option.eq_none_iff_forall_ne_some.mpr fun k hk => ?_
    obtain ⟨digits', happend, hk, _⟩ := numbered?_eq_some_iff.mp hk
    exact hne (append_digits_inj hstem hstem' h.decimal hk.decimal happend).1.symm

theorem named_of_ofName (name : String) :
    Named name (ofName name) ∨ ofName name = .lut name := by
  have happend {stem : String} {digits : List Char} (h : name.toList = stem.toList ++ digits) :
      name = stem ++ .ofList digits := by
    rw [← String.toList_inj, h]
    simp
  unfold ofName
  split
  · rename_i h
    exact .inl (h ▸ .source)
  · split
    · rename_i h
      exact .inl (h ▸ .orig)
    · split
      · rename_i h
        exact .inl (h ▸ .last)
      · dsimp only
        split
        · rename_i n hn
          obtain ⟨hn, hrange⟩ := Option.filter_eq_some_iff.mp hn
          obtain ⟨digits, hname, hdigits, _⟩ := numbered?_eq_some_iff.mp hn
          simp only [Bool.and_eq_true, decide_eq_true_eq] at hrange
          exact .inl (happend hname ▸ .prev hdigits hrange.1 (Nat.le_of_lt_succ hrange.2))
        · split
          · rename_i n hn
            obtain ⟨hn, hpos⟩ := Option.filter_eq_some_iff.mp hn
            obtain ⟨digits, hname, hdigits, hlt⟩ := numbered?_eq_some_iff.mp hn
            exact .inl (happend hname ▸ .passPrev hdigits (of_decide_eq_true hpos) hlt)
          · split
            · rename_i n hn
              obtain ⟨hn, hpos⟩ := Option.filter_eq_some_iff.mp hn
              obtain ⟨digits, hname, hdigits, hlt⟩ := numbered?_eq_some_iff.mp hn
              exact .inl (happend hname ▸ .pass hdigits (of_decide_eq_true hpos) hlt)
            · exact .inr rfl

/-- How a word with a number looks to the steps by which names are read. -/
theorem reads_numbered (hstem : stem ∈ stems) (h : Writes digits n) (hlt : n < UInt64.size) :
    let name := stem ++ .ofList digits
    (name ≠ "source" ∧ name ≠ "orig" ∧ name ≠ "prev") ∧
      ∀ stem' ∈ stems, numbered? stem' name.toList = if stem' = stem then some n else none := by
  constructor
  · simpa [words] using numbered_ne_word hstem h.nonempty
  · intro stem' hstem'
    rw [String.toList_append, String.toList_ofList]
    exact numbered?_append hstem hstem' h hlt

theorem ofName_of_named {name : String} {r : TextureRef} (h : Named name r) : ofName name = r := by
  have hprev : "prev" ∈ stems := by decide
  have hpassPrev : "passprev" ∈ stems := by decide
  have hpass : "pass" ∈ stems := by decide
  cases h with
  | source | orig | last => rfl
  | prev number low high =>
    have hlt := Nat.lt_of_le_of_lt high (by decide : 6 < UInt64.size)
    obtain ⟨⟨hsource, horig, hword⟩, hread⟩ := reads_numbered hprev number hlt
    unfold ofName
    rw [if_neg hsource, if_neg horig, if_neg hword]
    simp only [hread "prev" hprev]
    simp [Option.filter, low, Nat.lt_succ_of_le high, previousFrames]
  | passPrev number low high =>
    obtain ⟨⟨hsource, horig, hword⟩, hread⟩ := reads_numbered hpassPrev number high
    unfold ofName
    rw [if_neg hsource, if_neg horig, if_neg hword]
    simp only [hread "prev" hprev, hread "passprev" hpassPrev]
    simp [Option.filter, low]
  | pass number low high =>
    obtain ⟨⟨hsource, horig, hword⟩, hread⟩ := reads_numbered hpass number high
    unfold ofName
    rw [if_neg hsource, if_neg horig, if_neg hword]
    simp only [hread "prev" hprev, hread "passprev" hpassPrev, hread "pass" hpass]
    simp [Option.filter, low]

theorem ofName_eq_iff {name : String} {r : TextureRef} : ofName name = r ↔
    Named name r ∨ r = .lut name ∧ ∀ r', ¬Named name r' := by
  constructor
  · rintro rfl
    rcases named_of_ofName name with h | h
    · exact .inl h
    · by_cases hnamed : ∃ r', Named name r'
      · obtain ⟨r', hr'⟩ := hnamed
        exact .inl (ofName_of_named hr' ▸ hr')
      · exact .inr ⟨h, not_exists.mp hnamed⟩
  · rintro (h | ⟨rfl, hnone⟩)
    · exact ofName_of_named h
    · rcases named_of_ofName name with h | h
      · exact absurd h (hnone _)
      · exact h

/-- A number of 64 bits is read as it is written. -/
theorem ofName_toString {n : Nat} (low : 1 ≤ n) (high : n < UInt64.size) :
    ofName ("pass" ++ toString n) = .pass n ∧ ofName ("passprev" ++ toString n) = .passPrev n := by
  rw [Nat.toString_eq_repr, Nat.repr]
  exact ⟨ofName_of_named (.pass (writes_toDigits n) low high),
    ofName_of_named (.passPrev (writes_toDigits n) low high)⟩

example : ofName "passprev007" = .passPrev 7 := by decide

example : ofName "prev7" = .lut "prev7" := by decide

end TextureRef

/-- The ending with which a name asks for a size. -/
def SizeKind.ending : SizeKind → String
  | .video => "_video_size"
  | .texture => "_texture_size"

namespace Role

variable {stem : String} {kind : SizeKind}

/-- The names that have a role without a texture. -/
def words : List String :=
  ["mvp", "frame_count", "frame_direction", "output_size", "video_size", "texture_size"]

theorem append_ending_ne_word (stem : String) (kind : SizeKind) : stem ++ kind.ending ∉ words := by
  intro h
  have hnone : ∀ word ∈ words, before? kind.ending.toList word.toList = none := by
    cases kind <;> decide
  exact absurd ((hnone _ h).symm.trans (before?_append stem kind.ending)) nofun

theorem sized?_append (stem : String) (kind : SizeKind) :
    sized? (stem ++ kind.ending) = some (.ofName stem, kind) := by
  unfold sized?
  cases kind with
  | video => simp only [SizeKind.ending, before?_append, Option.map_some, String.ofList_toList]
  | texture =>
    have hother : before? "_video_size".toList (stem ++ "_texture_size").toList = none := by
      refine Option.eq_none_iff_forall_ne_some.mpr fun rest h => ?_
      rw [before?_eq_some_iff, String.toList_append] at h
      simpa using congrArg List.reverse h
    simp only [SizeKind.ending, hother, before?_append, Option.map_some, Option.map_none,
      String.ofList_toList]

/-- A member that is named for the size of a texture has to be a pair, but the name of a lookup
texture is like any other name. -/
theorem ofMember_append (stem : String) (kind : SizeKind) (k : MemberKind) :
    ofMember (stem ++ kind.ending) k =
      if (TextureRef.ofName stem).isLut then
        .ok (if k = .number then some (tracked (stem ++ kind.ending)) else none)
      else expect (stem ++ kind.ending) k .pair "vec2<f32>" (size (.ofName stem) kind) := by
  have hnot := append_ending_ne_word stem kind
  simp only [words, List.mem_cons, List.not_mem_nil, or_false, not_or] at hnot
  unfold ofMember
  dsimp only
  split
  iterate 6 simp_all
  rw [sized?_append]
  cases h : (TextureRef.ofName stem).isLut <;> simp [Option.filter, h]

open Wgsl

theorem ofType_eq_pair_iff {t : Ty} (ht : t.Settled) :
    MemberKind.ofType t = .pair ↔ t = .vector 2 .f32 ∨ t = .vector 2 .f64 :=
  (ofType_eq_kind ht outputSize).trans (by simp [typeOver, Role.kind])

theorem ofType_eq_number_iff {t : Ty} (ht : t.Settled) :
    MemberKind.ofType t = .number ↔ t = .scalar .f32 ∨ t = .scalar .f64 :=
  (ofType_eq_kind ht frameCount).trans (by simp [typeOver, Role.kind])

end Role

namespace Program

open Wgsl

/-- Every member is asked for its role, and those that have one are fields. -/
theorem ofMember_of_sortMembers {members : List StructMember} {fields : List Field}
    {ignored : List String} (h : sortMembers members = .ok (fields, ignored)) :
    ∀ x ∈ members, ∃ role?, Role.ofMember x.name (.ofType x.type) = .ok role? ∧
      ∀ role, role? = some role → ⟨x.name, role, x.offset⟩ ∈ fields := by
  induction members generalizing fields ignored with
  | nil => exact nofun
  | cons x rest ih =>
    obtain ⟨role?, hrole, h⟩ := bind_eq_ok.mp h
    obtain ⟨⟨later, others⟩, hlater, h⟩ := bind_eq_ok.mp h
    have hrest := ih hlater
    cases role? with
    | none =>
      cases h
      exact List.forall_mem_cons.mpr ⟨⟨none, hrole, nofun⟩, hrest⟩
    | some role =>
      cases h
      refine List.forall_mem_cons.mpr ⟨⟨some role, hrole, ?_⟩, fun x' hx' => ?_⟩
      · rintro _ ⟨⟩
        exact List.mem_cons_self
      · obtain ⟨role?, hrole, hfield⟩ := hrest x' hx'
        exact ⟨role?, hrole, fun role h => List.mem_cons_of_mem _ (hfield role h)⟩

/-- A module that passes has one uniform block. -/
theorem HasBlock.eq_struct {m : Wgsl.Module} {f : Findings} (hm : m.Validated)
    (hf : inspect m = .ok f) {number : Nat} {s : StructType} (h : HasBlock m number s) :
    s = f.struct := by
  obtain ⟨_, huniform, hstruct⟩ := (inspect_eq_ok.mp hf).uniform
  obtain ⟨v, hv, hspace, hbinding, _, htype, hfind⟩ := h
  obtain ⟨⟩ := huniform.symm.trans
    ((uniform_eq_some_iff hm hf).mpr ⟨v, hv, hspace, htype, hbinding⟩)
  exact Option.some.inj (hfind.symm.trans hstruct)

/-- A member of the block that is named for the size of a texture is a pair, and a field. -/
theorem sized_member {label : String} {p : Program} {m : Wgsl.Module} (hvalid : m.Validated)
    (hsettled : m.Settled) (h : ofModule label m = .ok p) {s : StructType}
    (hs : HasBlock m p.uniformBinding s) {x : StructMember} (hx : x ∈ s.members) {stem : String}
    {kind : SizeKind} (hname : x.name = stem ++ kind.ending)
    (hlut : (TextureRef.ofName stem).isLut = false) :
    (x.type = .vector 2 .f32 ∨ x.type = .vector 2 .f64) ∧
      ⟨x.name, .size (.ofName stem) kind, x.offset⟩ ∈ p.fields := by
  obtain ⟨f, hf, _, rfl⟩ := (ofModule_eq_ok hvalid).mp h
  have hpasses := inspect_eq_ok.mp hf
  obtain ⟨_, _, hstruct⟩ := hpasses.uniform
  obtain rfl := hs.eq_struct hvalid hf
  have hwritten := hsettled _ (List.mem_of_find?_eq_some hstruct) x hx
  obtain ⟨role?, hrole, hfield⟩ := ofMember_of_sortMembers hpasses.members x hx
  rw [hname, Role.ofMember_append, if_neg (by simp [hlut])] at hrole
  unfold Role.expect at hrole
  split at hrole
  · rename_i hpair
    obtain rfl := Except.ok.inj hrole
    exact ⟨(Role.ofType_eq_pair_iff hwritten).mp hpair, hfield _ rfl⟩
  · simp at hrole

end Program

open Wgsl

/-- Names mean textures by one grammar, in which the numbered words stay apart and every number of
64 bits can be written. A member that is named for the size of a texture has that role just when the
name before the ending is not that of a lookup texture; it must be a pair then, but its numbers may
have eight bytes. So it is in any module that is in order, and in that of any text that can be
used. -/
theorem textures_of_names (label text : String) :
    (∀ name r, TextureRef.ofName name = r ↔
      TextureRef.Named name r ∨ r = .lut name ∧ ∀ r', ¬TextureRef.Named name r') ∧
    (∀ n, 1 ≤ n → n < UInt64.size →
      TextureRef.ofName ("pass" ++ toString n) = .pass n ∧
      TextureRef.ofName ("passprev" ++ toString n) = .passPrev n) ∧
    (∀ stem ∈ TextureRef.stems, ∀ stem' ∈ TextureRef.stems, ∀ digits digits' n n',
      Writes digits n → Writes digits' n' →
      stem ++ .ofList digits = stem' ++ .ofList digits' → stem = stem' ∧ n = n') ∧
    (∀ stem kind t, t.Settled → Role.ofMember (stem ++ SizeKind.ending kind) (.ofType t) =
      if (TextureRef.ofName stem).isLut then
        .ok (if t = .scalar .f32 ∨ t = .scalar .f64 then some (.tracked (stem ++ kind.ending))
          else none)
      else if t = .vector 2 .f32 ∨ t = .vector 2 .f64 then
        .ok (some (.size (.ofName stem) kind))
      else .error (.memberType (stem ++ kind.ending) "vec2<f32>")) ∧
    (∀ m, Module.ofText? text = some m → m.Validated ∧ m.Settled) ∧
    (∀ (m : Wgsl.Module) p, m.Validated → m.Settled →
      Program.ofModule label m = .ok p → ∀ s, Program.HasBlock m p.uniformBinding s →
        ∀ x ∈ s.members, ∀ stem kind, x.name = stem ++ SizeKind.ending kind →
          (TextureRef.ofName stem).isLut = false →
          (x.type = .vector 2 .f32 ∨ x.type = .vector 2 .f64) ∧
            ⟨x.name, .size (.ofName stem) kind, x.offset⟩ ∈ p.fields) ∧
    ∀ m p, Module.ofText? text = some m → Program.ofText label text = .ok p →
      ∀ s, Program.HasBlock m p.uniformBinding s → ∀ x ∈ s.members, ∀ stem kind,
        x.name = stem ++ SizeKind.ending kind → (TextureRef.ofName stem).isLut = false →
        (x.type = .vector 2 .f32 ∨ x.type = .vector 2 .f64) ∧
          ⟨x.name, .size (.ofName stem) kind, x.offset⟩ ∈ p.fields := by
  have htext (m : Wgsl.Module) (hm : Module.ofText? text = some m) : m.Validated ∧ m.Settled :=
    ⟨Module.validated_ofText hm, Module.settled_ofText hm⟩
  refine ⟨fun _ _ => TextureRef.ofName_eq_iff, fun _ => TextureRef.ofName_toString, ?_, ?_, htext,
    ?_, ?_⟩
  · intro stem hstem stem' hstem' digits digits' n n' h h' happend
    have htext := congrArg String.toList happend
    simp only [String.toList_append, String.toList_ofList] at htext
    obtain ⟨rfl, rfl⟩ :=
      TextureRef.append_digits_inj hstem hstem' h.decimal h'.decimal htext
    exact ⟨rfl, h.value.symm.trans h'.value⟩
  · intro stem kind t ht
    rw [Role.ofMember_append]
    simp only [Role.expect, Role.ofType_eq_pair_iff ht, Role.ofType_eq_number_iff ht]
  · intro m p hvalid hsettled hp s hs x hx stem kind hname hlut
    exact Program.sized_member hvalid hsettled hp hs hx hname hlut
  · intro m p hm hp s hs x hx stem kind hname hlut
    obtain ⟨hvalid, hsettled⟩ := htext m hm
    rw [Program.ofText_eq_ofModule hm] at hp
    exact Program.sized_member hvalid hsettled hp hs hx hname hlut

/-- A program that asks for a size in numbers of eight bytes. -/
def widePair : String := "
struct Params \x7b mvp: mat4x4<f32>, prev_video_size: vec2<f64> \x7d
@group(0) @binding(0) var<uniform> params: Params;
@vertex fn vs_main() -> @builtin(position) vec4<f32> \x7b return params.mvp[0]; \x7d
@fragment fn fs_main() -> @location(0) vec4<f32> \x7b return vec4<f32>(1.0); \x7d
"

set_option maxRecDepth 100000 in
theorem wide_pair_accepted :
    ∃ m p, Module.ofText? widePair = some m ∧ Program.ofText "" widePair = .ok p ∧
      ∃ f ∈ p.fields, f.name = "prev_video_size" ∧ f.role = .size (.prev 0) .video ∧
        ∀ s ∈ m.structs, ∀ x ∈ s.members, x.name = f.name → x.type = .vector 2 .f64 :=
  Program.checked_ofText rfl (by decide +kernel)

end PassChain
