import Mathlib.Data.List.Basic
import PassChain.Files

/-! What paths are made of. Joining is associative on the text of paths, and only looks at what they
are made of; so does taking the parent of a path below a directory. -/
namespace PassChain

section Names

variable {n s t : List Char}

/-- A character goes before the first name. -/
theorem splitNames_cons {c : Char} (hc : c ≠ '/') (t : List Char) :
    ∃ name names, splitNames t = name :: names ∧ splitNames (c :: t) = (c :: name) :: names := by
  have hnames : ∃ name names, splitNames t = name :: names := by
    cases t with
    | nil => exact ⟨[], [], rfl⟩
    | cons d t =>
      unfold splitNames
      split
      · exact ⟨_, _, rfl⟩
      · exact ⟨_, _, rfl⟩
      · split
        · exact ⟨_, _, rfl⟩
        · exact ⟨_, _, rfl⟩
  obtain ⟨name, names, ht⟩ := hnames
  refine ⟨name, names, ht, ?_⟩
  rw [splitNames, ht]
  exact fun h => hc h

theorem splitNames_ne_nil (t : List Char) : splitNames t ≠ [] := by
  cases t with
  | nil => exact List.cons_ne_nil _ _
  | cons c t =>
    by_cases hc : c = '/'
    · subst hc
      exact List.cons_ne_nil _ _
    · obtain ⟨name, names, _, hcons⟩ := splitNames_cons hc t
      rw [hcons]
      exact List.cons_ne_nil _ _

theorem splitNames_append (s t : List Char) :
    splitNames (s ++ '/' :: t) = splitNames s ++ splitNames t := by
  induction s with
  | nil => rfl
  | cons c s ih =>
    by_cases hc : c = '/'
    · subst hc
      exact congrArg ([] :: ·) ih
    · obtain ⟨name, names, hs, hcons⟩ := splitNames_cons hc s
      obtain ⟨name', names', hs', hcons'⟩ := splitNames_cons hc (s ++ '/' :: t)
      rw [ih, hs, List.cons_append, List.cons.injEq] at hs'
      rw [List.cons_append, hcons', hcons, ← hs'.1, ← hs'.2, List.cons_append]

/-- A text without a `/` is one name. -/
theorem splitNames_of_name (h : '/' ∉ n) : splitNames n = [n] := by
  induction n with
  | nil => rfl
  | cons c n ih =>
    obtain ⟨hc, hn⟩ := not_or.mp (mt List.mem_cons.mpr h)
    obtain ⟨name, names, hnames, hcons⟩ := splitNames_cons (Ne.symm hc) n
    rw [ih hn, List.cons.injEq] at hnames
    rw [hcons, ← hnames.1, ← hnames.2]

/-- The names that count: not the empty ones, and not `.`. -/
def solidNames (t : List Char) : List (List Char) :=
  (splitNames t).filter fun n => n != [] && n != ['.']

theorem solidNames_append (s t : List Char) :
    solidNames (s ++ '/' :: t) = solidNames s ++ solidNames t := by
  rw [solidNames, splitNames_append, List.filter_append]
  rfl

/-- A text that starts with `.` as its first name. -/
def startsHere (t : List Char) : Bool := (splitNames t).head? == some ['.']

theorem startsHere_append (s t : List Char) : startsHere (s ++ '/' :: t) = startsHere s := by
  rw [startsHere, splitNames_append, List.head?_append_of_ne_nil _ (splitNames_ne_nil s)]
  rfl

theorem startsHere_iff : startsHere t ↔ t = ['.'] ∨ ∃ r, t = '.' :: '/' :: r := by
  rw [startsHere, beq_iff_eq]
  by_cases hslash : '/' ∈ t
  · obtain ⟨n, r, rfl, hn⟩ := List.eq_append_cons_of_mem hslash
    rw [splitNames_append, splitNames_of_name hn]
    constructor
    · intro h
      cases Option.some.inj h
      exact .inr ⟨r, rfl⟩
    · rintro (h | ⟨r', h⟩)
      · have hmem : '/' ∈ ['.'] := h ▸ List.mem_append_right n List.mem_cons_self
        exact absurd hmem (by decide)
      · have hfirst := congrArg splitNames h
        rw [splitNames_append, splitNames_of_name hn] at hfirst
        exact congrArg List.head? hfirst
  · rw [splitNames_of_name hslash]
    constructor
    · intro h
      exact .inl (Option.some.inj h)
    · rintro (rfl | ⟨r, rfl⟩)
      · rfl
      · exact absurd (List.mem_cons_of_mem _ List.mem_cons_self) hslash

/-- The first name counts, unless it is empty or a `.`. -/
theorem solidNames_ne_nil (ht : t ≠ []) (hroot : t.head? ≠ some '/')
    (hhere : startsHere t = false) : solidNames t ≠ [] := by
  obtain ⟨n, ns, hnames⟩ := List.exists_cons_of_ne_nil (splitNames_ne_nil t)
  have hdot : n ≠ ['.'] := by
    rintro rfl
    rw [startsHere, hnames] at hhere
    cases hhere
  have hempty : n ≠ [] := by
    rintro rfl
    obtain ⟨c, r, rfl⟩ := List.exists_cons_of_ne_nil ht
    have hc : c ≠ '/' := fun h => hroot (congrArg some h)
    obtain ⟨name, names, _, hcons⟩ := splitNames_cons hc r
    rw [hnames] at hcons
    cases hcons
  rw [solidNames, hnames, List.filter_cons_of_pos (by simp [hdot, hempty])]
  exact List.cons_ne_nil _ _

end Names

/-- What a path is made of: whether it starts at the root, or with a `.`, and the names that
count. -/
structure PathParts where
  root : Bool
  here : Bool
  names : List (List Char)
deriving DecidableEq

/-- What a text is made of as a path. -/
def partsOf (t : List Char) : PathParts := ⟨t.head? == some '/', startsHere t, solidNames t⟩

theorem partsOf_eq_empty_iff {t : List Char} : partsOf t = ⟨false, false, []⟩ ↔ t = [] := by
  constructor
  · intro h
    obtain ⟨hroot, hhere, hnames⟩ := PathParts.mk.injEq .. ▸ h
    by_contra ht
    exact solidNames_ne_nil ht (by simpa using hroot) hhere hnames
  · rintro rfl
    decide

/-- A beginning of a text, and not an empty one, that has all names that count is made of the
same. -/
theorem partsOf_beginning {s t : List Char} (hbegins : s <+: t) (hs : s ≠ [])
    (hnames : solidNames s = solidNames t) : partsOf s = partsOf t := by
  obtain ⟨rest, rfl⟩ := hbegins
  have hhere : startsHere s = startsHere (s ++ rest) := by
    by_cases hslash : '/' ∈ s
    · obtain ⟨n, r, rfl, _⟩ := List.eq_append_cons_of_mem hslash
      rw [List.append_assoc, List.cons_append, startsHere_append, startsHere_append]
    · obtain ⟨c, s, rfl⟩ := List.exists_cons_of_ne_nil hs
      rw [Bool.eq_iff_iff]
      constructor
      · intro h
        rcases startsHere_iff.mp h with hdot | ⟨r, hdot⟩
        · rw [hdot] at hnames ⊢
          by_contra hnot
          exact solidNames_ne_nil (List.cons_ne_nil _ _) (by simp)
            (eq_false_of_ne_true hnot) hnames.symm
        · rw [hdot] at hslash
          exact absurd (List.mem_cons_of_mem _ List.mem_cons_self) hslash
      · intro h
        cases s with
        | nil =>
          have hc : c = '.' := by
            rcases startsHere_iff.mp h with hdot | ⟨r, hdot⟩
            · exact (List.cons.inj hdot).1
            · exact (List.cons.inj hdot).1
          rw [hc]
          rfl
        | cons d s =>
          rcases startsHere_iff.mp h with hdot | ⟨r, hdot⟩
          · cases hdot
          · cases hdot
            exact absurd (List.mem_cons_of_mem _ List.mem_cons_self) hslash
  have hroot : (s ++ rest).head? = s.head? := List.head?_append_of_ne_nil _ hs
  rw [partsOf, partsOf, hroot, hhere, hnames]

namespace Path

section Texts

variable {n s t : List Char}

theorem separator_append (hs : s ≠ []) (t : List Char) : separator (t ++ s) = separator s := by
  have hne : t ++ s ≠ [] := List.append_ne_nil_of_right_ne_nil t hs
  rw [separator, separator, List.getLast?_append_of_ne_nil _ hs]
  simp [hs]

theorem separator_separated (t : List Char) : separator (t ++ separator t) = [] := by
  by_cases h : t.isEmpty || t.getLast? == some '/'
  · rw [show separator t = [] from if_pos h, List.append_nil]
    exact if_pos h
  · rw [show separator t = ['/'] from if_neg h]
    simp [separator]

/-- What stands before a joined path ends with `/`, which may have been there before. -/
theorem exists_separated (ht : t ≠ []) :
    ∃ s, t ++ separator t = s ++ ['/'] ∧ (t = s ∨ t = s ++ ['/']) := by
  by_cases h : t.getLast? = some '/'
  · obtain ⟨s, rfl⟩ := List.getLast?_eq_some_iff.mp h
    have hseparator : separator (s ++ ['/']) = [] := by simp [separator]
    exact ⟨s, by rw [hseparator, List.append_nil], .inr rfl⟩
  · have hseparator : separator t = ['/'] := by simp [separator, ht, h]
    exact ⟨t, by rw [hseparator], .inl rfl⟩

theorem splitLast_of_name (h : '/' ∉ n) : splitLast n = (n, []) := by
  induction n with
  | nil => rfl
  | cons c n ih =>
    obtain ⟨hc, hn⟩ := not_or.mp (mt List.mem_cons.mpr h)
    rw [splitLast, ih hn]
    exact fun h => hc h.symm

theorem splitLast_append (h : '/' ∉ n) (t : List Char) : splitLast (n ++ '/' :: t) = (n, t) := by
  induction n with
  | nil => rfl
  | cons c n ih =>
    obtain ⟨hc, hn⟩ := not_or.mp (mt List.mem_cons.mpr h)
    rw [List.cons_append, splitLast, ih hn]
    exact fun h => hc h.symm

theorem trimEnd_nil (fuel : Nat) : trimEnd fuel [] = [] := by
  cases fuel with
  | zero => rfl
  | succ fuel => rfl

/-- A text that ends with a name is not trimmed. -/
theorem trimEnd_of_splitLast {fuel : Nat} (hfuel : fuel ≠ 0) (ht : t ≠ [])
    (hempty : (splitLast t).1 ≠ []) (hdot : (splitLast t).1 ≠ ['.']) : trimEnd fuel t = t := by
  obtain ⟨fuel, rfl⟩ := Nat.exists_eq_succ_of_ne_zero hfuel
  rw [trimEnd]
  simp [ht, hempty, hdot]

/-- Trimming takes something off the end, and nothing that counts. -/
theorem trimEnd_spec (fuel : Nat) (t : List Char) :
    trimEnd fuel t <:+ t ∧ solidNames (trimEnd fuel t).reverse = solidNames t.reverse := by
  induction fuel generalizing t with
  | zero => exact ⟨List.suffix_rfl, rfl⟩
  | succ fuel ih =>
    by_cases ht : t = []
    · subst ht
      exact ⟨List.suffix_rfl, rfl⟩
    · by_cases hname : (splitLast t).1 = [] ∨ (splitLast t).1 = ['.']
      · have htrim : trimEnd (fuel + 1) t = trimEnd fuel (splitLast t).2 := by
          rw [trimEnd]
          simp only [List.isEmpty_iff, if_neg ht]
          exact if_pos hname
        rw [htrim]
        by_cases hslash : '/' ∈ t
        · obtain ⟨n, r, rfl, hn⟩ := List.eq_append_cons_of_mem hslash
          rw [splitLast_append hn] at hname ⊢
          obtain ⟨hsuffix, hnames⟩ := ih r
          refine ⟨hsuffix.trans ((List.suffix_cons _ _).trans (List.suffix_append n _)), ?_⟩
          have hlast : solidNames n.reverse = [] := by
            rcases hname with hname | hname
            · rw [show n = [] from hname]
              rfl
            · rw [show n = ['.'] from hname]
              rfl
          rw [hnames, List.reverse_append, List.reverse_cons, List.append_assoc,
            List.singleton_append, solidNames_append, hlast, List.append_nil]
        · rw [splitLast_of_name hslash] at hname ⊢
          rw [trimEnd_nil]
          refine ⟨List.nil_suffix, ?_⟩
          rcases hname with hname | hname
          · rw [show t = [] from hname]
          · rw [show t = ['.'] from hname]
            rfl
      · obtain ⟨hempty, hdot⟩ := not_or.mp hname
        rw [trimEnd_of_splitLast fuel.succ_ne_zero ht hempty hdot]
        exact ⟨List.suffix_rfl, rfl⟩

end Texts

theorem isAbsolute_iff {p : Path} : p.isAbsolute = true ↔ ∃ t, p.text.toList = '/' :: t := by
  rw [isAbsolute, beq_iff_eq, List.head?_eq_some_iff]

theorem join_of_absolute {base p : Path} (h : p.isAbsolute = true) : base.join p = p := if_pos h

theorem toList_join {base p : Path} (h : p.isAbsolute = false) : (base.join p).text.toList =
    base.text.toList ++ separator base.text.toList ++ p.text.toList := by
  rw [join, if_neg (by rw [h]; exact Bool.false_ne_true), String.toList_ofList]

theorem isAbsolute_join {base p : Path} :
    (base.join p).isAbsolute = (p.isAbsolute || base.isAbsolute) := by
  cases hp : p.isAbsolute with
  | true => rw [join_of_absolute hp, hp, Bool.true_or]
  | false =>
    rw [isAbsolute] at hp
    rw [Bool.false_or, isAbsolute, toList_join hp, isAbsolute]
    cases hbase : base.text.toList with
    | nil => exact hp
    | cons c t => rfl

theorem eq_of_toList {p q : Path} (h : p.text.toList = q.text.toList) : p = q :=
  congrArg mk (String.toList_injective h)

/-- A directory may be joined to its base before or after a path is joined to it. -/
theorem join_assoc (a b p : Path) : (b.join a).join p = b.join (a.join p) := by
  cases hp : p.isAbsolute with
  | true => rw [join_of_absolute hp, join_of_absolute hp, join_of_absolute hp]
  | false =>
    cases ha : a.isAbsolute with
    | true =>
      have hjoined : (a.join p).isAbsolute = true := by rw [isAbsolute_join, ha, Bool.or_true]
      rw [join_of_absolute ha, join_of_absolute hjoined]
    | false =>
      have hjoined : (a.join p).isAbsolute = false := by rw [isAbsolute_join, hp, ha, Bool.or_false]
      apply eq_of_toList
      rw [toList_join hp, toList_join ha, toList_join hjoined, toList_join hp]
      by_cases hempty : a.text.toList = []
      · rw [hempty, List.append_nil, separator_separated]
        simp [separator]
      · rw [separator_append hempty]
        simp only [List.append_assoc]

/-- What a path is made of. Paths that are made of the same are different ways to write one path. -/
def parts (p : Path) : PathParts := partsOf p.text.toList

end Path

/-- What a path is made of, as seen from a base. -/
def PathParts.join (base p : PathParts) : PathParts :=
  if p.root = true ∨ base = ⟨false, false, []⟩ then p
  else ⟨base.root, base.here, base.names ++ p.names⟩

theorem solidNames_concat_slash (t : List Char) : solidNames (t ++ ['/']) = solidNames t := by
  rw [solidNames_append]
  exact List.append_nil _

/-- A text with a name behind it. -/
theorem partsOf_separated {t : List Char} (ht : t ≠ []) (s : List Char) :
    partsOf (t ++ Path.separator t ++ s) =
      ⟨(partsOf t).root, (partsOf t).here, (partsOf t).names ++ solidNames s⟩ := by
  have hroot : (t ++ Path.separator t ++ s).head? = t.head? := by
    rw [List.append_assoc, List.head?_append_of_ne_nil _ ht]
  obtain ⟨r, hr, ht'⟩ := Path.exists_separated ht
  have hhere : startsHere t = startsHere r := by
    rcases ht' with rfl | rfl
    · rfl
    · exact startsHere_append r []
  have hnames : solidNames t = solidNames r := by
    rcases ht' with rfl | rfl
    · rfl
    · exact solidNames_concat_slash r
  rw [partsOf, hroot, partsOf, hhere, hnames, hr, List.append_assoc, List.singleton_append,
    startsHere_append, solidNames_append]

namespace Path

/-- Joining only looks at what paths are made of. -/
theorem parts_join (base p : Path) : (base.join p).parts = base.parts.join p.parts := by
  have hroot : p.parts.root = p.isAbsolute := rfl
  rw [PathParts.join, hroot]
  cases hp : p.isAbsolute with
  | true => rw [join_of_absolute hp, if_pos (.inl rfl)]
  | false =>
    have hparts : (base.join p).parts = partsOf (base.text.toList ++ separator base.text.toList ++
        p.text.toList) := congrArg partsOf (toList_join hp)
    by_cases hempty : base.text.toList = []
    · rw [if_pos (.inr (partsOf_eq_empty_iff.mpr hempty)), hparts, hempty]
      rfl
    · have hne : base.parts ≠ ⟨false, false, []⟩ := mt partsOf_eq_empty_iff.mp hempty
      rw [if_neg (not_or.mpr ⟨Bool.false_ne_true, hne⟩), hparts, partsOf_separated hempty]
      rfl

end Path

/-- How many characters a text starts with that are no part of its names. -/
def leadLength (t : List Char) : Nat := if t.head? = some '/' ∨ startsHere t then 1 else 0

theorem leadLength_eq (t : List Char) : leadLength t = match t with
    | '/' :: _ | ['.'] | '.' :: '/' :: _ => 1
    | _ => 0 := by
  split
  · exact if_pos (.inl rfl)
  · exact if_pos (.inr (startsHere_iff.mpr (.inl rfl)))
  · exact if_pos (.inr (startsHere_iff.mpr (.inr ⟨_, rfl⟩)))
  · rename_i hroot hdot hbelow
    refine if_neg ?_
    rintro (h | h)
    · obtain ⟨r, hr⟩ := List.head?_eq_some_iff.mp h
      exact hroot r hr
    · rcases startsHere_iff.mp h with h | ⟨r, h⟩
      · exact hdot h
      · exact hbelow r h

theorem leadLength_le_length (t : List Char) : leadLength t ≤ t.length := by
  cases t with
  | nil => decide
  | cons c t =>
    unfold leadLength
    split
    · exact Nat.le_add_left 1 t.length
    · exact Nat.zero_le _

theorem leadLength_separated {t : List Char} (ht : t ≠ []) (s : List Char) :
    leadLength (t ++ Path.separator t ++ s) = leadLength t := by
  have hhead : (t ++ Path.separator t ++ s).head? = t.head? := by
    rw [List.append_assoc, List.head?_append_of_ne_nil _ ht]
  have hhere : startsHere (t ++ Path.separator t ++ s) = startsHere t :=
    congrArg PathParts.here (partsOf_separated ht s)
  rw [leadLength, hhead, hhere]
  rfl

/-- Such a character in front adds no name. -/
theorem solidNames_lead {c : Char} {t : List Char}
    (h : c = '/' ∨ c = '.' ∧ (t = [] ∨ ∃ r, t = '/' :: r)) :
    solidNames (c :: t) = solidNames t := by
  rcases h with rfl | ⟨rfl, rfl | ⟨r, rfl⟩⟩
  · exact solidNames_append [] t
  · rfl
  · exact (solidNames_append ['.'] r).trans (solidNames_append [] r).symm

theorem slash_of_beginning {s t : List Char} (hs : s <+: t) (ht : t = [] ∨ ∃ r, t = '/' :: r) :
    s = [] ∨ ∃ r, s = '/' :: r := by
  obtain ⟨rest, rfl⟩ := hs
  cases s with
  | nil => exact .inl rfl
  | cons c s =>
    rcases ht with h | ⟨r, h⟩
    · cases h
    · exact .inr ⟨s, by rw [(List.cons.inj h).1]⟩

namespace Path

/-- What stands before a joined path ends with `/`, also behind its first characters. -/
theorem drop_separated {t : List Char} (ht : t ≠ []) (k : Nat) :
    (t ++ separator t).drop k = [] ∨ ∃ r, (t ++ separator t).drop k = r ++ ['/'] := by
  obtain ⟨s, hs, _⟩ := exists_separated ht
  rw [hs]
  rcases Nat.lt_or_ge s.length k with hlt | hge
  · refine .inl (List.drop_eq_nil_of_le ?_)
    rw [List.length_append, List.length_singleton]
    exact hlt
  · exact .inr ⟨_, List.drop_append_of_le_length hge⟩

/-- The directory that is left of a text when the name behind it has been taken off. -/
theorem partsOf_parent {t : List Char} (ht : t ≠ []) (fuel : Nat) :
    partsOf (t.take (leadLength t) ++ (trimEnd fuel
      ((t ++ separator t).drop (leadLength t)).dropLast.reverse).reverse) = partsOf t := by
  obtain ⟨s, hs, hts⟩ := exists_separated ht
  have hbelow : s <+: t := by
    rcases hts with rfl | rfl
    · exact List.prefix_rfl
    · exact List.prefix_append _ _
  have hnames : solidNames s = solidNames t := by
    rcases hts with rfl | rfl
    · rfl
    · exact (solidNames_concat_slash s).symm
  obtain ⟨r, hr⟩ : ∃ r, r = ((t ++ separator t).drop (leadLength t)).dropLast := ⟨_, rfl⟩
  obtain ⟨hsuffix, hkept⟩ := trimEnd_spec fuel r.reverse
  have hbegins : (trimEnd fuel r.reverse).reverse <+: r := by
    rw [← List.reverse_suffix, List.reverse_reverse]
    exact hsuffix
  rw [List.reverse_reverse] at hkept
  rw [← hr]
  by_cases hlead : t.head? = some '/' ∨ startsHere t
  · have hone : leadLength t = 1 := if_pos hlead
    obtain ⟨c, t, rfl⟩ := List.exists_cons_of_ne_nil ht
    rw [hone, hs] at hr
    rw [hone, List.take_succ_cons, List.take_zero, List.singleton_append]
    cases s with
    | nil =>
      have hroot : c :: t = ['/'] := hts.resolve_left (List.cons_ne_nil _ _)
      have hempty : r = [] := hr
      rw [hempty, List.reverse_nil, trimEnd_nil, List.reverse_nil, (List.cons.inj hroot).1,
        (List.cons.inj hroot).2]
    | cons d s =>
      obtain ⟨hc, htail⟩ := List.cons_prefix_cons.mp hbelow
      subst hc
      have hbody : r = s := by rw [hr]; exact List.dropLast_concat
      rw [hbody] at hbegins hkept
      have hfront (u : List Char) (hu : u <+: t) : solidNames (d :: u) = solidNames u := by
        apply solidNames_lead
        rcases hlead with hroot | hhere
        · exact .inl (Option.some.inj hroot)
        · rcases startsHere_iff.mp hhere with hdot | ⟨r, hdot⟩
          · obtain ⟨hd, ht⟩ := List.cons.inj hdot
            exact .inr ⟨hd, slash_of_beginning hu (.inl ht)⟩
          · obtain ⟨hd, ht⟩ := List.cons.inj hdot
            exact .inr ⟨hd, slash_of_beginning hu (.inr ⟨r, ht⟩)⟩
      rw [hbody]
      refine partsOf_beginning ?_ (List.cons_ne_nil _ _) ?_
      · exact List.cons_prefix_cons.mpr ⟨rfl, hbegins.trans htail⟩
      · rw [hfront _ (hbegins.trans htail), hkept, ← hfront _ htail, hnames]
  · have hzero : leadLength t = 0 := if_neg hlead
    obtain ⟨hroot, hhere⟩ := not_or.mp hlead
    rw [hzero, List.drop_zero, hs, List.dropLast_concat] at hr
    rw [hr] at hbegins hkept
    rw [hzero, List.take_zero, List.nil_append, hr]
    refine partsOf_beginning (hbegins.trans hbelow) (fun hnil => ?_) (hkept.trans hnames)
    rw [hnil] at hkept
    exact solidNames_ne_nil ht hroot (eq_false_of_ne_true hhere) (hnames.symm.trans hkept.symm)

/-- A name that a file can have. -/
structure IsFileName (p : Path) : Prop where
  single : '/' ∉ p.text.toList
  nonempty : p.text.toList ≠ []
  notHere : p.text.toList ≠ ['.']

theorem IsFileName.isAbsolute {p : Path} (h : p.IsFileName) : p.isAbsolute = false := by
  rw [Bool.eq_false_iff]
  intro habsolute
  obtain ⟨t, ht⟩ := isAbsolute_iff.mp habsolute
  exact h.single (ht ▸ List.mem_cons_self)

theorem parent?_lead (p : Path) : p.parent? =
    let text := p.text.toList
    let head := text.take (leadLength text)
    let body := trimEnd text.length (text.drop (leadLength text)).reverse
    if body.isEmpty then if head = ['.'] then some ⟨""⟩ else none
    else some ⟨.ofList (head ++ (trimEnd text.length (splitLast body).2).reverse)⟩ := by
  dsimp only
  rw [leadLength_eq]
  rfl

/-- The parent of a path is what its last name stands behind, trimmed. -/
theorem parent?_eq {p name : Path} (h : name.IsFileName) {s : List Char}
    (hs : s = [] ∨ ∃ r, s = r ++ ['/'])
    (hp : p.text.toList.drop (leadLength p.text.toList) = s ++ name.text.toList) :
    p.parent? = some ⟨.ofList (p.text.toList.take (leadLength p.text.toList) ++
      (trimEnd p.text.toList.length s.dropLast.reverse).reverse)⟩ := by
  obtain ⟨n, hn⟩ : ∃ n, n = name.text.toList.reverse := ⟨_, rfl⟩
  have hslash : '/' ∉ n := by
    rw [hn, List.mem_reverse]
    exact h.single
  have hempty : n ≠ [] := by
    rw [hn]
    exact mt List.reverse_eq_nil_iff.mp h.nonempty
  have hdot : n ≠ ['.'] := by
    rw [hn]
    exact fun hdot => h.notHere (by rw [← List.reverse_reverse name.text.toList, hdot]; rfl)
  have hsplit : splitLast (s ++ name.text.toList).reverse = (n, s.dropLast.reverse) := by
    rw [List.reverse_append, ← hn]
    rcases hs with rfl | ⟨r, rfl⟩
    · rw [List.reverse_nil, List.append_nil, splitLast_of_name hslash]
      rfl
    · rw [List.reverse_append, List.reverse_singleton, List.singleton_append,
        splitLast_append hslash, List.dropLast_concat]
  have hnonempty : (s ++ name.text.toList).reverse ≠ [] := by
    rw [List.reverse_append, ← hn]
    exact List.append_ne_nil_of_left_ne_nil hempty _
  have hlength : p.text.toList.length ≠ 0 := by
    intro hzero
    rw [List.length_eq_zero_iff.mp hzero, List.drop_nil] at hp
    exact hnonempty (by rw [← hp]; rfl)
  have hbody : trimEnd p.text.toList.length (s ++ name.text.toList).reverse =
      (s ++ name.text.toList).reverse := by
    apply trimEnd_of_splitLast hlength hnonempty
    · rw [hsplit]
      exact hempty
    · rw [hsplit]
      exact hdot
  rw [parent?_lead]
  simp only [hp, hbody, hsplit]
  rw [if_neg (mt List.isEmpty_iff.mp hnonempty)]

/-- The parent of a file in a directory is the directory, if in another way to write it. -/
theorem exists_parent (dir : Path) {name : Path} (h : name.IsFileName) :
    ∃ d, (dir.join name).parent? = some d ∧ d.parts = dir.parts := by
  have htext := @toList_join dir name h.isAbsolute
  by_cases hempty : dir.text.toList = []
  · have hname : (dir.join name).text.toList = name.text.toList := by
      rw [htext, hempty]
      rfl
    have hzero : leadLength name.text.toList = 0 := by
      refine if_neg ?_
      rintro (hroot | hhere)
      · obtain ⟨t, ht⟩ := List.head?_eq_some_iff.mp hroot
        exact h.single (ht ▸ List.mem_cons_self)
      · rcases startsHere_iff.mp hhere with hdot | ⟨t, ht⟩
        · exact h.notHere hdot
        · exact h.single (ht ▸ List.mem_cons_of_mem _ List.mem_cons_self)
    refine ⟨_, parent?_eq h (.inl rfl) (by rw [hname, hzero]; rfl), ?_⟩
    rw [hname, hzero, List.dropLast_nil, List.reverse_nil, trimEnd_nil, parts, parts, hempty]
    rfl
  · have hlead : leadLength (dir.join name).text.toList = leadLength dir.text.toList := by
      rw [htext, leadLength_separated hempty]
    have hshort := leadLength_le_length dir.text.toList
    have hshort' : leadLength dir.text.toList ≤
        (dir.text.toList ++ separator dir.text.toList).length := by
      rw [List.length_append]
      omega
    refine ⟨_, parent?_eq h (drop_separated hempty (leadLength dir.text.toList)) ?_, ?_⟩
    · rw [hlead, htext, List.drop_append_of_le_length hshort']
    · have htake : (dir.join name).text.toList.take (leadLength dir.text.toList) =
          dir.text.toList.take (leadLength dir.text.toList) := by
        rw [htext, List.append_assoc, List.take_append_of_le_length hshort]
      rw [hlead, htake, parts, String.toList_ofList]
      exact partsOf_parent hempty _

end Path

end PassChain
