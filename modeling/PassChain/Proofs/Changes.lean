import Mathlib.Data.List.Forall2
import PassChain.Tracking

/-! What tracked variables report, by the values they have had at all refreshes so far. -/

namespace PassChain

/-- The number that some bytes write out, least significant byte first. -/
def littleEndian : List UInt8 → Nat
  | [] => 0
  | byte :: rest => byte.toNat + 256 * littleEndian rest

/-- The refreshes up to the `t`-th that found another value than the one before them. The first
refresh is number 0. -/
def changes (value : Nat → Nat) (t : Nat) : List Nat :=
  (List.range' 1 t).filter fun i => value i ≠ value (i - 1)

theorem changes_succ (value : Nat → Nat) (t : Nat) : changes value (t + 1) =
    if value (t + 1) = value t then changes value t else changes value t ++ [t + 1] := by
  rw [changes, List.range'_1_concat, List.filter_append, Nat.add_comm 1 t]
  by_cases h : value (t + 1) = value t <;> simp [changes, h]

example : changes (fun i => [0, 5, 5, 7].getD i 0) 3 = [1, 3] := by decide

/-- What a variable of this kind is to report after refresh `t`, where `value i` is its value and
`frame i` the number of the frame at refresh `i`. -/
def VariableKind.reported (frame value : Nat → Nat) (t : Nat) : VariableKind → Nat
  | capture => value t
  | capturePrev => value (t - 1)
  | transition => ((changes value t).reverse[0]?.map frame).getD 0
  | transitionCount => (changes value t).length
  | transitionPrev => ((changes value t).reverse[1]?.map frame).getD 0

namespace Variable

variable {v : Variable} {memory : List UInt8}

/-- Where the bytes of a variable lie. -/
def addresses (v : Variable) : List Nat :=
  List.range' v.address.toNat v.width.byteSize

/-- The bytes of a variable, none if one of them lies outside memory. -/
def bytesIn? (v : Variable) (memory : List UInt8) : Option (List UInt8) :=
  v.addresses.mapM (memory[·]?)

/-- The value that a variable makes of its bytes. -/
def valueOf (v : Variable) (bytes : List UInt8) : Nat :=
  let masked :=
    if v.mask ≠ 0 then littleEndian bytes &&& v.mask.toNat else littleEndian bytes
  if v.equal ≠ 0 then if masked = v.equal.toNat then 1 else 0 else masked

/-- The value of a variable, none if it reaches outside memory. -/
def valueIn? (v : Variable) (memory : List UInt8) : Option Nat :=
  (v.bytesIn? memory).map v.valueOf

/-- The variable lies inside a memory of this size. -/
def Fits (v : Variable) (memorySize : Nat) : Prop :=
  v.address.toNat + v.width.byteSize ≤ memorySize

/-- Two bytes put together in a word. -/
theorem toNat_bytes_or (lo hi : UInt8) :
    (lo.toUInt32 ||| hi.toUInt32 <<< 8).toNat = lo.toNat + 256 * hi.toNat := by
  have hlo : lo.toNat < 2 ^ 8 := lo.toNat_lt
  have hhi : hi.toNat < 2 ^ 8 := hi.toNat_lt
  have hshift : (hi.toUInt32 <<< 8).toNat = hi.toNat <<< 8 := by
    rw [UInt32.toNat_shiftLeft, UInt8.toNat_toUInt32]
    apply Nat.mod_eq_of_lt
    show hi.toNat <<< 8 < 2 ^ 32
    rw [Nat.shiftLeft_eq]
    omega
  rw [UInt32.toNat_or, hshift, UInt8.toNat_toUInt32, Nat.or_comm,
    ← Nat.shiftLeft_add_eq_or_of_lt hlo, Nat.shiftLeft_eq]
  omega

/-- A variable inside memory reads its own bytes. -/
theorem bytesIn?_eq_some (h : v.Fits memory.length) :
    ∃ bytes, v.bytesIn? memory = some bytes ∧ (v.raw memory).toNat = littleEndian bytes := by
  unfold Fits at h
  unfold bytesIn? addresses raw
  cases hw : v.width with
  | u8 =>
    simp only [hw, VariableWidth.byteSize] at h ⊢
    have hlo : v.address.toNat < memory.length := by omega
    exact ⟨[memory[v.address.toNat]], by simp [List.range', hlo], by simp [littleEndian, hlo]⟩
  | u16 =>
    simp only [hw, VariableWidth.byteSize] at h ⊢
    have hlo : v.address.toNat < memory.length := by omega
    have hhi : v.address.toNat + 1 < memory.length := by omega
    refine ⟨[memory[v.address.toNat], memory[v.address.toNat + 1]],
      by simp [List.range', hlo, hhi], ?_⟩
    simp only [List.getElem?_eq_getElem hlo, List.getElem?_eq_getElem hhi, Option.getD_some]
    exact toNat_bytes_or _ _

/-- The value read is the value that the variable makes of the bytes read. -/
theorem read_toNat {bytes : List UInt8} (h : (v.raw memory).toNat = littleEndian bytes) :
    (v.read memory).toNat = v.valueOf bytes := by
  have hmasked : (if v.mask ≠ 0 then v.raw memory &&& v.mask else v.raw memory).toNat =
      if v.mask ≠ 0 then littleEndian bytes &&& v.mask.toNat else littleEndian bytes := by
    rw [apply_ite UInt32.toNat, UInt32.toNat_and, h]
  simp only [read, valueOf, ← hmasked, UInt32.toNat_inj]
  by_cases hequal : v.equal ≠ 0
  · rw [if_pos hequal, if_pos hequal, apply_ite UInt32.toNat]
    rfl
  · rw [if_neg hequal, if_neg hequal]

theorem valueIn?_eq_some (h : v.Fits memory.length) :
    v.valueIn? memory = some (v.read memory).toNat := by
  obtain ⟨bytes, hbytes, hraw⟩ := bytesIn?_eq_some h
  rw [valueIn?, hbytes, Option.map_some, read_toNat hraw]

end Variable

namespace VariableState

variable {s : VariableState} {frame value : Nat → Nat} {t : Nat}

/-- What is remembered of a variable tells what it is to report, whatever kind it is. -/
structure Follows (s : VariableState) (frame value : Nat → Nat) (t : Nat) : Prop where
  seen : s.seen = true
  report : ∀ kind, s.report kind = kind.reported frame value t

theorem observe_first {word : UInt32} (hword : word.toNat = value 0) :
    (({} : VariableState).observe (frame 0) word).Follows frame value 0 := by
  refine ⟨rfl, ?_⟩
  rintro (_ | _ | _ | _ | _)
  · exact hword
  · exact hword
  all_goals rfl

/-- Only the last two changes are remembered, but this is enough to tell the last two from then
on: a change makes the last one the second last one. -/
theorem Follows.observe (h : s.Follows frame value t) {word : UInt32}
    (hword : word.toNat = value (t + 1)) :
    (s.observe (frame (t + 1)) word).Follows frame value (t + 1) := by
  have hlast : s.last.toNat = value t := h.report .capture
  have hat : s.transition = ((changes value t).reverse[0]?.map frame).getD 0 := h.report .transition
  have hcount : s.transitionCount = (changes value t).length := h.report .transitionCount
  have hbefore : s.transitionPrev = ((changes value t).reverse[1]?.map frame).getD 0 :=
    h.report .transitionPrev
  have hchange : value (t + 1) = value t ↔ word = s.last := by
    rw [← hword, ← hlast, UInt32.toNat_inj]
  by_cases hsame : word = s.last
  · have hstill : changes value (t + 1) = changes value t := by
      rw [changes_succ, if_pos (hchange.mpr hsame)]
    rw [VariableState.observe, if_pos h.seen, if_pos hsame]
    refine ⟨h.seen, ?_⟩
    rintro (_ | _ | _ | _ | _)
    · exact hlast.trans (hchange.mpr hsame).symm
    · exact hlast
    · exact hat.trans (by rw [VariableKind.reported, hstill])
    · exact hcount.trans (by rw [VariableKind.reported, hstill])
    · exact hbefore.trans (by rw [VariableKind.reported, hstill])
  · have hmore : changes value (t + 1) = changes value t ++ [t + 1] := by
      rw [changes_succ, if_neg (mt hchange.mp hsame)]
    rw [VariableState.observe, if_pos h.seen, if_neg hsame]
    refine ⟨h.seen, ?_⟩
    rintro (_ | _ | _ | _ | _)
    · exact hword
    · exact hlast
    · simp [VariableState.report, VariableKind.reported, hmore]
    · simp [VariableState.report, VariableKind.reported, hmore, hcount]
    · simp [VariableState.report, VariableKind.reported, hmore, hat]

end VariableState

namespace MemoryTracker

variable {m : MemoryTracker} {memory₀ : List UInt8} {vars : List Variable} {frame : Nat → Nat}
  {memory : Nat → List UInt8} {t : Nat}

theorem checkBounds_eq_ok_iff {size : Nat} :
    checkBounds size vars = .ok () ↔ ∀ v ∈ vars, v.Fits size := by
  induction vars with
  | nil => simp [checkBounds]
  | cons v vars ih =>
    rw [checkBounds, List.forall_mem_cons, ← ih]
    by_cases h : v.address.toNat + v.width.byteSize ≤ size <;> simp [h, Variable.Fits]

/-- Variables are tracked in a memory if and only if they lie inside it. -/
theorem start_eq_ok_iff : start memory₀ vars = .ok m ↔
    (∀ v ∈ vars, v.Fits memory₀.length) ∧ m = ⟨memory₀, vars.map fun v => (v, {})⟩ := by
  rw [← checkBounds_eq_ok_iff, start]
  cases checkBounds memory₀.length vars with
  | error e => simp [bind, Except.bind]
  | ok u => simp [bind, Except.bind, pure, Except.pure, eq_comm]

/-- What a tracker returns at refresh `t` and how it is left, if memory has become `memory i` by
refresh `i`, which is for the frame of number `frame i`. -/
def refreshes (m : MemoryTracker) (frame : Nat → Nat) (memory : Nat → List UInt8) :
    Nat → List TrackedValue × MemoryTracker
  | 0 => { m with memory := memory 0 }.refresh (frame 0)
  | t + 1 =>
    { (m.refreshes frame memory t).2 with memory := memory (t + 1) }.refresh (frame (t + 1))

/-- The unrounded numbers that a tracker has for its variables. -/
def reports (m : MemoryTracker) : List (String × Nat) :=
  m.vars.map fun (v, s) => (v.id, s.report v.kind)

theorem refresh_fst (n : Nat) : (m.refresh n).1 =
    (m.refresh n).2.reports.map fun (id, report) => ⟨id, .ofNat report⟩ := by
  simp [refresh, reports]

/-- What is shown are the unrounded numbers, rounded. -/
theorem refreshes_fst : (m.refreshes frame memory t).1 =
    (m.refreshes frame memory t).2.reports.map fun (id, report) => ⟨id, .ofNat report⟩ := by
  cases t <;> exact refresh_fst _

/-- Each variable follows what it reads itself, whatever the others do. -/
theorem refreshes_vars (hm : m.vars = vars.map fun v => (v, {})) :
    List.Forall₂
      (fun v p => p.1 = v ∧ p.2.Follows frame (fun i => (v.read (memory i)).toNat) t)
      vars (m.refreshes frame memory t).2.vars := by
  induction t with
  | zero =>
    simp only [refreshes, refresh, hm, List.forall₂_map_right_iff]
    rw [List.forall₂_same]
    intro v _
    exact ⟨rfl, VariableState.observe_first rfl⟩
  | succ t ih =>
    simp only [refreshes, refresh, List.forall₂_map_right_iff]
    refine ih.imp ?_
    rintro v ⟨w, s⟩ ⟨rfl, hs⟩
    exact ⟨rfl, hs.observe rfl⟩

theorem refreshes_reports (hm : m.vars = vars.map fun v => (v, {})) :
    (m.refreshes frame memory t).2.reports = vars.map fun v =>
      (v.id, v.kind.reported frame (fun i => (v.read (memory i)).toNat) t) := by
  rw [reports, ← List.forall₂_eq_eq_eq, List.forall₂_map_left_iff, List.forall₂_map_right_iff]
  refine List.Forall₂.flip ((refreshes_vars hm).imp ?_)
  rintro v ⟨w, s⟩ ⟨rfl, hs⟩
  exact Prod.ext rfl (hs.report _)

/-- Variables that lie inside memory have a value at each refresh, and a tracker reports them in
order, each by the history of its own value: this value, the one before it, the number of changes,
and the frames of the last change and of the one before that. -/
theorem reports_follow_changes (h : start memory₀ vars = .ok m)
    (hlength : ∀ i, (memory i).length = memory₀.length) :
    ∃ value : Variable → Nat → Nat,
      (∀ v ∈ vars, ∀ i, v.valueIn? (memory i) = some (value v i)) ∧
        ∀ t, (m.refreshes frame memory t).2.reports =
            vars.map (fun v => (v.id, v.kind.reported frame (value v) t)) ∧
          (m.refreshes frame memory t).1 =
            vars.map fun v => ⟨v.id, .ofNat (v.kind.reported frame (value v) t)⟩ := by
  obtain ⟨hfits, rfl⟩ := start_eq_ok_iff.mp h
  refine ⟨fun v i => (v.read (memory i)).toNat, ?_, ?_⟩
  · intro v hv i
    apply Variable.valueIn?_eq_some
    rw [hlength]
    exact hfits v hv
  · intro t
    refine ⟨refreshes_reports rfl, ?_⟩
    rw [refreshes_fst, refreshes_reports rfl, List.map_map]
    rfl

/-- A counter in one byte, and in two bytes of which the mask leaves the lower one. -/
theorem reports_of_counter :
    let vars : List Variable := [⟨"count", .transitionCount, 1, .u8, 0, 0⟩,
      ⟨"before", .transitionPrev, 1, .u16, 0xff, 0⟩]
    let memory (i : Nat) : List UInt8 := [0, .ofNat (i / 2), 1]
    ∃ m, start [0, 0, 0] vars = .ok m ∧ (∀ i, (memory i).length = 3) ∧
      ∃ value : Variable → Nat → Nat,
        (∀ v ∈ vars, ∀ i, v.valueIn? (memory i) = some (value v i)) ∧
          ∀ t, (m.refreshes (10 * ·) memory t).2.reports =
              vars.map (fun v => (v.id, v.kind.reported (10 * ·) (value v) t)) ∧
            (m.refreshes (10 * ·) memory t).1 =
              vars.map fun v => ⟨v.id, .ofNat (v.kind.reported (10 * ·) (value v) t)⟩ := by
  intro vars memory
  have hm : start [0, 0, 0] vars = .ok _ := rfl
  exact ⟨_, hm, fun _ => rfl, reports_follow_changes hm fun _ => rfl⟩

end MemoryTracker
end PassChain
