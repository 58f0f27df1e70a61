import Mathlib.Algebra.BigOperators.Group.List.Basic
import Mathlib.Algebra.Group.Action.Defs
import Mathlib.Tactic.NormNum
import Mathlib.Tactic.Ring
import PassChain.Error

/-! Which frames are converted, and to what. -/
namespace PassChain

/-- The four bytes that a pixel is converted to, from the bytes that store it. -/
def PixelFormat.bgra : PixelFormat → List UInt8 → List UInt8
  | xrgb8888, b :: g :: r :: _ => [b, g, r, 0xff]
  | rgb565, lo :: hi :: _ => bgraOf565 (wordOf lo hi)
  | xrgb1555, lo :: hi :: _ => bgraOf565 (widen1555 (wordOf lo hi))
  | _, _ => []

namespace PixelFormat

variable {format : PixelFormat} {bytes : List UInt8}

theorem length_bgra (h : bytes.length = format.byteSize) : (format.bgra bytes).length = 4 := by
  cases format with
  | xrgb8888 =>
    obtain ⟨_, _, _, _, rfl⟩ := List.length_eq_four.mp h
    rfl
  | rgb565 | xrgb1555 =>
    obtain ⟨_, _, rfl⟩ := List.length_eq_two.mp h
    rfl

/-- The pixel whose bytes come `x` pixels after the first of these. -/
def storedAt (format : PixelFormat) (bytes : List UInt8) (x : Nat) : List UInt8 :=
  (bytes.drop (x * format.byteSize)).take format.byteSize

theorem storedAt_succ (x : Nat) :
    format.storedAt bytes (x + 1) = format.storedAt (bytes.drop format.byteSize) x := by
  rw [storedAt, storedAt, List.drop_drop, Nat.succ_mul, Nat.add_comm]

/-- A row of pixels, converted one by one. -/
def rowOf (format : PixelFormat) (width : Nat) (bytes : List UInt8) : List UInt8 :=
  (List.range width).flatMap fun x => format.bgra (format.storedAt bytes x)

theorem rowOf_succ (n : Nat) : format.rowOf (n + 1) bytes =
    format.bgra (bytes.take format.byteSize) ++ format.rowOf n (bytes.drop format.byteSize) := by
  simp only [rowOf, List.range_succ_eq_map, List.flatMap_cons, List.flatMap_map, storedAt_succ]
  simp [storedAt]

/-- The first pixel of a row is converted by itself. -/
theorem convertRow_succ (n : Nat) : format.convertRow (n + 1) bytes =
    if format.byteSize ≤ bytes.length then
      (format.bgra (bytes.take format.byteSize) ++ ·) <$>
        format.convertRow n (bytes.drop format.byteSize)
    else none := by
  cases format with
  | xrgb8888 =>
    match bytes with
    | [] | [_] | [_, _] | [_, _, _] => rfl
    | _ :: _ :: _ :: _ :: rest => simp [convertRow, byteSize, bgra]
  | rgb565 | xrgb1555 =>
    match bytes with
    | [] | [_] => rfl
    | _ :: _ :: rest => simp [convertRow, byteSize, bgra]

/-- A row is converted pixel by pixel, if it has bytes for all of them. -/
theorem convertRow_eq (n : Nat) : format.convertRow n bytes =
    if n * format.byteSize ≤ bytes.length then some (format.rowOf n bytes) else none := by
  induction n generalizing bytes with
  | zero => simp [convertRow, rowOf]
  | succ n ih =>
    rw [convertRow_succ, ih, rowOf_succ, List.length_drop, Nat.succ_mul]
    split
    · rename_i hfirst
      have hrest : n * format.byteSize + format.byteSize ≤ bytes.length ↔
          n * format.byteSize ≤ bytes.length - format.byteSize := by omega
      simp only [hrest]
      split <;> rfl
    · rename_i hfirst
      rw [if_neg (by omega)]

end PixelFormat

theorem skipBytes_eq (n : Nat) (bytes : List UInt8) :
    skipBytes n bytes = if n ≤ bytes.length then some (bytes.drop n) else none := by
  induction n generalizing bytes with
  | zero => simp [skipBytes]
  | succ n ih =>
    cases bytes with
    | nil => rfl
    | cons b rest => simp [skipBytes, ih]

namespace PixelFormat

variable {format : PixelFormat} {width pitch : Nat} {bytes : List UInt8}

/-- Rows of pixels `pitch` bytes apart, converted one by one. -/
def rowsOf (format : PixelFormat) (width pitch height : Nat) (bytes : List UInt8) : List UInt8 :=
  (List.range height).flatMap fun y => format.rowOf width (bytes.drop (y * pitch))

theorem rowsOf_succ (n : Nat) : format.rowsOf width pitch (n + 1) bytes =
    format.rowOf width bytes ++ format.rowsOf width pitch n (bytes.drop pitch) := by
  simp only [rowsOf, List.range_succ_eq_map, List.flatMap_cons, List.flatMap_map, List.drop_drop,
    Nat.zero_mul, List.drop_zero, Nat.succ_eq_add_one, Nat.succ_mul, Nat.add_comm]

/-- Rows are converted one by one if the last of them ends in the buffer. -/
theorem convertRows_eq_ok {format : PixelFormat} {width pitch n : Nat} (row : Nat)
    (h : pitch * n + width * format.byteSize ≤ bytes.length) :
    format.convertRows width pitch (n + 1) row bytes =
      .ok (format.rowsOf width pitch (n + 1) bytes) := by
  induction n generalizing row bytes with
  | zero =>
    have hrow : width * format.byteSize ≤ bytes.length := by omega
    simp [convertRows, convertRow_eq, hrow, rowsOf]
  | succ n ih =>
    rw [Nat.mul_succ] at h
    have hrow : width * format.byteSize ≤ bytes.length := by omega
    have hskip : pitch ≤ bytes.length := by omega
    have hrest : pitch * n + width * format.byteSize ≤ (bytes.drop pitch).length := by
      rw [List.length_drop]
      omega
    have hnext : format.convertRows width pitch (n + 2) row bytes =
        (format.rowOf width bytes ++ ·) <$>
          format.convertRows width pitch (n + 1) (row + 1) (bytes.drop pitch) := by
      simp [convertRows, convertRow_eq, skipBytes_eq, hrow, hskip]
    rw [hnext, ih (row + 1) hrest, rowsOf_succ (n + 1)]
    rfl

end PixelFormat

/-- What `k` bytes after `k` bytes are put together from can be found again. -/
theorem exists_drop_flatMap_range {α : Type} {piece : Nat → List α} {k n i : Nat}
    (hlength : ∀ j < n, (piece j).length = k) (hi : i < n) :
    ∃ rest, ((List.range n).flatMap piece).drop (i * k) = piece i ++ rest := by
  obtain ⟨m, rfl⟩ : ∃ m, n = i + (m + 1) := ⟨n - i - 1, by omega⟩
  have hbefore : ((List.range i).flatMap piece).length = i * k := by
    rw [List.length_flatMap, List.map_congr_left (g := fun _ => k)
      (fun j hj => hlength j (by have := List.mem_range.mp hj; omega))]
    simp
  rw [List.range_add, List.flatMap_append, List.drop_left' hbefore, List.range_succ_eq_map,
    List.map_cons, List.flatMap_cons, Nat.add_zero]
  exact ⟨_, rfl⟩

namespace Frame

variable {f : Frame} {x y : Nat}

/-- The bytes that store the pixels of a row. -/
def rowLength (f : Frame) : Nat := f.size.width.toNat * f.format.byteSize

/-- How many bytes there are up to the end of the last row. -/
def needed (f : Frame) : Nat :=
  if f.size.height = 0 then 0 else f.pitch.toNat * (f.size.height.toNat - 1) + f.rowLength

/-- The frame, converted pixel by pixel. -/
def converted (f : Frame) : List UInt8 :=
  f.format.rowsOf f.size.width.toNat f.pitch.toNat f.size.height.toNat f.pixels

theorem converted_of_rowLength (h : f.rowLength = 0) : f.converted = [] := by
  have hwidth : f.size.width.toNat = 0 := by
    unfold rowLength at h
    cases hf : f.format <;> rw [hf] at h <;> simp only [PixelFormat.byteSize] at h <;> omega
  simp [converted, hwidth, PixelFormat.rowsOf, PixelFormat.rowOf]

theorem rowLength_lt (f : Frame) : f.rowLength < 2 ^ 34 := by
  have hw := f.size.width.toNat_lt
  unfold rowLength
  cases f.format <;> simp only [PixelFormat.byteSize] <;> omega

theorem toNat_rowBytes (f : Frame) : f.rowBytes.toNat = f.rowLength := by
  have hlt := f.rowLength_lt
  unfold rowLength at hlt ⊢
  have hbytes : (UInt64.ofNat f.format.byteSize).toNat = f.format.byteSize := by
    cases f.format <;> rfl
  rw [rowBytes, UInt64.toNat_mul, UInt32.toNat_toUInt64, hbytes]
  exact Nat.mod_eq_of_lt (Nat.lt_trans hlt (by norm_num))

theorem extent_eq (f : Frame) : f.extent = f.needed := by
  rw [extent, needed, toNat_rowBytes]

/-- No row ends later than the last one. -/
theorem rowEnd_le_needed (hy : y < f.size.height.toNat) :
    y * f.pitch.toNat + f.rowLength ≤ f.needed := by
  have hsome : f.size.height ≠ 0 := by
    intro h
    simp [h] at hy
  have hlast : y * f.pitch.toNat ≤ f.pitch.toNat * (f.size.height.toNat - 1) := by
    rw [Nat.mul_comm]
    exact Nat.mul_le_mul_left _ (by omega)
  rw [needed, if_neg hsome]
  omega

/-- A frame is at most twice as long once it is converted. -/
theorem area_le_needed (h : f.rowLength ≤ f.pitch.toNat) :
    f.size.width.toNat * 4 * f.size.height.toNat ≤ 2 * f.needed := by
  cases hheight : f.size.height.toNat with
  | zero => exact Nat.zero_le _
  | succ n =>
    have hend : n * f.pitch.toNat + f.rowLength ≤ f.needed := rowEnd_le_needed (by omega)
    have hrows : n * f.rowLength ≤ n * f.pitch.toNat := Nat.mul_le_mul_left _ h
    have hwidth : f.size.width.toNat * 4 ≤ 2 * f.rowLength := by
      unfold rowLength
      cases f.format <;> simp only [PixelFormat.byteSize] <;> omega
    calc f.size.width.toNat * 4 * (n + 1)
      _ ≤ 2 * f.rowLength * (n + 1) := Nat.mul_le_mul_right _ hwidth
      _ = 2 * (n * f.rowLength + f.rowLength) := by ring
      _ ≤ 2 * f.needed := by omega

/-- What comes of a frame: its pitch is too short, the count of its bytes overflows, its buffer is
too short, or it is converted. -/
theorem toBgra_cases (f : Frame) :
    f.pitch.toNat < f.rowLength ∧ f.toBgra = .error (.shortPitch f.pitch f.size.width) ∨
    f.rowLength ≤ f.pitch.toNat ∧ 2 ^ 64 ≤ f.needed ∧
      f.toBgra = .error (.extentOverflow f.size f.pitch) ∨
    f.rowLength ≤ f.pitch.toNat ∧ f.needed < 2 ^ 64 ∧ f.pixels.length < f.needed ∧
      f.toBgra = .error (.shortBuffer f.pixels.length f.size f.pitch f.needed) ∨
    f.rowLength ≤ f.pitch.toNat ∧ f.needed < 2 ^ 64 ∧ f.needed ≤ f.pixels.length ∧
      f.toBgra = .ok f.converted := by
  have hpitch : f.pitch < f.rowBytes ↔ f.pitch.toNat < f.rowLength := by
    rw [UInt64.lt_iff_toNat_lt, toNat_rowBytes]
  unfold toBgra
  rw [extent_eq]
  by_cases hshort : f.pitch.toNat < f.rowLength
  · exact .inl ⟨hshort, if_pos (hpitch.mpr hshort)⟩
  right
  rw [if_neg (fun h => hshort (hpitch.mp h))]
  have hrow : f.rowLength ≤ f.pitch.toNat := by omega
  by_cases hover : UInt64.size ≤ f.needed
  · exact .inl ⟨hrow, hover, if_pos hover⟩
  right
  rw [if_neg hover]
  have hcount : f.needed < 2 ^ 64 := Nat.not_le.mp hover
  by_cases hheld : f.pixels.length < f.needed
  · exact .inl ⟨hrow, hcount, hheld, if_pos hheld⟩
  right
  rw [if_neg hheld]
  have hfits : f.needed ≤ f.pixels.length := Nat.not_lt.mp hheld
  refine ⟨hrow, hcount, hfits, ?_⟩
  by_cases hzero : f.pitch = 0
  · have hnone : f.rowLength = 0 := by
      rw [hzero] at hrow
      exact Nat.le_zero.mp hrow
    rw [if_pos hzero, converted_of_rowLength hnone]
  rw [if_neg hzero]
  cases hheight : f.size.height.toNat with
  | zero => simp [PixelFormat.convertRows, converted, hheight, PixelFormat.rowsOf]
  | succ n =>
    have hsome : f.size.height ≠ 0 := fun h => by simp [h] at hheight
    rw [needed, if_neg hsome, hheight, Nat.add_sub_cancel] at hfits
    rw [PixelFormat.convertRows_eq_ok 0 hfits, converted, hheight]

/-- The pitch of a frame covers its rows, and its buffer holds all of them. -/
structure IsWhole (f : Frame) : Prop where
  pitch : f.rowLength ≤ f.pitch.toNat
  buffer : f.needed ≤ f.pixels.length

theorem toBgra_eq_ok {rows : List UInt8} (h : f.toBgra = .ok rows) :
    f.IsWhole ∧ rows = f.converted := by
  rcases f.toBgra_cases with ⟨_, h'⟩ | ⟨_, _, h'⟩ | ⟨_, _, _, h'⟩ | ⟨hpitch, _, hfits, h'⟩
  · simp [h] at h'
  · simp [h] at h'
  · simp [h] at h'
  · rw [h] at h'
    exact ⟨⟨hpitch, hfits⟩, Except.ok.inj h'⟩

/-- The bytes that store the pixel in column `x` of row `y`. -/
def stored (f : Frame) (x y : Nat) : List UInt8 :=
  (f.pixels.drop (y * f.pitch.toNat + x * f.format.byteSize)).take f.format.byteSize

theorem length_stored (h : f.IsWhole) (hx : x < f.size.width.toNat) (hy : y < f.size.height.toNat) :
    (f.stored x y).length = f.format.byteSize := by
  have hend := Nat.le_trans (rowEnd_le_needed hy) h.buffer
  have hlast : (x + 1) * f.format.byteSize ≤ f.rowLength := Nat.mul_le_mul_right _ hx
  rw [Nat.succ_mul] at hlast
  rw [stored, List.length_take, List.length_drop]
  omega

/-- A frame is converted pixel by pixel. -/
theorem converted_eq (f : Frame) : f.converted =
    (List.range f.size.height.toNat).flatMap fun y =>
      (List.range f.size.width.toNat).flatMap fun x => f.format.bgra (f.stored x y) := by
  simp only [converted, PixelFormat.rowsOf, PixelFormat.rowOf, PixelFormat.storedAt, stored,
    List.drop_drop]

theorem length_row (h : f.IsWhole) (hy : y < f.size.height.toNat) :
    ((List.range f.size.width.toNat).flatMap fun x => f.format.bgra (f.stored x y)).length =
      f.size.width.toNat * 4 := by
  rw [List.length_flatMap, List.map_congr_left (g := fun _ => 4)
    (fun x hx => PixelFormat.length_bgra (length_stored h (List.mem_range.mp hx) hy))]
  simp

theorem length_converted (h : f.IsWhole) :
    f.converted.length = f.size.width.toNat * f.size.height.toNat * 4 := by
  rw [converted_eq, List.length_flatMap, List.map_congr_left (g := fun _ => f.size.width.toNat * 4)
    (fun y hy => length_row h (List.mem_range.mp hy))]
  simp only [List.map_const', List.length_range, List.sum_replicate, smul_eq_mul]
  ring

theorem length_toBgra {rows : List UInt8} (h : f.toBgra = .ok rows) :
    rows.length = f.size.width.toNat * f.size.height.toNat * 4 := by
  obtain ⟨hwhole, rfl⟩ := toBgra_eq_ok h
  exact length_converted hwhole

/-- Four bytes of a converted frame are the pixel that its rows have at that place. -/
theorem converted_pixel (h : f.IsWhole) (hx : x < f.size.width.toNat)
    (hy : y < f.size.height.toNat) :
    (f.converted.drop ((y * f.size.width.toNat + x) * 4)).take 4 =
      f.format.bgra (f.stored x y) := by
  obtain ⟨later, hrow⟩ := exists_drop_flatMap_range (fun y hy => length_row h hy) hy
  obtain ⟨rest, hpixel⟩ := exists_drop_flatMap_range
    (fun x hx => PixelFormat.length_bgra (length_stored h hx hy)) hx
  have hbefore : x * 4 ≤ f.size.width.toNat * 4 := Nat.mul_le_mul_right _ (Nat.le_of_lt hx)
  rw [converted_eq, Nat.add_mul, Nat.mul_assoc, ← List.drop_drop, hrow,
    List.drop_append_of_le_length (by rw [length_row h hy]; exact hbefore), hpixel,
    List.append_assoc]
  exact List.take_left' (PixelFormat.length_bgra (length_stored h hx hy))

end Frame

namespace Converter

theorem convert_fst (c : Converter) (f : Frame) : (c.convert f).1 = f.toBgra := by
  unfold convert
  cases f.toBgra <;> rfl

/-- A frame is converted if its rows fit its pitch and all of them its buffer, and only then; it is
refused if they do not. But if the count of the bytes that it needs exceeds 64 bits, which is more
than any buffer holds that can be addressed, the conversion crashes in place of a refusal. On the
way to a converted frame nothing exceeds 64 bits, and no row ends outside of the buffer. -/
theorem accepts_exactly (c : Converter) (f : Frame) :
    let row := f.size.width.toNat * f.format.byteSize
    let needed := if f.size.height = 0 then 0
      else f.pitch.toNat * (f.size.height.toNat - 1) + row
    let held := f.pixels.length
    ((∃ rows, (c.convert f).1 = .ok rows) ↔
      row ≤ f.pitch.toNat ∧ needed ≤ held ∧ needed < 2 ^ 64) ∧
    ((∃ e, (c.convert f).1 = .error e ∧ e.isCrash = false ∧ (Error.frame e).kind = .config) ↔
      f.pitch.toNat < row ∨ held < needed ∧ needed < 2 ^ 64) ∧
    ((∃ e, (c.convert f).1 = .error e ∧ e.isCrash = true) ↔
      row ≤ f.pitch.toNat ∧ 2 ^ 64 ≤ needed) ∧
    ((∃ rows, (c.convert f).1 = .ok rows) → held < 2 ^ 63 →
      (∀ y < f.size.height.toNat, y * f.pitch.toNat + row ≤ held) ∧
        f.size.width.toNat * 4 * f.size.height.toNat < 2 ^ 64) := by
  intro row needed held
  have hrow : row = f.rowLength := rfl
  have hneeded : needed = f.needed := rfl
  have hheld : held = f.pixels.length := rfl
  have hsizes (hpitch : f.rowLength ≤ f.pitch.toNat) (hfits : f.needed ≤ held)
      (hbuffer : held < 2 ^ 63) : (∀ y < f.size.height.toNat, y * f.pitch.toNat + row ≤ held) ∧
        f.size.width.toNat * 4 * f.size.height.toNat < 2 ^ 64 := by
    have harea := Frame.area_le_needed hpitch
    exact ⟨fun y hy => Nat.le_trans (Frame.rowEnd_le_needed hy) hfits, by omega⟩
  have hlength := f.rowLength_lt
  have hsmall : f.pitch.toNat < 2 ^ 64 := f.pitch.toNat_lt
  rw [convert_fst]
  rcases f.toBgra_cases with ⟨hpitch, h⟩ | ⟨hpitch, hover, h⟩ | ⟨hpitch, hcount, hshort, h⟩ |
    ⟨hpitch, hcount, hfits, h⟩
  · refine ⟨?_, ?_, ?_, ?_⟩ <;> simp [h, FrameFault.isCrash, Error.kind] <;> omega
  · refine ⟨?_, ?_, ?_, ?_⟩ <;> simp [h, FrameFault.isCrash, Error.kind] <;> omega
  · refine ⟨?_, ?_, ?_, ?_⟩ <;> simp [h, FrameFault.isCrash, Error.kind] <;> omega
  · refine ⟨?_, ?_, ?_, fun _ => hsizes hpitch hfits⟩ <;> simp [h] <;> omega

/-- A buffer of one pixel for three, at a pitch that makes the count overflow: it is not refused. -/
theorem overflowing_count_crashes :
    let f : Frame := ⟨[1, 2, 3, 4], ⟨1, 3⟩, 0x8000000000000000, .xrgb8888⟩
    f.pixels.length < f.pitch.toNat * (f.size.height.toNat - 1) + 1 * 4 ∧
      ∃ e, (({} : Converter).convert f).1 = .error e ∧ e.isCrash = true :=
  ⟨by decide, .extentOverflow ⟨1, 3⟩ 0x8000000000000000, by decide, rfl⟩

end Converter

end PassChain
