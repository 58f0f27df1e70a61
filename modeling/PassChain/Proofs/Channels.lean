import PassChain.Proofs.Changes
import PassChain.Proofs.ConvertedFrames

/-! The pixels of a converted frame, one by one, by the numbers that their channels are. -/
namespace PassChain

/-- A channel of `n` bits as one of `m` bits: its leading bits are repeated below it. -/
def widenChannel (n m v : Nat) : Nat := v * 2 ^ (m - n) + v / 2 ^ (2 * n - m)

/-- A 1555 pixel as a 565 one. -/
def widened565 (w : Nat) : Nat :=
  w / 2 ^ 10 % 2 ^ 5 * 2 ^ 11 + widenChannel 5 6 (w / 2 ^ 5 % 2 ^ 5) * 2 ^ 5 + w % 2 ^ 5

namespace PixelFormat

/-- Blue, green and red of a pixel that is stored as this number. -/
def channels : PixelFormat → Nat → List Nat
  | xrgb8888, w => [w % 2 ^ 8, w / 2 ^ 8 % 2 ^ 8, w / 2 ^ 16 % 2 ^ 8]
  | rgb565, w => [widenChannel 5 8 (w % 2 ^ 5), widenChannel 6 8 (w / 2 ^ 5 % 2 ^ 6),
      widenChannel 5 8 (w / 2 ^ 11 % 2 ^ 5)]
  | xrgb1555, w => [widenChannel 5 8 (w % 2 ^ 5),
      widenChannel 6 8 (widenChannel 5 6 (w / 2 ^ 5 % 2 ^ 5)),
      widenChannel 5 8 (w / 2 ^ 10 % 2 ^ 5)]

/-- The bits of a stored pixel that are part of a channel. -/
def usedBits : PixelFormat → Nat
  | xrgb8888 => 24
  | rgb565 => 16
  | xrgb1555 => 15

end PixelFormat

example : (PixelFormat.rgb565.channels 0x07e0, PixelFormat.xrgb1555.channels 0x83e0) =
    ([0, 255, 0], [0, 255, 0]) := by decide

theorem toNat_expand5 {c : UInt16} (h : c.toNat < 32) :
    (expand5 c).toNat = widenChannel 5 8 c.toNat := by
  have hall : ∀ v : Fin 32, (expand5 (.ofNat v)).toNat = widenChannel 5 8 v := by decide
  have hc := hall ⟨c.toNat, h⟩
  rwa [UInt16.ofNat_toNat] at hc

theorem toNat_expand6 {c : UInt16} (h : c.toNat < 64) :
    (expand6 c).toNat = widenChannel 6 8 c.toNat := by
  have hall : ∀ v : Fin 64, (expand6 (.ofNat v)).toNat = widenChannel 6 8 v := by decide
  have hc := hall ⟨c.toNat, h⟩
  rwa [UInt16.ofNat_toNat] at hc

/-- The lowest bits of a word. -/
theorem toNat_and_mask5 (p : UInt16) : (p &&& 0x1f).toNat = p.toNat % 2 ^ 5 := by
  rw [UInt16.toNat_and]
  exact Nat.and_two_pow_sub_one_eq_mod p.toNat 5

theorem toNat_and_mask6 (p : UInt16) : (p &&& 0x3f).toNat = p.toNat % 2 ^ 6 := by
  rw [UInt16.toNat_and]
  exact Nat.and_two_pow_sub_one_eq_mod p.toNat 6

theorem toNat_shiftRight (p : UInt16) {n : Nat} (hn : n < 16) :
    (p >>> .ofNat n).toNat = p.toNat / 2 ^ n := by
  rw [UInt16.toNat_shiftRight, UInt16.toNat_ofNat', Nat.shiftRight_eq_div_pow,
    Nat.mod_eq_of_lt (a := n) (by omega), Nat.mod_eq_of_lt hn]

theorem toNat_wordOf (lo hi : UInt8) : (wordOf lo hi).toNat = littleEndian [lo, hi] := by
  have hlo : lo.toNat < 2 ^ 8 := lo.toNat_lt
  have hhi : hi.toNat < 2 ^ 8 := hi.toNat_lt
  have hshift : (hi.toUInt16 <<< 8).toNat = hi.toNat <<< 8 := by
    rw [UInt16.toNat_shiftLeft, UInt8.toNat_toUInt16]
    apply Nat.mod_eq_of_lt
    show hi.toNat <<< 8 < 2 ^ 16
    rw [Nat.shiftLeft_eq]
    omega
  rw [wordOf, UInt16.toNat_or, hshift, UInt8.toNat_toUInt16, Nat.or_comm,
    ← Nat.shiftLeft_add_eq_or_of_lt hlo, Nat.shiftLeft_eq]
  simp only [littleEndian]
  omega

/-- A 565 pixel gives its channels, and is opaque. -/
theorem map_bgraOf565 (p : UInt16) :
    (bgraOf565 p).map (·.toNat) = PixelFormat.rgb565.channels p.toNat ++ [255] := by
  have hblue := toNat_and_mask5 p
  have hgreen : (p >>> 5 &&& 0x3f).toNat = p.toNat / 2 ^ 5 % 2 ^ 6 := by
    rw [toNat_and_mask6]
    exact congrArg (· % 2 ^ 6) (toNat_shiftRight p (n := 5) (by decide))
  have hred : (p >>> 11 &&& 0x1f).toNat = p.toNat / 2 ^ 11 % 2 ^ 5 := by
    rw [toNat_and_mask5]
    exact congrArg (· % 2 ^ 5) (toNat_shiftRight p (n := 11) (by decide))
  rw [bgraOf565, List.map_cons, List.map_cons, List.map_cons, toNat_expand5 (by omega),
    toNat_expand6 (by omega), toNat_expand5 (by omega), hblue, hgreen, hred]
  rfl

/-- The green of a 1555 pixel as that of a 565 one. -/
theorem toNat_widenGreen {g : UInt16} (h : g.toNat < 32) :
    (g <<< 1 ||| g >>> 4).toNat = widenChannel 5 6 g.toNat := by
  have hall : ∀ v : Fin 32, ((UInt16.ofNat v) <<< 1 ||| (UInt16.ofNat v) >>> 4).toNat =
      widenChannel 5 6 v := by decide
  have hg := hall ⟨g.toNat, h⟩
  rwa [UInt16.ofNat_toNat] at hg

theorem toNat_shiftLeft {p : UInt16} {n : Nat} (hn : n < 16) (h : p.toNat * 2 ^ n < 2 ^ 16) :
    (p <<< .ofNat n).toNat = p.toNat <<< n := by
  rw [UInt16.toNat_shiftLeft, UInt16.toNat_ofNat', Nat.mod_eq_of_lt (a := n) (by omega),
    Nat.mod_eq_of_lt hn]
  apply Nat.mod_eq_of_lt
  rwa [Nat.shiftLeft_eq]

/-- Widening a pixel widens its green and moves its red. -/
theorem toNat_widen1555 (p : UInt16) : (widen1555 p).toNat = widened565 p.toNat := by
  have hblue := toNat_and_mask5 p
  have hgreen : (p >>> 5 &&& 0x1f).toNat = p.toNat / 2 ^ 5 % 2 ^ 5 := by
    rw [toNat_and_mask5]
    exact congrArg (· % 2 ^ 5) (toNat_shiftRight p (n := 5) (by decide))
  have hred : (p >>> 10 &&& 0x1f).toNat = p.toNat / 2 ^ 10 % 2 ^ 5 := by
    rw [toNat_and_mask5]
    exact congrArg (· % 2 ^ 5) (toNat_shiftRight p (n := 10) (by decide))
  unfold widen1555 widened565
  generalize p >>> 10 &&& 0x1f = r at *
  generalize p >>> 5 &&& 0x1f = g at *
  generalize p &&& 0x1f = b at *
  show (r <<< 11 ||| (g <<< 1 ||| g >>> 4) <<< 5 ||| b).toNat = _
  rw [← hred, ← hgreen, ← hblue]
  have hwide := toNat_widenGreen (g := g) (by omega)
  generalize g <<< 1 ||| g >>> 4 = wide at *
  have hbound : wide.toNat < 2 ^ 6 := by
    rw [hwide, widenChannel]
    omega
  have hfirst : (r <<< 11).toNat = r.toNat <<< 11 :=
    toNat_shiftLeft (n := 11) (by decide) (by omega)
  have hsecond : (wide <<< 5).toNat = wide.toNat <<< 5 :=
    toNat_shiftLeft (n := 5) (by decide) (by omega)
  have hinner : r.toNat <<< 11 ||| wide.toNat <<< 5 = (r.toNat * 2 ^ 6 + wide.toNat) <<< 5 := by
    rw [← Nat.shiftLeft_add_eq_or_of_lt (by rw [Nat.shiftLeft_eq]; omega)]
    simp only [Nat.shiftLeft_eq]
    omega
  rw [UInt16.toNat_or, UInt16.toNat_or, hfirst, hsecond, hinner,
    ← Nat.shiftLeft_add_eq_or_of_lt (by omega), Nat.shiftLeft_eq, hwide]
  omega

/-- The channels of a 1555 pixel are those of the 565 pixel that it is widened to. -/
theorem channels_widened565 (w : Nat) :
    PixelFormat.rgb565.channels (widened565 w) = PixelFormat.xrgb1555.channels w := by
  have hblue : widened565 w % 2 ^ 5 = w % 2 ^ 5 := by
    unfold widened565
    omega
  have hgreen : widened565 w / 2 ^ 5 % 2 ^ 6 = widenChannel 5 6 (w / 2 ^ 5 % 2 ^ 5) := by
    unfold widened565 widenChannel
    omega
  have hred : widened565 w / 2 ^ 11 % 2 ^ 5 = w / 2 ^ 10 % 2 ^ 5 := by
    have hwide : widenChannel 5 6 (w / 2 ^ 5 % 2 ^ 5) < 2 ^ 6 := by
      unfold widenChannel
      omega
    unfold widened565
    generalize widenChannel 5 6 (w / 2 ^ 5 % 2 ^ 5) = wide at *
    omega
  rw [PixelFormat.channels, hblue, hgreen, hred]
  rfl

/-- The bytes that a pixel is converted to are its channels, and it is opaque. -/
theorem PixelFormat.map_bgra {format : PixelFormat} {bytes : List UInt8}
    (h : bytes.length = format.byteSize) :
    (format.bgra bytes).map (·.toNat) = format.channels (littleEndian bytes) ++ [255] := by
  cases format with
  | xrgb8888 =>
    obtain ⟨b, g, r, x, rfl⟩ := List.length_eq_four.mp h
    have hb := b.toNat_lt
    have hg := g.toNat_lt
    have hr := r.toNat_lt
    have hblue : littleEndian [b, g, r, x] % 2 ^ 8 = b.toNat := by
      simp only [littleEndian]
      omega
    have hgreen : littleEndian [b, g, r, x] / 2 ^ 8 % 2 ^ 8 = g.toNat := by
      simp only [littleEndian]
      omega
    have hred : littleEndian [b, g, r, x] / 2 ^ 16 % 2 ^ 8 = r.toNat := by
      simp only [littleEndian]
      omega
    rw [channels, hblue, hgreen, hred]
    rfl
  | rgb565 =>
    obtain ⟨lo, hi, rfl⟩ := List.length_eq_two.mp h
    rw [← toNat_wordOf]
    exact map_bgraOf565 (wordOf lo hi)
  | xrgb1555 =>
    obtain ⟨lo, hi, rfl⟩ := List.length_eq_two.mp h
    have hwide := map_bgraOf565 (widen1555 (wordOf lo hi))
    rw [toNat_widen1555, toNat_wordOf, channels_widened565] at hwide
    exact hwide

namespace Frame

variable {f g : Frame} {x y : Nat}

/-- The number that this pixel is stored as. -/
def word (f : Frame) (x y : Nat) : Nat := littleEndian (f.stored x y)

/-- The frames are of one size and format, and their pixels differ in unused bits at most. -/
structure SameColours (f g : Frame) : Prop where
  size : g.size = f.size
  format : g.format = f.format
  words : ∀ x < f.size.width.toNat, ∀ y < f.size.height.toNat,
    g.word x y % 2 ^ f.format.usedBits = f.word x y % 2 ^ f.format.usedBits

/-- The pixels of one frame are those of the other, widened from 1555 to 565. -/
structure WidensTo (f g : Frame) : Prop where
  size : g.size = f.size
  narrow : f.format = .xrgb1555
  wide : g.format = .rgb565
  words : ∀ x < f.size.width.toNat, ∀ y < f.size.height.toNat, g.word x y = widened565 (f.word x y)

/-- Frames whose pixels have the same channels are converted to the same bytes. -/
theorem converted_eq_of_channels (hf : f.IsWhole) (hg : g.IsWhole) (hsize : g.size = f.size)
    (hchannels : ∀ x < f.size.width.toNat, ∀ y < f.size.height.toNat,
      g.format.channels (g.word x y) = f.format.channels (f.word x y)) :
    g.converted = f.converted := by
  rw [converted_eq, converted_eq, hsize]
  refine List.flatMap_congr fun y hy => List.flatMap_congr fun x hx => ?_
  have hx := List.mem_range.mp hx
  have hy := List.mem_range.mp hy
  have hbytes : (g.format.bgra (g.stored x y)).map (·.toNat) =
      (f.format.bgra (f.stored x y)).map (·.toNat) := by
    rw [PixelFormat.map_bgra (length_stored hg (hsize ▸ hx) (hsize ▸ hy)),
      PixelFormat.map_bgra (length_stored hf hx hy)]
    exact congrArg (· ++ [255]) (hchannels x hx y hy)
  exact List.map_injective_iff.mpr (fun _ _ => UInt8.toNat_inj.mp) hbytes

end Frame

/-- The bits that a number has from `low` on do not depend on those after them. -/
theorem mod_div_two_pow_mod (w : Nat) {low count used : Nat} (h : low + count ≤ used) :
    w % 2 ^ used / 2 ^ low % 2 ^ count = w / 2 ^ low % 2 ^ count := by
  have hsplit : 2 ^ used = 2 ^ low * 2 ^ (used - low) := by
    rw [← Nat.pow_add, Nat.add_sub_cancel' (by omega)]
  rw [hsplit, Nat.mod_mul_right_div_self]
  exact Nat.mod_mod_of_dvd _ (Nat.pow_dvd_pow 2 (by omega))

/-- Unused bits are part of no channel. -/
theorem PixelFormat.channels_mod (format : PixelFormat) (w : Nat) :
    format.channels (w % 2 ^ format.usedBits) = format.channels w := by
  have hlowest (count used : Nat) (h : count ≤ used) : w % 2 ^ used % 2 ^ count = w % 2 ^ count :=
    Nat.mod_mod_of_dvd w (Nat.pow_dvd_pow 2 h)
  cases format with
  | xrgb8888 =>
    simp only [channels, usedBits, hlowest 8 24 (by decide),
      mod_div_two_pow_mod w (show 8 + 8 ≤ 24 by decide),
      mod_div_two_pow_mod w (show 16 + 8 ≤ 24 by decide)]
  | rgb565 =>
    simp only [channels, usedBits, hlowest 5 16 (by decide),
      mod_div_two_pow_mod w (show 5 + 6 ≤ 16 by decide),
      mod_div_two_pow_mod w (show 11 + 5 ≤ 16 by decide)]
  | xrgb1555 =>
    simp only [channels, usedBits, hlowest 5 15 (by decide),
      mod_div_two_pow_mod w (show 5 + 5 ≤ 15 by decide),
      mod_div_two_pow_mod w (show 10 + 5 ≤ 15 by decide)]

namespace Converter

variable {c : Converter} {f : Frame} {rows : List UInt8}

/-- Whatever a converter has converted before: a converted frame has four bytes for each pixel,
which are blue, green and red of the pixel stored at that place, their leading bits repeated where
there are fewer than eight, and an opaque last byte. So nothing but the bits of the channels
matters, and a 1555 frame is converted to what its pixels give as a 565 frame. -/
theorem converted_pixels (h : (c.convert f).1 = .ok rows) :
    rows.length = f.size.width.toNat * f.size.height.toNat * 4 ∧
    (∀ x < f.size.width.toNat, ∀ y < f.size.height.toNat,
      ((rows.drop ((y * f.size.width.toNat + x) * 4)).take 4).map (·.toNat) =
        f.format.channels (f.word x y) ++ [255]) ∧
    (∀ c' : Converter, (c'.convert f).1 = .ok rows) ∧
    (∀ (c' : Converter) (g : Frame) (rows' : List UInt8), (c'.convert g).1 = .ok rows' →
      f.SameColours g → rows' = rows) ∧
    ∀ (c' : Converter) (g : Frame) (rows' : List UInt8), (c'.convert g).1 = .ok rows' →
      f.WidensTo g → rows' = rows := by
  rw [convert_fst] at h
  obtain ⟨hwhole, rfl⟩ := Frame.toBgra_eq_ok h
  refine ⟨Frame.length_converted hwhole, ?_, ?_, ?_, ?_⟩
  · intro x hx y hy
    rw [Frame.converted_pixel hwhole hx hy]
    exact PixelFormat.map_bgra (Frame.length_stored hwhole hx hy)
  · intro c'
    rw [convert_fst]
    exact h
  · intro c' g rows' hg hsame
    rw [convert_fst] at hg
    obtain ⟨hgwhole, rfl⟩ := Frame.toBgra_eq_ok hg
    refine Frame.converted_eq_of_channels hwhole hgwhole hsame.size ?_
    intro x hx y hy
    rw [← PixelFormat.channels_mod, ← PixelFormat.channels_mod f.format, hsame.format,
      hsame.words x hx y hy]
  · intro c' g rows' hg hwide
    rw [convert_fst] at hg
    obtain ⟨hgwhole, rfl⟩ := Frame.toBgra_eq_ok hg
    refine Frame.converted_eq_of_channels hwhole hgwhole hwide.size ?_
    intro x hx y hy
    rw [hwide.wide, hwide.narrow, hwide.words x hx y hy]
    exact channels_widened565 (f.word x y)

end Converter

/-- White and red above green and blue, with one byte between the rows and an unused bit set. -/
def Frame.fourColours : Frame :=
  ⟨[0xff, 0x7f, 0x00, 0x7c, 9, 0xe0, 0x83, 0x1f, 0x00], ⟨2, 2⟩, 5, .xrgb1555⟩

/-- The same in 565, packed tightly. -/
def Frame.fourWideColours : Frame :=
  ⟨[0xff, 0xff, 0x00, 0xf8, 0xe0, 0x07, 0x1f, 0x00], ⟨2, 2⟩, 4, .rgb565⟩

theorem Converter.four_colours :
    let used := (({} : Converter).convert ⟨List.replicate 40 7, ⟨5, 2⟩, 20, .xrgb8888⟩).2
    let rows : List UInt8 := [255, 255, 255, 255, 0, 0, 255, 255, 0, 255, 0, 255, 255, 0, 0, 255]
    (used.convert .fourColours).1 = .ok rows ∧ Frame.fourColours.WidensTo .fourWideColours ∧
      ((rows.drop ((1 * 2 + 0) * 4)).take 4).map (·.toNat) =
        PixelFormat.xrgb1555.channels (Frame.fourColours.word 0 1) ++ [255] ∧
      ∀ (c : Converter) (rows' : List UInt8), (c.convert .fourWideColours).1 = .ok rows' →
        rows' = rows := by
  intro used rows
  have hrows : (used.convert .fourColours).1 = .ok rows := by decide
  have hwide : Frame.fourColours.WidensTo .fourWideColours := ⟨rfl, rfl, rfl, by decide⟩
  obtain ⟨_, hpixels, _, _, hwiden⟩ := Converter.converted_pixels hrows
  exact ⟨hrows, hwide, hpixels 0 (by decide) 1 (by decide),
    fun c rows' h => hwiden c _ rows' h hwide⟩

end PassChain
