import PassChain.Scale

/-!
Frames as a host submits them, and their conversion to the four-byte pixels of the input
textures: blue, green, red, and an opaque last byte, rows packed tightly.
-/

namespace PassChain

/-- Pixel layouts a host can submit, all stored least significant byte first. -/
inductive PixelFormat where
  /-- four bytes: blue, green, red, unused -/
  | xrgb8888
  /-- two bytes: five bits of red, six of green, five of blue -/
  | rgb565
  /-- two bytes: an unused bit, then five bits each of red, green and blue -/
  | xrgb1555
deriving DecidableEq, Repr

def PixelFormat.byteSize : PixelFormat → Nat
  | xrgb8888 => 4
  | rgb565 | xrgb1555 => 2

/-- A frame in the host's memory: rows of pixels that start `pitch` bytes apart. -/
structure Frame where
  pixels : List UInt8
  size : Size
  pitch : UInt64
  format : PixelFormat

/-- Why a frame cannot be converted. -/
inductive FrameFault where
  | shortPitch (pitch : UInt64) (width : UInt32)
  | shortBuffer (held : Nat) (size : Size) (pitch : UInt64) (needed : Nat)
  /-- 64 bits do not hold the number of bytes that all rows take -/
  | extentOverflow (size : Size) (pitch : UInt64)
  /-- a row that was taken for granted starts or ends outside the buffer -/
  | rowOutside (row : Nat)
deriving DecidableEq, Repr

/-- Whether the program stopped in the middle of the conversion, as opposed to refusing the
frame. -/
def FrameFault.isCrash : FrameFault → Bool
  | extentOverflow .. | rowOutside _ => true
  | shortPitch .. | shortBuffer .. => false

def FrameFault.message : FrameFault → String
  | shortPitch pitch width => s!"pitch {pitch} is shorter than a {width}-pixel row"
  | shortBuffer held size pitch needed =>
    s!"frame buffer holds {held} bytes, {size.text} at pitch {pitch} needs {needed}"
  | extentOverflow size pitch => s!"the size of {size.text} at pitch {pitch} overflows"
  | rowOutside row => s!"row {row} lies outside the frame buffer"

/-- Widens a five-bit channel by repeating its leading bits. -/
def expand5 (c : UInt16) : UInt8 := (c <<< 3 ||| c >>> 2).toUInt8

/-- Widens a six-bit channel by repeating its leading bits. -/
def expand6 (c : UInt16) : UInt8 := (c <<< 2 ||| c >>> 4).toUInt8

def bgraOf565 (p : UInt16) : List UInt8 :=
  [expand5 (p &&& 0x1f), expand6 (p >>> 5 &&& 0x3f), expand5 (p >>> 11 &&& 0x1f), 0xff]

/-- Widens a 1555 pixel to 565, so that both go through one expansion. -/
def widen1555 (p : UInt16) : UInt16 :=
  let r := p >>> 10 &&& 0x1f
  let g := p >>> 5 &&& 0x1f
  let b := p &&& 0x1f
  r <<< 11 ||| (g <<< 1 ||| g >>> 4) <<< 5 ||| b

/-- The sixteen-bit word of two bytes, least significant first. -/
def wordOf (lo hi : UInt8) : UInt16 := lo.toUInt16 ||| hi.toUInt16 <<< 8

/-- The first `n` pixels of a row, converted; nothing if the bytes run out. -/
def PixelFormat.convertRow (format : PixelFormat) : Nat → List UInt8 → Option (List UInt8)
  | 0, _ => some []
  | n + 1, bytes =>
    match format, bytes with
    | xrgb8888, b :: g :: r :: _ :: rest => ([b, g, r, 0xff] ++ ·) <$> format.convertRow n rest
    | rgb565, lo :: hi :: rest => (bgraOf565 (wordOf lo hi) ++ ·) <$> format.convertRow n rest
    | xrgb1555, lo :: hi :: rest =>
      (bgraOf565 (widen1555 (wordOf lo hi)) ++ ·) <$> format.convertRow n rest
    | _, _ => none

/-- What follows the first `n` bytes, if there are so many. -/
def skipBytes : Nat → List UInt8 → Option (List UInt8)
  | 0, bytes => some bytes
  | _ + 1, [] => none
  | n + 1, _ :: rest => skipBytes n rest

/-- Converts `n` rows of `width` pixels, the first starting where `bytes` do. -/
def PixelFormat.convertRows (format : PixelFormat) (width pitch : Nat) :
    Nat → Nat → List UInt8 → Except FrameFault (List UInt8)
  | 0, _, _ => .ok []
  | 1, row, bytes =>
    match format.convertRow width bytes with
    | none => .error (.rowOutside row)
    | some converted => .ok converted
  | n + 2, row, bytes =>
    match format.convertRow width bytes, skipBytes pitch bytes with
    | some converted, some rest =>
      (converted ++ ·) <$> format.convertRows width pitch (n + 1) (row + 1) rest
    | none, _ => .error (.rowOutside row)
    | some _, none => .error (.rowOutside (row + 1))

namespace Frame

/-- Bytes of the visible part of a row. -/
def rowBytes (f : Frame) : UInt64 := f.size.width.toUInt64 * .ofNat f.format.byteSize

/-- Bytes from the start of the first row to the end of the last, however many they are: what
becomes of a number beyond 64 bits is for the conversion to say. -/
def extent (f : Frame) : Nat :=
  if f.size.height = 0 then 0
  else f.pitch.toNat * (f.size.height.toNat - 1) + f.rowBytes.toNat

/-- The converted frame. Rows may overlap in no way: the pitch covers a row, and the buffer all
rows. A pitch of zero is accepted only where rows are empty. The bytes of all rows are counted in
64 bits, and where they do not fit the count itself stops the program, before the buffer is looked
at. -/
def toBgra (f : Frame) : Except FrameFault (List UInt8) :=
  if f.pitch < f.rowBytes then .error (.shortPitch f.pitch f.size.width)
  else if UInt64.size ≤ f.extent then .error (.extentOverflow f.size f.pitch)
  else if f.pixels.length < f.extent then
    .error (.shortBuffer f.pixels.length f.size f.pitch f.extent)
  else if f.pitch = 0 then .ok []
  else f.format.convertRows f.size.width.toNat f.pitch.toNat f.size.height.toNat 0 f.pixels

end Frame

/-- Converts frames one after another, keeping the rows of the last one it accepted. -/
structure Converter where
  staged : List UInt8 := []
deriving DecidableEq, Repr

/-- Converts a frame; a refused frame leaves the converter as it was. -/
def Converter.convert (c : Converter) (f : Frame) : Except FrameFault (List UInt8) × Converter :=
  match f.toBgra with
  | .ok rows => (.ok rows, ⟨rows⟩)
  | .error e => (.error e, c)

end PassChain
