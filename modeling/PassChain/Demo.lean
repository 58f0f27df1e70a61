import PassChain.Scale
import PassChain.Text.Digits

/-!
What the demonstration makes up by itself: its input frames, and the reading of its arguments.
-/

namespace PassChain

/-- The pixel of a frame of the demonstration: a gradient that moves, over a chequered blue. -/
def demoPixel (size : Size) (frame x y : UInt32) : List UInt8 :=
  let r := (x + frame * 8) % 256
  let g := y * 255 / max size.height 1
  let b : UInt8 := if (x / 16 + y / 16 + frame) % 2 = 0 then 0xe0 else 0x20
  [b, g.toUInt8, r.toUInt8, 0xff]

/-- A frame of the demonstration, rows packed tightly. -/
def demoFrame (size : Size) (frame : UInt32) : List UInt8 :=
  (List.range size.height.toNat).flatMap fun y =>
    (List.range size.width.toNat).flatMap fun x => demoPixel size frame (.ofNat x) (.ofNat y)

/-- The value of `--name=value`, the first time that it is given. -/
def argumentValue (name : String) (arguments : List String) : Option String :=
  arguments.findSome? fun argument =>
    (after? s!"--{name}=".toList argument.toList).map String.ofList

end PassChain
