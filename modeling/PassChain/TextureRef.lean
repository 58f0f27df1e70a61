import PassChain.History
import PassChain.Text.Digits

/-!
The textures that a program can name. A few words and numbered families have a meaning of their
own; every other name is that of a lookup texture.
-/

namespace PassChain

/-- A texture by what it holds. -/
inductive TextureRef where
  /-- the input of the pass -/
  | source
  /-- the input frame of the chain -/
  | orig
  /-- an earlier input frame, 0 being the last one -/
  | prev (n : Nat)
  /-- the output of a pass, counted from 1 -/
  | pass (n : Nat)
  /-- the output of a pass counted backwards, 1 being the source -/
  | passPrev (n : Nat)
  /-- a lookup texture -/
  | lut (id : String)
deriving DecidableEq, Repr

namespace TextureRef

/-- The number of a family member: the family's stem, then digits of a 64-bit number. -/
def numbered? (stem : String) (name : List Char) : Option Nat := do
  let n ← numberOfDigits? (← after? stem.toList name)
  if n < UInt64.size then some n else none

/-- The texture that a name means. -/
def ofName (name : String) : TextureRef :=
  if name = "source" then source
  else if name = "orig" then orig
  else if name = "prev" then prev 0
  else
    let chars := name.toList
    match (numbered? "prev" chars).filter fun n => 1 ≤ n && n < previousFrames with
    | some n => prev n
    | none => match (numbered? "passprev" chars).filter (1 ≤ ·) with
      | some n => passPrev n
      | none => match (numbered? "pass" chars).filter (1 ≤ ·) with
        | some n => pass n
        | none => lut name

def isLut : TextureRef → Bool
  | lut _ => true
  | _ => false

end TextureRef

end PassChain
