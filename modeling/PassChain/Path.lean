/-!
File paths, as text with `/` between the names. Joining and taking the parent work on the text
alone; no file is looked at.
-/

namespace PassChain

/-- A path as it is written. -/
structure Path where
  text : String
deriving DecidableEq, Repr, Inhabited

namespace Path

def isAbsolute (p : Path) : Bool := p.text.toList.head? == some '/'

/-- What must stand between a base and a path that is joined to it. -/
def separator (base : List Char) : List Char :=
  if base.isEmpty || base.getLast? == some '/' then [] else ['/']

/-- The path as seen from a base. -/
def join (base p : Path) : Path :=
  if p.isAbsolute then p
  else ⟨.ofList (base.text.toList ++ separator base.text.toList ++ p.text.toList)⟩

/-- A path that depends on a base, as seen from `base`; others stay. -/
def resolveAgainst (base p : Path) : Path := if p.isAbsolute then p else base.join p

/-- Splits a reversed text at its first `/`: the last name, reversed, and what stands before it. -/
def splitLast : List Char → List Char × List Char
  | [] => ([], [])
  | '/' :: rest => ([], rest)
  | c :: rest => let (name, before) := splitLast rest; (c :: name, before)

/-- Drops empty names and `.` from the end of a reversed text. -/
def trimEnd : Nat → List Char → List Char
  | 0, text => text
  | fuel + 1, text =>
    let (name, before) := splitLast text
    if text.isEmpty then []
    else if name = [] ∨ name = ['.'] then trimEnd fuel before
    else text

/-- The path without its last name; empty names and `.` at the end do not count. A path without
a name has no parent, except that the parent of `.` is the empty path. -/
def parent? (p : Path) : Option Path :=
  let text := p.text.toList
  let headLength := match text with
    | '/' :: _ | ['.'] | '.' :: '/' :: _ => 1
    | _ => 0
  let head := text.take headLength
  let body := trimEnd text.length (text.drop headLength).reverse
  if body.isEmpty then if head = ['.'] then some ⟨""⟩ else none
  else some ⟨.ofList (head ++ (trimEnd text.length (splitLast body).2).reverse)⟩

end Path

end PassChain
