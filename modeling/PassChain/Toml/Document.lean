import PassChain.Toml.Reader

/-!
Reading a whole configuration document, line by line: keys go to the table that the last header
has opened.
-/

namespace PassChain.Toml

open Reader

/-- What a line of a document says. -/
inductive Line where
  | nothing
  | field (path : List String) (v : Value)
  | header (path : List String)
  | elementHeader (path : List String)

/-- A line, to its end. -/
def line (fuel : Nat) : Reader Line := do
  blanks
  match ← get with
  | [] | '#' :: _ | '\n' :: _ | '\r' :: _ => lineEnd; pure .nothing
  | '[' :: '[' :: rest =>
    set rest
    let path ← key
    token "]]"
    lineEnd
    pure (.elementHeader path)
  | '[' :: rest =>
    set rest
    let path ← key
    token "]"
    lineEnd
    pure (.header path)
  | _ =>
    let path ← key
    token "="
    blanks
    let v ← valueAt fuel 0
    lineEnd
    pure (.field path v)

/-- Takes in a line: the fields of the document and the table that is open. -/
def Line.apply (items : Items) (current : List String) : Line → Option (Items × List String)
  | nothing => some (items, current)
  | header path => (items.openTable path).map (·, path)
  | elementHeader path => (items.openElement path).map (·, path)
  | field path v =>
    (Items.atPath false (fun _ inner => inner.insert path v) current false items).map (·, current)

/-- Reads lines to the end of the text. -/
def readLines (fuel : Nat) : Nat → Items → List String → List Char → Option Items
  | 0, _, _, _ => none
  | _, items, _, [] => some items
  | lines + 1, items, current, text => do
    let (l, rest) ← line fuel text
    let (items, current) ← l.apply items current
    readLines fuel lines items current rest

/-- The table that a document holds; a mark of byte order in front is skipped. -/
def parse (text : String) : Option Table :=
  let chars := match text.toList with
    | '\uFEFF' :: rest => rest
    | chars => chars
  (readLines (chars.length + 1) (chars.length + 1) [] [] chars).map fieldsToTable

end PassChain.Toml
