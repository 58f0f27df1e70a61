import PassChain.Toml.Value

/-!
Writing configuration documents. Every table writes its plain fields first, then, under headers
of their own, its tables and arrays of tables.
-/

namespace PassChain.Toml

inductive TextStyle where
  /-- in double quotes, with escapes -/
  | basic
  /-- in single quotes, as it is -/
  | literal
  /-- in three double quotes, with escapes but for line ends -/
  | multilineBasic
  /-- in three single quotes, as it is -/
  | multilineLiteral
deriving DecidableEq

def longestRun (c : Char) : Nat → List Char → Nat
  | run, [] => run
  | run, d :: rest => if d = c then longestRun c (run + 1) rest else max run (longestRun c 0 rest)

/-- Controls that can only be written as escapes. -/
def needsEscape (c : Char) : Bool :=
  (c.toNat < 32 || c.toNat = 127) && c ≠ '\t' && c ≠ '\n'

/-- The plainest way to write a string. -/
def TextStyle.choose (text : List Char) : TextStyle :=
  let controls := text.any needsEscape
  let backslash := text.contains '\\'
  let lines := text.contains '\n'
  let doubles := longestRun '"' 0 text
  let singles := longestRun '\'' 0 text
  if !controls && !backslash && !lines && doubles = 0 then basic
  else if !controls && !lines && singles = 0 then literal
  else if !controls && !backslash && doubles ≤ 2 then multilineBasic
  else if !controls && singles ≤ 2 then multilineLiteral
  else if lines then multilineBasic
  else basic

/-- Exactly four hexadecimal digits. -/
def fourDigits (n : Nat) : List Char :=
  let digits := (Nat.toDigits 16 n).map Char.toUpper
  List.replicate (4 - digits.length) '0' ++ digits

/-- The inside of a string with escapes. On one line every double quote is escaped; on several
lines only a third one in a row is. -/
def escapedBody (lines : Bool) : Nat → List Char → List Char
  | _, [] => []
  | quotes, c :: rest =>
    if c = '"' then
      if quotes + 1 ≤ (if lines then 2 else 0) then '"' :: escapedBody lines (quotes + 1) rest
      else '\\' :: '"' :: escapedBody lines 0 rest
    else
      let written := match c with
        | '\x08' => ['\\', 'b']
        | '\t' => ['\\', 't']
        | '\n' => if lines then ['\n'] else ['\\', 'n']
        | '\x0c' => ['\\', 'f']
        | '\r' => ['\\', 'r']
        | '\\' => ['\\', '\\']
        | _ => if needsEscape c then '\\' :: 'u' :: fourDigits c.toNat else [c]
      written ++ escapedBody lines 0 rest

/-- A string. A string of several lines starts on a line of its own. -/
def textRepr (text : String) : String :=
  let chars := text.toList
  let opening (quotes : String) := quotes ++ if chars.contains '\n' then "\n" else ""
  match TextStyle.choose chars with
  | .basic => "\"" ++ .ofList (escapedBody false 0 chars) ++ "\""
  | .literal => "'" ++ text ++ "'"
  | .multilineBasic => opening "\"\"\"" ++ .ofList (escapedBody true 0 chars) ++ "\"\"\""
  | .multilineLiteral => opening "'''" ++ text ++ "'''"

def keyRepr (name : String) : String :=
  let bare (c : Char) : Bool := c.isAlphanum || c = '_' || c = '-'
  if name ≠ "" ∧ name.toList.all bare then name
  else "\"" ++ .ofList (escapedBody false 0 name.toList) ++ "\""

mutual

/-- A value on one line, or on as many as its strings need. -/
def Value.repr : Value → String
  | .text t => textRepr t
  | .integer n => toString n
  | .float x => x.documentText
  | .boolean b => toString b
  | .moment => "1970-01-01"
  | .array elements => "[" ++ reprElements elements ++ "]"
  | .table [] => "\x7b\x7d"
  | .table fields => "\x7b " ++ reprFields fields ++ " \x7d"

/-- The elements of an array. -/
def reprElements : List Value → String
  | [] => ""
  | [v] => v.repr
  | v :: rest => v.repr ++ ", " ++ reprElements rest

/-- The fields of a table that is written as a value. -/
def reprFields : List (String × Value) → String
  | [] => ""
  | [(name, v)] => keyRepr name ++ " = " ++ v.repr
  | (name, v) :: rest => keyRepr name ++ " = " ++ v.repr ++ ", " ++ reprFields rest

end

def Value.isTable : Value → Bool
  | .table _ => true
  | _ => false

/-- Whether a field gets a header of its own: tables, and arrays of nothing but tables. -/
def Value.hasHeader : Value → Bool
  | .table _ => true
  | .array elements => !elements.isEmpty && elements.all Value.isTable
  | _ => false

/-- The fields of a table that stand below its own header, a line each. -/
def plainLines (fields : Table) : List String :=
  (fields.filter fun field => !field.2.hasHeader).map fun (name, v) =>
    keyRepr name ++ " = " ++ v.repr

mutual

/-- The sections of a document that a field makes up: each a header and its lines. A table that
only holds tables needs no header. -/
def Value.sections (path : String) : Value → List (List String)
  | .table fields =>
    let lines := plainLines fields
    let own := if lines.isEmpty && !fields.isEmpty then [] else [s!"[{path}]" :: lines]
    own ++ fieldSections path fields
  | .array elements => elementSections path elements
  | _ => []

/-- The sections of the elements of an array of tables. -/
def elementSections (path : String) : List Value → List (List String)
  | [] => []
  | .table fields :: rest =>
    [s!"[[{path}]]" :: plainLines fields] ++ fieldSections path fields ++ elementSections path rest
  | _ :: rest => elementSections path rest

/-- The sections of all fields of a table. -/
def fieldSections (path : String) : List (String × Value) → List (List String)
  | [] => []
  | (name, v) :: rest =>
    let inner := if path = "" then keyRepr name else path ++ "." ++ keyRepr name
    (if v.hasHeader then v.sections inner else []) ++ fieldSections path rest

end

/-- The document that holds a table: its sections, with a blank line between them. -/
def print (fields : Table) : String :=
  let lines := plainLines fields
  let sections := (if lines.isEmpty then [] else [lines]) ++ fieldSections "" fields
  let block (ls : List String) : String := .join (ls.map (· ++ "\n"))
  "\n".intercalate (sections.map block)

end PassChain.Toml
