import PassChain.Number.Double

/-!
The values of a configuration document, apart from how they are written.
-/

namespace PassChain.Toml

/-- A value. The fields of a table are in the order in which they are written. -/
inductive Value where
  | text (text : String)
  | integer (n : Int)
  | float (x : Double)
  | boolean (b : Bool)
  /-- a date, a time or both, of which nothing is kept -/
  | moment
  | array (elements : List Value)
  | table (fields : List (String × Value))
deriving Inhabited

/-- The fields of a table. -/
abbrev Table := List (String × Value)

/-- A structure as a document may write it: a table of named fields, or an array of fields in
their order. A moment passes for a table without any field that has a meaning. -/
inductive Record where
  | named (fields : Table)
  | positional (elements : List Value)

/-- The value as a structure. -/
def Value.record? : Value → Option Record
  | table fields => some (.named fields)
  | array elements => some (.positional elements)
  | moment => some (.named [])
  | _ => none

namespace Record

/-- The field of this name at this position. -/
def field? (r : Record) (index : Nat) (name : String) : Option Value :=
  match r with
  | named fields => fields.lookup name
  | positional elements => elements[index]?

/-- A field that must be there. -/
def required {α : Type} (r : Record) (index : Nat) (name : String) (read : Value → Option α) :
    Option α :=
  (r.field? index name).bind read

/-- A field that may be left out. -/
def optional {α : Type} (r : Record) (index : Nat) (name : String) (read : Value → Option α)
    (default : α) : Option α :=
  match r.field? index name with
  | none => some default
  | some v => read v

end Record

namespace Value

def text? : Value → Option String
  | text t => some t
  | _ => none

def boolean? : Value → Option Bool
  | boolean b => some b
  | _ => none

/-- The value as a natural number below a bound. -/
def below? (bound : Nat) : Value → Option Nat
  | integer n => if 0 ≤ n ∧ n < bound then some n.toNat else none
  | _ => none

/-- The value as a 32-bit number. -/
def word? (v : Value) : Option UInt32 := (v.below? UInt32.size).map .ofNat

/-- The value as a single-precision number. -/
def single? : Value → Option Single
  | float x => some x.toSingle
  | integer n => some (.ofInt n)
  | _ => none

/-- The values of an array, each read in the same way. -/
def list? {α : Type} (read : Value → Option α) : Value → Option (List α)
  | array elements => elements.mapM read
  | _ => none

/-- The name of a choice: a text, or a table whose one field is named so and is empty. -/
def choice? : Value → Option String
  | text t => some t
  | table [(name, table [])] => some name
  | table [(name, array [])] => some name
  | _ => none

end Value

end PassChain.Toml
