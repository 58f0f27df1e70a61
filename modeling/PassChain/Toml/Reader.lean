import PassChain.Text.Digits
import PassChain.Toml.Tree

/-!
Reading keys and values of a configuration document. A reader takes what it reads from the front
of a text; it fails where the text does not go on as it should.
-/

namespace PassChain.Toml

/-- What reads a value from the front of a text. -/
abbrev Reader (α : Type) := StateT (List Char) Option α

def isBlank (c : Char) : Bool := c = ' ' || c = '\t'

/-- Characters that can stand in comments and strings: all but controls other than the tab. -/
def isPrinting (c : Char) : Bool := c = '\t' || 32 ≤ c.toNat && c.toNat ≠ 127

/-- Characters of keys without quotes. -/
def isBare (c : Char) : Bool := c.isAlphanum || c = '_' || c = '-'

namespace Reader

/-- The next character, which stays. -/
def peek? : Reader (Option Char) := fun text => some (text.head?, text)

/-- Takes exactly this text. -/
def token (t : String) : Reader Unit := fun text => (after? t.toList text).map ((), ·)

/-- Takes characters as long as they satisfy `p`. -/
def takeWhile (p : Char → Bool) : Reader (List Char) :=
  fun text => some (text.takeWhile p, text.dropWhile p)

def blanks : Reader Unit := fun text => some ((), text.dropWhile isBlank)

/-- Takes the rest of a line and its end: blanks and perhaps a comment. -/
def lineEnd : Reader Unit := do
  blanks
  if (← peek?) = some '#' then let _ ← takeWhile isPrinting
  match ← get with
  | [] => pure ()
  | '\n' :: rest => set rest
  | '\r' :: '\n' :: rest => set rest
  | _ => failure

/-- What remains of a text after blanks, line ends and comments. -/
def afterFiller (inComment : Bool) : List Char → List Char
  | [] => []
  | '\n' :: rest => afterFiller false rest
  | '\r' :: '\n' :: rest => afterFiller false rest
  | c :: rest =>
    if inComment then if isPrinting c then afterFiller true rest else c :: rest
    else if isBlank c then afterFiller false rest
    else if c = '#' then afterFiller true rest
    else c :: rest

/-- Takes blanks, line ends and comments. -/
def filler : Reader Unit := fun text => some ((), afterFiller false text)

/-- Takes `n` digits that write a number within bounds. -/
def number (n low high : Nat) : Reader Nat := fun text => do
  let digits := text.take n
  let value ← numberOfDigits? digits
  if digits.length = n ∧ low ≤ value ∧ value ≤ high then some (value, text.drop n) else none

/-- The number that digits of a base write. -/
def numberIn (base : Nat) (digits : List Char) : Nat :=
  digits.foldl (fun n c =>
    let digit := if c.isDigit then c.toNat - '0'.toNat else c.toLower.toNat - 'a'.toNat + 10
    base * n + digit) 0

def isHexDigit (c : Char) : Bool :=
  c.isDigit || 'a' ≤ c && c ≤ 'f' || 'A' ≤ c && c ≤ 'F'

/-- Decimal digits below a bound. -/
def isDigitBelow (bound c : Char) : Bool := '0' ≤ c && c < bound

/-- Takes the `n` hexadecimal digits of a character's number. -/
def codePoint (n : Nat) (text : List Char) : Option (Char × List Char) :=
  let digits := text.take n
  let value := numberIn 16 digits
  if digits.length = n ∧ digits.all isHexDigit ∧ value.isValidChar then
    some (.ofNat value, text.drop n)
  else none

/-- The character that is spelled out after a backslash. -/
def escaped : List Char → Option (Char × List Char)
  | 'b' :: rest => some ('\x08', rest)
  | 't' :: rest => some ('\t', rest)
  | 'n' :: rest => some ('\n', rest)
  | 'f' :: rest => some ('\x0c', rest)
  | 'r' :: rest => some ('\r', rest)
  | '"' :: rest => some ('"', rest)
  | '\\' :: rest => some ('\\', rest)
  | 'u' :: rest => codePoint 4 rest
  | 'U' :: rest => codePoint 8 rest
  | _ => none

/-- What remains after a backslash at the end of a line, the line end and all blanks that
follow. -/
def afterLineJoin (text : List Char) : Option (List Char) :=
  let skip (rest : List Char) := afterBlankLines rest
  match text.dropWhile isBlank with
  | '\n' :: rest => some (skip rest)
  | '\r' :: '\n' :: rest => some (skip rest)
  | _ => none
where
  /-- What remains after blanks and line ends. -/
  afterBlankLines : List Char → List Char
    | '\n' :: rest => afterBlankLines rest
    | '\r' :: '\n' :: rest => afterBlankLines rest
    | c :: rest => if isBlank c then afterBlankLines rest else c :: rest
    | [] => []

/-- The rest of a string in double quotes. -/
def basicRest : Nat → List Char → Option (List Char × List Char)
  | 0, _ => none
  | _, [] => none
  | fuel + 1, c :: rest => do
    if c = '"' then pure ([], rest)
    else
      let plain := if isPrinting c then some (c, rest) else none
      let (c, rest) ← if c = '\\' then escaped rest else plain
      let (body, rest) ← basicRest fuel rest
      pure (c :: body, rest)

/-- The rest of a string in single quotes. -/
def literalRest : List Char → Option (List Char × List Char)
  | [] => none
  | c :: rest =>
    if c = '\'' then some ([], rest)
    else if isPrinting c then (literalRest rest).map fun (body, rest) => (c :: body, rest)
    else none

/-- The rest of a string in three quotes. Up to two quotes more can stand before the last
three. Line ends become single characters; only in double quotes are there escapes. -/
def multilineRest (quote : Char) : Nat → List Char → Option (List Char × List Char)
  | 0, _ => none
  | fuel + 1, text =>
    let more (c : Char) (rest : List Char) :=
      (multilineRest quote fuel rest).map fun (body, rest) => (c :: body, rest)
    let quotes := (text.takeWhile (· == quote)).length
    if 3 ≤ quotes then
      let extra := min (quotes - 3) 2
      some (List.replicate extra quote, text.drop (extra + 3))
    else match text with
      | [] => none
      | '\r' :: '\n' :: rest => more '\n' rest
      | '\n' :: rest => more '\n' rest
      | c :: rest =>
        if c = '\\' ∧ quote = '"' then
          match afterLineJoin rest with
          | some rest => multilineRest quote fuel rest
          | none => (escaped rest).bind fun (c, rest) => more c rest
        else if isPrinting c then more c rest
        else none

def string : Reader String := fun text => do
  let multiline (quote : Char) (rest : List Char) :=
    let rest := match rest with
      | '\n' :: rest => rest
      | '\r' :: '\n' :: rest => rest
      | rest => rest
    multilineRest quote (rest.length + 1) rest
  let (body, rest) ← match text with
    | '"' :: '"' :: '"' :: rest => multiline '"' rest
    | '"' :: rest => basicRest (rest.length + 1) rest
    | '\'' :: '\'' :: '\'' :: rest => multiline '\'' rest
    | '\'' :: rest => literalRest rest
    | _ => none
  pure (String.ofList body, rest)

/-- A key without dots. -/
def simpleKey : Reader String := do
  match ← peek? with
  | some '"' => fun text => do
    let (body, rest) ← basicRest text.length (text.drop 1)
    pure (String.ofList body, rest)
  | some '\'' => fun text => do
    let (body, rest) ← literalRest (text.drop 1)
    pure (String.ofList body, rest)
  | _ =>
    let name ← takeWhile isBare
    guard (!name.isEmpty)
    pure (String.ofList name)

/-- How deep keys and values may be nested. -/
def maxDepth : Nat := 80

/-- The names of a key after the first one. -/
def keyRest : Nat → Reader (List String)
  | 0 => failure
  | fuel + 1 => do
    blanks
    if (← peek?) = some '.' then
      token "."
      blanks
      let name ← simpleKey
      let names ← keyRest fuel
      pure (name :: names)
    else pure []

/-- A key: names with dots between them. -/
def key : Reader (List String) := do
  blanks
  let name ← simpleKey
  let names ← keyRest maxDepth
  guard (names.length + 1 < maxDepth)
  pure (name :: names)

/-- What remains of digits with underscores between them. An underscore is followed by a digit. -/
def digitsRest (p : Char → Bool) : List Char → Option (List Char × List Char)
  | '_' :: c :: rest =>
    if p c then (digitsRest p rest).map fun (digits, rest) => (c :: digits, rest) else none
  | c :: rest =>
    if p c then (digitsRest p rest).map fun (digits, rest) => (c :: digits, rest)
    else if c = '_' then none
    else some ([], c :: rest)
  | [] => some ([], [])

/-- One digit at least, underscores between digits. -/
def digits (p : Char → Bool) : Reader (List Char)
  | c :: rest => if p c then (digitsRest p rest).map fun (ds, rest) => (c :: ds, rest) else none
  | [] => none

/-- A sign, if there is one; `true` is minus. -/
def sign : Reader Bool
  | '-' :: rest => some (true, rest)
  | '+' :: rest => some (false, rest)
  | text => some (false, text)

/-- A whole number without a leading zero. -/
def wholeDigits : Reader (List Char)
  | '0' :: rest => some (['0'], rest)
  | text => digits Char.isDigit text

/-- A whole number that fits 64 bits with a sign. -/
def integerOf (neg : Bool) (n : Nat) : Reader Value := do
  let half := UInt64.size / 2
  guard (if neg then n ≤ half else n < half)
  pure (.integer (if neg then -n else n))

/-- Whether an exponent comes next. -/
def startsExponent : Reader Bool := fun text =>
  some (match text with
    | 'e' :: _ | 'E' :: _ => true
    | _ => false, text)

/-- A number with a point or an exponent, after its whole part. Numbers too large above are
refused, those too large below become minus infinity. -/
def floatRest (neg : Bool) (whole : List Char) : Reader Value := do
  let fraction ← if (← peek?) = some '.' then token "."; digits Char.isDigit else pure []
  let power ← if ← startsExponent then
      modify (·.drop 1)
      let neg ← sign
      let n := numberIn 10 (← digits Char.isDigit)
      pure (if neg then -(n : Int) else n)
    else pure 0
  let x := Double.ofDecimal neg (numberIn 10 (whole ++ fraction)) (power - fraction.length)
  guard (x != Double.infinity false)
  pure (.float x)

def numeric : Reader Value := do
  match ← get with
  | '0' :: 'x' :: rest => set rest; integerOf false (numberIn 16 (← digits isHexDigit))
  | '0' :: 'o' :: rest => set rest; integerOf false (numberIn 8 (← digits (isDigitBelow '8')))
  | '0' :: 'b' :: rest => set rest; integerOf false (numberIn 2 (← digits (isDigitBelow '2')))
  | _ =>
    let neg ← sign
    match ← peek? with
    | some 'i' => token "inf"; pure (.float (.infinity neg))
    | some 'n' => token "nan"; pure (.float (.nan neg))
    | _ =>
      let whole ← wholeDigits
      let isFloat := (← startsExponent) || (← peek?) = some '.'
      if isFloat then floatRest neg whole else integerOf neg (numberIn 10 whole)

def daysIn (year month : Nat) : Nat :=
  if month = 2 then
    if year % 4 = 0 ∧ (year % 100 ≠ 0 ∨ year % 400 = 0) then 29 else 28
  else if month = 4 ∨ month = 6 ∨ month = 9 ∨ month = 11 then 30
  else 31

def date : Reader Unit := do
  let year ← number 4 0 9999
  token "-"
  let month ← number 2 1 12
  token "-"
  let _ ← number 2 1 (daysIn year month)

/-- A time of day, with a fraction of a second perhaps. -/
def time : Reader Unit := do
  let _ ← number 2 0 23
  token ":"
  let _ ← number 2 0 59
  token ":"
  let _ ← number 2 0 60
  if (← peek?) = some '.' then
    token "."
    guard (!(← takeWhile Char.isDigit).isEmpty)

/-- The distance from universal time. -/
def zone : Reader Unit := do
  match ← get with
  | 'Z' :: rest | 'z' :: rest => set rest
  | '+' :: rest | '-' :: rest =>
    set rest
    let _ ← number 2 0 23
    token ":"
    let _ ← number 2 0 59
  | _ => pure ()

/-- What stands between a date and a time. -/
def dateEnd : Reader Unit := token "T" <|> token "t" <|> token " "

/-- A date, a time, or both. -/
def moment : Reader Value := do
  (do date; (do dateEnd; time; zone) <|> pure ()) <|> time
  pure .moment

mutual

def valueAt : Nat → Nat → Reader Value
  | 0, _ => failure
  | fuel + 1, depth => do
    match ← peek? with
    | some '"' | some '\'' => .text <$> string
    | some '[' =>
      guard (depth + 1 < maxDepth)
      token "["
      filler
      .array <$> elements fuel (depth + 1)
    | some c =>
      if c = '\x7b' then
        guard (depth + 1 < maxDepth)
        token "\x7b"
        blanks
        if (← peek?) = some '\x7d' then
          token "\x7d"
          pure (.table [])
        else
          .table <$> fieldsToTable <$> inlineFields fuel (depth + 1) []
      else if c = 't' then token "true"; pure (.boolean true)
      else if c = 'f' then token "false"; pure (.boolean false)
      else moment <|> numeric
    | none => failure

/-- The elements of an array, after what may stand before an element. -/
def elements : Nat → Nat → Reader (List Value)
  | 0, _ => failure
  | fuel + 1, depth => do
    if (← peek?) = some ']' then
      token "]"
      pure []
    else
      let v ← valueAt fuel depth
      filler
      if (← peek?) = some ',' then
        token ","
        filler
        (v :: ·) <$> elements fuel depth
      else
        token "]"
        pure [v]

/-- The fields of a table on one line, added to those read so far. -/
def inlineFields : Nat → Nat → Items → Reader Items
  | 0, _, _ => failure
  | fuel + 1, depth, items => do
    let path ← key
    token "="
    blanks
    let v ← valueAt fuel depth
    blanks
    let items ← items.insert path v
    if (← peek?) = some ',' then
      token ","
      inlineFields fuel depth items
    else
      token "\x7d"
      pure items

end

end Reader

end PassChain.Toml
