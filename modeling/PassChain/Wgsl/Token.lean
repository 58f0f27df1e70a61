/-!
Tokens of the shading language. Blanks and comments separate tokens and are dropped; operators
are kept as single characters that know whether the next one follows at once, so that `>>` can
be read as a shift or as the end of two type lists.
-/

namespace PassChain.Wgsl

inductive IntSuffix where
  | none
  | i
  | u
deriving DecidableEq, Repr

inductive FloatSuffix where
  | none
  | single
  | double
deriving DecidableEq, Repr

/-- A number in a program. The value of a fraction never matters here. -/
inductive Number where
  | int (value : Nat) (suffix : IntSuffix)
  | float (suffix : FloatSuffix)
deriving DecidableEq, Repr

inductive Token where
  | word (text : String)
  | number (n : Number)
  /-- a punctuation character, and whether another one follows it at once -/
  | mark (c : Char) (glued : Bool)
deriving DecidableEq, Repr

/-- Blanks: the white space and direction marks that may stand between tokens. -/
def isBlank (c : Char) : Bool :=
  c == ' ' || ('\t' ≤ c && c ≤ '\r') || c == '\u0085' || c == '\u200e' || c == '\u200f' ||
    c == '\u2028' || c == '\u2029'

/-- Characters that end a line comment. -/
def endsLine (c : Char) : Bool :=
  ('\n' ≤ c && c ≤ '\r') || c == '\u0085' || c == '\u2028' || c == '\u2029'

/-- Letters beyond ASCII, by the blocks of the common scripts. -/
def isForeignLetter (c : Char) : Bool :=
  let n := c.toNat
  n == 0xaa || n == 0xb5 || n == 0xba || (0xc0 ≤ n && n ≤ 0x2c1 && n != 0xd7 && n != 0xf7) ||
    (0x370 ≤ n && n ≤ 0x1fff) || (0x2c00 ≤ n && n ≤ 0x2dff) || (0x3041 ≤ n && n ≤ 0xd7a3) ||
    (0xf900 ≤ n && n ≤ 0xfaff) || (0x10000 ≤ n && n ≤ 0x1efff) || (0x20000 ≤ n && n ≤ 0x3ffff)

def beginsWord (c : Char) : Bool := c.isAlpha || c == '_' || isForeignLetter c

/-- Characters that continue a word. -/
def continuesWord (c : Char) : Bool := beginsWord c || c.isDigit

def isMark (c : Char) : Bool :=
  "()[]\x7b\x7d@:;,.+-*/%&|^!=<>~".toList.contains c

/-- What follows a block comment that is `depth` levels deep; one that is never closed takes
everything. -/
def skipBlock : Nat → List Char → List Char
  | 0, rest => rest
  | _, [] => []
  | depth, '/' :: '*' :: rest => skipBlock (depth + 1) rest
  | depth + 1, '*' :: '/' :: rest => skipBlock depth rest
  | depth, _ :: rest => skipBlock depth rest
termination_by structural _ rest => rest

/-- The value of a digit, hexadecimal digits included. -/
def digitValue (c : Char) : Nat :=
  if c.isDigit then c.toNat - '0'.toNat
  else if 'a' ≤ c && c ≤ 'f' then c.toNat - 'a'.toNat + 10
  else c.toNat - 'A'.toNat + 10

def isHexDigit (c : Char) : Bool :=
  c.isDigit || ('a' ≤ c && c ≤ 'f') || ('A' ≤ c && c ≤ 'F')

/-- The number that digits of a base write. -/
def digitsValue (base : Nat) (digits : List Char) : Nat :=
  digits.foldl (fun n c => n * base + digitValue c) 0

/-- An integer with its suffix, if it fits the type. -/
def finishInt (value : Nat) : List Char → Option (Number × List Char)
  | 'i' :: rest => if value < UInt32.size / 2 then some (.int value .i, rest) else none
  | 'u' :: rest => if value < UInt32.size then some (.int value .u, rest) else none
  | rest => if value < UInt64.size / 2 then some (.int value .none, rest) else none

def finishFloat : List Char → Option (Number × List Char)
  | 'f' :: rest => some (.float .single, rest)
  | 'l' :: 'f' :: rest => some (.float .double, rest)
  | 'h' :: _ => none
  | rest => some (.float .none, rest)

/-- What follows an exponent, if one stands here; the marker is `e` or `p`. -/
def skipExponent (mark : Char) : List Char → Option (List Char)
  | c :: rest =>
    if c.toLower = mark then
      let digits := match rest with
        | '+' :: r | '-' :: r => r
        | r => r
      if (digits.takeWhile Char.isDigit).isEmpty then none
      else some (digits.dropWhile Char.isDigit)
    else none
  | [] => none

/-- A number at the head of the text, in base ten or sixteen. -/
def readNumber (text : List Char) : Option (Number × List Char) :=
  let (hex, body) := match text with
    | '0' :: 'x' :: rest | '0' :: 'X' :: rest => (true, rest)
    | rest => (false, rest)
  let isDigit := if hex then isHexDigit else Char.isDigit
  let marker := if hex then 'p' else 'e'
  let whole := body.takeWhile isDigit
  let rest := body.dropWhile isDigit
  match rest with
  | '.' :: rest =>
    let fraction := rest.takeWhile isDigit
    let rest := rest.dropWhile isDigit
    if whole.isEmpty && fraction.isEmpty then none
    else finishFloat ((skipExponent marker rest).getD rest)
  | rest =>
    if whole.isEmpty then none
    else match skipExponent marker rest with
      | some rest => finishFloat rest
      | none =>
        if hex then finishInt (digitsValue 16 whole) rest
        else if whole.length > 1 && whole.head? == some '0' then none
        else match rest with
          | 'f' :: _ | 'h' :: _ => finishFloat rest
          | _ => finishInt (digitsValue 10 whole) rest

/-- The tokens of a text, `none` if a character begins none. The number bounds the tokens. -/
def tokensWithin : Nat → List Char → Option (List Token)
  | _, [] => some []
  | 0, _ => none
  | n + 1, c :: rest =>
    if isBlank c then tokensWithin n rest
    else match c, rest with
      | '/', '/' :: _ => tokensWithin n (rest.dropWhile fun c => !endsLine c)
      | '/', '*' :: rest => tokensWithin n (skipBlock 1 rest)
      | _, _ =>
        let startsNumber := c.isDigit || (c == '.' && (rest.head?.map Char.isDigit).getD false)
        if startsNumber then
          match readNumber (c :: rest) with
          | none => none
          | some (number, rest) => (.number number :: ·) <$> tokensWithin n rest
        else if beginsWord c then
          let word := String.ofList (c :: rest.takeWhile continuesWord)
          (.word word :: ·) <$> tokensWithin n (rest.dropWhile continuesWord)
        else if isMark c then
          let glued := (rest.head?.map isMark).getD false
          (.mark c glued :: ·) <$> tokensWithin n rest
        else none

def tokens (text : String) : Option (List Token) :=
  let chars := text.toList
  tokensWithin chars.length chars

end PassChain.Wgsl
