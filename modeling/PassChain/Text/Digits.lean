/-!
Numbers written in plain decimal digits.
-/

namespace PassChain

/-- The number that ASCII digits write, `none` for other text and for no text at all. -/
def numberOfDigits? (digits : List Char) : Option Nat :=
  if digits.isEmpty || !digits.all Char.isDigit then none
  else some (digits.foldl (fun n c => 10 * n + (c.toNat - '0'.toNat)) 0)

/-- What follows a stem at the front of a text. -/
def after? : List Char → List Char → Option (List Char)
  | [], text => some text
  | c :: stem, d :: text => if c = d then after? stem text else none
  | _ :: _, [] => none

/-- What stands before an ending of a text. -/
def before? (ending text : List Char) : Option (List Char) :=
  (after? ending.reverse text.reverse).map List.reverse

end PassChain
