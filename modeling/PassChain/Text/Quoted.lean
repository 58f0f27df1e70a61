import PassChain.Text.Shapeless

/-!
Texts in quotes, with what cannot be shown plainly spelled out.
-/

namespace PassChain

/-- Whether a character can stand for itself. -/
def isPlain (c : Char) : Bool :=
  shapelessRuns.all fun (first, last) => c.toNat < first || last < c.toNat

/-- A character as it stands between quotes. -/
def spelled (c : Char) : List Char :=
  match c with
  | '\t' => ['\\', 't']
  | '\r' => ['\\', 'r']
  | '\n' => ['\\', 'n']
  | '"' => ['\\', '"']
  | '\\' => ['\\', '\\']
  | '\x00' => ['\\', '0']
  | _ =>
    if isPlain c then [c]
    else ['\\', 'u', '\x7b'] ++ Nat.toDigits 16 c.toNat ++ ['\x7d']

/-- A text in quotes. -/
def quoted (text : String) : String :=
  .ofList (['"'] ++ text.toList.flatMap spelled ++ ['"'])

end PassChain
