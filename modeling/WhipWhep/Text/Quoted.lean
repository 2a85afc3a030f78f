import WhipWhep.Text.Printable

/-!
Quoted text, for messages that show what a remote party sent. A quote, a backslash and the usual
control characters are escaped with a backslash, characters that would not show are written as their
code point, and all others stand for themselves.
-/

namespace WhipWhep.Text

def codePoint (c : Char) : List Char :=
  ['\\', 'u', '\x7b'] ++ Nat.toDigits 16 c.toNat ++ ['\x7d']

def escape (c : Char) : List Char :=
  match c with
  | '\x00' => ['\\', '0']
  | '\t' => ['\\', 't']
  | '\r' => ['\\', 'r']
  | '\n' => ['\\', 'n']
  | '"' => ['\\', '"']
  | '\\' => ['\\', '\\']
  | _ => if isHidden c then codePoint c else [c]

def quote (text : List Char) : List Char :=
  '"' :: text.flatMap escape ++ ['"']

/-- A word that may be missing. -/
def quote? : Option (List Char) → List Char
  | none => "None".toList
  | some text => "Some(".toList ++ quote text ++ [')']

end WhipWhep.Text
