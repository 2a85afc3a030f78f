import WhipWhep.Text.Graphic
import WhipWhep.Url.Domain.Folding

/-!
What each character of a domain stands for. Some leave no trace, some stand for others, some are
refused, and all others stand for themselves.
-/

namespace WhipWhep.Url.Domain

def ignored : Text.CodePoints := #[
  (0xad, 0xad), (0x34f, 0x34f), (0x115f, 0x1160), (0x17b4, 0x17b5), (0x180b, 0x180f),
  (0x200b, 0x200b), (0x2060, 0x2064), (0x206a, 0x206f), (0x3164, 0x3164), (0xfe00, 0xfe0f),
  (0xfeff, 0xfeff), (0xffa0, 0xffa0), (0x1bca0, 0x1bca3), (0x1d173, 0x1d17a), (0xe0100, 0xe01ef)]

/-- Characters that show and yet are refused. -/
def refused : Text.CodePoints := #[
  (0x2024, 0x2026), (0x2488, 0x249b), (0x2ff0, 0x2fff), (0x31ef, 0x31ef), (0x33c2, 0x33c2),
  (0x33c7, 0x33c7), (0x33d8, 0x33d8), (0xfe12, 0xfe12), (0xfe19, 0xfe19), (0xfe30, 0xfe30),
  (0xfe52, 0xfe52), (0xfffc, 0xfffd), (0x1f100, 0x1f100)]

def isNonjoiner (c : Char) : Bool := c.toNat == 0x200C

/-- The characters that make their neighbours join or keep them from it. -/
def isJoiner (c : Char) : Bool := isNonjoiner c || c.toNat == 0x200D

/-- The rows of `spellings`, one for each code point. -/
def respellings : Array (Nat × List Char) :=
  (spellings.flatMap fun (first, texts) =>
    ((texts.toList.splitOn '|').zipIdx first).map fun (text, n) => (n, text)).toArray

def shifted? (n : Nat) : Option Char :=
  match Text.lastRow? shifts n with
  | some (first, last, step, image) =>
    if n ≤ last && (n - first) % step == 0 then some (Char.ofNat (image + (n - first))) else none
  | none => none

def respelled? (n : Nat) : Option (List Char) :=
  match Text.lastRow? respellings n with
  | some (key, text) => if key = n then some text else none
  | none => none

def meaning? (c : Char) : Option (List Char) :=
  let n := c.toNat
  if n < 0x80 then some [c.toLower]
  else if ignored.has n then some []
  else
    match shifted? n, respelled? n with
    | some other, _ => some [other]
    | none, some text => some text
    | none, none =>
      if isJoiner c || (Text.isGraphic c && !refused.has n) then some [c] else none

/-- Whether a character stands for itself. -/
def isPlain (c : Char) : Bool := meaning? c == some [c]

end WhipWhep.Url.Domain
