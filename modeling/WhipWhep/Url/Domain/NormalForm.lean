import WhipWhep.Text.CodePoints
import WhipWhep.Text.CombiningClass
import WhipWhep.Url.Domain.Composite

/-!
The composed form of a text. Wholes are taken apart, the marks of each letter are brought into the
order of their classes, and letters and marks are put together again as far as there are wholes for
them. Syllables of Hangul are wholes by reckoning, all others by the table.
-/

namespace WhipWhep.Url.Domain

/-- The two or three letters of a syllable of Hangul. -/
def hangulLetters (index : Nat) : List Char :=
  let final := index % 28
  [Char.ofNat (0x1100 + index / 588), Char.ofNat (0x1161 + index % 588 / 28)] ++
    if final = 0 then [] else [Char.ofNat (0x11A7 + final)]

def halves? (c : Char) : Option (Char × Char) :=
  match Text.lastRow? composites c.toNat with
  | some (whole, first, second) =>
    if whole = c.toNat then some (Char.ofNat first, Char.ofNat second) else none
  | none => none

/-- The letter and the marks of a whole. There are at most two marks. -/
def parts (c : Char) : List Char :=
  let n := c.toNat
  if n < 0xC0 then [c]
  else if 0xAC00 ≤ n && n ≤ 0xD7A3 then hangulLetters (n - 0xAC00)
  else
    match halves? c with
    | none => [c]
    | some (front, mark) =>
      match halves? front with
      | none => [front, mark]
      | some (letter, inner) => [letter, inner, mark]

def byClass (a b : Char) : Bool := Text.combiningClass a ≤ Text.combiningClass b

/-- Brings one run of marks in order. Marks of one class keep theirs. -/
def orderMarks (marks : List Char) : List Char :=
  match marks with
  | _ :: _ :: _ => marks.mergeSort byClass
  | _ => marks

/-- The run of marks that a text starts with, and the rest of the text in order. -/
def orderRuns : List Char → List Char × List Char
  | [] => ([], [])
  | c :: rest =>
    let (marks, ordered) := orderRuns rest
    if Text.combiningClass c = 0 then ([], c :: (orderMarks marks ++ ordered))
    else (c :: marks, ordered)

def order (text : List Char) : List Char :=
  let (marks, ordered) := orderRuns text
  orderMarks marks ++ ordered

def pairKey (first second : Nat) : Nat := 0x110000 * first + second

/-- The wholes by their parts. -/
def wholes : Array (Nat × Nat) :=
  ((composites.toList.map fun (whole, first, second) => (pairKey first second, whole)).mergeSort
    fun a b => a.1 ≤ b.1).toArray

def hangulWhole? (a b : Nat) : Option Nat :=
  if 0x1100 ≤ a && a < 0x1113 && 0x1161 ≤ b && b < 0x1176 then
    some (0xAC00 + ((a - 0x1100) * 21 + (b - 0x1161)) * 28)
  else if 0xAC00 ≤ a && a ≤ 0xD7A3 && (a - 0xAC00) % 28 == 0 && 0x11A7 < b && b < 0x11C3 then
    some (a + (b - 0x11A7))
  else none

def whole? (a b : Char) : Option Char :=
  if b.toNat < 0x300 then none
  else
    match hangulWhole? a.toNat b.toNat with
    | some whole => some (Char.ofNat whole)
    | none =>
      let key := pairKey a.toNat b.toNat
      match Text.lastRow? wholes key with
      | some (found, whole) => if found = key then some (Char.ofNat whole) else none
      | none => none

/-- A text that is being put together, backwards: what is settled, the letter that may still take
marks, and the marks after it that it did not take. -/
structure Composing where
  settled : List Char
  letter : Option Char
  marks : List Char

/-- A mark is kept from the letter by a mark of its own or a higher class between them. -/
def Composing.isBlocked (state : Composing) (c : Char) : Bool :=
  state.marks.head?.any fun last => Text.combiningClass c ≤ Text.combiningClass last

def Composing.text (state : Composing) : List Char :=
  state.marks ++ state.letter.toList ++ state.settled

def Composing.add (state : Composing) (c : Char) : Composing :=
  let joined := if state.isBlocked c then none else state.letter.bind fun letter => whole? letter c
  match joined with
  | some whole => { state with letter := some whole }
  | none =>
    if Text.combiningClass c = 0 then ⟨state.text, some c, []⟩
    else { state with marks := c :: state.marks }

def composed (text : List Char) : List Char :=
  ((order (text.flatMap parts)).foldl Composing.add ⟨[], none, []⟩).text.reverse

end WhipWhep.Url.Domain
