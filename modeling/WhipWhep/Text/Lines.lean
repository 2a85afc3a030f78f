import WhipWhep.Text.Blank

/-!
A text is the concatenation of its raw lines: each ends with its line feed, except that the last one
may have none. A line proper is a raw line without the line feed and without the carriage returns
before it.
-/

namespace WhipWhep.Text

def rawLines : List Char → List (List Char)
  | [] => []
  | c :: rest =>
    if c = '\n' then [c] :: rawLines rest
    else
      match rawLines rest with
      | [] => [[c]]
      | line :: lines => (c :: line) :: lines

theorem flatten_rawLines (text : List Char) : (rawLines text).flatten = text := by
  induction text with
  | nil => rfl
  | cons c rest ih =>
    unfold rawLines
    split
    · simp [ih]
    · cases parts : rawLines rest with
      | nil => rw [parts] at ih; simp [← ih]
      | cons line lines => rw [parts] at ih; simp [← ih]

/-- The content of a raw line. -/
def chomp (line : List Char) : List Char :=
  dropEndWhile (· == '\r') (line.takeWhile (· != '\n'))

def lines (text : List Char) : List (List Char) :=
  (rawLines text).map chomp

end WhipWhep.Text
