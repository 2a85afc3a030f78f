/-!
Properties of code points, as tables whose rows ascend. A row is found by halving the table.
-/

namespace WhipWhep.Text

/-- Ranges of code points, each with its first and its last one, ascending and apart. -/
abbrev CodePoints := Array (Nat × Nat)

/-- Of the rows from `low` up to `high`, the last whose key is at most `n`. -/
def lastRowWithin? {α : Type} (rows : Array (Nat × α)) (n low high : Nat) : Option (Nat × α) :=
  if low < high then
    let middle := (low + high) / 2
    match rows[middle]? with
    | none => none
    | some row =>
      if row.1 ≤ n then (lastRowWithin? rows n (middle + 1) high).or (some row)
      else lastRowWithin? rows n low middle
  else none
termination_by high - low

def lastRow? {α : Type} (rows : Array (Nat × α)) (n : Nat) : Option (Nat × α) :=
  lastRowWithin? rows n 0 rows.size

def CodePoints.has (set : CodePoints) (n : Nat) : Bool :=
  (lastRow? set n).any fun row => n ≤ row.2

end WhipWhep.Text
