import WhipWhep.Avc.NalUnit

/-!
The byte stream format. Units stand one after the other, each behind a start code, which is 00 00 01
or, when the byte before that is a zero that belongs to nothing else, 00 00 00 01.
-/

namespace WhipWhep.Avc

/-- The start code that is written before a unit. -/
def startCode : Bytes := [0, 0, 0, 1]

/-- What stands before the first start code, and what follows each start code up to the next. -/
def cut : Bytes → Bytes × List Bytes
  | a :: b :: c :: d :: rest =>
    if a = 0 ∧ b = 0 ∧ c = 0 ∧ d = 1 then
      let (unit, units) := cut rest
      ([], unit :: units)
    else if a = 0 ∧ b = 0 ∧ c = 1 then
      let (unit, units) := cut (d :: rest)
      ([], unit :: units)
    else
      let (lead, units) := cut (b :: c :: d :: rest)
      (a :: lead, units)
  | [a, b, c] => if a = 0 ∧ b = 0 ∧ c = 1 then ([], [[]]) else ([a, b, c], [])
  | short => (short, [])

/-- The units of a byte stream. A start code at the very end begins no unit. -/
def units (stream : Bytes) : List Bytes :=
  let pieces := (cut stream).2
  if pieces.getLast? = some [] then pieces.dropLast else pieces

def unitsOf (kind : UnitType) (stream : Bytes) : List Bytes :=
  (units stream).filter fun unit => typeOf? unit = some kind

/-- Units written one after the other. -/
def write (units : List Bytes) : Bytes :=
  units.flatMap fun unit => startCode ++ unit

def containsSps (stream : Bytes) : Bool :=
  (units stream).any fun unit => typeOf? unit = some .sps

/-- A decoder can only start at an access unit that carries its parameter sets, so they are put
before one that has none. -/
def withParameterSets (accessUnit sets : Bytes) : Bytes :=
  if sets.isEmpty || containsSps accessUnit then accessUnit else sets ++ accessUnit

end WhipWhep.Avc
