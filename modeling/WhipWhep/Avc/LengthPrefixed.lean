import WhipWhep.Avc.ByteStream

/-!
Length-prefixed access units, the form that container files keep: each unit stands behind its length,
a big-endian number of one to four bytes.
-/

namespace WhipWhep.Avc

def bigEndian (bytes : Bytes) : Nat :=
  bytes.foldl (fun value b => 256 * value + b.toNat) 0

/-- The first unit and what follows it. No unit is empty. -/
def firstUnit? (lengthSize : Nat) (bytes : Bytes) : Option (Bytes × Bytes) :=
  let lead := bytes.take lengthSize
  let length := bigEndian lead
  let tail := bytes.drop lengthSize
  let unit := tail.take length
  if lead.length < lengthSize ∨ length = 0 ∨ unit.length < length then none
  else some (unit, tail.drop length)

theorem length_of_firstUnit? {lengthSize : Nat} {bytes unit rest : Bytes}
    (found : firstUnit? lengthSize bytes = some (unit, rest)) : rest.length < bytes.length := by
  unfold firstUnit? at found
  simp only [] at found
  split at found
  · simp at found
  · next fits =>
    simp only [Option.some.injEq, Prod.mk.injEq] at found
    obtain ⟨_, rfl⟩ := found
    simp only [List.length_take, List.length_drop] at fits ⊢
    omega

/-- The units of an access unit, if it consists of nothing but units. -/
def splitUnits? (lengthSize : Nat) (accessUnit : Bytes) : Option (List Bytes) :=
  if accessUnit.isEmpty then some []
  else
    match _found : firstUnit? lengthSize accessUnit with
    | none => none
    | some (unit, rest) => (splitUnits? lengthSize rest).map (unit :: ·)
termination_by accessUnit.length
decreasing_by exact length_of_firstUnit? _found

/-- The same access unit as a byte stream. -/
def toByteStream? (accessUnit : Bytes) (lengthSize : UInt8) : Option Bytes :=
  if 1 ≤ lengthSize ∧ lengthSize ≤ 4 then
    (splitUnits? lengthSize.toNat accessUnit).map write
  else none

end WhipWhep.Avc
