import WhipWhep.Proofs.Avc.Cursor
import WhipWhep.Proofs.Avc.LengthPrefixed
import WhipWhep.Proofs.Steps

/-!
Which access units can be written as byte streams. They are those that consist of units behind lengths and of nothing
else; all others are refused. Lengths are read from the access unit itself, so they may lie: they are looked at before
anything is taken off, and no reading goes past the end.
-/

namespace WhipWhep.Avc

variable {size : Nat} {accessUnit bytes unit rest : Bytes} {units others : List Bytes}

/-- An access unit consists of units, none of them empty, each behind its length. -/
structure Split (size : Nat) (accessUnit : Bytes) (units : List Bytes) : Prop where
  fits : ∀ unit ∈ units, Fits size unit
  whole : accessUnit = prefixed size units

theorem split_iff : Split size accessUnit units ↔ splitUnits? size accessUnit = some units := by
  rw [splitUnits?_eq_some_iff]
  exact ⟨fun split => ⟨split.fits, split.whole⟩, fun ⟨fits, whole⟩ => ⟨fits, whole⟩⟩

/-- There is only one way to split an access unit. -/
theorem Split.unique (split : Split size accessUnit units) (other : Split size accessUnit others) :
    units = others :=
  Option.some.inj ((split_iff.1 split).symm.trans (split_iff.1 other))

/-- An access unit becomes a byte stream exactly if its lengths have a size that there is, and it can be split. -/
theorem toByteStream?_eq_some_iff {size : UInt8} {stream : Bytes} :
    toByteStream? accessUnit size = some stream ↔
      (1 ≤ size ∧ size ≤ 4) ∧ ∃ units, Split size.toNat accessUnit units ∧ stream = write units := by
  rw [toByteStream?]
  split
  · next sized =>
    simp only [Option.map_eq_some_iff, split_iff, eq_comm (a := stream)]
    exact ⟨fun found => ⟨sized, found⟩, fun found => found.2⟩
  · next unsized => exact ⟨nofun, fun found => absurd found.1 unsized⟩

namespace Cursor

/-- The next unit. The bytes that are left are counted before its length is taken off, and once more before it is. -/
def nextUnit (size : Nat) : Cursor Bytes := do
  if (← left) < size then refuse .invalidAccessUnit
  else
    let lead ← take size
    if bigEndian lead = 0 ∨ (← left) < bigEndian lead then refuse .invalidAccessUnit
    else take (bigEndian lead)

/-- A unit is taken off without going past the end, whatever its length says. -/
theorem nextUnit_run (size : Nat) (bytes : Bytes) :
    nextUnit size bytes = some (demand .invalidAccessUnit (firstUnit? size bytes)) := by
  have counted : (bytes.take size).length = min size bytes.length := List.length_take
  by_cases short : bytes.length < size
  · have lacks : firstUnit? size bytes = none := by
      rw [firstUnit?]
      exact if_pos (.inl (by omega))
    rw [lacks, nextUnit, left_bind, if_pos short]
    rfl
  · rw [nextUnit, left_bind, if_neg short, take_bind (Nat.le_of_not_lt short), left_bind]
    by_cases broken : bigEndian (bytes.take size) = 0 ∨ (bytes.drop size).length < bigEndian (bytes.take size)
    · have lacks : firstUnit? size bytes = none := by
        rw [firstUnit?]
        refine if_pos (.inr (broken.imp_right fun lacking => ?_))
        exact Nat.lt_of_le_of_lt (List.length_take_le' _ _) lacking
      rw [lacks, if_pos broken]
      rfl
    · have enough := Nat.le_of_not_lt (not_or.1 broken).2
      have long : ((bytes.drop size).take (bigEndian (bytes.take size))).length = bigEndian (bytes.take size) :=
        List.length_take_of_le enough
      rw [if_neg broken, take_run enough, firstUnit?, if_neg (by omega)]
      rfl

theorem length_of_nextUnit (taken : nextUnit size bytes = some (.ok (unit, rest))) :
    rest.length < bytes.length := by
  rw [nextUnit_run] at taken
  exact length_of_firstUnit? (demand_eq_ok_iff.1 (Option.some.inj taken))

/-- All units, one after the other, until nothing is left. -/
def allUnits (size : Nat) (bytes : Bytes) : Option (Except MediaError (List Bytes)) :=
  if bytes.isEmpty then some (.ok [])
  else
    match _taken : nextUnit size bytes with
    | none => none
    | some (.error cause) => some (.error cause)
    | some (.ok (unit, rest)) => (allUnits size rest).map (Except.map (unit :: ·))
termination_by bytes.length
decreasing_by exact length_of_nextUnit _taken

theorem allUnits_of_ne_nil (present : bytes ≠ []) :
    allUnits size bytes =
      match firstUnit? size bytes with
      | none => some (.error .invalidAccessUnit)
      | some (unit, rest) => (allUnits size rest).map (Except.map (unit :: ·)) := by
  have run := nextUnit_run size bytes
  rw [allUnits, if_neg (by simpa using present)]
  cases found : firstUnit? size bytes with
  | none =>
    rw [found] at run
    split
    · next overrun => cases run.symm.trans overrun
    · next refused =>
      cases run.symm.trans refused
      rfl
    · next taken => cases run.symm.trans taken
  | some cut =>
    rw [found] at run
    split
    · next overrun => cases run.symm.trans overrun
    · next refused => cases run.symm.trans refused
    · next taken =>
      cases run.symm.trans taken
      rfl

/-- However many units there are, they are taken off without going past the end. -/
theorem allUnits_run (size : Nat) (bytes : Bytes) :
    allUnits size bytes = some (demand .invalidAccessUnit (splitUnits? size bytes)) := by
  induction bytes using splitUnits?.induct size with
  | case1 bytes none =>
    obtain rfl := List.isEmpty_iff.1 none
    rw [allUnits, if_pos none, splitUnits?_nil]
    rfl
  | case2 bytes present missing =>
    have full : bytes ≠ [] := by simpa using present
    rw [allUnits_of_ne_nil full, splitUnits?_of_ne_nil full, missing]
    rfl
  | case3 bytes present unit rest found ih =>
    have full : bytes ≠ [] := by simpa using present
    rw [allUnits_of_ne_nil full, splitUnits?_of_ne_nil full, found, Option.bind_some]
    show (allUnits size rest).map _ = some (demand _ ((splitUnits? size rest).map _))
    rw [ih]
    cases splitUnits? size rest <;> rfl

/-- The byte stream of an access unit. -/
def byteStream (accessUnit : Bytes) (size : UInt8) : Option (Except MediaError Bytes) :=
  if 1 ≤ size ∧ size ≤ 4 then (allUnits size.toNat accessUnit).map (Except.map write)
  else some (.error .invalidAccessUnit)

theorem byteStream_run (accessUnit : Bytes) (size : UInt8) :
    byteStream accessUnit size = some (demand .invalidAccessUnit (toByteStream? accessUnit size)) := by
  rw [byteStream, toByteStream?, allUnits_run]
  split
  · cases splitUnits? size.toNat accessUnit <;> rfl
  · rfl

end Cursor

/-- Which access units become byte streams, and what becomes of the others. -/
structure Reframed (accessUnit : Bytes) (size : UInt8) : Prop where
  accepts : ∀ {stream : Bytes},
    demand MediaError.invalidAccessUnit (toByteStream? accessUnit size) = .ok stream ↔
      (1 ≤ size ∧ size ≤ 4) ∧ ∃ units, Split size.toNat accessUnit units ∧ stream = write units
  unique : ∀ {units others : List Bytes},
    Split size.toNat accessUnit units → Split size.toNat accessUnit others → units = others
  refuses : demand MediaError.invalidAccessUnit (toByteStream? accessUnit size) = .error .invalidAccessUnit ↔
    ¬ ((1 ≤ size ∧ size ≤ 4) ∧ ∃ units, Split size.toNat accessUnit units)
  /-- Reading them one length and one unit at a time comes to the same, and never goes past the end. -/
  bounded : Cursor.byteStream accessUnit size =
    some (demand MediaError.invalidAccessUnit (toByteStream? accessUnit size))

/-- An access unit is written as a byte stream exactly if its lengths have a size from one to four bytes and it
consists of units that are not empty, each behind its length. Every other one is refused. -/
theorem accessUnit_reframed (accessUnit : Bytes) (size : UInt8) : Reframed accessUnit size where
  accepts := demand_eq_ok_iff.trans toByteStream?_eq_some_iff
  unique := Split.unique
  refuses := by
    rw [demand_eq_error_iff, Option.eq_none_iff_forall_ne_some]
    simp only [ne_eq, toByteStream?_eq_some_iff]
    constructor
    · rintro never ⟨sized, units, split⟩
      exact never _ ⟨sized, units, split, rfl⟩
    · rintro unfit stream ⟨sized, units, split, -⟩
      exact unfit ⟨sized, units, split⟩
  bounded := Cursor.byteStream_run accessUnit size

/-- A length that lies, and an empty unit. -/
example : toByteStream? [0, 3, 0x65, 0x88] 2 = none ∧ toByteStream? [1, 0x65, 0] 1 = none ∧
    toByteStream? [1, 0x65, 2, 0x67, 0] 1 = some [0, 0, 0, 1, 0x65, 0, 0, 0, 1, 0x67, 0] := by
  decide +kernel

end WhipWhep.Avc
