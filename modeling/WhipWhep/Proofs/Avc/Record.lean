import WhipWhep.Proofs.Avc.Config
import WhipWhep.Proofs.Avc.Splitting

/-!
Decoder configuration records, read and written. A record is read exactly if it is one: two lists of parameter sets
behind their numbers, each set behind its length, and then anything. Numbers and lengths are read from the record
itself; none of them takes the reading past its end.
-/

namespace WhipWhep

open Avc

namespace AvcConfig

/-- The fields of a record. Of some of their bits nothing is read. -/
@[ext] structure Record where
  profile : UInt8
  compatibility : UInt8
  level : UInt8
  sizes : UInt8
  spsCount : UInt8
  sps : List Bytes
  ppsCount : UInt8
  pps : List Bytes
  trailing : Bytes
  sps_counted : sps.length = (spsCount &&& 0x1F).toNat
  pps_counted : pps.length = ppsCount.toNat
  short : ∀ unit ∈ sps ++ pps, unit.length < 256 ^ 2

namespace Record

def bytes (record : Record) : Bytes :=
  1 :: record.profile :: record.compatibility :: record.level :: record.sizes :: record.spsCount ::
    (prefixed 2 record.sps ++ record.ppsCount :: (prefixed 2 record.pps ++ record.trailing))

def config (record : Record) : AvcConfig where
  profile := record.profile
  compatibility := record.compatibility
  level := record.level
  sps := record.sps
  pps := record.pps
  lengthSize := some ((record.sizes &&& 0x03) + 1)

end Record

section Sets

variable {count : Nat} {bytes rest : Bytes} {sets : List Bytes}

theorem readSets?_prefixed (short : ∀ unit ∈ sets, unit.length < 256 ^ 2) :
    readSets? sets.length (prefixed 2 sets ++ rest) = some (sets, rest) := by
  induction sets with
  | nil => rfl
  | cons unit sets ih =>
    obtain ⟨fits, others⟩ := List.forall_mem_cons.1 short
    have length : bigEndian (toBigEndian 2 unit.length) = unit.length := bigEndian_toBigEndian fits
    have lead : prefixed 2 (unit :: sets) ++ rest =
        UInt8.ofNat (unit.length / 256) :: UInt8.ofNat unit.length :: (unit ++ (prefixed 2 sets ++ rest)) := by
      rw [prefixed_cons, List.append_assoc, List.append_assoc]
      rfl
    rw [lead, List.length_cons, readSets?]
    replace length : bigEndian [UInt8.ofNat (unit.length / 256), UInt8.ofNat unit.length] = unit.length := length
    rw [length, if_neg (by simp), List.drop_left, List.take_left, ih others]
    rfl

/-- Parameter sets are read exactly where they were written. -/
theorem readSets?_eq_some_iff :
    readSets? count bytes = some (sets, rest) ↔
      sets.length = count ∧ (∀ unit ∈ sets, unit.length < 256 ^ 2) ∧ bytes = prefixed 2 sets ++ rest := by
  constructor
  · intro read
    induction count generalizing bytes sets with
    | zero =>
      obtain ⟨rfl, rfl⟩ := Prod.mk.inj (Option.some.inj read)
      exact ⟨rfl, List.forall_mem_nil _, rfl⟩
    | succ count ih =>
      match bytes, read with
      | high :: low :: tail, read =>
        rw [readSets?] at read
        split at read
        · cases read
        · next enough =>
          obtain ⟨⟨others, last⟩, later, same⟩ := Option.map_eq_some_iff.1 read
          obtain ⟨rfl, rfl⟩ := Prod.mk.inj same
          obtain ⟨rfl, fits, written⟩ := ih later
          have length : (tail.take (bigEndian [high, low])).length = bigEndian [high, low] :=
            List.length_take_of_le (Nat.le_of_not_lt enough)
          have lead : toBigEndian 2 (bigEndian [high, low]) = [high, low] := toBigEndian_bigEndian [high, low]
          have short : bigEndian [high, low] < 256 ^ 2 := bigEndian_lt [high, low]
          refine ⟨rfl, List.forall_mem_cons.2 ⟨Nat.lt_of_le_of_lt (List.length_take_le _ _) short, fits⟩, ?_⟩
          rw [prefixed_cons, length, lead, List.append_assoc, List.append_assoc, ← written, List.take_append_drop]
          rfl
  · rintro ⟨rfl, short, rfl⟩
    exact readSets?_prefixed short

end Sets

namespace Record

variable {bytes : Bytes} {config : AvcConfig}

theorem readSets?_sps (record : Record) (rest : Bytes) :
    readSets? (record.spsCount &&& 0x1F).toNat (prefixed 2 record.sps ++ rest) = some (record.sps, rest) :=
  readSets?_eq_some_iff.2
    ⟨record.sps_counted, fun unit within => record.short unit (List.mem_append_left _ within), rfl⟩

theorem readSets?_pps (record : Record) (rest : Bytes) :
    readSets? record.ppsCount.toNat (prefixed 2 record.pps ++ rest) = some (record.pps, rest) :=
  readSets?_eq_some_iff.2
    ⟨record.pps_counted, fun unit within => record.short unit (List.mem_append_right _ within), rfl⟩

/-- The fields can be told from the bytes. -/
theorem bytes_injective : Function.Injective Record.bytes := by
  intro record other same
  simp only [Record.bytes, List.cons.injEq, true_and] at same
  obtain ⟨profile, compatibility, level, sizes, spsCount, same⟩ := same
  have first := record.readSets?_sps (record.ppsCount :: (prefixed 2 record.pps ++ record.trailing))
  rw [same, spsCount, other.readSets?_sps, Option.some.injEq, Prod.mk.injEq, List.cons.injEq] at first
  obtain ⟨sps, ppsCount, later⟩ := first
  have second := other.readSets?_pps other.trailing
  rw [later, ppsCount, record.readSets?_pps, Option.some.injEq, Prod.mk.injEq] at second
  obtain ⟨pps, trailing⟩ := second
  exact Record.ext profile compatibility level sizes spsCount sps.symm ppsCount.symm pps trailing

theorem ofRecord?_bytes (record : Record) : ofRecord? record.bytes = some record.config := by
  rw [Record.bytes, ofRecord?, if_pos rfl, record.readSets?_sps, Option.bind_some]
  simp only [record.readSets?_pps, Option.map_some]
  rfl

/-- What a configuration is read from is a record. -/
theorem exists_of_ofRecord? (read : ofRecord? bytes = some config) :
    ∃ record : Record, record.bytes = bytes ∧ record.config = config := by
  unfold ofRecord? at read
  split at read
  · next version profile compatibility level sizes spsCount rest =>
    split at read
    · next first =>
      obtain ⟨⟨sps, tail⟩, front, onward⟩ := Option.bind_eq_some_iff.1 read
      match tail, onward, front with
      | ppsCount :: tail, onward, front =>
        obtain ⟨⟨pps, trailing⟩, back, rfl⟩ := Option.map_eq_some_iff.1 onward
        obtain ⟨sps_counted, sps_short, rfl⟩ := readSets?_eq_some_iff.1 front
        obtain ⟨pps_counted, pps_short, rfl⟩ := readSets?_eq_some_iff.1 back
        refine ⟨⟨profile, compatibility, level, sizes, spsCount, sps, ppsCount, pps, trailing, sps_counted,
          pps_counted, List.forall_mem_append.2 ⟨sps_short, pps_short⟩⟩, ?_, rfl⟩
        rw [first]
        rfl
    · cases read
  · cases read

theorem ofRecord?_eq_some_iff :
    ofRecord? bytes = some config ↔ ∃ record : Record, record.bytes = bytes ∧ record.config = config := by
  constructor
  · exact exists_of_ofRecord?
  · rintro ⟨record, rfl, rfl⟩
    exact record.ofRecord?_bytes

end Record

end AvcConfig

namespace Avc.Cursor

open AvcConfig

/-- Parameter sets, each behind a length of two bytes. -/
def sets : Nat → Cursor (List Bytes)
  | 0 => pure []
  | count + 1 => do
    if (← left) < 2 then refuse .invalidAvcConfig
    else
      let length := bigEndian (← take 2)
      if (← left) < length then refuse .invalidAvcConfig
      else return (← take length) :: (← sets count)

/-- A record. Seven bytes are the least that one can have, and at least as many are there. -/
def record : Cursor AvcConfig := do
  if (← left) < 7 then refuse .invalidAvcConfig
  else if (← byte) ≠ 1 then refuse .invalidAvcConfig
  else
    let profile ← byte
    let compatibility ← byte
    let level ← byte
    let sizes ← byte
    let spsCount ← byte
    let sps ← sets (spsCount &&& 0x1F).toNat
    if (← left) = 0 then refuse .invalidAvcConfig
    else
      let ppsCount ← byte
      let pps ← sets ppsCount.toNat
      return ⟨profile, compatibility, level, sps, pps, some ((sizes &&& 0x03) + 1)⟩

/-- However many parameter sets are asked for, they are taken off without going past the end. -/
theorem sets_run (count : Nat) (bytes : Bytes) :
    sets count bytes = some (demand .invalidAvcConfig (readSets? count bytes)) := by
  induction count generalizing bytes with
  | zero => rfl
  | succ count ih =>
    match bytes with
    | [] => rfl
    | [_] => rfl
    | high :: low :: tail =>
      have long : ¬ (high :: low :: tail).length < 2 := by simp
      rw [sets, left_bind, if_neg long, take_bind (Nat.le_of_not_lt long), left_bind, readSets?]
      by_cases lacking : tail.length < bigEndian [high, low]
      · rw [if_pos lacking]
        exact congrFun (if_pos lacking) tail
      · rw [if_neg lacking]
        refine (congrFun (if_neg lacking) tail).trans ?_
        show (take (bigEndian [high, low]) >>= _) tail = _
        rw [take_bind (Nat.le_of_not_lt lacking), bind_run, ih]
        cases readSets? count (tail.drop (bigEndian [high, low])) <;> rfl

/-- A record is read without going past its end. What has fewer than seven bytes is none. -/
theorem record_run (bytes : Bytes) :
    (record bytes).map (Except.map Prod.fst) = some (demand .invalidAvcConfig (ofRecord? bytes)) := by
  match bytes with
  | [] | [_] | [_, _] | [_, _, _] | [_, _, _, _] | [_, _, _, _, _] => rfl
  | [version, profile, compatibility, level, sizes, count] =>
    have lacks : ofRecord? [version, profile, compatibility, level, sizes, count] = none := by
      rw [ofRecord?]
      cases (count &&& 0x1F).toNat with
      | zero => exact ite_self none
      | succ count => exact ite_self none
    rw [lacks]
    rfl
  | version :: profile :: compatibility :: level :: sizes :: count :: next :: rest =>
    have long : ¬ (version :: profile :: compatibility :: level :: sizes :: count :: next :: rest).length < 7 := by
      simp
    rw [record, left_bind, if_neg long, byte_bind, ofRecord?]
    by_cases other : version ≠ 1
    · rw [if_pos other, if_neg other]
      rfl
    · rw [if_neg other, if_pos (not_not.1 other)]
      simp only [byte_bind]
      rw [bind_run, sets_run]
      cases readSets? (count &&& 0x1F).toNat (next :: rest) with
      | none => rfl
      | some front =>
        obtain ⟨sps, tail⟩ := front
        cases tail with
        | nil => rfl
        | cons ppsCount tail =>
          show ((sets ppsCount.toNat >>= _) tail).map _ =
            some (demand _ ((readSets? ppsCount.toNat tail).map _))
          rw [bind_run, sets_run]
          cases readSets? ppsCount.toNat tail <;> rfl

end Avc.Cursor

namespace AvcConfig

/-- Which bytes are read as a record, what is read from them, and what becomes of all others. -/
structure Recorded (bytes : Bytes) : Prop where
  accepts : ∀ {config : AvcConfig}, demand MediaError.invalidAvcConfig (ofRecord? bytes) = .ok config ↔
    ∃ record : Record, record.bytes = bytes ∧ record.config = config
  unique : ∀ {record other : Record}, record.bytes = bytes → other.bytes = bytes → record = other
  refuses : demand MediaError.invalidAvcConfig (ofRecord? bytes) = .error .invalidAvcConfig ↔
    ¬ ∃ record : Record, record.bytes = bytes
  /-- Reading it one field at a time comes to the same, and never goes past the end. -/
  bounded : (Cursor.record bytes).map (Except.map Prod.fst) =
    some (demand MediaError.invalidAvcConfig (ofRecord? bytes))
  /-- Units behind lengths of the size that the record says are taken for an access unit. -/
  sized : ∀ {config : AvcConfig}, ofRecord? bytes = some config → ∃ size, config.lengthSize = some size ∧
    (1 ≤ size ∧ size ≤ 4) ∧ ∀ {units : List Bytes}, (∀ unit ∈ units, Fits size.toNat unit) →
      demand MediaError.invalidAccessUnit (toByteStream? (prefixed size.toNat units) size) = .ok (write units)

/-- Bytes are read as a configuration exactly if they are a record: version 1, profile, compatibility and level, the
size of lengths, two lists of parameter sets, each behind the number of them, and anything. -/
theorem record_recorded (bytes : Bytes) : Recorded bytes where
  accepts := demand_eq_ok_iff.trans Record.ofRecord?_eq_some_iff
  unique one other := Record.bytes_injective (one.trans other.symm)
  refuses := by
    rw [demand_eq_error_iff, Option.eq_none_iff_forall_ne_some]
    simp only [ne_eq, Record.ofRecord?_eq_some_iff]
    constructor
    · rintro never ⟨record, same⟩
      exact never _ ⟨record, same, rfl⟩
    · rintro other config ⟨record, same, -⟩
      exact other ⟨record, same⟩
  bounded := Cursor.record_run bytes
  sized read := by
    obtain ⟨size, told, sized⟩ := lengthSize_of_ofRecord? read
    refine ⟨size, told, sized, fun fits => demand_eq_ok_iff.2 ?_⟩
    exact toByteStream?_eq_some_iff.2 ⟨sized, _, ⟨fits, rfl⟩, rfl⟩

/-- No parameter sets and something behind them, and six bytes that could have been the first of a record. -/
example : ofRecord? [1, 0x42, 0xC0, 0x1F, 0xFF, 0xE0, 0, 9] = some ⟨0x42, 0xC0, 0x1F, [], [], some 4⟩ ∧
    ofRecord? [1, 0x42, 0xC0, 0x1F, 0xFF, 0xE0] = none := by
  decide +kernel

end AvcConfig
end WhipWhep
