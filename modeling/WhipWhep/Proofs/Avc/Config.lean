import WhipWhep.Avc.Config
import WhipWhep.Proofs.Avc.ByteStream

/-!
The two forms of a decoder configuration. Where a configuration read from a record has well-formed
parameter sets, these, written as a byte stream, are the extradata of a configuration with the same
parameter sets, whose access units are byte streams.
-/

namespace WhipWhep.AvcConfig

open Avc

/-- Parameter sets that a byte stream can hold: each is of the type it is listed under and contains
no start code, and the first tells the profile and the level. -/
structure Streamable (config : AvcConfig) : Prop where
  listed : config.sps ≠ []
  sps : ∀ unit ∈ config.sps, typeOf? unit = some .sps
  pps : ∀ unit ∈ config.pps, typeOf? unit = some .pps
  clean : ∀ unit ∈ config.sps ++ config.pps, ¬ mark <:+: unit
  long : ∀ first ∈ config.sps.head?, 4 ≤ first.length

/-- Profile, compatibility and level, as the first sequence parameter set has them. -/
def Agrees (config : AvcConfig) : Prop :=
  ∀ first ∈ config.sps.head?,
    [config.profile, config.compatibility, config.level] = (first.drop 1).take 3

section Records

variable {record : Bytes} {config : AvcConfig}

/-- How a record begins. -/
theorem shape_of_ofRecord? (read : ofRecord? record = some config) :
    ∃ sizes rest, record = 1 :: config.profile :: config.compatibility :: config.level :: sizes :: rest ∧
      config.lengthSize = some ((sizes &&& 0x03) + 1) := by
  unfold ofRecord? at read
  split at read
  · split at read
    · next version _ _ _ sizes _ _ first =>
      obtain ⟨⟨sps, tail⟩, -, rest⟩ := Option.bind_eq_some_iff.1 read
      cases tail with
      | nil => cases rest
      | cons count tail =>
        obtain ⟨_, -, rfl⟩ := Option.map_eq_some_iff.1 rest
        exact ⟨sizes, _, by rw [first], rfl⟩
    · cases read
  · cases read

/-- A record is never taken for a byte stream. -/
theorem ofExtradata?_record (read : ofRecord? record = some config) :
    ofExtradata? record = some config := by
  obtain ⟨_, _, shape, -⟩ := shape_of_ofRecord? read
  rw [ofExtradata?, if_pos (by rw [shape, List.head?_cons]), read]

theorem prefixSize_range (sizes : UInt8) : 1 ≤ (sizes &&& 0x03) + 1 ∧ (sizes &&& 0x03) + 1 ≤ 4 := by
  have low : (sizes &&& 0x03).toNat ≤ 3 := UInt8.le_iff_toNat_le.1 UInt8.and_le_right
  have whole : ((sizes &&& 0x03) + 1).toNat = (sizes &&& 0x03).toNat + 1 := by
    rw [UInt8.toNat_add, UInt8.toNat_one, Nat.mod_eq_of_lt (by omega)]
  constructor
  · rw [UInt8.le_iff_toNat_le, whole]
    exact Nat.le_add_left 1 _
  · rw [UInt8.le_iff_toNat_le, whole]
    exact Nat.succ_le_succ low

/-- The length prefixes of a record have a size that access units can have. -/
theorem lengthSize_of_ofRecord? (read : ofRecord? record = some config) :
    ∃ size, config.lengthSize = some size ∧ 1 ≤ size ∧ size ≤ 4 := by
  obtain ⟨sizes, _, -, size⟩ := shape_of_ofRecord? read
  exact ⟨_, size, prefixSize_range sizes⟩

end Records

section ByteStreams

variable {config : AvcConfig} {stream : Bytes}

/-- What is read from a byte stream: its parameter sets, sorted by their types, where the first one
tells the profile and the level. -/
theorem ofByteStream?_eq_some_iff : ofByteStream? stream = some config ↔
    config.sps = unitsOf .sps stream ∧ config.pps = unitsOf .pps stream ∧ config.lengthSize = none ∧
      (∃ first ∈ config.sps.head?, 4 ≤ first.length) ∧ config.Agrees := by
  unfold ofByteStream?
  dsimp only
  constructor
  · intro read
    split at read
    · next found =>
      cases read
      refine ⟨rfl, rfl, rfl, ⟨_, by rw [found, List.head?_cons]; rfl, by simp⟩, fun first within => ?_⟩
      dsimp only at within
      rw [found, List.head?_cons] at within
      cases within
      rfl
    · cases read
  · rintro ⟨sps, pps, unprefixed, ⟨first, within, long⟩, agrees⟩
    obtain ⟨others, listed⟩ := List.head?_eq_some_iff.1 within
    have told := agrees first within
    match first, long with
    | _ :: _ :: _ :: _ :: _, _ =>
      obtain ⟨rfl, rfl, rfl⟩ := by simpa using told
      rw [← sps, listed]
      dsimp only
      rw [← listed, ← pps, ← unprefixed]

/-- A byte stream is read as soon as its first sequence parameter set is long enough. -/
theorem exists_ofByteStream?_iff : (∃ config, ofByteStream? stream = some config) ↔
    ∃ first ∈ (unitsOf .sps stream).head?, 4 ≤ first.length := by
  constructor
  · rintro ⟨config, read⟩
    obtain ⟨sps, -, -, long, -⟩ := ofByteStream?_eq_some_iff.1 read
    rwa [sps] at long
  · rintro ⟨first, within, long⟩
    obtain ⟨profile, compatibility, level, told⟩ :
        ∃ profile compatibility level, [profile, compatibility, level] = (first.drop 1).take 3 := by
      match first, long with
      | _ :: profile :: compatibility :: level :: _, _ => exact ⟨profile, compatibility, level, rfl⟩
    refine ⟨⟨profile, compatibility, level, unitsOf .sps stream, unitsOf .pps stream, none⟩, ?_⟩
    refine ofByteStream?_eq_some_iff.2 ⟨rfl, rfl, rfl, ⟨first, within, long⟩, fun other found => ?_⟩
    cases Option.some.inj (within.symm.trans found)
    exact told

theorem Streamable.full (written : config.Streamable) :
    ∀ unit ∈ config.sps ++ config.pps, unit ≠ [] := by
  intro unit within
  rcases List.mem_append.1 within with sps | pps
  · exact ne_nil_of_typeOf? (written.sps unit sps)
  · exact ne_nil_of_typeOf? (written.pps unit pps)

/-- Each list of parameter sets is found again in the byte stream of both. -/
theorem Streamable.unitsOf_parameterSets (written : config.Streamable) :
    unitsOf .sps config.parameterSets = config.sps ∧
      unitsOf .pps config.parameterSets = config.pps := by
  have all := fun kind => unitsOf_write kind written.full written.clean
  have noSps : ∀ unit ∈ config.pps, typeOf? unit ≠ some .sps := fun unit within => by
    simp [written.pps unit within]
  have noPps : ∀ unit ∈ config.sps, typeOf? unit ≠ some .pps := fun unit within => by
    simp [written.sps unit within]
  constructor
  · rw [parameterSets, all, List.filter_append, List.filter_eq_self.2 (by simpa using written.sps),
      List.filter_eq_nil_iff.2 (by simpa using noSps), List.append_nil]
  · rw [parameterSets, all, List.filter_append, List.filter_eq_nil_iff.2 (by simpa using noPps),
      List.filter_eq_self.2 (by simpa using written.pps), List.nil_append]

/-- The parameter sets of a configuration, read as extradata, are those of a configuration for byte
streams, which has its profile and level from the first of them. -/
theorem Streamable.ofExtradata?_parameterSets (written : config.Streamable) :
    ∃ plain, ofExtradata? config.parameterSets = some plain ∧ plain.sps = config.sps ∧
      plain.pps = config.pps ∧ plain.lengthSize = none ∧ plain.Agrees := by
  obtain ⟨sps, pps⟩ := written.unitsOf_parameterSets
  obtain ⟨first, others, listed⟩ := List.exists_cons_of_ne_nil written.listed
  have within : first ∈ config.sps.head? := by simp [listed]
  have stream : config.parameterSets.head? ≠ some 1 := head?_write _
  obtain ⟨plain, read⟩ := exists_ofByteStream?_iff.2 ⟨first, sps.symm ▸ within, written.long first within⟩
  obtain ⟨plainSps, plainPps, unprefixed, -, agrees⟩ := ofByteStream?_eq_some_iff.1 read
  exact ⟨plain, (if_neg stream).trans read, plainSps.trans sps, plainPps.trans pps, unprefixed, agrees⟩

/-- Where the profile and the level of a record are those of its first parameter set, the byte stream
of its parameter sets says the same. -/
theorem Agrees.profileLevelId {plain : AvcConfig} (record : config.Agrees) (stream : plain.Agrees)
    (listed : config.sps ≠ []) (same : plain.sps = config.sps) :
    plain.profileLevelId = config.profileLevelId := by
  obtain ⟨first, _, found⟩ := List.exists_cons_of_ne_nil listed
  have within : first ∈ config.sps.head? := by simp [found]
  rw [AvcConfig.profileLevelId, AvcConfig.profileLevelId, stream first (same ▸ within),
    record first within]

end ByteStreams

end WhipWhep.AvcConfig
