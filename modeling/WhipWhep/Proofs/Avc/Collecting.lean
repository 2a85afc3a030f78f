import WhipWhep.Proofs.Avc.Config
import WhipWhep.Proofs.Steps

/-!
Parameter sets that are collected from byte streams. Those of a configuration are found again in the byte stream that
is written of them, and any byte stream that tells a configuration tells one whose parameter sets can be written so:
writing them and reading them again comes to the same configuration.
-/

namespace WhipWhep.AvcConfig

open Avc

variable {config plain : AvcConfig} {stream : Bytes}

/-- What is read from a byte stream could have been written as one. -/
theorem streamable_of_byteStream (read : ofByteStream? stream = some config) : config.Streamable := by
  obtain ⟨sps, pps, -, ⟨first, within, long⟩, -⟩ := ofByteStream?_eq_some_iff.1 read
  have member : ∀ {kind unit}, unit ∈ unitsOf kind stream → unit ∈ units stream ∧ typeOf? unit = some kind :=
    fun inside => by simpa using List.mem_filter.1 inside
  refine ⟨?_, fun _ inside => (member (sps ▸ inside)).2, fun _ inside => (member (pps ▸ inside)).2, ?_, ?_⟩
  · rintro none
    simp [none] at within
  · intro unit inside
    rw [sps, pps] at inside
    exact (List.mem_append.1 inside).elim (fun found => clean_units (member found).1)
      fun found => clean_units (member found).1
  · intro other found
    cases Option.some.inj (within.symm.trans found)
    exact long

/-- The profile and the level are settled by the parameter sets. -/
theorem Agrees.eq (one : plain.Agrees) (other : config.Agrees) (listed : config.sps ≠ [])
    (sps : plain.sps = config.sps) (pps : plain.pps = config.pps) (lengthSize : plain.lengthSize = config.lengthSize) :
    plain = config := by
  obtain ⟨first, others, found⟩ := List.exists_cons_of_ne_nil listed
  have within : first ∈ config.sps.head? := by simp [found]
  have told := (one first (sps ▸ within)).trans (other first within).symm
  cases plain
  cases config
  simp_all

/-- Writing the parameter sets of what was read from a byte stream, and reading them, changes nothing. -/
theorem ofExtradata?_parameterSets (read : ofByteStream? stream = some config) :
    ofExtradata? config.parameterSets = some config := by
  have written := streamable_of_byteStream read
  obtain ⟨-, -, unprefixed, -, agrees⟩ := ofByteStream?_eq_some_iff.1 read
  obtain ⟨plain, again, sps, pps, plainly, told⟩ := written.ofExtradata?_parameterSets
  rw [again, told.eq agrees written.listed sps pps (plainly.trans unprefixed.symm)]

/-- What is collected from a byte stream, if it tells a configuration at all. -/
structure Collected (stream : Bytes) : Prop where
  accepts : (∃ config, demand MediaError.invalidAvcConfig (ofByteStream? stream) = .ok config) ↔
    ∃ first, (units stream).find? (fun unit => typeOf? unit = some .sps) = some first ∧ 4 ≤ first.length
  reads : ∀ {config : AvcConfig}, ofByteStream? stream = some config →
    config.sps = (units stream).filter (fun unit => typeOf? unit = some .sps) ∧
      config.pps = (units stream).filter (fun unit => typeOf? unit = some .pps) ∧
      config.Agrees ∧ config.lengthSize = none
  settles : ∀ {config : AvcConfig}, ofByteStream? stream = some config →
    ofExtradata? config.parameterSets = some config

theorem collected (stream : Bytes) : Collected stream where
  accepts := by
    simp only [demand_eq_ok_iff, exists_ofByteStream?_iff, unitsOf, List.head?_filter, Option.mem_def]
  reads read := by
    obtain ⟨sps, pps, unprefixed, -, agrees⟩ := ofByteStream?_eq_some_iff.1 read
    exact ⟨sps, pps, agrees, unprefixed⟩
  settles := ofExtradata?_parameterSets

/-- The parameter sets of a configuration are read back from their byte stream, in the order in which they are listed,
and written again they are the same bytes. Of other byte streams those are read that have a sequence parameter set, the
first of which is long enough to tell the profile and the level. -/
theorem parameterSets_collected :
    (∀ {config : AvcConfig}, config.Streamable → ∃ plain,
      demand MediaError.invalidAvcConfig (ofExtradata? config.parameterSets) = .ok plain ∧
        plain.sps = config.sps ∧ plain.pps = config.pps ∧
        (∃ first ∈ config.sps.head?,
          [plain.profile, plain.compatibility, plain.level] = (first.drop 1).take 3) ∧
        plain.lengthSize = none ∧ plain.parameterSets = config.parameterSets) ∧
    ∀ stream : Bytes, Collected stream := by
  refine ⟨fun {config} written => ?_, collected⟩
  obtain ⟨plain, read, sps, pps, unprefixed, agrees⟩ := written.ofExtradata?_parameterSets
  obtain ⟨first, others, listed⟩ := List.exists_cons_of_ne_nil written.listed
  have within : first ∈ config.sps.head? := by simp [listed]
  refine ⟨plain, demand_eq_ok_iff.2 read, sps, pps, ⟨first, within, agrees first (sps ▸ within)⟩, unprefixed, ?_⟩
  rw [parameterSets, parameterSets, sps, pps]

/-- Two sequence parameter sets that end in zeros, and one picture parameter set. -/
def twofold : AvcConfig :=
  ⟨0, 0, 0, [[0x67, 0x64, 0, 0x28, 0, 0], [0x67, 0]], [[0x68, 0xEE, 0]], some 4⟩

theorem parameterSets_collected_twofold : ∃ plain,
    demand MediaError.invalidAvcConfig (ofExtradata? twofold.parameterSets) = .ok plain ∧
      plain.sps = [[0x67, 0x64, 0, 0x28, 0, 0], [0x67, 0]] ∧ plain.pps = [[0x68, 0xEE, 0]] ∧
      [plain.profile, plain.compatibility, plain.level] = [0x64, 0, 0x28] ∧
      plain.parameterSets = twofold.parameterSets := by
  have written : twofold.Streamable := ⟨by decide, by decide, by decide, by decide, by decide⟩
  obtain ⟨plain, read, sps, pps, ⟨first, ⟨⟩, told⟩, -, same⟩ := parameterSets_collected.1 written
  exact ⟨plain, read, sps, pps, told, same⟩

/-- The first sequence parameter set counts, even if a later one is long enough. -/
example : ofByteStream? [0, 0, 1, 0x67, 0x42, 0, 0, 1, 0x67, 0x64, 0, 0x28] = none := by decide

end WhipWhep.AvcConfig
