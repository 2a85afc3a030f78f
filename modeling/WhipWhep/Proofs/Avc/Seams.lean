import WhipWhep.Proofs.Avc.ParameterSets
import WhipWhep.Proofs.Avc.Scanner
import WhipWhep.Proofs.Media.BitFields

/-!
Where a sequence parameter set is found. The scan goes from start code to start code and looks one byte back, yet it
comes to every 00 00 01, also to one that lies across the seam of two streams. So nothing that is put before a stream or
behind it hides a sequence parameter set, and an access unit that was given parameter sets once is not given them again.
-/

namespace WhipWhep.Avc

variable {stream first second unit sets : Bytes} {byte : UInt8}

theorem ofByte?_sps_iff : UnitType.ofByte? byte = some .sps ↔ byte.toNat % 32 = 7 := by
  have low : (byte &&& 0x1F).toNat = byte.toNat % 2 ^ 5 := toNat_mask byte (by decide)
  rw [UnitType.ofByte?, low]
  split <;> simp_all

theorem marked_iff : Marked byte stream ↔ ∃ before after, stream = before ++ 0 :: 0 :: 1 :: byte :: after := by
  constructor
  · rintro ⟨before, after, rfl⟩
    exact ⟨before, after, by simp [mark]⟩
  · rintro ⟨before, after, rfl⟩
    exact ⟨before, after, by simp [mark]⟩

/-- A stream contains a sequence parameter set exactly if 00 00 01 stands directly before a byte of that type. -/
theorem containsSps_iff_split : containsSps stream = true ↔
    ∃ before byte after, stream = before ++ 0 :: 0 :: 1 :: byte :: after ∧ byte.toNat % 32 = 7 := by
  simp only [containsSps_iff, ofByte?_sps_iff, marked_iff]
  constructor
  · rintro ⟨byte, low, before, after, whole⟩
    exact ⟨before, byte, after, whole, low⟩
  · rintro ⟨before, byte, after, whole, low⟩
    exact ⟨byte, low, before, after, whole⟩

theorem containsSps_append (either : containsSps first = true ∨ containsSps second = true) :
    containsSps (first ++ second) = true := by
  rcases either with inside | inside
  · exact containsSps_of_infix (List.prefix_append first second).isInfix inside
  · exact containsSps_of_infix (List.suffix_append first second).isInfix inside

/-- The scan by places sees what is there. -/
theorem scan_containsSps (stream : Bytes) :
    (Scanner.units stream).map (fun us => us.any fun unit => typeOf? unit = some .sps) = some (containsSps stream) := by
  rw [Scanner.units_run]
  rfl

theorem withParameterSets_twice (given : sets = [] ∨ containsSps sets = true) (unit : Bytes) :
    withParameterSets (withParameterSets unit sets) sets = withParameterSets unit sets := by
  rcases given with rfl | carried
  · rfl
  · exact withParameterSets_of_contains (containsSps_withParameterSets unit carried)

/-- Sets that say nothing of the sequence are put before an empty access unit again and again. -/
theorem given_of_twice
    (settled : withParameterSets (withParameterSets [] sets) sets = withParameterSets [] sets) :
    sets = [] ∨ containsSps sets = true := by
  by_contra neither
  obtain ⟨full, bare⟩ := not_or.1 neither
  have once : ∀ unit, containsSps unit = false → withParameterSets unit sets = sets ++ unit := by
    intro unit none
    simp [withParameterSets, full, none]
  rw [once [] rfl, List.append_nil, once sets (Bool.eq_false_iff.2 bare)] at settled
  exact full (List.append_right_eq_self.1 settled)

/-- No occurrence is skipped by the scan, neither within a stream nor across the seam of two of them, and so parameter
sets are inserted at most once. -/
theorem parameterSets_spotted :
    (∀ stream : Bytes, (containsSps stream = true ↔
        ∃ before byte after, stream = before ++ 0 :: 0 :: 1 :: byte :: after ∧ byte.toNat % 32 = 7) ∧
      (Scanner.units stream).map (fun us => us.any fun unit => typeOf? unit = some .sps) =
        some (containsSps stream)) ∧
    (∀ {first second : Bytes}, containsSps first = true ∨ containsSps second = true →
      containsSps (first ++ second) = true) ∧
    ∀ {sets : Bytes}, sets = [] ∨ containsSps sets = true ↔
      ∀ unit, withParameterSets (withParameterSets unit sets) sets = withParameterSets unit sets :=
  ⟨fun stream => ⟨containsSps_iff_split, scan_containsSps stream⟩, containsSps_append,
    withParameterSets_twice, fun settled => given_of_twice (settled [])⟩

/-- The seam of two streams lies within the start code, or right behind it. -/
theorem parameterSets_spotted_seam :
    containsSps ([9, 0, 0] ++ [1, 0x67]) = true ∧ containsSps ([0, 0, 1, 0x67] ++ [0, 0]) = true ∧
      withParameterSets (withParameterSets [0, 0, 1, 0x65] [0, 0, 1, 0x67]) [0, 0, 1, 0x67] =
        withParameterSets [0, 0, 1, 0x65] [0, 0, 1, 0x67] := by
  obtain ⟨found, joined, settled⟩ := parameterSets_spotted
  have sets : containsSps [0, 0, 1, 0x67] = true := (found _).1.2 ⟨[], 0x67, [], rfl, rfl⟩
  exact ⟨(found _).1.2 ⟨[9], 0x67, [], rfl, rfl⟩, joined (.inl sets), settled.1 (.inr sets) _⟩

end WhipWhep.Avc
