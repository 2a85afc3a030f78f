import WhipWhep.Avc.Framing
import WhipWhep.Proofs.Avc.Config
import WhipWhep.Proofs.Steps

/-!
Parameter sets on keyframes. A stream contains a sequence parameter set exactly if the first byte of
one stands behind 00 00 01, so a stream that contains one does so within every larger stream, whatever
bytes meet where they are put together. What was given its parameter sets is not given them again.
-/

namespace WhipWhep.Avc

variable {stream larger : Bytes} {first : UInt8}

/-- A byte that stands behind 00 00 01. -/
def Marked (first : UInt8) (stream : Bytes) : Prop := mark ++ [first] <:+: stream

theorem singleton_prefix_iff : [first] <+: stream ↔ stream.head? = some first := by
  cases stream with
  | nil => simp
  | cons a rest => simp [List.cons_prefix_cons, eq_comm]

theorem marked_cons {a : UInt8} :
    Marked first (a :: stream) ↔ (a = 0 ∧ [0, 1, first] <+: stream) ∨ Marked first stream := by
  rw [Marked, List.infix_cons_iff, mark, List.cons_append, List.cons_prefix_cons, eq_comm]
  rfl

theorem marked_code (code : Code) :
    Marked first (code.bytes ++ stream) ↔ stream.head? = some first ∨ Marked first stream := by
  have short : Marked first (mark ++ stream) ↔ stream.head? = some first ∨ Marked first stream := by
    simp [mark, marked_cons, List.cons_prefix_cons, singleton_prefix_iff]
  cases code with
  | short => exact short
  | long =>
    have shifted : Code.long.bytes ++ stream = 0 :: (mark ++ stream) := rfl
    rw [shifted, marked_cons, short]
    simp [mark, List.cons_prefix_cons]

theorem not_marked_of_short (short : stream.length < 4) : ¬ Marked first stream := fun marked => by
  have long := marked.length_le
  simp only [mark, List.cons_append, List.nil_append, List.length_cons, List.length_nil] at long
  omega

/-- What comes before the first start code begins as the whole does, unless that is with a zero. -/
theorem head?_lead (stream : Bytes) (nonzero : first ≠ 0) :
    (cut stream).1.head? = some first ↔ stream.head? = some first := by
  fun_cases cut stream <;> grind

/-- Start codes do not overlap, so the scan for them passes none over. -/
theorem begins_iff_marked (nonzero : first ≠ 0) :
    (∃ unit ∈ (cut stream).2, unit.head? = some first) ↔ Marked first stream := by
  fun_induction cut stream with
  | case1 a b c d rest hit lead us cuts ih =>
    obtain ⟨rfl, rfl, rfl, rfl⟩ := hit
    have head := head?_lead rest nonzero
    rw [cuts] at ih head
    simp only [List.mem_cons, exists_eq_or_imp, head, ih]
    exact (marked_code .long).symm
  | case2 a b c d rest _ hit lead us cuts ih =>
    obtain ⟨rfl, rfl, rfl⟩ := hit
    have head := head?_lead (d :: rest) nonzero
    rw [cuts] at ih head
    simp only [List.mem_cons, exists_eq_or_imp, head, ih]
    exact (marked_code .short).symm
  | case3 a b c d rest _ miss lead us cuts ih =>
    rw [cuts] at ih
    rw [ih, marked_cons (a := a), List.cons_prefix_cons, List.cons_prefix_cons]
    grind
  | case4 a b c hit => simp [not_marked_of_short]
  | case5 a b c miss => simp [not_marked_of_short]
  | case6 short notFour notThree =>
    have few : short.length < 4 := Nat.lt_succ_of_lt (length_of_short notFour notThree)
    simp [not_marked_of_short few]

theorem typeOf?_eq_some_iff {unit : Bytes} {kind : UnitType} :
    typeOf? unit = some kind ↔ ∃ first, unit.head? = some first ∧ UnitType.ofByte? first = some kind :=
  Option.bind_eq_some_iff

/-- The empty unit that is left out has no type. -/
theorem mem_units_iff {unit : Bytes} {kind : UnitType} (typed : typeOf? unit = some kind) :
    unit ∈ units stream ↔ unit ∈ (cut stream).2 := by
  have full := ne_nil_of_typeOf? typed
  unfold units
  dsimp only
  split
  · next last =>
    obtain ⟨before, same⟩ := List.getLast?_eq_some_iff.1 last
    simp [same, full]
  · rfl

theorem containsSps_iff :
    containsSps stream = true ↔ ∃ first, UnitType.ofByte? first = some .sps ∧ Marked first stream := by
  rw [containsSps, List.any_eq_true]
  simp only [decide_eq_true_eq]
  constructor
  · rintro ⟨unit, member, typed⟩
    obtain ⟨first, begins, sps⟩ := typeOf?_eq_some_iff.1 typed
    have nonzero : first ≠ 0 := by
      rintro rfl
      cases sps
    exact ⟨first, sps, (begins_iff_marked nonzero).1 ⟨unit, (mem_units_iff typed).1 member, begins⟩⟩
  · rintro ⟨first, sps, marked⟩
    have nonzero : first ≠ 0 := by
      rintro rfl
      cases sps
    obtain ⟨unit, member, begins⟩ := (begins_iff_marked nonzero).2 marked
    have typed := typeOf?_eq_some_iff.2 ⟨first, begins, sps⟩
    exact ⟨unit, (mem_units_iff typed).2 member, typed⟩

/-- What contains a sequence parameter set still does so within a larger stream. -/
theorem containsSps_of_infix (within : stream <:+: larger) (contains : containsSps stream = true) :
    containsSps larger = true := by
  obtain ⟨first, sps, marked⟩ := containsSps_iff.1 contains
  exact containsSps_iff.2 ⟨first, sps, marked.trans within⟩

theorem containsSps_write {us : List Bytes} {unit : Bytes} (member : unit ∈ us)
    (typed : typeOf? unit = some .sps) : containsSps (write us) = true := by
  obtain ⟨before, after, rfl⟩ := List.append_of_mem member
  obtain ⟨first, begins, sps⟩ := typeOf?_eq_some_iff.1 typed
  have alone : containsSps (startCode ++ unit) = true :=
    containsSps_iff.2 ⟨first, sps, (marked_code .long).2 (.inl begins)⟩
  refine containsSps_of_infix ⟨write before, write after, ?_⟩ alone
  simp [write]

section Keyframes

variable {unit sets : Bytes}

theorem withParameterSets_of_contains (contains : containsSps unit = true) :
    withParameterSets unit sets = unit := by
  simp [withParameterSets, contains]

theorem withParameterSets_of_bare (bare : containsSps unit = false) (given : containsSps sets = true) :
    withParameterSets unit sets = sets ++ unit := by
  have full : sets.isEmpty = false := by
    cases sets with
    | nil => cases given
    | cons => rfl
  simp [withParameterSets, bare, full]

theorem suffix_withParameterSets (unit sets : Bytes) : unit <:+ withParameterSets unit sets := by
  unfold withParameterSets
  split
  · exact List.suffix_refl unit
  · exact List.suffix_append sets unit

theorem containsSps_withParameterSets (unit : Bytes) (given : containsSps sets = true) :
    containsSps (withParameterSets unit sets) = true := by
  cases contains : containsSps unit with
  | true => rw [withParameterSets_of_contains contains, contains]
  | false =>
    rw [withParameterSets_of_bare contains given]
    exact containsSps_of_infix (List.prefix_append sets unit).isInfix given

end Keyframes

/-- What becomes of the access unit of a packet: the parameter sets of the stream are put before it if it
is a keyframe that comes without any. -/
structure Framing.Frames (sets : Bytes) (packet : Packet) (unit : Bytes) (framed : Packet) : Prop where
  kept : packet.isKeyframe = false ∨ containsSps unit = true → framed.payload = unit
  given : packet.isKeyframe = true → containsSps unit = false → framed.payload = sets ++ unit
  contains : packet.isKeyframe = true → containsSps framed.payload = true
  settled : packet.isKeyframe = true → withParameterSets framed.payload sets = framed.payload
  suffix : unit <:+ framed.payload
  beside : framed = { packet with payload := framed.payload }

namespace Framing

variable {framing : Framing} {packet framed : Packet}

theorem frames_of_apply (carries : containsSps framing.parameterSets = true)
    (done : framing.apply packet = .ok framed) :
    ∃ unit, framing.accessUnit packet = .ok unit ∧ Frames framing.parameterSets packet unit framed := by
  obtain ⟨unit, read, same⟩ := map_eq_ok_iff.1 done
  refine ⟨unit, read, ?_⟩
  by_cases key : packet.isKeyframe = true
  · rw [if_pos key] at same
    subst same
    have contains := containsSps_withParameterSets unit carries
    refine ⟨fun plain => ?_, fun _ bare => withParameterSets_of_bare bare carries, fun _ => contains,
      fun _ => withParameterSets_of_contains contains, suffix_withParameterSets unit _, rfl⟩
    rcases plain with wrong | present
    · rw [key] at wrong
      cases wrong
    · exact withParameterSets_of_contains present
  · rw [if_neg key] at same
    subst same
    exact ⟨fun _ => rfl, fun wrong => (key wrong).elim, fun wrong => (key wrong).elim,
      fun wrong => (key wrong).elim, List.suffix_refl unit, rfl⟩

end Framing

end WhipWhep.Avc

namespace WhipWhep.AvcConfig

open Avc

variable {config : AvcConfig} {extradata : Bytes}

/-- One of the sequence parameter sets is one by its type. -/
def HasSps (config : AvcConfig) : Prop := ∃ unit ∈ config.sps, typeOf? unit = some .sps

theorem HasSps.containsSps (listed : config.HasSps) : containsSps config.parameterSets = true := by
  obtain ⟨unit, member, typed⟩ := listed
  exact containsSps_write (List.mem_append_left _ member) typed

/-- In a byte stream the parameter sets are found by their type. -/
theorem hasSps_of_byteStream (streamed : extradata.head? ≠ some 1)
    (read : ofExtradata? extradata = some config) : config.HasSps := by
  rw [ofExtradata?, if_neg streamed, ofByteStream?_eq_some_iff] at read
  obtain ⟨sps, -, -, ⟨first, within, -⟩, -⟩ := read
  have member := List.mem_of_mem_head? within
  rw [sps] at member
  exact ⟨first, sps ▸ member, by simpa using (List.mem_filter.1 member).2⟩

end WhipWhep.AvcConfig
