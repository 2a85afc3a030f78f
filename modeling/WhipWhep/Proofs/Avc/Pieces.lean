import Mathlib.Data.List.Infix
import WhipWhep.Avc.ByteStream

/-!
What a byte stream is cut into. It consists of what stands before the first start code and of pieces, units that each
stand behind a start code of three bytes or of four. A stream is cut into such pieces in one way only: nothing in them
contains 00 00 01, and a zero before 00 00 01 is the first byte of the start code, not the last of what comes before.
-/

namespace WhipWhep.Avc

/-- What every start code ends with, and no unit can contain. -/
def mark : Bytes := [0, 0, 1]

inductive Code where
  | short
  | long
  deriving DecidableEq

def Code.bytes : Code → Bytes
  | short => mark
  | long => startCode

/-- A unit and the start code that it stands behind. -/
structure Piece where
  code : Code
  unit : Bytes
  deriving DecidableEq

/-- Pieces written one after the other. -/
def weave (pieces : List Piece) : Bytes :=
  pieces.flatMap fun piece => piece.code.bytes ++ piece.unit

/-- Neither what stands before some pieces nor any of their units contains 00 00 01, and what comes before a short start
code does not end in a zero. -/
inductive Tight : Bytes → List Piece → Prop where
  | last {lead : Bytes} (clean : ¬ mark <:+: lead) : Tight lead []
  | next {lead : Bytes} {piece : Piece} {pieces : List Piece} (clean : ¬ mark <:+: lead)
      (closed : piece.code = .short → lead.getLast? ≠ some 0) (rest : Tight piece.unit pieces) :
      Tight lead (piece :: pieces)

section Cutting

variable {a b c d : UInt8} {unit lead stream rest : Bytes} {code : Code} {pieces : List Piece} {us : List Bytes}

theorem weave_cons (piece : Piece) (pieces : List Piece) :
    weave (piece :: pieces) = piece.code.bytes ++ (piece.unit ++ weave pieces) := by
  simp [weave]

theorem Tight.clean (tight : Tight lead pieces) : ¬ mark <:+: lead := by
  cases tight <;> assumption

theorem Tight.clean_units (tight : Tight lead pieces) : ∀ piece ∈ pieces, ¬ mark <:+: piece.unit := by
  induction tight with
  | last => exact List.forall_mem_nil _
  | next clean closed rest ih => exact List.forall_mem_cons.2 ⟨rest.clean, ih⟩

theorem not_mark_of_cons (clean : ¬ mark <:+: a :: unit) : ¬ mark <:+: unit :=
  fun found => clean (found.trans (List.suffix_cons a unit).isInfix)

theorem mark_suffix_code (code : Code) : mark <:+ code.bytes := by
  cases code with
  | short => exact List.suffix_refl mark
  | long => exact List.suffix_cons 0 mark

/-- What is left where a cut looks no further. -/
theorem length_of_short {short : Bytes} (notFour : ∀ a b c d rest, short = a :: b :: c :: d :: rest → False)
    (notThree : ∀ a b c, short = [a, b, c] → False) : short.length < 3 := by
  match short with
  | [] | [_] | [_, _] => simp
  | [a, b, c] => exact (notThree a b c rfl).elim
  | a :: b :: c :: d :: rest => exact (notFour a b c d rest rfl).elim

/-! What is cut was written so. -/

/-- One byte more before the first start code, if no start code begins with it. -/
theorem Tight.cons (tight : Tight lead pieces) (same : b :: c :: d :: rest = lead ++ weave pieces)
    (notLong : ¬ (a = 0 ∧ b = 0 ∧ c = 0 ∧ d = 1)) (notShort : ¬ (a = 0 ∧ b = 0 ∧ c = 1)) :
    Tight (a :: lead) pieces := by
  have clean : ¬ mark <:+: a :: lead := fun found => by
    rcases List.infix_cons_iff.1 found with ⟨tail, here⟩ | later
    · obtain ⟨rfl, rfl⟩ := List.cons.inj here
      obtain ⟨rfl, rfl, -⟩ := by simpa using same
      exact notShort ⟨rfl, rfl, rfl⟩
    · exact tight.clean later
  cases tight with
  | last => exact .last clean
  | @next _ piece pieces _ closed rest =>
    refine .next clean (fun short last => ?_) rest
    cases lead with
    | nil =>
      obtain rfl : a = 0 := by simpa using last
      obtain ⟨rfl, rfl, rfl, -⟩ := by simpa [weave_cons, short, Code.bytes, mark] using same
      exact notLong ⟨rfl, rfl, rfl, rfl⟩
    | cons x lead =>
      rw [List.getLast?_cons_cons] at last
      exact closed short last

theorem exists_tight (stream : Bytes) :
    ∃ pieces, Tight (cut stream).1 pieces ∧ stream = (cut stream).1 ++ weave pieces ∧
      pieces.map Piece.unit = (cut stream).2 := by
  have empty : ¬ mark <:+: [] := by decide
  fun_induction cut stream with
  | case1 a b c d rest hit lead us cuts ih =>
    obtain ⟨rfl, rfl, rfl, rfl⟩ := hit
    rw [cuts] at ih
    obtain ⟨pieces, tight, rfl, rfl⟩ := ih
    refine ⟨⟨.long, lead⟩ :: pieces, .next empty nofun tight, ?_, rfl⟩
    rw [weave_cons]
    rfl
  | case2 a b c d rest _ hit lead us cuts ih =>
    obtain ⟨rfl, rfl, rfl⟩ := hit
    rw [cuts] at ih
    obtain ⟨pieces, tight, whole, rfl⟩ := ih
    refine ⟨⟨.short, lead⟩ :: pieces, .next empty (fun _ => nofun) tight, ?_, rfl⟩
    rw [whole, weave_cons]
    rfl
  | case3 a b c d rest notLong notShort lead us cuts ih =>
    rw [cuts] at ih
    obtain ⟨pieces, tight, whole, units⟩ := ih
    exact ⟨pieces, tight.cons whole notLong notShort, congrArg (a :: ·) whole, units⟩
  | case4 a b c hit =>
    obtain ⟨rfl, rfl, rfl⟩ := hit
    exact ⟨[⟨.short, []⟩], .next empty (fun _ => nofun) (.last empty), rfl, rfl⟩
  | case5 a b c miss =>
    refine ⟨[], .last fun found => miss ?_, (List.append_nil _).symm, rfl⟩
    have same := found.eq_of_length rfl
    simpa [mark, eq_comm] using same
  | case6 short notFour notThree =>
    have few := length_of_short notFour notThree
    exact ⟨[], .last fun found => Nat.not_le_of_lt few found.length_le, (List.append_nil _).symm, rfl⟩

/-! What is written is cut as it was written. -/

theorem cut_code (code : Code) (stream : Bytes) :
    cut (code.bytes ++ stream) = ([], (cut stream).1 :: (cut stream).2) := by
  cases code with
  | long => simp [Code.bytes, startCode, cut]
  | short => cases stream <;> simp [Code.bytes, mark, cut]

/-- A start code cannot begin inside a unit without 00 00 01, not even when it takes zeros of the start code that
follows, unless that is a short one behind a zero. -/
theorem not_code_of_clean (clean : ¬ mark <:+: a :: unit) (closed : code = .short → (a :: unit).getLast? ≠ some 0)
    (same : unit ++ code.bytes ++ stream = b :: c :: d :: rest) :
    ¬ (a = 0 ∧ b = 0 ∧ c = 0 ∧ d = 1) ∧ ¬ (a = 0 ∧ b = 0 ∧ c = 1) := by
  match unit with
  | [] | [x] =>
    cases code <;>
      simp only [Code.bytes, mark, startCode, List.nil_append, List.cons_append, List.cons.injEq] at same <;>
      grind
  | [x, y] =>
    obtain ⟨rfl, rfl, rfl⟩ : x = b ∧ y = c ∧ d = 0 := by
      cases code <;>
        simp only [Code.bytes, mark, startCode, List.nil_append, List.cons_append, List.cons.injEq] at same <;>
        exact ⟨same.1, same.2.1, same.2.2.1.symm⟩
    refine ⟨by simp, ?_⟩
    rintro ⟨rfl, rfl, rfl⟩
    exact clean (List.infix_refl _)
  | x :: y :: z :: tail =>
    simp only [List.cons_append, List.cons.injEq] at same
    obtain ⟨rfl, rfl, rfl, -⟩ := same
    constructor
    · rintro ⟨-, rfl, rfl, rfl⟩
      exact not_mark_of_cons clean (List.prefix_append mark tail).isInfix
    · rintro ⟨rfl, rfl, rfl⟩
      exact clean (List.prefix_append mark (z :: tail)).isInfix

/-- A unit ends where the start code after it is, as it was written. -/
theorem cut_append_code (clean : ¬ mark <:+: unit) (closed : code = .short → unit.getLast? ≠ some 0) :
    cut (unit ++ code.bytes ++ stream) = (unit, (cut stream).1 :: (cut stream).2) := by
  induction unit with
  | nil => exact cut_code code stream
  | cons a unit ih =>
    have tail : code = .short → unit.getLast? ≠ some 0 := fun short last =>
      closed short (by rw [List.getLast?_cons, last, Option.getD_some])
    have later := ih (not_mark_of_cons clean) tail
    obtain ⟨b, c, d, rest, same⟩ : ∃ b c d rest, unit ++ code.bytes ++ stream = b :: c :: d :: rest := by
      match unit, code with
      | [], .short | [], .long | [x], .short | [x], .long => exact ⟨_, _, _, _, rfl⟩
      | [x, y], .short | [x, y], .long | x :: y :: z :: tail, _ => exact ⟨_, _, _, _, rfl⟩
    obtain ⟨notLong, notShort⟩ := not_code_of_clean clean closed same
    rw [List.cons_append, List.cons_append, same, cut, if_neg notLong, if_neg notShort, ← same, later]

theorem cut_unit (clean : ¬ mark <:+: unit) : cut unit = (unit, []) := by
  obtain ⟨pieces, -, whole, units⟩ := exists_tight unit
  cases pieces with
  | nil =>
    rw [weave, List.flatMap_nil, List.append_nil] at whole
    exact Prod.ext whole.symm units.symm
  | cons piece pieces =>
    rw [weave_cons, ← List.append_assoc] at whole
    have front : (cut unit).1 ++ piece.code.bytes <+: unit := ⟨_, whole.symm⟩
    have ends := (mark_suffix_code piece.code).trans (List.suffix_append (cut unit).1 piece.code.bytes)
    exact absurd (ends.isInfix.trans front.isInfix) clean

/-- The units behind the first are cut off one by one. -/
theorem cut_weave (tight : Tight lead pieces) : cut (lead ++ weave pieces) = (lead, pieces.map Piece.unit) := by
  induction tight with
  | last clean => simpa [weave] using cut_unit clean
  | next clean closed rest ih =>
    rw [weave_cons, ← List.append_assoc, cut_append_code clean closed, ih, List.map_cons]

/-- A stream is cut into pieces exactly if it is written so. -/
theorem cut_eq_iff : cut stream = (lead, us) ↔
    ∃ pieces, Tight lead pieces ∧ stream = lead ++ weave pieces ∧ pieces.map Piece.unit = us := by
  constructor
  · intro cuts
    obtain ⟨pieces, tight, whole, units⟩ := exists_tight stream
    rw [cuts] at tight whole units
    exact ⟨pieces, tight, whole, units⟩
  · rintro ⟨pieces, tight, rfl, rfl⟩
    exact cut_weave tight

/-- Without a start code all of a stream stands before the first one. -/
theorem eq_of_cut (cuts : cut stream = (lead, [])) : stream = lead := by
  obtain ⟨pieces, -, rfl, units⟩ := cut_eq_iff.1 cuts
  obtain rfl := List.map_eq_nil_iff.1 units
  exact List.append_nil lead

end Cutting

section Units

variable {unit front stream : Bytes} {code : Code}

/-! The last start code, if nothing follows it. -/

theorem suffix_code_iff (clean : ¬ mark <:+: unit) : mark <:+ front ++ code.bytes ++ unit ↔ unit = [] := by
  constructor
  · intro ends
    rcases List.suffix_or_suffix_of_suffix ends (List.suffix_append _ _) with inside | within
    · exact absurd inside.isInfix clean
    · obtain rfl | rfl | rfl | rfl : unit = mark ∨ unit = [0, 1] ∨ unit = [1] ∨ unit = [] := by
        simpa [mark, List.suffix_cons_iff] using within
      · exact absurd (List.infix_refl mark) clean
      -- One or two bytes of the unit cannot complete what comes before them to 00 00 01.
      · rw [← List.reverse_prefix] at ends
        cases code <;> simp [Code.bytes, mark, startCode] at ends
      · rw [← List.reverse_prefix] at ends
        cases code <;> simp [Code.bytes, mark, startCode] at ends
      · rfl
  · rintro rfl
    rw [List.append_nil]
    exact (mark_suffix_code code).trans (List.suffix_append _ _)

theorem suffix_iff_last (stream : Bytes) : mark <:+ stream ↔ (cut stream).2.getLast? = some [] := by
  obtain ⟨pieces, tight, whole, units⟩ := exists_tight stream
  rw [← units, List.getLast?_map]
  rcases List.eq_nil_or_concat pieces with rfl | ⟨before, last, rfl⟩
  · rw [whole]
    simpa [weave] using fun ends => tight.clean ends.isInfix
  · have clean := tight.clean_units last (by simp)
    have spelled : stream = (cut stream).1 ++ weave before ++ last.code.bytes ++ last.unit := by
      simpa [weave] using whole
    rw [spelled, suffix_code_iff clean]
    simp

/-- The number of places at which 00 00 01 stands. -/
def occurrences (stream : Bytes) : Nat :=
  stream.tails.countP fun tail => mark <+: tail

theorem occurrences_cons (a : UInt8) (stream : Bytes) :
    occurrences (a :: stream) = occurrences stream + if mark <+: a :: stream then 1 else 0 := by
  rw [occurrences, List.tails_cons, List.countP_cons]
  simp only [decide_eq_true_eq]
  rfl

theorem occurrences_of_clean (clean : ¬ mark <:+: stream) : occurrences stream = 0 := by
  refine List.countP_eq_zero.2 fun tail within here => clean ?_
  have start : mark <+: tail := of_decide_eq_true here
  exact start.isInfix.trans ((List.mem_tails _ _).1 within).isInfix

theorem clean_of_cut {lead : Bytes} (cuts : cut stream = (lead, [])) : ¬ mark <:+: stream := by
  obtain ⟨pieces, tight, -⟩ := cut_eq_iff.1 cuts
  exact eq_of_cut cuts ▸ tight.clean

/-- The scan for start codes passes over none, and finds none twice. -/
theorem length_cut (stream : Bytes) : (cut stream).2.length = occurrences stream := by
  fun_induction cut stream with
  | case1 a b c d rest hit lead us cuts ih =>
    obtain ⟨rfl, rfl, rfl, rfl⟩ := hit
    rw [cuts] at ih
    simp [occurrences_cons, mark, List.cons_prefix_cons, ← ih]
  | case2 a b c d rest _ hit lead us cuts ih =>
    obtain ⟨rfl, rfl, rfl⟩ := hit
    rw [cuts] at ih
    simp [occurrences_cons, mark, List.cons_prefix_cons, ← ih]
  | case3 a b c d rest _ notShort lead us cuts ih =>
    rw [cuts] at ih
    have miss : ¬ mark <+: a :: b :: c :: d :: rest := by
      simp only [mark, List.cons_prefix_cons]
      grind
    rw [occurrences_cons, if_neg miss, ← ih]
    rfl
  | case4 a b c hit =>
    obtain ⟨rfl, rfl, rfl⟩ := hit
    rfl
  | case5 a b c miss =>
    have whole : cut [a, b, c] = ([a, b, c], []) := if_neg miss
    exact (occurrences_of_clean (clean_of_cut whole)).symm
  | case6 short notFour notThree =>
    have whole : cut short = (short, []) := by rw [cut] <;> assumption
    exact (occurrences_of_clean (clean_of_cut whole)).symm

/-- What is behind start codes, without an empty unit at the end. -/
def kept (us : List Bytes) : List Bytes :=
  if us.getLast? = some [] then us.dropLast else us

theorem units_eq_kept (stream : Bytes) : units stream = kept (cut stream).2 := rfl

/-- No unit contains 00 00 01. -/
theorem clean_units {unit stream : Bytes} (within : unit ∈ units stream) : ¬ mark <:+: unit := by
  have behind : unit ∈ (cut stream).2 := by
    rw [units_eq_kept, kept] at within
    split at within
    · exact List.dropLast_subset _ within
    · exact within
  obtain ⟨pieces, tight, -, units⟩ := exists_tight stream
  rw [← units] at behind
  obtain ⟨piece, inside, rfl⟩ := List.mem_map.1 behind
  exact tight.clean_units piece inside

theorem kept_cons_cons (first second : Bytes) (others : List Bytes) :
    kept (first :: second :: others) = first :: kept (second :: others) := by
  unfold kept
  rw [List.getLast?_cons_cons, List.dropLast_cons_cons]
  exact (apply_ite (first :: ·) _ _ _).symm

theorem length_units (stream : Bytes) :
    (units stream).length + (if mark <:+ stream then 1 else 0) = occurrences stream := by
  rw [← length_cut, units_eq_kept, kept]
  simp only [suffix_iff_last]
  split
  · next last =>
    have some : (cut stream).2 ≠ [] := by
      intro none
      simp [none] at last
    have long := List.length_pos_iff.2 some
    rw [List.length_dropLast]
    omega
  · rfl

end Units

end WhipWhep.Avc
