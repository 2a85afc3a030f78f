import WhipWhep.Proofs.Avc.Pieces

/-!
Finding the units of a byte stream by their places in it. The scan looks at three bytes at each place, and at the byte
before them where 00 00 01 stands; a unit is what lies between two places. Looking at a place where there is no byte,
or cutting out what does not lie within the stream, would leave the scan without an outcome. That never happens: on
every stream it comes to an end and has found the units that the stream is cut into.
-/

namespace WhipWhep.Avc

namespace Scanner

/-- Whether 00 00 01 stands at a place. -/
def marked (stream : Bytes) (place : Nat) : Option Bool := do
  let first ← stream[place]?
  let second ← stream[place + 1]?
  let third ← stream[place + 2]?
  return first = 0 ∧ second = 0 ∧ third = 1

/-- Where the start code with 00 00 01 at a place begins. It takes a zero before them that is not before the start. -/
def beginning (stream : Bytes) (start place : Nat) : Option Nat :=
  if start < place then do
    let before ← stream[place - 1]?
    return if before = 0 then place - 1 else place
  else some place

/-- The first start code from a place on: where it begins and where it ends. -/
def findCode (stream : Bytes) (start place : Nat) : Option (Option (Nat × Nat)) :=
  if place + 3 ≤ stream.length then
    match marked stream place with
    | none => none
    | some true => (beginning stream start place).map fun first => some (first, place + 3)
    | some false => findCode stream start (place + 1)
  else some none
termination_by stream.length - place

def slice (stream : Bytes) (start stop : Nat) : Option Bytes :=
  if start ≤ stop ∧ stop ≤ stream.length then some ((stream.drop start).take (stop - start)) else none

/-- The unit at a place, and the place after the start code behind it. -/
def nextUnit (stream : Bytes) (place : Nat) : Option (Option (Bytes × Nat)) :=
  if place < stream.length then do
    let (stop, after) := (← findCode stream place place).getD (stream.length, stream.length)
    return some (← slice stream place stop, after)
  else some none

section Places

variable {a b c : UInt8} {stream rest lead unit : Bytes} {us : List Bytes} {start place stop after : Nat}

theorem getElem?_of_drop (here : stream.drop place = a :: rest) : stream[place]? = some a := by
  rw [← Nat.add_zero place, ← List.getElem?_drop, here, List.getElem?_cons_zero]

theorem drop_succ (here : stream.drop place = a :: rest) : stream.drop (place + 1) = rest := by
  rw [← List.drop_drop, here, List.drop_one, List.tail_cons]

theorem length_of_drop (here : stream.drop place = a :: rest) : place + rest.length + 1 = stream.length := by
  have length := congrArg List.length here
  rw [List.length_drop, List.length_cons] at length
  omega

theorem marked_run (here : stream.drop place = a :: b :: c :: rest) :
    marked stream place = some (decide (a = 0 ∧ b = 0 ∧ c = 1)) := by
  have second := drop_succ here
  have third := drop_succ second
  rw [marked, getElem?_of_drop here, getElem?_of_drop second, getElem?_of_drop third]
  rfl

theorem findCode_short (short : stream.length < place + 3) : findCode stream start place = some none := by
  rw [findCode, if_neg (Nat.not_le_of_lt short)]

theorem findCode_miss (here : stream.drop place = a :: b :: c :: rest) (miss : ¬ (a = 0 ∧ b = 0 ∧ c = 1)) :
    findCode stream start place = findCode stream start (place + 1) := by
  have length := length_of_drop here
  simp only [List.length_cons] at length
  rw [findCode, if_pos (by omega), marked_run here, decide_eq_false miss]

theorem findCode_hit (here : stream.drop place = 0 :: 0 :: 1 :: rest) :
    findCode stream start place = (beginning stream start place).map fun first => some (first, place + 3) := by
  have length := length_of_drop here
  simp only [List.length_cons] at length
  rw [findCode, if_pos (by omega), marked_run here]
  rfl

theorem beginning_long (later : start ≤ place) (zero : stream[place]? = some 0) :
    beginning stream start (place + 1) = some place := by
  rw [beginning, if_pos (Nat.lt_succ_of_le later), Nat.add_sub_cancel, zero]
  rfl

theorem beginning_short (inside : place ≤ stream.length)
    (apart : start < place → stream[place - 1]? ≠ some 0) : beginning stream start place = some place := by
  unfold beginning
  split
  · next later =>
    have before : stream[place - 1]? = some stream[place - 1] := List.getElem?_eq_getElem (by omega)
    have nonzero : stream[place - 1] ≠ 0 := fun zero => apart later (by rw [before, zero])
    rw [before]
    exact congrArg some (if_neg nonzero)
  · rfl

/-- A start code is found where it begins. Behind a zero from the start on there is no short one: it would be long. -/
theorem findCode_code (code : Code) (here : stream.drop place = code.bytes ++ rest) (later : start ≤ place)
    (apart : code = .short → start < place → stream[place - 1]? ≠ some 0) :
    findCode stream start place = some (some (place, place + code.bytes.length)) := by
  cases code with
  | short =>
    have length := length_of_drop (here : stream.drop place = 0 :: 0 :: 1 :: rest)
    rw [findCode_hit here, beginning_short (by omega) (apart rfl)]
    rfl
  | long =>
    have next : stream.drop (place + 1) = mark ++ rest := drop_succ here
    rw [findCode_miss here (by simp), findCode_hit next, beginning_long later (getElem?_of_drop here)]
    rfl

/-- What a search from a place on comes to, where the stream is cut from that place on: there is no start code, or what
comes before it ends where it begins, and the stream is cut on from where it ends. -/
inductive Finds (stream : Bytes) (place : Nat) : Bytes × List Bytes → Option (Nat × Nat) → Prop where
  | none {lead : Bytes} : Finds stream place (lead, []) none
  | code {lead unit : Bytes} {us : List Bytes} {after : Nat} (later : cut (stream.drop after) = (unit, us))
      (forward : place + lead.length < after) (inside : after ≤ stream.length) :
      Finds stream place (lead, unit :: us) (some (place + lead.length, after))

theorem Finds.cons {found : Option (Nat × Nat)} (finds : Finds stream (place + 1) (lead, us) found) :
    Finds stream place (a :: lead, us) found := by
  cases finds with
  | none => exact .none
  | code later forward inside =>
    have shifted : place + 1 + lead.length = place + (a :: lead).length := by
      rw [List.length_cons]
      omega
    rw [shifted] at forward ⊢
    exact .code later forward inside

theorem Finds.here (code : Code) (here : stream.drop place = code.bytes ++ rest) :
    Finds stream place ([], (cut rest).1 :: (cut rest).2) (some (place, place + code.bytes.length)) := by
  have length := congrArg List.length here
  rw [List.length_drop, List.length_append] at length
  have onward : stream.drop (place + code.bytes.length) = rest := by
    rw [← List.drop_drop, here, List.drop_left]
  have long : 0 < code.bytes.length := by cases code <;> decide
  refine .code (by rw [onward]) (Nat.lt_add_of_pos_right long) (by omega)

/-- The search has an outcome from every place on. A start code that has begun before the place is none of its
business: a zero before the place is one that 00 00 01 does not follow. -/
theorem findCode_run (here : stream.drop place = rest) (later : start ≤ place)
    (apart : start < place → stream[place - 1]? = some 0 → ¬ mark <+: rest) :
    ∃ found, findCode stream start place = some found ∧ Finds stream place (cut rest) found := by
  fun_induction cut rest generalizing place with
  | case1 a b c d rest hit lead us cuts ih =>
    obtain ⟨rfl, rfl, rfl, rfl⟩ := hit
    have finds := Finds.here .long here
    rw [cuts] at finds
    exact ⟨_, findCode_code .long here later (by simp), finds⟩
  | case2 a b c d rest _ hit lead us cuts ih =>
    obtain ⟨rfl, rfl, rfl⟩ := hit
    have finds := Finds.here .short here
    rw [cuts] at finds
    refine ⟨_, findCode_code .short here later fun _ behind zero => ?_, finds⟩
    exact apart behind zero (List.prefix_append mark (d :: rest))
  | case3 a b c d rest notLong notShort lead us cuts ih =>
    have behind : start < place + 1 → stream[place + 1 - 1]? = some 0 → ¬ mark <+: b :: c :: d :: rest := by
      intro _ zero starts
      rw [Nat.add_sub_cancel, getElem?_of_drop here, Option.some.injEq] at zero
      simp only [mark, List.cons_prefix_cons] at starts
      exact notLong ⟨zero, starts.1.symm, starts.2.1.symm, starts.2.2.1.symm⟩
    obtain ⟨found, run, finds⟩ := ih (drop_succ here) (Nat.le_succ_of_le later) behind
    rw [cuts] at finds
    exact ⟨found, (findCode_miss here notShort).trans run, finds.cons⟩
  | case4 a b c hit =>
    obtain ⟨rfl, rfl, rfl⟩ := hit
    refine ⟨_, findCode_code .short here later fun _ behind zero => ?_, Finds.here .short here⟩
    exact apart behind zero (List.prefix_refl mark)
  | case5 a b c miss =>
    have length := length_of_drop here
    simp only [List.length_cons, List.length_nil] at length
    exact ⟨none, (findCode_miss here miss).trans (findCode_short (by omega)), .none⟩
  | case6 short notFour notThree =>
    have few := length_of_short notFour notThree
    have length := congrArg List.length here
    rw [List.length_drop] at length
    exact ⟨none, findCode_short (by omega), .none⟩

/-- What lies before the next start code is cut out, and the stream is cut on behind it. -/
theorem nextUnit_run (inside : place < stream.length) (cuts : cut (stream.drop place) = (lead, us)) :
    ∃ after, nextUnit stream place = some (some (lead, after)) ∧ place < after ∧ after ≤ stream.length ∧
      (us = [] ∧ after = stream.length ∨
        ∃ unit others, us = unit :: others ∧ cut (stream.drop after) = (unit, others)) := by
  obtain ⟨found, run, finds⟩ := findCode_run (Eq.refl (stream.drop place)) (Nat.le_refl place)
    fun behind => absurd behind (Nat.lt_irrefl place)
  rw [cuts] at finds
  obtain ⟨pieces, -, whole, -⟩ := cut_eq_iff.1 cuts
  have length := congrArg List.length whole
  rw [List.length_drop, List.length_append] at length
  have start : (stream.drop place).take lead.length = lead := by rw [whole, List.take_left]
  rw [nextUnit, if_pos inside, run]
  cases finds with
  | none =>
    have rest := eq_of_cut cuts
    have cutOut : slice stream place stream.length = some lead := by
      rw [slice, if_pos ⟨Nat.le_of_lt inside, Nat.le_refl _⟩, rest, List.take_of_length_le]
      rw [← rest, List.length_drop]
    refine ⟨stream.length, ?_, inside, Nat.le_refl _, .inl ⟨rfl, rfl⟩⟩
    simp [cutOut]
  | @code _ unit others after later forward within =>
    have cutOut : slice stream place (place + lead.length) = some lead := by
      rw [slice, if_pos (by omega), Nat.add_sub_cancel_left, start]
    refine ⟨after, ?_, by omega, within, .inr ⟨unit, others, rfl, later⟩⟩
    simp [cutOut]

/-- Every unit ends further on than it begins. -/
theorem lt_of_nextUnit (found : nextUnit stream place = some (some (unit, after))) :
    place < stream.length ∧ place < after := by
  by_cases inside : place < stream.length
  · obtain ⟨_, same, forward, -⟩ := nextUnit_run inside rfl
    cases same.symm.trans found
    exact ⟨inside, forward⟩
  · rw [nextUnit, if_neg inside] at found
    cases found

end Places

/-- The units from a place on. -/
def unitsFrom (stream : Bytes) (place : Nat) : Option (List Bytes) :=
  match _found : nextUnit stream place with
  | none => none
  | some none => some []
  | some (some (unit, after)) => (unitsFrom stream after).map (unit :: ·)
termination_by stream.length - place
decreasing_by
  have forward := lt_of_nextUnit _found
  omega

/-- The units of a stream, the first of them behind the first start code. -/
def units (stream : Bytes) : Option (List Bytes) := do
  let (_, first) := (← findCode stream 0 0).getD (stream.length, stream.length)
  unitsFrom stream first

section Runs

variable {stream lead : Bytes} {us : List Bytes} {place : Nat}

theorem unitsFrom_end : unitsFrom stream stream.length = some [] := by
  have nothing : nextUnit stream stream.length = some none := if_neg (Nat.lt_irrefl _)
  rw [unitsFrom]
  split
  · next overrun => cases nothing.symm.trans overrun
  · rfl
  · next found => cases nothing.symm.trans found

theorem unitsFrom_next {unit : Bytes} {after : Nat} (found : nextUnit stream place = some (some (unit, after))) :
    unitsFrom stream place = (unitsFrom stream after).map (unit :: ·) := by
  rw [unitsFrom]
  split
  · next overrun => cases found.symm.trans overrun
  · next nothing => cases found.symm.trans nothing
  · next same =>
    cases found.symm.trans same
    rfl

/-- The scan comes to an end from every place on, by one unit after the other. -/
theorem unitsFrom_run (inside : place ≤ stream.length) (cuts : cut (stream.drop place) = (lead, us)) :
    unitsFrom stream place = some (kept (lead :: us)) := by
  induction remaining : stream.length - place using Nat.strong_induction_on generalizing place lead us with
  | _ remaining ih =>
    subst remaining
    rcases Nat.eq_or_lt_of_le inside with rfl | before
    · rw [List.drop_length] at cuts
      cases cuts
      exact unitsFrom_end
    · obtain ⟨after, found, forward, within, alone | ⟨unit, others, rfl, later⟩⟩ := nextUnit_run before cuts
      · obtain ⟨rfl, rfl⟩ := alone
        have full : lead ≠ [] := by
          rintro rfl
          exact absurd (List.drop_eq_nil_iff.1 (eq_of_cut cuts)) (Nat.not_le_of_lt before)
        rw [unitsFrom_next found, unitsFrom_end]
        simp [kept, full]
      · rw [unitsFrom_next found, ih _ (by omega) within later rfl, kept_cons_cons]
        rfl

/-- On every stream the scan has an outcome, and it is what the stream is cut into. -/
theorem units_run (stream : Bytes) : units stream = some (Avc.units stream) := by
  obtain ⟨found, run, finds⟩ := findCode_run (Eq.refl (stream.drop 0)) (Nat.le_refl 0)
    fun behind => absurd behind (Nat.lt_irrefl 0)
  rw [List.drop_zero] at finds
  obtain ⟨lead, us, cuts⟩ : ∃ lead us, cut stream = (lead, us) := ⟨_, _, rfl⟩
  rw [cuts] at finds
  rw [units, run, units_eq_kept, cuts]
  cases finds with
  | none => exact unitsFrom_end
  | code later forward inside => exact unitsFrom_run inside later

end Runs
end Scanner

/-- What a byte stream and its units have to do with each other. -/
structure Dissected (stream : Bytes) : Prop where
  /-- The stream consists of what stands before the first start code, of its units behind their start codes, and of a
  last start code if it ends with one. -/
  whole : ∃ lead pieces, ∃ closing : Option Code,
    stream = lead ++ weave pieces ++ closing.elim [] Code.bytes ∧
    Tight lead (pieces ++ closing.toList.map (Piece.mk · [])) ∧
    pieces.map Piece.unit = units stream ∧ (closing.isSome ↔ mark <:+ stream)
  counted : (units stream).length + (if mark <:+ stream then 1 else 0) = occurrences stream
  /-- Looking for them place by place comes to an end, and nothing outside the stream is looked at. -/
  scanned : Scanner.units stream = some (units stream)

/-- Units are all that stands between the start codes of a stream, whatever its bytes are: none is lost, none is made
up, and the scan for them goes through the whole stream without leaving it. -/
theorem stream_dissected (stream : Bytes) : Dissected stream where
  whole := by
    obtain ⟨pieces, tight, whole, cuts⟩ := exists_tight stream
    rw [suffix_iff_last, units_eq_kept, ← cuts, kept]
    by_cases ends : (pieces.map Piece.unit).getLast? = some []
    · obtain ⟨⟨code, unit⟩, last, rfl⟩ := Option.map_eq_some_iff.1 (List.getLast?_map ▸ ends)
      obtain ⟨before, rfl⟩ := List.getLast?_eq_some_iff.1 last
      refine ⟨(cut stream).1, before, some code, ?_, tight, ?_, iff_of_true rfl ends⟩
      · simpa [weave] using whole
      · rw [if_pos ends, ← List.map_dropLast, List.dropLast_concat]
    · refine ⟨(cut stream).1, pieces, none, ?_, ?_, (if_neg ends).symm, iff_of_false Bool.false_ne_true ends⟩
      · simpa using whole
      · simpa using tight
  counted := length_units stream
  scanned := Scanner.units_run stream

/-- Zeros before a start code, an empty unit, and a start code at the end. -/
example : units [9, 0, 0, 0, 0, 1, 0x65, 0, 0, 0, 1, 0, 0, 1] = [[0x65], []] ∧
    weave [⟨.long, [0x65]⟩, ⟨.long, []⟩, ⟨.short, []⟩] = [0, 0, 0, 1, 0x65, 0, 0, 0, 1, 0, 0, 1] := by
  decide

end WhipWhep.Avc
