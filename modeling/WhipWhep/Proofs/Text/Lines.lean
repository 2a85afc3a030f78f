import WhipWhep.Proofs.Text.Words
import WhipWhep.Text.Lines

/-!
Lines. What a text is cut into are raw lines again when only some of them are put together, and lines
that were written with a line end each are read back as they were.
-/

namespace WhipWhep.Text

variable {body line rest : List Char} {lines more : List (List Char)}

/-- The raw lines of some text: only the last one may be without a line feed, and then it is not
empty. -/
inductive Raw : List (List Char) → Prop where
  | nil : Raw []
  | last {body : List Char} (some : body ≠ []) (unbroken : '\n' ∉ body) : Raw [body]
  | cons {body : List Char} {lines : List (List Char)} (unbroken : '\n' ∉ body) (others : Raw lines) :
      Raw ((body ++ ['\n']) :: lines)

theorem rawLines_append_cons (unbroken : '\n' ∉ body) :
    rawLines (body ++ '\n' :: rest) = (body ++ ['\n']) :: rawLines rest := by
  induction body with
  | nil => simp [rawLines]
  | cons c body ih =>
    obtain ⟨other, others⟩ : '\n' ≠ c ∧ '\n' ∉ body := by simpa using unbroken
    rw [List.cons_append, rawLines, if_neg (Ne.symm other), ih others]
    rfl

theorem rawLines_of_unbroken (some : body ≠ []) (unbroken : '\n' ∉ body) : rawLines body = [body] := by
  induction body with
  | nil => exact absurd rfl some
  | cons c body ih =>
    obtain ⟨other, others⟩ : '\n' ≠ c ∧ '\n' ∉ body := by simpa using unbroken
    rw [rawLines, if_neg (Ne.symm other)]
    cases body with
    | nil => rfl
    | cons next body => rw [ih (by simp) others]

theorem rawLines_cons {c : Char} (other : c ≠ '\n') (cut : rawLines rest = line :: lines) :
    rawLines (c :: rest) = (c :: line) :: lines := by
  rw [rawLines, if_neg other, cut]

/-- A text that is empty or ends its last line is cut into lines apart from what comes after it. -/
theorem rawLines_append {before : List Char} (closed : ∀ c ∈ before.getLast?, c = '\n') (after : List Char) :
    rawLines (before ++ after) = rawLines before ++ rawLines after := by
  induction before with
  | nil => rfl
  | cons c before ih =>
    by_cases same : c = '\n'
    · subst same
      have rest : ∀ c ∈ before.getLast?, c = '\n' := by
        intro c last
        exact closed c (by rw [List.getLast?_cons, Option.mem_def.1 last]; rfl)
      simp [rawLines, ih rest]
    · cases before with
      | nil => exact absurd (closed c rfl) same
      | cons next before =>
        have rest := ih (by simpa using closed)
        cases cut : rawLines (next :: before) with
        | nil =>
          have whole := flatten_rawLines (next :: before)
          rw [cut] at whole
          cases whole
        | cons line lines =>
          rw [cut] at rest
          rw [List.cons_append, rawLines_cons same rest, rawLines_cons same cut]
          rfl

/-- Lines that are each written with a line end are cut apart again. -/
theorem rawLines_terminated (unbroken : ∀ line ∈ lines, '\n' ∉ line) :
    rawLines (lines.flatMap fun line => line ++ ['\r', '\n']) = lines.map fun line => line ++ ['\r', '\n'] := by
  induction lines with
  | nil => rfl
  | cons line lines ih =>
    have here : '\n' ∉ line ++ ['\r'] := by simpa using unbroken line List.mem_cons_self
    have first : ∀ rest, rawLines (line ++ ['\r', '\n'] ++ rest) = (line ++ ['\r', '\n']) :: rawLines rest := by
      intro rest
      simpa using rawLines_append_cons here
    rw [List.flatMap_cons, first, ih fun other member => unbroken other (List.mem_cons_of_mem _ member),
      List.map_cons]

theorem raw_rawLines (text : List Char) : Raw (rawLines text) := by
  induction text with
  | nil => exact .nil
  | cons c text ih =>
    rw [rawLines]
    split
    · next same =>
      rw [same]
      exact .cons List.not_mem_nil ih
    · next other =>
      generalize rawLines text = parts at ih
      cases ih with
      | nil => exact .last (by simp) (by simpa using Ne.symm other)
      | last some unbroken => exact .last (by simp) (by simpa using ⟨Ne.symm other, unbroken⟩)
      | @cons body _ unbroken others =>
        have longer : '\n' ∉ c :: body := by simpa using ⟨Ne.symm other, unbroken⟩
        exact .cons longer others

theorem Raw.rawLines_flatten (raw : Raw lines) : rawLines lines.flatten = lines := by
  induction raw with
  | nil => rfl
  | last some unbroken =>
    rw [List.flatten_singleton]
    exact rawLines_of_unbroken some unbroken
  | cons unbroken others ih =>
    rw [List.flatten_cons, List.append_assoc, List.singleton_append, rawLines_append_cons unbroken, ih]

/-- Some raw lines in a row are the raw lines of a text of their own. -/
theorem Raw.of_append (raw : Raw (lines ++ more)) : Raw lines ∧ Raw more := by
  induction lines with
  | nil => exact ⟨.nil, raw⟩
  | cons first lines ih =>
    rw [List.cons_append] at raw
    generalize whole : lines ++ more = others at raw
    cases raw with
    | last some unbroken =>
      obtain ⟨rfl, rfl⟩ := List.append_eq_nil_iff.1 whole
      exact ⟨.last some unbroken, .nil⟩
    | cons unbroken others =>
      rw [← whole] at others
      obtain ⟨before, after⟩ := ih others
      exact ⟨.cons unbroken before, after⟩

/-- A text that is a line: it has no line feed, and no carriage return at its end. -/
def IsLine (line : List Char) : Prop := '\n' ∉ line ∧ line.getLast? ≠ some '\r'

theorem isLine_chomp (line : List Char) : IsLine (chomp line) := by
  constructor
  · intro member
    have inside := dropEndWhile_prefix.subset member
    simpa using List.mem_takeWhile_imp inside
  · intro last
    have kept := last_of_dropEndWhile _ last
    cases kept

theorem isLine_of_lines {text : List Char} (member : line ∈ Text.lines text) : IsLine line := by
  obtain ⟨raw, -, rfl⟩ := List.mem_map.1 member
  exact isLine_chomp raw

theorem chomp_terminated (whole : IsLine line) : chomp (line ++ ['\r', '\n']) = line := by
  obtain ⟨unbroken, last⟩ := whole
  have content : (line ++ ['\r', '\n']).takeWhile (· != '\n') = line ++ ['\r'] := by
    rw [List.takeWhile_append_of_pos fun c member => ?_]
    · rfl
    · simp only [bne_iff_ne]
      rintro rfl
      exact unbroken member
  rw [chomp, content, dropEndWhile_concat rfl]
  apply dropEndWhile_of_last
  intro c final
  simp only [beq_eq_false_iff_ne]
  rintro rfl
  exact last final

/-- Lines that are each written with a line end are read back. -/
theorem lines_terminated (whole : ∀ line ∈ lines, IsLine line) :
    Text.lines (lines.flatMap fun line => line ++ ['\r', '\n']) = lines := by
  rw [Text.lines, rawLines_terminated fun line member => (whole line member).1, List.map_map]
  exact (List.map_congr_left fun line member => chomp_terminated (whole line member)).trans (List.map_id _)

end WhipWhep.Text
