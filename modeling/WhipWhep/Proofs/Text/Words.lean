import Mathlib.Data.List.DropRight
import Mathlib.Data.List.TakeWhile
import WhipWhep.Text.Blank

/-!
Trimmed texts, words, and texts that are split at a mark. Trimming again changes nothing, a word is a
text that trimming and splitting leave alone, and what was put together with a mark is taken apart
at it again.
-/

namespace WhipWhep.Text

section EndRuns

variable {α : Type} {p : α → Bool} {xs ys : List α} {x : α}

theorem dropEndWhile_eq_rdropWhile : dropEndWhile p xs = xs.rdropWhile p := rfl

theorem dropEndWhile_prefix : dropEndWhile p xs <+: xs := List.rdropWhile_prefix p xs

/-- A final run stops at an element that is not of it. -/
theorem dropEndWhile_append_cons (stop : p x = false) :
    dropEndWhile p (xs ++ x :: ys) = xs ++ x :: dropEndWhile p ys := by
  induction ys using List.reverseRecOn with
  | nil =>
    have kept : ¬ p x = true := by simp [stop]
    exact List.rdropWhile_concat_neg p xs x kept
  | append_singleton ys y ih =>
    rw [← List.cons_append, ← List.append_assoc, dropEndWhile_eq_rdropWhile, List.rdropWhile_concat,
      dropEndWhile_eq_rdropWhile, List.rdropWhile_concat]
    split
    · exact ih
    · simp

theorem dropEndWhile_concat (run : p x = true) : dropEndWhile p (xs ++ [x]) = dropEndWhile p xs :=
  List.rdropWhile_concat_pos p xs x run

theorem dropEndWhile_of_last (last : ∀ x ∈ xs.getLast?, p x = false) : dropEndWhile p xs = xs := by
  rw [dropEndWhile_eq_rdropWhile, List.rdropWhile_eq_self_iff]
  intro some
  rw [last _ (List.getLast?_eq_some_getLast some)]
  exact Bool.false_ne_true

theorem last_of_dropEndWhile : ∀ x ∈ (dropEndWhile p xs).getLast?, p x = false := by
  intro x last
  obtain ⟨some, same⟩ := List.mem_getLast?_eq_getLast last
  rw [same]
  exact Bool.eq_false_iff.2 (List.rdropWhile_last_not p xs some)

end EndRuns

variable {text word : List Char} {mark : Char}

/-! Trimming. -/

theorem trim_infix (text : List Char) : trim text <:+: text :=
  dropEndWhile_prefix.isInfix.trans (List.dropWhile_suffix _).isInfix

/-- A text without blanks at its ends is left alone. -/
theorem trim_of_ends (first : ∀ c ∈ text.head?, isBlank c = false)
    (last : ∀ c ∈ text.getLast?, isBlank c = false) : trim text = text := by
  have front : text.dropWhile isBlank = text := by
    rw [List.dropWhile_eq_self_iff]
    intro some
    rw [first _ (by rw [List.head?_eq_getElem?]; exact List.getElem?_eq_getElem some)]
    exact Bool.false_ne_true
  rw [trim, front, dropEndWhile_of_last last]

theorem first_of_trim : ∀ c ∈ (trim text).head?, isBlank c = false := by
  intro c first
  obtain ⟨rest, split⟩ : ∃ rest, text.dropWhile isBlank = c :: rest := by
    have front : trim text <+: text.dropWhile isBlank := dropEndWhile_prefix
    obtain ⟨off, whole⟩ := front
    obtain ⟨more, start⟩ := List.head?_eq_some_iff.1 first
    rw [start] at whole
    exact ⟨more ++ off, whole.symm⟩
  have stopped := List.head?_dropWhile_not isBlank text
  rw [split] at stopped
  simpa using stopped

theorem trim_trim (text : List Char) : trim (trim text) = trim text :=
  trim_of_ends first_of_trim last_of_dropEndWhile

/-! Words. -/

/-- Whether there are blanks in a text can be computed. -/
theorem unblank_of_any (none : text.any isBlank = false) : ∀ c ∈ text, isBlank c = false :=
  fun c member => Bool.eq_false_iff.2 (List.any_eq_false.1 none c member)

/-- A text that is a word: it has a character, and none that is blank. -/
def IsWord (word : List Char) : Prop := word ≠ [] ∧ ∀ c ∈ word, isBlank c = false

theorem IsWord.append {more : List Char} (whole : IsWord word) (unblank : ∀ c ∈ more, isBlank c = false) :
    IsWord (word ++ more) :=
  ⟨fun empty => whole.1 (List.append_eq_nil_iff.1 empty).1, List.forall_mem_append.2 ⟨whole.2, unblank⟩⟩

theorem trim_of_word (whole : ∀ c ∈ word, isBlank c = false) : trim word = word :=
  trim_of_ends (fun c first => whole c (List.mem_of_mem_head? first))
    (fun c last => whole c (List.mem_of_mem_getLast? last))

theorem words_of_word (word : List Char) (whole : IsWord word) : words word = [word] := by
  obtain ⟨some, unbroken⟩ := whole
  rw [words, List.splitOnP_eq_singleton unbroken]
  simp [some]

/-- The words before a blank and those after it. -/
theorem words_append_cons {blank : Char} (breaks : isBlank blank = true) (before after : List Char) :
    words (before ++ blank :: after) = words before ++ words after := by
  unfold words
  rw [List.splitOnP_append_cons before after breaks, List.filter_append]

theorem unbroken_of_splitOnP (text : List Char) :
    ∀ part ∈ text.splitOnP isBlank, ∀ c ∈ part, isBlank c = false := by
  induction text with
  | nil => simp
  | cons head rest ih =>
    rw [List.splitOnP_cons_eq_if_modifyHead]
    split
    · simpa using ih
    · next kept =>
      obtain ⟨first, others, parts⟩ := List.exists_cons_of_ne_nil (List.splitOnP_ne_nil isBlank rest)
      rw [parts] at ih ⊢
      intro part member
      rcases List.mem_cons.1 member with rfl | later
      · have clean := ih first List.mem_cons_self
        simpa using ⟨by simpa using kept, clean⟩
      · exact ih part (List.mem_cons_of_mem _ later)

theorem isWord_of_words (member : word ∈ words text) : IsWord word := by
  obtain ⟨part, some⟩ := List.mem_filter.1 member
  exact ⟨by simpa using some, unbroken_of_splitOnP text word part⟩

/-! Splits. -/

theorem splitFirst_append (before after : List Char) (unmarked : mark ∉ before) :
    splitFirst mark (before ++ mark :: after) = some (before, after) := by
  induction before with
  | nil => simp [splitFirst]
  | cons c rest ih =>
    obtain ⟨other, others⟩ : mark ≠ c ∧ mark ∉ rest := by simpa using unmarked
    simp [splitFirst, Ne.symm other, ih others]

theorem splitFirst_eq_none (unmarked : mark ∉ text) : splitFirst mark text = none := by
  induction text with
  | nil => rfl
  | cons c rest ih =>
    obtain ⟨other, others⟩ : mark ≠ c ∧ mark ∉ rest := by simpa using unmarked
    simp [splitFirst, Ne.symm other, ih others]

theorem eq_of_splitFirst {before after : List Char} (split : splitFirst mark text = some (before, after)) :
    text = before ++ mark :: after := by
  induction text generalizing before with
  | nil => cases split
  | cons c rest ih =>
    rw [splitFirst] at split
    split at split
    · next same =>
      cases split
      rw [same]
      rfl
    · obtain ⟨⟨start, stop⟩, found, same⟩ := Option.map_eq_some_iff.1 split
      cases same
      rw [ih found]
      rfl

theorem after?_eq_some_iff {start rest : List Char} : after? start text = some rest ↔ text = start ++ rest := by
  unfold after?
  constructor
  · intro found
    split at found
    · next starts =>
      obtain ⟨more, rfl⟩ := List.isPrefixOf_iff_prefix.1 starts
      rw [List.drop_left] at found
      cases found
      rfl
    · cases found
  · rintro rfl
    rw [if_pos (List.isPrefixOf_iff_prefix.2 (List.prefix_append start rest)), List.drop_left]

end WhipWhep.Text
