import WhipWhep.Proofs.Text.Lines
import WhipWhep.Sdp.MediaDescription

/-!
The first media section of a text, as lines: what stands before it and what comes after it is not read.
-/

namespace WhipWhep.Sdp

variable {text headline line : List Char} {attributes : List (List Char)}

/-- The lines of the first media section: the first one, without the m= at its front, and the others, up
to the next line that starts a section. -/
def FirstSection (text headline : List Char) (attributes : List (List Char)) : Prop :=
  ∃ before after, Text.lines text = before ++ ("m=".toList ++ headline) :: (attributes ++ after) ∧
    (∀ line ∈ before, ¬ "m=".toList <+: line) ∧ (∀ line ∈ attributes, ¬ "m=".toList <+: line) ∧
    ∀ line ∈ after.head?, "m=".toList <+: line

theorem startsMedia_iff : startsMedia line = true ↔ "m=".toList <+: line := List.isPrefixOf_iff_prefix

theorem startsMedia_eq_false_iff : startsMedia line = false ↔ ¬ "m=".toList <+: line := by
  rw [← startsMedia_iff, Bool.not_eq_true]

/-- A line starts a section whether or not its line end is counted. -/
theorem startsMedia_chomp (line : List Char) : startsMedia (Text.chomp line) = startsMedia line := by
  rw [Bool.eq_iff_iff, startsMedia_iff, startsMedia_iff]
  constructor
  · intro starts
    exact starts.trans (Text.dropEndWhile_prefix.trans (List.takeWhile_prefix _))
  · rintro ⟨rest, rfl⟩
    have content : ("m=".toList ++ rest).takeWhile (· != '\n') =
        ['m'] ++ '=' :: rest.takeWhile (· != '\n') := rfl
    rw [Text.chomp, content, Text.dropEndWhile_append_cons rfl]
    exact List.prefix_append "m=".toList _

theorem unstarted_of_map_chomp {raws : List (List Char)}
    (none : ∀ line ∈ raws.map Text.chomp, ¬ "m=".toList <+: line) :
    ∀ raw ∈ raws, startsMedia raw = false := by
  intro raw member
  rw [← startsMedia_chomp, startsMedia_eq_false_iff]
  exact none _ (List.mem_map_of_mem member)

/-- Nothing before the first line that starts a section counts. -/
theorem gather_append {before : List (List Char)} (none : ∀ line ∈ before, startsMedia line = false)
    (after : List (List Char)) : gather (before ++ after) = gather after := by
  induction before with
  | nil => rfl
  | cons line before ih =>
    rw [List.cons_append, gather, none line List.mem_cons_self]
    exact ih fun other member => none other (List.mem_cons_of_mem _ member)

/-- A section reaches up to the next line that starts one. -/
theorem gather_section {head : List Char} {rest after : List (List Char)} (starts : startsMedia head = true)
    (inside : ∀ line ∈ rest, startsMedia line = false) (next : ∀ line ∈ after.head?, startsMedia line = true) :
    gather (head :: (rest ++ after)) = (head :: rest).flatten :: gather after := by
  have own : (rest ++ after).takeWhile (fun next => !startsMedia next) = rest := by
    rw [List.takeWhile_append_of_pos fun line member => by simp [inside line member]]
    cases after with
    | nil => simp
    | cons line after => simp [next line rfl]
  rw [gather, if_pos starts, own, gather_append inside]
  rfl

theorem head?_gather {before after : List (List Char)} {head : List Char}
    {rest : List (List Char)} (none : ∀ line ∈ before, startsMedia line = false)
    (starts : startsMedia head = true) (inside : ∀ line ∈ rest, startsMedia line = false)
    (next : ∀ line ∈ after.head?, startsMedia line = true) :
    (gather (before ++ head :: (rest ++ after))).head? = some (head :: rest).flatten := by
  rw [gather_append none, gather_section starts inside next, List.head?_cons]

/-- The lines of the first section alone decide what is read. -/
theorem MediaDescription.parse_of_firstSection (first : FirstSection text headline attributes) :
    parse text = ofLines headline attributes := by
  obtain ⟨before, after, split, none, inside, next⟩ := first
  obtain ⟨rawBefore, rawRest, raws, rfl, cut⟩ := List.map_eq_append_iff.1 split
  obtain ⟨rawHead, rawOthers, rfl, head, cut⟩ := List.map_eq_cons_iff.1 cut
  obtain ⟨rawInside, rawAfter, rfl, rfl, rfl⟩ := List.map_eq_append_iff.1 cut
  have stops : ∀ raw ∈ rawAfter.head?, startsMedia raw = true := by
    intro raw member
    rw [← startsMedia_chomp, startsMedia_iff]
    apply next
    rw [List.head?_map, Option.mem_def.1 member]
    rfl
  have starts : startsMedia rawHead = true := by
    rw [← startsMedia_chomp, head, startsMedia_iff]
    exact List.prefix_append _ _
  have found : (mediaSections text).head? = some (rawHead :: rawInside).flatten := by
    rw [mediaSections, raws]
    exact head?_gather (unstarted_of_map_chomp none) starts (unstarted_of_map_chomp inside) stops
  have raw : Text.Raw (rawHead :: rawInside) := by
    have whole := Text.raw_rawLines text
    rw [raws] at whole
    exact (whole.of_append.2 : Text.Raw ((rawHead :: rawInside) ++ rawAfter)).of_append.1
  have cut : Text.lines (rawHead :: rawInside).flatten =
      ("m=".toList ++ headline) :: rawInside.map Text.chomp := by
    rw [Text.lines, raw.rawLines_flatten, List.map_cons, head]
  rw [parse, found]
  simp only [cut]
  rfl

theorem exists_firstSection (member : line ∈ Text.lines text) (starts : "m=".toList <+: line) :
    ∃ headline attributes, FirstSection text headline attributes := by
  have some : ∃ line ∈ Text.lines text, startsMedia line = true := ⟨line, member, startsMedia_iff.2 starts⟩
  obtain ⟨head, before, rest, split, found, none⟩ :
      ∃ head before rest, Text.lines text = before ++ head :: rest ∧ startsMedia head = true ∧
        ∀ line ∈ before, startsMedia line = false := by
    generalize Text.lines text = lines at some
    clear member
    induction lines with
    | nil => simp at some
    | cons first lines ih =>
      cases here : startsMedia first with
      | true => exact ⟨first, [], lines, rfl, here, by simp⟩
      | false =>
        obtain ⟨head, before, rest, rfl, found, none⟩ := ih (by simpa [here] using some)
        exact ⟨head, first :: before, rest, rfl, found, by simpa [here] using none⟩
  obtain ⟨headline, rfl⟩ := startsMedia_iff.1 found
  refine ⟨headline, rest.takeWhile fun line => !startsMedia line, before,
    rest.dropWhile fun line => !startsMedia line, ?_, ?_, ?_, ?_⟩
  · rw [split, List.takeWhile_append_dropWhile]
  · exact fun line member => startsMedia_eq_false_iff.1 (none line member)
  · intro line member
    exact startsMedia_eq_false_iff.1 (by simpa using List.mem_takeWhile_imp member)
  · intro line member
    have stopped := List.head?_dropWhile_not (fun line => !startsMedia line) rest
    rw [Option.mem_def.1 member] at stopped
    exact startsMedia_iff.1 (by simpa using stopped)

theorem MediaDescription.parse_of_no_section (none : ∀ line ∈ Text.lines text, ¬ "m=".toList <+: line) :
    parse text = .error .noMediaSection := by
  have empty : gather (Text.rawLines text) = [] := by
    have all := gather_append (unstarted_of_map_chomp none) []
    rwa [List.append_nil] at all
  rw [parse, mediaSections, empty]
  rfl

end WhipWhep.Sdp
