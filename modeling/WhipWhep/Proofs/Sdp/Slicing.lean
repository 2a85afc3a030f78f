import WhipWhep.Proofs.Sdp.Offer

/-!
How the media sections lie in a text. They follow one another without a gap from the first line that starts one to
the end of the text, each of them has one such line and is its own only section, and they are what is cut out of the
text at the byte offsets of those lines: no cut is made inside a character.
-/

namespace WhipWhep.Sdp

variable {line part : List Char} {lines : List (List Char)}

/-! The lines of the sections. -/

/-- What stands before the first line that starts a section, which is all of the text if there is none. -/
def preamble (text : List Char) : List Char :=
  ((Text.rawLines text).takeWhile fun line => !startsMedia line).flatten

theorem gather_cons_started (starts : startsMedia line = true) : gather (line :: lines) =
    (line ++ (lines.takeWhile fun next => !startsMedia next).flatten) :: gather lines := by
  rw [gather, if_pos starts]

theorem gather_cons_unstarted (other : startsMedia line = false) : gather (line :: lines) = gather lines := by
  rw [gather, other, if_neg Bool.false_ne_true]

/-- No line is lost from the first one on that starts a section. -/
theorem flatten_gather (lines : List (List Char)) :
    (gather lines).flatten = (lines.dropWhile fun line => !startsMedia line).flatten := by
  induction lines with
  | nil => rfl
  | cons line lines ih =>
    cases starts : startsMedia line with
    | false => rw [gather_cons_unstarted starts, ih, List.dropWhile_cons_of_pos (by simp [starts])]
    | true =>
      have own := List.takeWhile_append_dropWhile (p := fun line => !startsMedia line) (l := lines)
      rw [gather_cons_started starts, List.flatten_cons, ih, List.append_assoc, ← List.flatten_append, own,
        List.dropWhile_cons_of_neg (by simp [starts]), List.flatten_cons]

theorem preamble_append_sections (text : List Char) : preamble text ++ (mediaSections text).flatten = text := by
  rw [preamble, mediaSections, flatten_gather, ← List.flatten_append, List.takeWhile_append_dropWhile,
    Text.flatten_rawLines]

theorem length_gather (lines : List (List Char)) : (gather lines).length = lines.countP startsMedia := by
  induction lines with
  | nil => rfl
  | cons line lines ih =>
    cases starts : startsMedia line with
    | false => rw [gather_cons_unstarted starts, ih, List.countP_cons_of_neg (by simp [starts])]
    | true => rw [gather_cons_started starts, List.length_cons, ih, List.countP_cons_of_pos starts]

/-- A section is one line that starts it and the lines behind it that start none. -/
theorem exists_of_mem_gather (member : part ∈ gather lines) :
    ∃ head inside, part = (head :: inside).flatten ∧ startsMedia head = true ∧
      (∀ line ∈ inside, startsMedia line = false) ∧ (head :: inside) <:+: lines := by
  induction lines with
  | nil => cases member
  | cons line lines ih =>
    have later : part ∈ gather lines → ∃ head inside, part = (head :: inside).flatten ∧ startsMedia head = true ∧
        (∀ line ∈ inside, startsMedia line = false) ∧ (head :: inside) <:+: line :: lines := by
      intro among
      obtain ⟨head, inside, whole, starts, none, within⟩ := ih among
      exact ⟨head, inside, whole, starts, none, within.trans (List.suffix_cons line lines).isInfix⟩
    cases starts : startsMedia line with
    | false => exact later (by rwa [gather_cons_unstarted starts] at member)
    | true =>
      rw [gather_cons_started starts] at member
      rcases List.mem_cons.1 member with rfl | among
      · refine ⟨line, _, rfl, starts, fun next inside => ?_, ?_⟩
        · simpa using List.mem_takeWhile_imp inside
        · exact (List.cons_prefix_cons.2 ⟨rfl, List.takeWhile_prefix _⟩).isInfix
      · exact later among

/-- The lines of a section are the lines it was made of. -/
theorem rawLines_of_section {text : List Char} (member : part ∈ mediaSections text) :
    ∃ head inside, Text.rawLines part = head :: inside ∧ startsMedia head = true ∧
      ∀ line ∈ inside, startsMedia line = false := by
  obtain ⟨head, inside, rfl, starts, none, before, after, whole⟩ := exists_of_mem_gather member
  have raw := Text.raw_rawLines text
  rw [← whole] at raw
  exact ⟨head, inside, raw.of_append.1.of_append.2.rawLines_flatten, starts, none⟩

theorem mediaSections_of_section {text : List Char} (member : part ∈ mediaSections text) :
    mediaSections part = [part] := by
  obtain ⟨head, inside, lines, starts, none⟩ := rawLines_of_section member
  have ended : ∀ line ∈ ([] : List (List Char)).head?, startsMedia line = true := nofun
  have alone := gather_section starts none ended
  rw [List.append_nil] at alone
  rw [mediaSections, lines, alone, ← lines, Text.flatten_rawLines]
  rfl

/-! The places of the sections. -/

/-- What stands between two byte offsets of a text. There is nothing if they are crossed, or if one of them is beyond
the text or inside a character. -/
def between? (text : String) (start stop : Nat) : Option String := do
  let first ← text.pos? ⟨start⟩
  let last ← text.pos? ⟨stop⟩
  let part ← text.slice? first last
  return part.copy

/-- How many bytes a text takes. -/
def size (text : List Char) : Nat := (String.ofList text).utf8ByteSize

/-- The byte offsets of the lines that start sections, where the lines begin at an offset. -/
def starts (offset : Nat) : List (List Char) → List Nat
  | [] => []
  | line :: rest =>
    let later := starts (offset + size line) rest
    if startsMedia line then offset :: later else later

/-- From each start to the next one, and from the last one to the end. -/
def spans (stop : Nat) : List Nat → List (Nat × Nat)
  | [] => []
  | start :: rest => (start, rest.headD stop) :: spans stop rest

/-- The sections as they are cut out of the text at byte offsets, if each of them can be. -/
def cutOut (text : List Char) : Option (List String) :=
  (spans (size text) (starts 0 (Text.rawLines text))).mapM fun (start, stop) =>
    between? (String.ofList text) start stop

theorem size_append (first second : List Char) : size (first ++ second) = size first + size second := by
  rw [size, String.ofList_append, String.utf8ByteSize_append]
  rfl

theorem pos?_of_valid {text : String} {place : String.Pos.Raw} (valid : place.IsValid text) :
    text.pos? place = some (text.pos place valid) := by
  have within : place.isValidForSlice text.toSlice = true :=
    String.Pos.Raw.isValidForSlice_eq_true_iff.2 valid.toSlice
  rw [String.pos?, String.Slice.pos?, dif_pos within]
  rfl

/-- Where a text is put together of three, the one in the middle is between the places where they meet. -/
theorem between?_append (before part after : String) :
    between? (before ++ part ++ after) before.utf8ByteSize (before ++ part).utf8ByteSize = some part := by
  have first : before.rawEndPos.IsValid (before ++ part ++ after) :=
    String.Pos.Raw.isValid_iff_exists_append.2 ⟨before, part ++ after, String.append_assoc, rfl⟩
  have last : (before ++ part).rawEndPos.IsValid (before ++ part ++ after) :=
    String.Pos.Raw.isValid_iff_exists_append.2 ⟨before ++ part, after, rfl, rfl⟩
  have start : (before ++ part ++ after).pos? ⟨before.utf8ByteSize⟩ = _ := pos?_of_valid first
  have stop : (before ++ part ++ after).pos? ⟨(before ++ part).utf8ByteSize⟩ = _ := pos?_of_valid last
  have ordered : (before ++ part ++ after).pos _ first ≤ (before ++ part ++ after).pos _ last := by
    show before.utf8ByteSize ≤ (before ++ part).utf8ByteSize
    simp
  have cut : ((before ++ part ++ after).slice _ _ ordered).copy = part := by
    rw [← String.toByteArray_inj, String.toByteArray_copy_slice]
    show (before ++ part ++ after).toByteArray.extract before.utf8ByteSize (before ++ part).utf8ByteSize = _
    rw [String.append_assoc, String.toByteArray_append, String.toByteArray_append, String.utf8ByteSize_append,
      ← String.size_toByteArray, ← String.size_toByteArray, ← Nat.add_zero before.toByteArray.size, Nat.add_assoc,
      ByteArray.extract_append_size_add, Nat.zero_add, ByteArray.extract_append_eq_left rfl]
  rw [between?, start, stop]
  simp only [Option.bind_eq_bind, Option.bind_some, String.slice?, dif_pos ordered, cut]
  rfl

example : between? "né" 1 3 = some "é" ∧ between? "né" 2 3 = none := by decide

theorem size_flatten_cons (line : List Char) (lines : List (List Char)) :
    size (line :: lines).flatten = size line + size lines.flatten := by
  rw [List.flatten_cons, size_append]

/-- The next section starts behind the lines that start none. -/
theorem headD_starts (offset : Nat) (lines : List (List Char)) :
    (starts offset lines).headD (offset + size lines.flatten) =
      offset + size (lines.takeWhile fun line => !startsMedia line).flatten := by
  induction lines generalizing offset with
  | nil => rfl
  | cons line lines ih =>
    cases begins : startsMedia line with
    | true => simp [starts, begins, size]
    | false =>
      have next := ih (offset + size line)
      rw [Nat.add_assoc, Nat.add_assoc] at next
      rw [List.takeWhile_cons_of_pos (by simp [begins]), size_flatten_cons, size_flatten_cons, ← next, starts, begins]
      rfl

/-- What is cut out from some place on are the sections of the lines from there. -/
theorem cutOut_from (before : List Char) (lines : List (List Char)) :
    (spans (size (before ++ lines.flatten)) (starts (size before) lines)).mapM (fun (start, stop) =>
      between? (String.ofList (before ++ lines.flatten)) start stop) = some ((gather lines).map String.ofList) := by
  -- A line that was read is one more before the others, which moves their offsets by as many bytes as it takes.
  induction lines generalizing before with
  | nil => rfl
  | cons line lines ih =>
    have later := ih (before ++ line)
    rw [List.append_assoc, ← List.flatten_cons, size_append before line] at later
    cases begins : startsMedia line with
    | false =>
      rw [gather_cons_unstarted begins, ← later, starts, begins]
      rfl
    | true =>
      let own := line ++ (lines.takeWhile fun next => !startsMedia next).flatten
      let rest := (lines.dropWhile fun next => !startsMedia next).flatten
      have whole : before ++ own ++ rest = before ++ (line :: lines).flatten := by
        simp only [own, rest, List.append_assoc, List.flatten_cons, ← List.flatten_append,
          List.takeWhile_append_dropWhile]
      have next : (starts (size before + size line) lines).headD (size (before ++ (line :: lines).flatten)) =
          size (before ++ own) := by
        rw [size_append before, size_flatten_cons, ← Nat.add_assoc, headD_starts, size_append before, size_append line,
          Nat.add_assoc]
      have cut := between?_append (String.ofList before) (String.ofList own) (String.ofList rest)
      rw [← String.ofList_append, ← String.ofList_append, whole] at cut
      have first : between? (String.ofList (before ++ (line :: lines).flatten)) (size before) (size (before ++ own)) =
          some (String.ofList own) := cut
      rw [gather_cons_started begins, starts, if_pos begins, spans, next, List.mapM_cons, later]
      simp only [first]
      rfl

theorem cutOut_eq (text : List Char) : cutOut text = some ((mediaSections text).map String.ofList) := by
  have whole := cutOut_from [] (Text.rawLines text)
  rwa [List.nil_append, Text.flatten_rawLines] at whole

/-- How the sections of a text lie in it. -/
structure Divides (text : List Char) : Prop where
  whole : preamble text ++ (mediaSections text).flatten = text
  started : ∀ part ∈ mediaSections text, "m=".toList <+: part
  single : ∀ part ∈ mediaSections text, ∃ headline attributes,
    Text.lines part = ("m=".toList ++ headline) :: attributes ∧ ∀ line ∈ attributes, ¬ "m=".toList <+: line
  own : ∀ part ∈ mediaSections text, mediaSections part = [part]
  count : (mediaSections text).length = (Text.lines text).countP fun line => "m=".toList.isPrefixOf line
  cut : cutOut text = some ((mediaSections text).map String.ofList)

theorem started_of_section {text : List Char} (member : part ∈ mediaSections text) : "m=".toList <+: part := by
  obtain ⟨head, inside, rfl, starts, -⟩ := exists_of_mem_gather member
  exact (startsMedia_iff.1 starts).trans (List.prefix_append head inside.flatten)

theorem lines_of_section {text : List Char} (member : part ∈ mediaSections text) : ∃ headline attributes,
    Text.lines part = ("m=".toList ++ headline) :: attributes ∧ ∀ line ∈ attributes, ¬ "m=".toList <+: line := by
  obtain ⟨head, inside, lines, starts, none⟩ := rawLines_of_section member
  obtain ⟨headline, first⟩ := startsMedia_iff.1 ((startsMedia_chomp head).trans starts)
  refine ⟨headline, inside.map Text.chomp, by rw [Text.lines, lines, List.map_cons, first], fun line among => ?_⟩
  obtain ⟨raw, written, rfl⟩ := List.mem_map.1 among
  exact startsMedia_eq_false_iff.1 ((startsMedia_chomp raw).trans (none raw written))

theorem length_mediaSections (text : List Char) :
    (mediaSections text).length = (Text.lines text).countP fun line => "m=".toList.isPrefixOf line := by
  rw [mediaSections, length_gather, Text.lines, List.countP_map]
  exact List.countP_congr fun raw _ => by rw [← startsMedia_chomp]; rfl

/-- Every text is divided into its sections, and descriptions that are written behind a text without sections are the
sections of what is written. -/
theorem mediaSections_divides :
    (∀ text, Divides text) ∧ ∀ {before : List Char} {medias : List MediaDescription},
      (∀ c ∈ before.getLast?, c = '\n') → (∀ line ∈ Text.lines before, ¬ "m=".toList <+: line) →
      (∀ media ∈ medias, Unbroken media) →
      mediaSections (before ++ medias.flatMap MediaDescription.render) = medias.map MediaDescription.render := by
  refine ⟨fun text => ?_, MediaDescription.mediaSections_renders⟩
  exact
    { whole := preamble_append_sections text
      started := fun _ => started_of_section
      single := fun _ => lines_of_section
      own := fun _ => mediaSections_of_section
      count := length_mediaSections text
      cut := cutOut_eq text }

namespace Accented

def before : List Char := "s=né\n".toList

/-- Descriptions that are not read back from what is written of them. -/
def medias : List MediaDescription :=
  [⟨.audio, 9, "", 111, .opus, 48000, some 2, some " ü\r", some "m=é", none⟩,
    ⟨.video, 0, "RTP/AVP m=", 96, .vp8, 0, none, none, some "ß", some .inactive⟩]

end Accented

open Accented in
theorem mediaSections_divides_accented :
    (∀ c ∈ before.getLast?, c = '\n') ∧ (∀ line ∈ Text.lines before, ¬ "m=".toList <+: line) ∧
      (∀ media ∈ medias, Unbroken media) ∧
      mediaSections (before ++ medias.flatMap MediaDescription.render) = medias.map MediaDescription.render := by
  have closed : ∀ c ∈ before.getLast?, c = '\n' := by
    rintro _ ⟨⟩
    rfl
  have none : ∀ line ∈ Text.lines before, ¬ "m=".toList <+: line := by decide
  have unbroken : ∀ media ∈ medias, Unbroken media := by
    simp only [medias, List.forall_mem_cons]
    exact ⟨⟨by decide, by decide, by decide⟩, ⟨by decide, by decide, by decide⟩, nofun⟩
  exact ⟨closed, none, unbroken, mediaSections_divides.2 closed none unbroken⟩

end WhipWhep.Sdp
