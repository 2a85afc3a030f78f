import WhipWhep.Proofs.Sdp.Reading
import WhipWhep.Proofs.Text.Decimal

/-!
A description that is written is read back as it was, where its texts can stand in a line: the protocol
as a word, the format parameters trimmed and the identifier without a line end. No description with other
texts is read from anything at all.
-/

namespace WhipWhep.Sdp

variable {media : MediaDescription} {payloadType : UInt8} {text line value : List Char}

/-- The texts of a description that can be read from a line. -/
structure Writable (media : MediaDescription) : Prop where
  protocol : Text.IsWord media.protocol.toList
  fmtp : ∀ fmtp ∈ media.fmtp, '\n' ∉ fmtp.toList ∧ Text.trim fmtp.toList = fmtp.toList
  mid : ∀ mid ∈ media.mid, Text.IsLine mid.toList

/-! What is read can be written. -/

/-- The value of an attribute stands at the end of its line. -/
theorem attribute?_suffix {name : String} (said : attribute? name line = some value) : value <:+ line := by
  obtain ⟨rest, marked, found⟩ := Option.bind_eq_some_iff.1 said
  rw [Text.after?_eq_some_iff] at marked
  have inside : rest <:+ line := ⟨_, marked.symm⟩
  unfold splitOr at found
  cases split : Text.splitFirst ':' rest with
  | none =>
    simp only [split, Option.getD_none] at found
    obtain ⟨-, rfl⟩ : rest = name.toList ∧ [] = value := by simpa using found
    exact List.nil_suffix
  | some parts =>
    obtain ⟨before, after⟩ := parts
    simp only [split, Option.getD_some] at found
    obtain ⟨-, rfl⟩ : before = name.toList ∧ after = value := by simpa using found
    have tail : after <:+ rest := ⟨before ++ [':'], by simp [Text.eq_of_splitFirst split]⟩
    exact tail.trans inside

theorem formatFor?_trimmed (said : formatFor? payloadType line = some value) :
    Text.trim value = value ∧ value <:+: line := by
  obtain ⟨fmtp, named, found⟩ := Option.bind_eq_some_iff.1 said
  obtain ⟨⟨target, params⟩, split, own⟩ := Option.bind_eq_some_iff.1 found
  obtain ⟨-, rfl⟩ : readByte? target = some payloadType ∧ Text.trim params = value := by simpa using own
  have tail : params <:+ fmtp := ⟨target ++ [' '], by simp [Text.eq_of_splitFirst split]⟩
  exact ⟨Text.trim_trim params,
    (Text.trim_infix params).trans (tail.isInfix.trans (attribute?_suffix named).isInfix)⟩

theorem isLine_of_suffix (whole : Text.IsLine line) (tail : value <:+ line) : Text.IsLine value := by
  obtain ⟨front, rfl⟩ := tail
  refine ⟨fun member => whole.1 (List.mem_append_right front member), fun last => whole.2 ?_⟩
  rw [List.getLast?_append, last, Option.some_or]

theorem FirstSection.isLine {headline : List Char} {attributes : List (List Char)}
    (first : FirstSection text headline attributes) : ∀ line ∈ attributes, Text.IsLine line := by
  obtain ⟨before, after, split, -⟩ := first
  intro line member
  have inside : line ∈ Text.lines text := by simp [split, member]
  exact Text.isLine_of_lines inside

theorem lastSaid_of_some {α : Type} {told : List Char → Option α} {lines : List (List Char)} {said : α}
    (last : lastSaid told lines = some said) : ∃ line ∈ lines, told line = some said :=
  List.mem_filterMap.1 (List.mem_of_getLast? last)

/-- Whatever a description is read from, it can be written. -/
theorem MediaDescription.writable_of_parse (read : parse text = .ok media) : Writable media := by
  obtain ⟨headline, attributes, first, describes⟩ := parse_described.1 read
  refine ⟨?_, ?_, ?_⟩
  · obtain ⟨port, payloadType, more, words, -⟩ := describes.headed
    have member : media.protocol.toList ∈ Text.words headline := by simp [words]
    exact Text.isWord_of_words member
  · intro fmtp stated
    have last := describes.fmtp.symm
    rw [stated, Option.map_some] at last
    obtain ⟨line, member, said⟩ := lastSaid_of_some last
    obtain ⟨trimmed, inside⟩ := formatFor?_trimmed said
    exact ⟨fun broken => (first.isLine line member).1 (inside.subset broken), trimmed⟩
  · intro mid stated
    have last := describes.mid.symm
    rw [stated, Option.map_some] at last
    obtain ⟨line, member, said⟩ := lastSaid_of_some last
    exact isLine_of_suffix (first.isLine line member) (attribute?_suffix said)

/-! What is written can be read. -/

section Written

theorem isLine_append (first : Text.IsLine line) (second : Text.IsLine value) :
    Text.IsLine (line ++ value) := by
  refine ⟨fun member => (List.mem_append.1 member).elim first.1 second.1, ?_⟩
  rw [List.getLast?_append]
  cases last : value.getLast? with
  | none => exact first.2
  | some c =>
    have ends := second.2
    rwa [last] at ends

theorem isLine_cons {mark : Char} (first : Text.IsLine [mark]) (second : Text.IsLine value) :
    Text.IsLine (mark :: value) :=
  isLine_append first second

/-- Both characters that end lines are blank. -/
theorem isLine_of_unblank (unblank : ∀ c ∈ line, Text.isBlank c = false) : Text.IsLine line := by
  constructor
  · intro member
    cases unblank _ member
  · intro last
    cases unblank _ (List.mem_of_getLast? last)

theorem isLine_writeDecimal (n : Nat) : Text.IsLine (Text.writeDecimal n) :=
  isLine_of_unblank (Text.isWord_writeDecimal n).2

theorem isLine_of_trimmed (unbroken : '\n' ∉ line) (trimmed : Text.trim line = line) : Text.IsLine line := by
  refine ⟨unbroken, fun last => ?_⟩
  rw [← trimmed] at last
  cases Text.last_of_dropEndWhile _ last

theorem readByte?_writeDecimal (n : UInt8) : readByte? (Text.writeDecimal n.toNat) = some n := by
  simp [readByte?, Text.readDecimal_writeDecimal n.toNat_lt]

theorem readPort?_writeDecimal (n : UInt16) : readPort? (Text.writeDecimal n.toNat) = some n := by
  simp [readPort?, Text.readDecimal_writeDecimal n.toNat_lt]

theorem readRate?_writeDecimal (n : UInt32) : readRate? (Text.writeDecimal n.toNat) = some n := by
  simp [readRate?, Text.readDecimal_writeDecimal n.toNat_lt]

end Written

namespace MediaDescription

/-- The first line that is written, without the m= at its front. -/
def headline (media : MediaDescription) : List Char :=
  media.kind.name.toList ++ ' ' :: Text.writeDecimal media.port.toNat ++
    ' ' :: media.protocol.toList ++ ' ' :: Text.writeDecimal media.payloadType.toNat

/-- A line that gives a value to an attribute. -/
def attributeLine (name : String) (value : List Char) : List Char :=
  "a=".toList ++ (name.toList ++ ':' :: value)

def directionLine (direction : Direction) : List Char := "a=".toList ++ direction.keyword.toList

/-- A value that is for one payload type. -/
def targeted (payloadType : UInt8) (value : List Char) : List Char :=
  Text.writeDecimal payloadType.toNat ++ ' ' :: value

/-- The lines that are written after the first one. -/
def attributeLines (media : MediaDescription) : List (List Char) :=
  media.mid.toList.map (fun mid => attributeLine "mid" mid.toList) ++
    media.direction.toList.map directionLine ++
    [attributeLine "rtpmap" (targeted media.payloadType media.encodingText)] ++
    media.fmtp.toList.map fun fmtp => attributeLine "fmtp" (targeted media.payloadType fmtp.toList)

theorem renderLines_eq (media : MediaDescription) :
    media.renderLines = ("m=".toList ++ media.headline) :: media.attributeLines := by
  have first : media.headlineText = "m=".toList ++ media.headline := by
    simp only [headlineText, headline, List.append_assoc]
  have mid : "a=mid:".toList = "a=".toList ++ ("mid".toList ++ [':']) := by decide
  have rtpmap : "a=rtpmap:".toList = "a=".toList ++ ("rtpmap".toList ++ [':']) := by decide
  have fmtp : "a=fmtp:".toList = "a=".toList ++ ("fmtp".toList ++ [':']) := by decide
  simp only [renderLines, first, mid, rtpmap, fmtp, attributeLines, attributeLine, targeted,
    List.append_assoc, List.cons_append, List.nil_append]
  rfl

theorem unblank_of_encodingText (media : MediaDescription) :
    ∀ c ∈ media.encodingText, Text.isBlank c = false := by
  have name : ∀ c ∈ media.codec.encodingName.toList, Text.isBlank c = false := by
    cases media.codec <;> exact Text.unblank_of_any rfl
  have number : ∀ n, ∀ c ∈ Text.writeDecimal n, Text.isBlank c = false := fun n =>
    (Text.isWord_writeDecimal n).2
  have slash : Text.isBlank '/' = false := by decide
  unfold encodingText
  cases media.channels <;> simp only [List.mem_append, List.mem_cons] <;> grind

theorem isLine_targeted (whole : Text.IsLine value) : Text.IsLine (targeted payloadType value) :=
  isLine_append (isLine_writeDecimal _) (isLine_cons ⟨by decide, by decide⟩ whole)

theorem isLine_attributeLine {name : String} (named : Text.IsLine name.toList) (whole : Text.IsLine value) :
    Text.IsLine (attributeLine name value) :=
  isLine_append ⟨by decide, by decide⟩ (isLine_append named (isLine_cons ⟨by decide, by decide⟩ whole))

theorem isLine_headline (writable : Writable media) : Text.IsLine ("m=".toList ++ media.headline) := by
  have mark : Text.IsLine "m=".toList := ⟨by decide, by decide⟩
  have space : Text.IsLine [' '] := ⟨by decide, by decide⟩
  have kind : Text.IsLine media.kind.name.toList := by
    cases media.kind <;> exact ⟨by decide, by decide⟩
  have protocol := isLine_of_unblank writable.protocol.2
  unfold headline
  have port := isLine_cons space (isLine_writeDecimal media.port.toNat)
  have payloadType := isLine_cons space (isLine_writeDecimal media.payloadType.toNat)
  have sent := isLine_append (isLine_append kind port) (isLine_cons space protocol)
  have together := isLine_append sent payloadType
  exact isLine_append mark together

theorem isLine_renderLines (writable : Writable media) : ∀ line ∈ media.renderLines, Text.IsLine line := by
  rw [renderLines_eq]
  intro line member
  simp only [attributeLines, List.mem_cons, List.mem_append, List.mem_map, Option.mem_toList, List.not_mem_nil,
    or_false] at member
  rcases member with rfl | ((⟨mid, stated, rfl⟩ | ⟨direction, -, rfl⟩) | rfl) | ⟨fmtp, stated, rfl⟩
  · exact isLine_headline writable
  · exact isLine_attributeLine ⟨by decide, by decide⟩ (writable.mid mid stated)
  · cases direction <;> exact ⟨by decide, by decide⟩
  · exact isLine_attributeLine ⟨by decide, by decide⟩
      (isLine_targeted (isLine_of_unblank (unblank_of_encodingText media)))
  · obtain ⟨unbroken, trimmed⟩ := writable.fmtp fmtp stated
    exact isLine_attributeLine ⟨by decide, by decide⟩ (isLine_targeted (isLine_of_trimmed unbroken trimmed))

/-! What the written lines say. -/

theorem attribute?_attributeLine {said : String} (name : String) (unmarked : ':' ∉ said.toList) :
    attribute? name (attributeLine said value) = if said = name then some value else none := by
  have rest := Text.after?_eq_some_iff.2 (Eq.refl (attributeLine said value))
  rw [attribute?_of_after name rest, splitOr, Text.splitFirst_append said.toList value unmarked]
  simp only [Option.getD_some, String.toList_inj]

theorem keyword_apart (direction : Direction) :
    direction.keyword ≠ "rtpmap" ∧ direction.keyword ≠ "fmtp" ∧ direction.keyword ≠ "mid" := by
  cases direction <;> decide

theorem attribute?_directionLine (name : String) (direction : Direction) :
    attribute? name (directionLine direction) = if direction.keyword = name then some [] else none := by
  have unmarked : ':' ∉ direction.keyword.toList := by cases direction <;> decide
  have rest := Text.after?_eq_some_iff.2 (Eq.refl (directionLine direction))
  rw [attribute?_of_after name rest, splitOr, Text.splitFirst_eq_none unmarked]
  simp only [Option.getD_none, String.toList_inj]

theorem direction?_attributeLine {said : String} (unmarked : ':' ∉ said.toList) :
    direction? (attributeLine said value) = Direction.ofKeyword? said.toList := by
  have rest := Text.after?_eq_some_iff.2 (Eq.refl (attributeLine said value))
  rw [direction?_of_after rest, splitOr, Text.splitFirst_append said.toList value unmarked]
  rfl

theorem direction?_directionLine (direction : Direction) :
    direction? (directionLine direction) = some direction := by
  have unmarked : ':' ∉ direction.keyword.toList := by cases direction <;> decide
  have rest := Text.after?_eq_some_iff.2 (Eq.refl (directionLine direction))
  rw [direction?_of_after rest, splitOr, Text.splitFirst_eq_none unmarked]
  cases direction <;> rfl

theorem splitFirst_targeted : Text.splitFirst ' ' (targeted payloadType value) =
    some (Text.writeDecimal payloadType.toNat, value) := by
  refine Text.splitFirst_append _ value fun member => ?_
  cases (Text.isWord_writeDecimal payloadType.toNat).2 _ member

theorem mapped?_targeted : mapped? payloadType (targeted payloadType value) = some (Text.trim value) := by
  have number := Text.trim_of_word (Text.isWord_writeDecimal payloadType.toNat).2
  rw [mapped?, splitOr, splitFirst_targeted]
  simp [number, readByte?_writeDecimal]

theorem formatted?_targeted : formatted? payloadType (targeted payloadType value) = some (Text.trim value) := by
  rw [formatted?, splitFirst_targeted]
  simp [readByte?_writeDecimal]

theorem getLast?_toList {α : Type} (stated : Option α) : stated.toList.getLast? = stated := by
  cases stated <;> rfl

/-- What is stated has one line, and what is not has none. -/
theorem filterMap_optional {α β : Type} (told : List Char → Option α) (write : β → List Char)
    (stated : Option β) :
    (stated.toList.map write).filterMap told = (stated.bind fun value => told (write value)).toList := by
  cases stated with
  | none => rfl
  | some value => cases said : told (write value) <;> simp [said]

theorem filterMap_attributeLines {α : Type} (told : List Char → Option α) (media : MediaDescription) :
    media.attributeLines.filterMap told =
      (media.mid.bind fun mid => told (attributeLine "mid" mid.toList)).toList ++
        (media.direction.bind fun direction => told (directionLine direction)).toList ++
        (told (attributeLine "rtpmap" (targeted media.payloadType media.encodingText))).toList ++
        (media.fmtp.bind fun fmtp =>
          told (attributeLine "fmtp" (targeted media.payloadType fmtp.toList))).toList := by
  have single : ∀ line, [line].filterMap told = (told line).toList := fun line =>
    filterMap_optional told (fun _ : Unit => line) (some ())
  simp only [attributeLines, List.filterMap_append, filterMap_optional, single]

theorem filterMap_encodingFor (media : MediaDescription) :
    media.attributeLines.filterMap (encodingFor? media.payloadType) = [media.encodingText] := by
  have trimmed := Text.trim_of_word (unblank_of_encodingText media)
  rw [filterMap_attributeLines]
  simp [encodingFor?, attribute?_attributeLine, attribute?_directionLine, mapped?_targeted, keyword_apart,
    trimmed]

theorem lastSaid_format (media : MediaDescription) :
    lastSaid (formatFor? media.payloadType) media.attributeLines =
      media.fmtp.map fun fmtp => Text.trim fmtp.toList := by
  have said : lastSaid (formatFor? media.payloadType) media.attributeLines =
      media.fmtp.bind fun fmtp => some (Text.trim fmtp.toList) := by
    rw [lastSaid, filterMap_attributeLines]
    simp [formatFor?, attribute?_attributeLine, attribute?_directionLine, formatted?_targeted, keyword_apart,
      getLast?_toList]
  exact said.trans Option.map_eq_bind.symm

theorem lastSaid_mid (media : MediaDescription) :
    lastSaid (attribute? "mid") media.attributeLines = media.mid.map String.toList := by
  have said : lastSaid (attribute? "mid") media.attributeLines = media.mid.bind fun mid => some mid.toList := by
    rw [lastSaid, filterMap_attributeLines]
    simp [attribute?_attributeLine, attribute?_directionLine, keyword_apart, getLast?_toList]
  exact said.trans Option.map_eq_bind.symm

theorem lastSaid_direction (media : MediaDescription) :
    lastSaid direction? media.attributeLines = media.direction := by
  have fmtp : ∀ value, direction? (attributeLine "fmtp" value) = none := fun value =>
    (direction?_attributeLine (by decide)).trans rfl
  have rtpmap : ∀ value, direction? (attributeLine "rtpmap" value) = none := fun value =>
    (direction?_attributeLine (by decide)).trans rfl
  have mid : ∀ value, direction? (attributeLine "mid" value) = none := fun value =>
    (direction?_attributeLine (by decide)).trans rfl
  rw [lastSaid, filterMap_attributeLines]
  simp [fmtp, rtpmap, mid, direction?_directionLine, getLast?_toList]

theorem words_headline (writable : Writable media) : Text.words media.headline =
    [media.kind.name.toList, Text.writeDecimal media.port.toNat, media.protocol.toList,
      Text.writeDecimal media.payloadType.toNat] := by
  have kind : Text.IsWord media.kind.name.toList := by
    cases media.kind <;> exact ⟨by decide, Text.unblank_of_any rfl⟩
  have space : Text.isBlank ' ' = true := by decide
  rw [headline, Text.words_append_cons space, Text.words_append_cons space, Text.words_append_cons space,
    Text.words_of_word _ kind, Text.words_of_word _ (Text.isWord_writeDecimal _),
    Text.words_of_word _ writable.protocol, Text.words_of_word _ (Text.isWord_writeDecimal _)]
  rfl

theorem encodes_encodingText (media : MediaDescription) :
    Encodes media.encodingText ⟨media.codec, media.clockRate, media.channels⟩ := by
  have name : '/' ∉ media.codec.encodingName.toList := by cases media.codec <;> decide
  have number : ∀ n, '/' ∉ Text.writeDecimal n := by
    intro n member
    cases Text.digit_of_writeDecimal member
  have same : Codec.sameName media.codec.encodingName.toList media.codec.encodingName.toList = true :=
    beq_self_eq_true _
  unfold encodingText
  cases channels : media.channels with
  | none =>
    refine ⟨_, Text.writeDecimal media.clockRate.toNat, [], ?_, same, readRate?_writeDecimal _, rfl⟩
    rw [List.append_nil, List.splitOn_append_cons_self_of_not_mem name, List.splitOn_eq_singleton (number _)]
  | some count =>
    refine ⟨_, Text.writeDecimal media.clockRate.toNat, [Text.writeDecimal count.toNat], ?_, same,
      readRate?_writeDecimal _, (readByte?_writeDecimal count).symm⟩
    rw [List.append_assoc, List.cons_append, List.splitOn_append_cons_self_of_not_mem name,
      List.splitOn_append_cons_self_of_not_mem (number _), List.splitOn_eq_singleton (number _)]

/-- What is written says what was to be described. -/
theorem describes_written (writable : Writable media) :
    Describes media.headline media.attributeLines media where
  headed := ⟨_, _, [], words_headline writable, readPort?_writeDecimal _, readByte?_writeDecimal _⟩
  understood := by
    intro encoding member
    rw [filterMap_encodingFor, List.mem_singleton] at member
    exact ⟨_, member ▸ encodes_encodingText media⟩
  meaning := by
    rw [StandsFor, lastSaid, filterMap_encodingFor]
    exact encodes_encodingText media
  fmtp := by
    rw [lastSaid_format]
    exact Option.map_congr fun fmtp stated => (writable.fmtp fmtp stated).2.symm
  mid := (lastSaid_mid media).symm
  direction := (lastSaid_direction media).symm

theorem firstSection_render (writable : Writable media) :
    FirstSection media.render media.headline media.attributeLines := by
  have lines : Text.lines media.render = media.renderLines :=
    Text.lines_terminated (isLine_renderLines writable)
  refine ⟨[], [], ?_, by simp, ?_, by simp⟩
  · rw [lines, renderLines_eq, List.append_nil]
    rfl
  · have other : ∀ rest, ¬ "m=".toList <+: "a=".toList ++ rest := by simp
    intro line member
    simp only [attributeLines, List.mem_append, List.mem_map, List.mem_singleton] at member
    rcases member with ((⟨_, -, rfl⟩ | ⟨_, -, rfl⟩) | rfl) | ⟨_, -, rfl⟩ <;> exact other _

theorem parse_render_iff (media : MediaDescription) : parse media.render = .ok media ↔ Writable media := by
  constructor
  · exact writable_of_parse
  · exact fun writable => parse_described.2 ⟨_, _, firstSection_render writable, describes_written writable⟩

end MediaDescription
end WhipWhep.Sdp
