import WhipWhep.Proofs.Sdp.Sections
import WhipWhep.Proofs.Steps

/-!
What is read from a text. The first line of its first media section tells the kind, where the stream is
sent and its payload type, and each thing that the other lines say counts as the last of them has it.
A line that says what the payload type stands for has to be understood even if a later one says it anew.
-/

namespace WhipWhep

namespace Sdp

variable {text headline line : List Char} {attributes lines : List (List Char)} {payloadType : UInt8}

/-! What single lines say. -/

/-- The value that a line gives to an attribute; a line that only names the attribute gives the empty
one. -/
def attribute? (name : String) (line : List Char) : Option (List Char) :=
  (Text.after? "a=".toList line).bind fun text =>
    let (said, value) := splitOr ':' text
    if said = name.toList then some value else none

/-- What an rtpmap says of a payload type. Blanks around the number do not count. -/
def mapped? (payloadType : UInt8) (rtpmap : List Char) : Option (List Char) :=
  let (target, encoding) := splitOr ' ' rtpmap
  if readByte? (Text.trim target) = some payloadType then some (Text.trim encoding) else none

/-- What a line says that a payload type stands for. -/
def encodingFor? (payloadType : UInt8) (line : List Char) : Option (List Char) :=
  (attribute? "rtpmap" line).bind (mapped? payloadType)

/-- What an fmtp says of a payload type. Without a space it says nothing, and blanks around the number
count. -/
def formatted? (payloadType : UInt8) (fmtp : List Char) : Option (List Char) :=
  (Text.splitFirst ' ' fmtp).bind fun (target, params) =>
    if readByte? target = some payloadType then some (Text.trim params) else none

/-- The format parameters that a line gives for a payload type. -/
def formatFor? (payloadType : UInt8) (line : List Char) : Option (List Char) :=
  (attribute? "fmtp" line).bind (formatted? payloadType)

/-- The direction that a line names. -/
def direction? (line : List Char) : Option Direction :=
  [.sendOnly, .recvOnly, .sendRecv, .inactive].find? fun direction =>
    (attribute? direction.keyword line).isSome

/-- What the last of some lines says that says anything of a sort. -/
def lastSaid {α : Type} (told : List Char → Option α) (lines : List (List Char)) : Option α :=
  (lines.filterMap told).getLast?

/-- A name and a clock rate with a slash between; a third part may tell the channels. -/
def Encodes (encoding : List Char) (meaning : Encoding) : Prop :=
  ∃ name rate more, encoding.splitOn '/' = name :: rate :: more ∧
    Codec.sameName meaning.codec.encodingName.toList name = true ∧
    readRate? rate = some meaning.clockRate ∧ meaning.channels = more.head?.bind readByte?

/-- The words of the first line: the kind, the port, the protocol and the payload type, and more. -/
def Headed (headline : List Char) (head : Headline) : Prop :=
  ∃ port payloadType more,
    Text.words headline = head.kind.name.toList :: port :: head.protocol :: payloadType :: more ∧
    readPort? port = some head.port ∧ readByte? payloadType = some head.payloadType

/-! What the lines say together. -/

/-- Every line that says what a payload type stands for says it well. -/
def Understood (payloadType : UInt8) (lines : List (List Char)) : Prop :=
  ∀ encoding ∈ lines.filterMap (encodingFor? payloadType), ∃ meaning, Encodes encoding meaning

/-- What a payload type stands for: what the last line that tells it says, or else what is fixed. -/
def StandsFor (payloadType : UInt8) (lines : List (List Char)) (meaning : Encoding) : Prop :=
  match lastSaid (encodingFor? payloadType) lines with
  | some encoding => Encodes encoding meaning
  | none => Encoding.static? payloadType = some meaning

/-- A text from which something can be read. -/
def Readable (text : List Char) : Prop :=
  ∃ headline attributes head, FirstSection text headline attributes ∧ Headed headline head ∧
    Understood head.payloadType attributes ∧
    (attributes.filterMap (encodingFor? head.payloadType) ≠ [] ∨
      head.payloadType = 0 ∨ head.payloadType = 8)

/-- What the lines of a section say of a stream. -/
structure Describes (headline : List Char) (attributes : List (List Char)) (media : MediaDescription) :
    Prop where
  headed : Headed headline ⟨media.kind, media.port, media.protocol.toList, media.payloadType⟩
  understood : Understood media.payloadType attributes
  meaning : StandsFor media.payloadType attributes ⟨media.codec, media.clockRate, media.channels⟩
  fmtp : media.fmtp.map String.toList = lastSaid (formatFor? media.payloadType) attributes
  mid : media.mid.map String.toList = lastSaid (attribute? "mid") attributes
  direction : media.direction = lastSaid direction? attributes

theorem lastSaid_cons {α : Type} (told : List Char → Option α) :
    lastSaid told (line :: lines) = (lastSaid told lines).or (told line) := by
  unfold lastSaid
  cases here : told line with
  | none => simp [here]
  | some said => rw [List.filterMap_cons_some here, ← List.singleton_append, List.getLast?_append]; rfl

/-- Encoding names differ by more than the case of their letters. -/
theorem ofEncodingName?_eq_some_iff {name : List Char} {codec : Codec} :
    Codec.ofEncodingName? name = some codec ↔ Codec.sameName codec.encodingName.toList name = true := by
  have apart : ∀ one other : Codec,
      one.encodingName.toList.map Char.toLower = other.encodingName.toList.map Char.toLower → one = other := by
    intro one other
    cases one <;> cases other <;> first | exact fun _ => rfl | (intro same; revert same; decide)
  constructor
  · intro found
    have alike := List.find?_some found
    exact alike
  · intro same
    cases found : Codec.ofEncodingName? name with
    | none =>
      have never := List.find?_eq_none.1 found codec (by cases codec <;> decide)
      exact absurd same never
    | some other =>
      have alike := List.find?_some found
      simp only [Codec.sameName, beq_iff_eq] at alike same
      rw [apart other codec (alike.trans same.symm)]

/-! What is read off single lines. -/

/-- The words after the kind, which are read alike whatever the kind. -/
def headlineOf (kind : MediaKind) (words : List (List Char)) : Except Malformation Headline := do
  let port ← demand .invalidPort (words[1]?.bind readPort?)
  let protocol ← demand .missingProtocol words[2]?
  let payloadType ← demand .missingPayloadType (words[3]?.bind readByte?)
  return ⟨kind, port, protocol, payloadType⟩

theorem headline_read_eq (line : List Char) :
    Headline.read line =
      if (Text.words line)[0]? = some "audio".toList then headlineOf .audio (Text.words line)
      else if (Text.words line)[0]? = some "video".toList then headlineOf .video (Text.words line)
      else .error (.unsupportedMediaType (Text.words line)[0]?) := rfl

theorem headlineOf_eq_ok_iff {kind : MediaKind} {first : List Char} {words : List (List Char)}
    {head : Headline} :
    headlineOf kind (first :: words) = .ok head ↔
      ∃ port payloadType more, words = port :: head.protocol :: payloadType :: more ∧
        kind = head.kind ∧ readPort? port = some head.port ∧
        readByte? payloadType = some head.payloadType := by
  simp only [headlineOf, bind_eq_ok_iff, demand_eq_ok_iff]
  constructor
  · rintro ⟨port, second, protocol, third, payloadType, fourth, same⟩
    cases same
    match words with
    | [] | [_] | [_, _] => cases fourth
    | portWord :: protocolWord :: typeWord :: more =>
      cases third
      exact ⟨portWord, typeWord, more, rfl, rfl, second, fourth⟩
  · rintro ⟨port, payloadType, more, rfl, rfl, portRead, typeRead⟩
    exact ⟨head.port, portRead, head.protocol, rfl, head.payloadType, typeRead, rfl⟩

theorem headline_read_eq_ok_iff {head : Headline} :
    Headline.read headline = .ok head ↔ Headed headline head := by
  rw [headline_read_eq, Headed]
  cases Text.words headline with
  | nil => simp
  | cons first words =>
    have kinds : ∀ kind : MediaKind, first = kind.name.toList →
        (headlineOf kind (first :: words) = .ok head ↔ ∃ port payloadType more,
          first :: words = head.kind.name.toList :: port :: head.protocol :: payloadType :: more ∧
            readPort? port = some head.port ∧ readByte? payloadType = some head.payloadType) := by
      rintro kind rfl
      rw [headlineOf_eq_ok_iff]
      have apart : kind.name.toList = head.kind.name.toList ↔ kind = head.kind := by
        cases kind <;> cases head.kind <;> decide
      simp only [List.cons.injEq, apart, and_assoc, and_left_comm]
    split
    · next audio => exact kinds .audio (Option.some.inj audio)
    · next other =>
      split
      · next video => exact kinds .video (Option.some.inj video)
      · next neither =>
        have unknown : ∀ kind : MediaKind, first ≠ kind.name.toList := by
          rintro (_ | _)
          · exact fun same => other (congrArg some same)
          · exact fun same => neither (congrArg some same)
        simp [unknown]

/-- An encoding has one meaning. -/
theorem Encodes.unique {encoding : List Char} {meaning other : Encoding} (known : Encodes encoding meaning)
    (again : Encodes encoding other) : meaning = other := by
  obtain ⟨name, rate, more, parts, named, timed, counted⟩ := known
  obtain ⟨_, _, _, same, named', timed', counted'⟩ := again
  cases parts.symm.trans same
  have codec := (ofEncodingName?_eq_some_iff.2 named).symm.trans (ofEncodingName?_eq_some_iff.2 named')
  have clock := timed.symm.trans timed'
  have channels := counted.trans counted'.symm
  cases meaning
  cases other
  cases codec
  cases clock
  cases channels
  rfl

theorem encoding_read_eq_ok_iff {rtpmap : List Char} {found : Option Encoding} :
    Encoding.read payloadType rtpmap = .ok found ↔ Option.Rel Encodes (mapped? payloadType rtpmap) found := by
  unfold Encoding.read mapped?
  obtain ⟨target, encoding⟩ := splitOr ' ' rtpmap
  by_cases own : readByte? (Text.trim target) = some payloadType
  · simp only [own, ne_eq, not_true_eq_false, if_false, if_true, bind_eq_ok_iff, demand_eq_ok_iff,
      ofEncodingName?_eq_some_iff]
    obtain ⟨name, more, parts⟩ := List.exists_cons_of_ne_nil (List.splitOn_ne_nil '/' (Text.trim encoding))
    have third : ∀ rate others, (name :: rate :: others)[2]? = others.head? := by
      intro rate others
      cases others <;> rfl
    rw [parts]
    constructor
    · rintro ⟨codec, named, rate, timed, same⟩
      cases same
      cases more with
      | nil => cases timed
      | cons second others => exact .some ⟨name, second, others, parts, named, timed, by rw [third]⟩
    · rintro (⟨first, second, others, split, named, timed, counted⟩ | _)
      cases parts.symm.trans split
      refine ⟨_, named, _, timed, ?_⟩
      rw [third, ← counted]
      rfl
  · simp only [own, ne_eq, not_false_eq_true, if_true, if_false]
    constructor
    · intro same
      cases same
      exact .none
    · rintro (_ | _)
      rfl

theorem attribute?_of_after {rest : List Char} (name : String)
    (after : Text.after? "a=".toList line = some rest) :
    attribute? name line =
      if (splitOr ':' rest).1 = name.toList then some (splitOr ':' rest).2 else none := by
  rw [attribute?, after]
  rfl

theorem attribute?_of_no_mark (name : String) (other : Text.after? "a=".toList line = none) :
    attribute? name line = none := by
  rw [attribute?, other]
  rfl

theorem direction?_of_after {rest : List Char} (after : Text.after? "a=".toList line = some rest) :
    direction? line = Direction.ofKeyword? (splitOr ':' rest).1 := by
  unfold direction? Direction.ofKeyword?
  congr 1
  funext direction
  rw [attribute?_of_after _ after]
  grind

theorem direction?_of_no_mark (other : Text.after? "a=".toList line = none) : direction? line = none := by
  simp [direction?, attribute?_of_no_mark _ other]

theorem rel_none_iff {α β : Type} {rel : α → β → Prop} {found : Option β} :
    Option.Rel rel none found ↔ found = none := by
  cases found <;> simp

/-- What has been said once a line is taken in: the line counts before all that was said. -/
theorem attributes_read_eq_ok_iff {said after : Attributes} :
    Attributes.read payloadType said line = .ok after ↔
      ∃ encoding, Option.Rel Encodes (encodingFor? payloadType line) encoding ∧
        after = ⟨encoding <|> said.encoding, formatFor? payloadType line <|> said.fmtp,
          attribute? "mid" line <|> said.mid, direction? line <|> said.direction⟩ := by
  have still : ∀ taken : Attributes, Except.ok taken = Except.ok (ε := Malformation) after ↔ after = taken :=
    fun taken => ⟨fun same => (Except.ok.inj same).symm, fun same => congrArg _ same.symm⟩
  unfold Attributes.read encodingFor? formatFor?
  cases marked : Text.after? "a=".toList line with
  | none =>
    simp only [attribute?_of_no_mark _ marked, direction?_of_no_mark marked, Option.bind_none, rel_none_iff,
      exists_eq_left]
    exact still said
  | some rest =>
    simp only [attribute?_of_after _ marked, direction?_of_after marked]
    obtain ⟨name, value⟩ := splitOr ':' rest
    -- The names differ, so that a line says one thing at most.
    by_cases rtpmap : name = "rtpmap".toList
    · have notFormat : name ≠ "fmtp".toList := by rw [rtpmap]; decide
      have notMid : name ≠ "mid".toList := by rw [rtpmap]; decide
      have undirected : Direction.ofKeyword? name = none := by rw [rtpmap]; rfl
      simp only [if_pos rtpmap, if_neg notFormat, if_neg notMid, undirected, Option.bind_some,
        Option.bind_none, map_eq_ok_iff, encoding_read_eq_ok_iff]
      exact Iff.rfl
    · by_cases fmtp : name = "fmtp".toList
      · have notMid : name ≠ "mid".toList := by rw [fmtp]; decide
        have undirected : Direction.ofKeyword? name = none := by rw [fmtp]; rfl
        simp only [if_neg rtpmap, if_pos fmtp, if_neg notMid, undirected, Option.bind_some,
          Option.bind_none, rel_none_iff, exists_eq_left, formatted?]
        cases Text.splitFirst ' ' value with
        | none => exact still said
        | some parts =>
          obtain ⟨target, params⟩ := parts
          by_cases own : readByte? target = some payloadType
          · simp only [own, if_true, Option.bind_some]
            exact still _
          · simp only [own, if_false, Option.bind_some]
            exact still said
      · by_cases mid : name = "mid".toList
        · have undirected : Direction.ofKeyword? name = none := by rw [mid]; rfl
          simp only [if_neg rtpmap, if_neg fmtp, if_pos mid, undirected, Option.bind_none, rel_none_iff,
            exists_eq_left]
          exact still _
        · simp only [if_neg rtpmap, if_neg fmtp, if_neg mid, Option.bind_none, rel_none_iff, exists_eq_left]
          exact still _

/-! What is read off the lines together. -/

theorem rel_or {α β : Type} {rel : α → β → Prop} {one other : Option α} {found more : Option β}
    (first : Option.Rel rel one found) (second : Option.Rel rel other more) :
    Option.Rel rel (one.or other) (found.or more) := by
  cases first with
  | none => exact second
  | some related => exact .some related

theorem rel_unique {text : Option (List Char)} {found more : Option Encoding}
    (first : Option.Rel Encodes text found) (second : Option.Rel Encodes text more) : found = more := by
  cases first with
  | none => exact (rel_none_iff.1 second).symm
  | some known =>
    cases second with
    | some again => rw [known.unique again]

theorem understood_cons : Understood payloadType (line :: lines) ↔
    (∃ encoding, Option.Rel Encodes (encodingFor? payloadType line) encoding) ∧
      Understood payloadType lines := by
  unfold Understood
  cases said : encodingFor? payloadType line with
  | none => simpa [said] using fun _ => ⟨none, .none⟩
  | some encoding =>
    simp only [List.filterMap_cons_some said, List.forall_mem_cons]
    refine and_congr_left fun _ => ⟨fun ⟨meaning, known⟩ => ⟨some meaning, .some known⟩, ?_⟩
    rintro ⟨_, known⟩
    cases known with
    | some known => exact ⟨_, known⟩

theorem Understood.last (understood : Understood payloadType lines) :
    ∃ encoding, Option.Rel Encodes (lastSaid (encodingFor? payloadType) lines) encoding := by
  cases last : lastSaid (encodingFor? payloadType) lines with
  | none => exact ⟨none, .none⟩
  | some encoding =>
    obtain ⟨meaning, known⟩ := understood encoding (List.mem_of_getLast? last)
    exact ⟨some meaning, .some known⟩

/-- Every line has to be understood, and the last line that says a thing is the one that counts. -/
theorem foldlM_read_eq_ok_iff {said after : Attributes} :
    lines.foldlM (Attributes.read payloadType) said = .ok after ↔
      Understood payloadType lines ∧
        ∃ encoding, Option.Rel Encodes (lastSaid (encodingFor? payloadType) lines) encoding ∧
          after = ⟨encoding <|> said.encoding, lastSaid (formatFor? payloadType) lines <|> said.fmtp,
            lastSaid (attribute? "mid") lines <|> said.mid, lastSaid direction? lines <|> said.direction⟩ := by
  induction lines generalizing said with
  | nil =>
    have nothing : Understood payloadType [] := by simp [Understood]
    have none : lastSaid (encodingFor? payloadType) [] = none := rfl
    simp only [nothing, none, rel_none_iff, true_and, exists_eq_left]
    exact ⟨fun same => (Except.ok.inj same).symm, fun same => congrArg _ same.symm⟩
  | cons line lines ih =>
    rw [List.foldlM_cons, bind_eq_ok_iff]
    simp only [attributes_read_eq_ok_iff, ih, lastSaid_cons, Option.orElse_eq_orElse, Option.orElse_eq_or]
    constructor
    · rintro ⟨_, ⟨first, here, rfl⟩, others, last, later, rfl⟩
      refine ⟨understood_cons.2 ⟨⟨first, here⟩, others⟩, last.or first, rel_or later here, ?_⟩
      simp only [Option.or_assoc]
    · rintro ⟨understood, encoding, counted, rfl⟩
      obtain ⟨⟨first, here⟩, others⟩ := understood_cons.1 understood
      obtain ⟨last, later⟩ := others.last
      have same : encoding = last.or first := rel_unique counted (rel_or later here)
      refine ⟨_, ⟨first, here, rfl⟩, others, last, later, ?_⟩
      simp only [same, Option.or_assoc]

theorem map_toList_eq_iff {said : Option String} {text : Option (List Char)} :
    said.map String.toList = text ↔ said = text.map String.ofList := by
  cases said <;> cases text <;> simp [String.ext_iff]

theorem standsFor_iff {meaning : Encoding} : StandsFor payloadType lines meaning ↔
    ∃ encoding, Option.Rel Encodes (lastSaid (encodingFor? payloadType) lines) encoding ∧
      encoding.or (Encoding.static? payloadType) = some meaning := by
  unfold StandsFor
  cases lastSaid (encodingFor? payloadType) lines with
  | none => simp [rel_none_iff]
  | some encoding =>
    constructor
    · exact fun known => ⟨some meaning, .some known, rfl⟩
    · rintro ⟨_, known | _, same⟩
      cases same
      assumption

/-- What a section is read as. -/
theorem MediaDescription.ofLines_eq_ok_iff {media : MediaDescription} :
    ofLines headline attributes = .ok media ↔ Describes headline attributes media := by
  unfold ofLines
  simp only [bind_eq_ok_iff, headline_read_eq_ok_iff, foldlM_read_eq_ok_iff, demand_eq_ok_iff, Attributes.none,
    Option.orElse_eq_orElse, Option.orElse_eq_or, Option.or_none]
  constructor
  · rintro ⟨head, headed, _, ⟨understood, encoding, counted, rfl⟩, meaning, found, same⟩
    cases same
    refine ⟨?_, understood, standsFor_iff.2 ⟨encoding, counted, found⟩, ?_, ?_, rfl⟩
    · simpa using headed
    · exact map_toList_eq_iff.2 rfl
    · exact map_toList_eq_iff.2 rfl
  · rintro ⟨headed, understood, meaning, fmtp, mid, direction⟩
    obtain ⟨encoding, counted, found⟩ := standsFor_iff.1 meaning
    refine ⟨_, headed, _, ⟨understood, encoding, counted, rfl⟩, _, found, ?_⟩
    rw [map_toList_eq_iff] at fmtp mid
    simp [← fmtp, ← mid, ← direction]
    rfl

theorem static?_isSome_iff : (Encoding.static? payloadType).isSome ↔ payloadType = 0 ∨ payloadType = 8 := by
  unfold Encoding.static?
  grind

theorem exists_standsFor_iff (understood : Understood payloadType lines) :
    (∃ meaning, StandsFor payloadType lines meaning) ↔
      lines.filterMap (encodingFor? payloadType) ≠ [] ∨ payloadType = 0 ∨ payloadType = 8 := by
  rw [← static?_isSome_iff, Option.isSome_iff_exists]
  unfold StandsFor
  cases last : lastSaid (encodingFor? payloadType) lines with
  | none => simp [List.getLast?_eq_none_iff.1 last]
  | some encoding =>
    have said := List.mem_of_getLast? last
    exact iff_of_true (understood encoding said) (.inl (List.ne_nil_of_mem said))

/-- A section is read as soon as its first line is well formed, what is said of its payload type is
understood, and something is said of it or its meaning is fixed. -/
theorem MediaDescription.exists_ofLines_iff : (∃ media, ofLines headline attributes = .ok media) ↔
    ∃ head, Headed headline head ∧ Understood head.payloadType attributes ∧
      (attributes.filterMap (encodingFor? head.payloadType) ≠ [] ∨
        head.payloadType = 0 ∨ head.payloadType = 8) := by
  simp only [ofLines_eq_ok_iff]
  constructor
  · rintro ⟨media, headed, understood, meaning, -⟩
    exact ⟨_, headed, understood, (exists_standsFor_iff understood).1 ⟨_, meaning⟩⟩
  · rintro ⟨⟨kind, port, protocol, payloadType⟩, headed, understood, known⟩
    obtain ⟨⟨codec, clockRate, channels⟩, meaning⟩ := (exists_standsFor_iff understood).2 known
    refine ⟨⟨kind, port, String.ofList protocol, payloadType, codec, clockRate, channels,
      (lastSaid (formatFor? payloadType) attributes).map String.ofList,
      (lastSaid (attribute? "mid") attributes).map String.ofList, lastSaid direction? attributes⟩, ?_⟩
    exact ⟨by simpa using headed, understood, meaning, map_toList_eq_iff.2 rfl, map_toList_eq_iff.2 rfl, rfl⟩

theorem MediaDescription.parse_described {media : MediaDescription} : parse text = .ok media ↔
    ∃ headline attributes, FirstSection text headline attributes ∧ Describes headline attributes media := by
  constructor
  · intro read
    by_cases started : ∃ line ∈ Text.lines text, "m=".toList <+: line
    · obtain ⟨line, member, starts⟩ := started
      obtain ⟨headline, attributes, first⟩ := exists_firstSection member starts
      rw [parse_of_firstSection first, ofLines_eq_ok_iff] at read
      exact ⟨headline, attributes, first, read⟩
    · rw [parse_of_no_section (by simpa using started)] at read
      cases read
  · rintro ⟨headline, attributes, first, describes⟩
    rwa [parse_of_firstSection first, ofLines_eq_ok_iff]

/-- What is read from a text, if anything, is what its first media section says; what stands before that
section and after it makes no difference. -/
theorem MediaDescription.parse_reads_first_section (text : List Char) :
    ((∃ media, parse text = .ok media) ↔ Readable text) ∧
      (∀ media, parse text = .ok media ↔ ∃ headline attributes,
        FirstSection text headline attributes ∧ Describes headline attributes media) ∧
      ∀ other headline attributes, FirstSection text headline attributes →
        FirstSection other headline attributes → parse other = parse text := by
  refine ⟨?_, fun media => parse_described, ?_⟩
  · simp only [parse_described, Readable]
    constructor
    · rintro ⟨media, headline, attributes, first, describes⟩
      obtain ⟨head, readable⟩ := exists_ofLines_iff.1 ⟨media, ofLines_eq_ok_iff.2 describes⟩
      exact ⟨headline, attributes, head, first, readable⟩
    · rintro ⟨headline, attributes, head, first, readable⟩
      obtain ⟨media, read⟩ := exists_ofLines_iff.2 ⟨head, readable⟩
      exact ⟨media, headline, attributes, first, ofLines_eq_ok_iff.1 read⟩
  · intro other headline attributes first again
    rw [parse_of_firstSection first, parse_of_firstSection again]

theorem MediaDescription.parse_reads_first_section_between :
    parse "s=-\r\nm=audio 9 RTP/AVP 8\r\nm=video 0\r\n".toList =
      .ok ⟨.audio, 9, "RTP/AVP", 8, .pcmAlaw, 8000, some 1, none, none, none⟩ := by
  have alone : FirstSection "m=audio 9 RTP/AVP 8".toList "audio 9 RTP/AVP 8".toList [] :=
    ⟨[], [], by decide, by decide, by decide, by decide⟩
  have between : FirstSection "s=-\r\nm=audio 9 RTP/AVP 8\r\nm=video 0\r\n".toList
      "audio 9 RTP/AVP 8".toList [] :=
    ⟨["s=-".toList], ["m=video 0".toList], by decide, by decide, by decide, by decide⟩
  have read : parse "m=audio 9 RTP/AVP 8".toList =
      .ok ⟨.audio, 9, "RTP/AVP", 8, .pcmAlaw, 8000, some 1, none, none, none⟩ := by decide
  exact ((parse_reads_first_section _).2.2 _ _ _ alone between).trans read

end Sdp
end WhipWhep
