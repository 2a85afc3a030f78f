import WhipWhep.Media.Stream
import WhipWhep.Sdp.Section
import WhipWhep.Text.Quoted

/-!
A media description tells one stream: its kind, where it is sent, its payload type and what that
stands for. It is written as a media section, and read from the first media section of a text.
Attributes that say the same thing twice count as their last occurrence says.
-/

namespace WhipWhep.Sdp

structure MediaDescription where
  kind : MediaKind
  port : UInt16
  protocol : String
  payloadType : UInt8
  codec : Codec
  clockRate : UInt32
  /-- The number of audio channels, if it is stated. -/
  channels : Option UInt8
  fmtp : Option String
  mid : Option String
  direction : Option Direction
  deriving DecidableEq

/-- Why a text holds no media description. -/
inductive Malformation where
  | noMediaSection
  | unsupportedMediaType (word : Option (List Char))
  | invalidPort
  | missingProtocol
  | missingPayloadType
  | unknownEncoding (name : List Char)
  | badClockRate (rtpmap : List Char)
  | noRtpmap (payloadType : UInt8)
  deriving DecidableEq

def Malformation.message : Malformation → String
  | noMediaSection => "no media section"
  | unsupportedMediaType word => "unsupported media type " ++ String.ofList (Text.quote? word)
  | invalidPort => "invalid port"
  | missingProtocol => "missing protocol"
  | missingPayloadType => "missing payload type"
  | unknownEncoding name => "unknown encoding " ++ String.ofList name
  | badClockRate rtpmap => "bad clock rate in rtpmap: " ++ String.ofList rtpmap
  | noRtpmap payloadType => "no rtpmap for payload type " ++ numeral payloadType.toNat

/-- What a payload type stands for. -/
structure Encoding where
  codec : Codec
  clockRate : UInt32
  channels : Option UInt8
  deriving DecidableEq

/-- Payload types whose meaning is fixed. -/
def Encoding.static? (payloadType : UInt8) : Option Encoding :=
  if payloadType = 0 then some ⟨.pcmMulaw, 8000, some 1⟩
  else if payloadType = 8 then some ⟨.pcmAlaw, 8000, some 1⟩
  else none

def readByte? (text : List Char) : Option UInt8 :=
  (Text.readDecimal 256 text).map UInt8.ofNat

def readPort? (text : List Char) : Option UInt16 :=
  (Text.readDecimal 65536 text).map UInt16.ofNat

def readRate? (text : List Char) : Option UInt32 :=
  (Text.readDecimal UInt32.size text).map UInt32.ofNat

/-- The text before and after the first mark, or all of it and nothing. -/
def splitOr (mark : Char) (text : List Char) : List Char × List Char :=
  (Text.splitFirst mark text).getD (text, [])

/-- The meaning that an rtpmap attribute gives to a payload type. One for another payload type gives
none, however malformed it is. -/
def Encoding.read (payloadType : UInt8) (rtpmap : List Char) :
    Except Malformation (Option Encoding) :=
  let (target, encoding) := splitOr ' ' rtpmap
  if readByte? (Text.trim target) ≠ some payloadType then .ok none
  else do
    let parts := (Text.trim encoding).splitOn '/'
    let name := parts.headD []
    let codec ← demand (.unknownEncoding name) (Codec.ofEncodingName? name)
    let clockRate ← demand (.badClockRate rtpmap) (parts[1]?.bind readRate?)
    return some ⟨codec, clockRate, parts[2]?.bind readByte?⟩

/-- The first line of a media section. -/
structure Headline where
  kind : MediaKind
  port : UInt16
  protocol : List Char
  payloadType : UInt8
  deriving DecidableEq

def Headline.read (line : List Char) : Except Malformation Headline := do
  let fields := Text.words line
  let kind ←
    if fields[0]? = some "audio".toList then .ok .audio
    else if fields[0]? = some "video".toList then .ok .video
    else .error (.unsupportedMediaType fields[0]?)
  let port ← demand .invalidPort (fields[1]?.bind readPort?)
  let protocol ← demand .missingProtocol fields[2]?
  let payloadType ← demand .missingPayloadType (fields[3]?.bind readByte?)
  return ⟨kind, port, protocol, payloadType⟩

/-- What the attributes of a media section have said so far. -/
structure Attributes where
  encoding : Option Encoding
  fmtp : Option (List Char)
  mid : Option (List Char)
  direction : Option Direction
  deriving DecidableEq

namespace Attributes

def none : Attributes := ⟨.none, .none, .none, .none⟩

/-- Takes in one line. Only an rtpmap for the payload type at hand can be refused. -/
def read (payloadType : UInt8) (said : Attributes) (line : List Char) :
    Except Malformation Attributes :=
  match Text.after? "a=".toList line with
  | .none => .ok said
  | some text =>
    let (name, value) := splitOr ':' text
    if name = "rtpmap".toList then
      (Encoding.read payloadType value).map fun encoding =>
        { said with encoding := encoding <|> said.encoding }
    else if name = "fmtp".toList then
      match Text.splitFirst ' ' value with
      | .none => .ok said
      | some (target, params) =>
        if readByte? target = some payloadType then
          .ok { said with fmtp := some (Text.trim params) }
        else .ok said
    else if name = "mid".toList then .ok { said with mid := some value }
    else .ok { said with direction := Direction.ofKeyword? name <|> said.direction }

end Attributes

namespace MediaDescription

/-- The description that a section gives, without its m= at the front. -/
def ofLines (headline : List Char) (attributes : List (List Char)) :
    Except Malformation MediaDescription := do
  let head ← Headline.read headline
  let said ← attributes.foldlM (Attributes.read head.payloadType) Attributes.none
  let encoding ← demand (.noRtpmap head.payloadType)
    (said.encoding <|> Encoding.static? head.payloadType)
  return {
    kind := head.kind
    port := head.port
    protocol := String.ofList head.protocol
    payloadType := head.payloadType
    codec := encoding.codec
    clockRate := encoding.clockRate
    channels := encoding.channels
    fmtp := said.fmtp.map String.ofList
    mid := said.mid.map String.ofList
    direction := said.direction }

def parse (text : List Char) : Except Malformation MediaDescription :=
  match (mediaSections text).head? with
  | none => .error .noMediaSection
  | some mediaSection =>
    match Text.lines mediaSection with
    | [] => .error .noMediaSection
    | headline :: attributes => ofLines (headline.drop "m=".length) attributes

/-- The name, the clock rate and the channels, if stated, with slashes between. -/
def encodingText (media : MediaDescription) : List Char :=
  media.codec.encodingName.toList ++ '/' :: Text.writeDecimal media.clockRate.toNat ++
    match media.channels with
    | none => []
    | some channels => '/' :: Text.writeDecimal channels.toNat

def headlineText (media : MediaDescription) : List Char :=
  "m=".toList ++ media.kind.name.toList ++ ' ' :: Text.writeDecimal media.port.toNat ++
    ' ' :: media.protocol.toList ++ ' ' :: Text.writeDecimal media.payloadType.toNat

/-- The lines of the media section, each without its line end. -/
def renderLines (media : MediaDescription) : List (List Char) :=
  let payloadType := Text.writeDecimal media.payloadType.toNat
  [media.headlineText] ++
    (media.mid.toList.map fun mid => "a=mid:".toList ++ mid.toList) ++
    (media.direction.toList.map fun direction => "a=".toList ++ direction.keyword.toList) ++
    ["a=rtpmap:".toList ++ payloadType ++ ' ' :: media.encodingText] ++
    (media.fmtp.toList.map fun fmtp => "a=fmtp:".toList ++ payloadType ++ ' ' :: fmtp.toList)

def render (media : MediaDescription) : List Char :=
  media.renderLines.flatMap fun line => line ++ ['\r', '\n']

/-- What the description tells of the stream. -/
def streamParams (media : MediaDescription) : StreamParams :=
  let params := match media.kind with
    | .video => StreamParams.video media.codec 0 0
    | .audio => StreamParams.audio media.codec media.clockRate (media.channels.getD 1)
  { params with timeBase := .ofClockRate media.clockRate }

end MediaDescription
end WhipWhep.Sdp
