import WhipWhep.Avc.Framing
import WhipWhep.Sdp.Offer
import WhipWhep.Session.Context

/-!
Publishing. Each stream of the caller gets a track, in order: first its transport and its writer,
whose payload type and source go into the track, then the track itself. When all tracks are on the
peer connection the offer is posted. If any step fails, everything is released again.
-/

namespace WhipWhep

structure Publisher where
  context : Context
  streams : List StreamParams
  /-- How the access units of each stream are framed anew, for the streams that need it. -/
  framing : List (Option Avc.Framing)
  deriving DecidableEq

namespace Publisher

variable {α : Type}

/-- The sample rate at which audio is published, in hertz. -/
def audioSampleRate : UInt32 := 48000

def audioChannels : UInt8 := 2

/-- Whether the stream at an index can be published. -/
def checkStream (index : Nat) (params : StreamParams) : Except ConfigError Unit :=
  if params.codec.kind ≠ params.kind then
    .error (.kindMismatch index params.kind params.codec.name)
  else if !params.codec.isPublishable then .error (.unsupportedCodec params.codec.name)
  else if params.kind = .audio ∧ params.sampleRate ≠ audioSampleRate then
    .error (.unsupportedSampleRate params.sampleRate)
  else if params.kind = .audio ∧ params.channels ≠ audioChannels then
    .error (.unsupportedChannelLayout params.channels)
  else .ok ()

/-- Whether every stream can be published; the first one that cannot decides. -/
def checkStreams (streams : List StreamParams) : Except ConfigError Unit :=
  if streams.isEmpty then .error .noStreams
  else streams.zipIdx.forM fun (params, index) => checkStream index params

/-- The timestamps of a published stream count the RTP clock of video, or audio samples. -/
def timed (params : StreamParams) : StreamParams :=
  match params.kind with
  | .video => { params with timeBase := .ofClockRate 90000 }
  | .audio => { params with timeBase := .ofClockRate params.sampleRate }

/-- The framing of a stream. Only H.264 with a decoder configuration needs one. -/
def framingOf (params : StreamParams) : Except MediaError (Option Avc.Framing) :=
  if params.codec = .h264 ∧ !params.extradata.isEmpty then
    (demand .invalidAvcConfig (AvcConfig.ofExtradata? params.extradata)).map fun config =>
      some (.ofConfig config)
  else .ok none

def onContext (act : Act Context α) : Act Publisher α :=
  act.within Publisher.context fun context publisher => { publisher with context := context }

def trackInit (msid : String) (params : StreamParams) (index : Nat) (codec : EngineCodec)
    (writer : Writer) (profile : Option String) : TrackInit where
  direction := .sendOnly
  codec := codec
  payloadType := writer.payloadType
  ssrc := writer.ssrc
  mid := numeral index
  name := Context.trackName
  msid := msid
  trackId := msid ++ "-" ++ params.kind.name ++ "-" ++ numeral index
  profile := profile

def addStream (params : StreamParams) (index : Nat) : Act Publisher Unit := do
  let params := timed params
  Act.modify fun publisher => { publisher with streams := publisher.streams.set index params }
  let binding ← onContext (Context.bindTrack index)
  let writer ← onContext (Context.onTrack index (Track.openWriter params index binding.info))
  let profile ← Act.settle ((Sdp.advertisedFormat params writer.payloadType).mapError Error.media)
  let framing ← Act.settle ((framingOf params).mapError Error.media)
  Act.modify fun publisher => { publisher with framing := publisher.framing.set index framing }
  let codec ← Act.settle (demand (.config (.unsupportedCodec params.codec.name))
    (EngineCodec.ofCodec? params.codec))
  let init := trackInit (← Act.get).context.msid params index codec writer
    (profile.map String.ofList)
  let _ ← onContext (Context.addTrack index init)
  onContext (Context.onTrack index (Track.setParams params))

def setup : Act Publisher Unit := do
  (← Act.get).streams.zipIdx.forM fun (params, index) => addStream params index
  onContext Context.createResource
  onContext Context.waitConnected

/-- Deletes the remote resource and releases the session. -/
def close : Act Publisher Unit := onContext Context.close

/-- A session that publishes the given streams, each on the track of its index. -/
def openSession (config : ClientConfig) (streams : List StreamParams) : Act Unit Publisher := do
  Act.settle ((checkStreams streams).mapError Error.config)
  let context ← Context.init config streams.length
  let start : Publisher := ⟨context, streams, streams.map fun _ => none⟩
  fun held => do
    match ← setup start with
    | (.ok (), publisher) => return (.ok publisher, held)
    | (.error cause, publisher) => do
      let _ ← close publisher
      return (.error cause, held)

/-- The time base in which packets of a stream have to be stamped. -/
def timeBase (publisher : Publisher) (index : Nat) : Except Error TimeBase :=
  demand (.invalidStream index) (publisher.streams[index]?.map StreamParams.timeBase)

/-- Sends one packet on its stream. Nothing is queued. -/
def writePacket (packet : Packet) : Act Publisher Unit := do
  onContext Context.ensureConnected
  let framing ← Act.settle
    (demand (.invalidStream packet.stream) (← Act.get).framing[packet.stream]?)
  let framed := match framing with
    | none => .ok packet
    | some framing => (framing.apply packet).mapError Error.media
  onContext (Context.onTrack packet.stream (Track.write framed))

end Publisher
end WhipWhep
