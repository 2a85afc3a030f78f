import WhipWhep.Session.Context

/-!
Playing. One video and one audio track are offered with fixed defaults. What was negotiated is read
back from each track once the transport is connected, and a reader is opened for it. Packets are read
from whichever stream has one, starting with the stream after the last one that had.
-/

namespace WhipWhep

structure Player where
  context : Context
  streams : List StreamParams
  /-- The stream that the next read tries first. -/
  next : Nat
  deriving DecidableEq

/-- A track as it is offered for a stream that is to be received. -/
structure OfferedTrack where
  kind : MediaKind
  codec : EngineCodec
  payloadType : UInt8
  profile : String
  deriving DecidableEq

namespace Player

variable {α : Type}

def videoStream : Nat := 0

def audioStream : Nat := 1

/-- Video first, then audio. -/
def offeredTracks : List OfferedTrack := [
  { kind := .video
    codec := .h264
    payloadType := 96
    profile := "profile-level-id=42e01f;packetization-mode=1;level-asymmetry-allowed=1" },
  { kind := .audio
    codec := .opus
    payloadType := 97
    profile := "minptime=10;maxaveragebitrate=96000;stereo=1;sprop-stereo=1;useinbandfec=1" }]

def onContext (act : Act Context α) : Act Player α :=
  act.within Player.context fun context player => { player with context := context }

def trackInit (msid : String) (track : OfferedTrack) (index : Nat) (ssrc : UInt32) :
    TrackInit where
  direction := .recvOnly
  codec := track.codec
  payloadType := track.payloadType
  ssrc := ssrc
  mid := numeral index
  name := Context.trackName
  msid := msid
  trackId := msid ++ "-" ++ track.kind.name
  profile := some track.profile

def offerTrack (track : OfferedTrack) (index : Nat) : Act Player Unit := do
  let bits ← Act.ask (.host (.random 32))
  let init := trackInit (← Act.get).context.msid track index (UInt32.ofBitVec bits)
  let _ ← onContext (Context.addTrack index init)
  pure ()

/-- The reader of a track, opened for what was negotiated. -/
def openReader (index : Nat) : Act Player Unit := do
  let description ← onContext (Context.trackDescription index)
  Act.settle ((Sdp.checkSize description.utf8ByteSize).mapError Error.signaling)
  let media ← Act.settle ((Sdp.MediaDescription.parse description.toList).mapError fun cause =>
    .signaling (.malformed cause.message))
  let binding ← onContext (Context.bindTrack index)
  let reader ← onContext (Context.onTrack index (Track.openReader media binding.info))
  onContext (Context.onTrack index (Track.setParams reader.params))
  Act.modify fun player => { player with streams := player.streams ++ [reader.params] }

def setup : Act Player Unit := do
  offeredTracks.zipIdx.forM fun (track, index) => offerTrack track index
  onContext Context.createResource
  onContext Context.waitConnected
  (List.range offeredTracks.length).forM openReader

/-- Deletes the remote resource and releases the session. -/
def close : Act Player Unit := onContext Context.close

/-- A session that receives one video and one audio stream. -/
def openSession (config : ClientConfig) : Act Unit Player := do
  let context ← Context.init config offeredTracks.length
  let start : Player := ⟨context, [], 0⟩
  fun held => do
    match ← setup start with
    | (.ok (), player) => return (.ok player, held)
    | (.error cause, player) => do
      let _ ← close player
      return (.error cause, held)

/-- Reads one packet of a stream, if there is one. -/
def tryReadStream (index : Nat) : Act Player Packet := do
  onContext Context.ensureConnected
  onContext (Context.onTrack index Track.read)

/-- Tries streams one after the other until one has a packet or fails for good. -/
def tryEach (count : Nat) : List Nat → Act Player Packet
  | [] => Act.fail .wouldBlock
  | index :: rest => do
    match ← (tryReadStream index).attempt with
    | .ok packet => do
      Act.modify fun player => { player with next := (index + 1) % count }
      return packet
    | .error .wouldBlock => tryEach count rest
    | .error cause => Act.fail cause

/-- The streams in the order in which a read tries them. -/
def order (next count : Nat) : List Nat :=
  (List.range count).map fun attempt => (next + attempt) % count

/-- Reads one packet from whichever stream has one. -/
def tryRead : Act Player Packet := do
  let player ← Act.get
  let count := player.context.registry.tracks.length
  tryEach count (order player.next count)

/-- Reads again and again, a pause apart, until there is a packet or the time is over. -/
def readUntil (deadline clock : Nat) : Act Player Packet := do
  match ← tryRead.attempt with
  | .ok packet => return packet
  | .error .wouldBlock =>
    if ← isCancelled then Act.fail .cancelled
    else
      let time ← Act.ask (.host (.now clock))
      if _over : deadline ≤ time.val then Act.fail .wouldBlock
      else
        let later ← Act.ask (.host (.sleep time.val Wait.pause))
        readUntil deadline later.val
  | .error cause => Act.fail cause
termination_by deadline - clock
decreasing_by
  have := time.property
  have := later.property
  simp only [Wait.pause] at this
  omega

/-- Reads the next packet of any stream, waiting for it as long as one read may take. -/
def read : Act Player Packet := do
  let start ← Act.ask (.host (.now 0))
  let deadline ← Wait.deadline start.val (← Act.get).context.config.rwTimeout
  readUntil deadline start.val

end Player
end WhipWhep
