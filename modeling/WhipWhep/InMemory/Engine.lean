import WhipWhep.EngineLog
import WhipWhep.Rehearsal.Negotiation

/-!
An engine in memory. It keeps every peer connection it ever made, with the tracks that are on it, the
messages that wait on them and the messages that were sent, and it numbers the tracks of all its peer
connections together.
-/

namespace WhipWhep.InMemory

/-- A codec, a payload type and format parameters that a track is answered with. -/
structure Answered where
  codec : EngineCodec
  payloadType : UInt8
  fmtp : Option String
  deriving DecidableEq

structure Peer where
  watched : Bool
  /-- The live tracks in the order in which they were added. -/
  tracks : List (Handle × TrackInit)
  incoming : List (Handle × Bytes)
  sent : List (Handle × Bytes)
  localText : Option String
  closed : Bool
  deriving DecidableEq

namespace Peer

def fresh : Peer := ⟨false, [], [], [], none, false⟩

def isLive (peer : Peer) (handle : Handle) : Bool := (peer.tracks.lookup handle).isSome

/-- The messages that wait on a track, the oldest first. -/
def queue (peer : Peer) (handle : Handle) : List Bytes :=
  (peer.incoming.filter fun (track, _) => track = handle).map Prod.snd

def deleteTrack (peer : Peer) (handle : Handle) : Peer :=
  { peer with
    tracks := peer.tracks.filter fun (track, _) => track ≠ handle
    incoming := peer.incoming.filter fun (track, _) => track ≠ handle }

def setLocal (kind : SdpKind) (peer : Peer) : Except EngineError Unit × Peer :=
  match kind with
  | .answer => (.error .invalid, peer)
  | .offer =>
    (.ok (), { peer with localText := some (Rehearsal.offer (peer.tracks.map Prod.snd)) })

def send (handle : Handle) (message : Bytes) (peer : Peer) : Except EngineError Unit × Peer :=
  if peer.isLive handle then (.ok (), { peer with sent := peer.sent ++ [(handle, message)] })
  else (.error .invalid, peer)

/-- A message that does not fit stays where it is. -/
def receive (handle : Handle) (capacity : Nat) (peer : Peer) :
    Except EngineError Bytes × Peer :=
  if peer.isLive handle then
    match peer.incoming.lookup handle with
    | none => (.error .notAvailable, peer)
    | some message =>
      if capacity < message.length then (.error .tooSmall, peer)
      else
        (.ok message,
          { peer with incoming := peer.incoming.eraseP fun (track, _) => track = handle })
  else (.error .invalid, peer)

end Peer

structure Engine where
  peers : List Peer
  /-- The last number that was given to a track. -/
  lastTrack : UInt32
  tracksAdded : Nat
  refusesPeers : Bool
  /-- How many tracks are taken before all others are refused. -/
  trackLimit : Option Nat
  /-- States that are reported once an answer is applied. -/
  states : List ConnectionState
  /-- What tracks are answered with, by mid. -/
  answers : List (String × Answered)
  loggerInstalls : Nat
  deriving DecidableEq

namespace Engine

def empty : Engine := ⟨[], 0, 0, false, none, [], [], 0⟩

def peersCreated (engine : Engine) : Nat := engine.peers.length

def livePeers (engine : Engine) : Nat := engine.peers.countP fun peer => !peer.closed

def liveTracks (engine : Engine) : Nat :=
  engine.peers.foldr (fun peer total => peer.tracks.length + total) 0

/-- The live tracks of the newest peer connection. -/
def tracks (engine : Engine) : List (Handle × TrackInit) :=
  (engine.peers.getLast?.map Peer.tracks).getD []

def sentAll (engine : Engine) : List Bytes :=
  engine.peers.flatMap fun peer => peer.sent.map Prod.snd

def sent (engine : Engine) (handle : Handle) : List Bytes :=
  engine.peers.flatMap fun peer =>
    (peer.sent.filter fun (track, _) => track = handle).map Prod.snd

/-- Puts a message on a track, wherever it is live. -/
def pushIncoming (handle : Handle) (message : Bytes) (engine : Engine) : Engine :=
  { engine with
    peers := engine.peers.map fun peer =>
      if peer.isLive handle then { peer with incoming := peer.incoming ++ [(handle, message)] }
      else peer }

def answerTrack (mid : String) (answered : Answered) (engine : Engine) : Engine :=
  { engine with answers := (mid, answered) :: engine.answers.filter fun (other, _) => other ≠ mid }

/-- Takes a log sink and tells it so. -/
def setLogger (engine : Engine) : Option LogEntry × Engine :=
  (EngineLevel.info.entry? "memory engine logger installed",
    { engine with loggerInstalls := engine.loggerInstalls + 1 })

def create (engine : Engine) : Except EngineError Unit × Engine :=
  if engine.refusesPeers then (.error (.failure "peer connection refused"), engine)
  else (.ok (), { engine with peers := engine.peers ++ [.fresh] })

def peer (engine : Engine) (index : Nat) : Peer := engine.peers[index]?.getD .fresh

def setPeer (engine : Engine) (index : Nat) (peer : Peer) : Engine :=
  { engine with peers := engine.peers.set index peer }

def isFull (engine : Engine) : Bool :=
  match engine.trackLimit with
  | none => false
  | some limit => limit ≤ engine.tracksAdded

def addTrack (index : Nat) (init : TrackInit) (engine : Engine) :
    Except EngineError Handle × Engine :=
  let peer := engine.peer index
  if peer.closed then (.error .invalid, engine)
  else if engine.isFull then (.error (.failure "track refused"), engine)
  else
    let raw := engine.lastTrack + 1
    let counted := { engine with lastTrack := raw, tracksAdded := engine.tracksAdded + 1 }
    match Handle.of? raw with
    | none => (.error .invalid, counted)
    | some handle =>
      (.ok handle, counted.setPeer index { peer with tracks := peer.tracks ++ [(handle, init)] })

def negotiated (engine : Engine) (init : TrackInit) : TrackInit :=
  match engine.answers.lookup init.mid with
  | none => init
  | some answered =>
    { init with
      codec := answered.codec
      payloadType := answered.payloadType
      profile := answered.fmtp }

def trackDescription (index : Nat) (handle : Handle) (engine : Engine) :
    Except EngineError String :=
  match (engine.peer index).tracks.lookup handle with
  | none => .error .invalid
  | some init => .ok (String.ofList (engine.negotiated init).describe.render)

def accepts (kind : SdpKind) (description : String) : Except EngineError Unit :=
  if kind = .answer ∧ Rehearsal.isDescription description then .ok ()
  else .error (.failure "invalid remote description")

/-- The states that are reported after a call, if anyone has asked to be told. -/
def reportsAfter (index : Nat) (call : EngineCall) (engine : Engine) : List ConnectionState :=
  match call with
  | .setRemote kind description =>
    match accepts kind description with
    | .ok () => if (engine.peer index).watched then engine.states else []
    | .error _ => []
  | _ => []

/-- Answers a call to the peer connection at an index. -/
def respond (index : Nat) : (call : EngineCall) → Engine → call.Answer × Engine
  | .create _, engine => engine.create
  | .watchStates, engine =>
    (.ok (), engine.setPeer index { engine.peer index with watched := true })
  | .addTrack init, engine => engine.addTrack index init
  | .deleteTrack handle, engine =>
    ((), engine.setPeer index ((engine.peer index).deleteTrack handle))
  | .setLocal kind, engine =>
    let (answer, peer) := (engine.peer index).setLocal kind
    (answer, engine.setPeer index peer)
  | .localDescription, engine => (demand .invalid (engine.peer index).localText, engine)
  | .setRemote kind description, engine => (accepts kind description, engine)
  | .trackDescription handle, engine => (engine.trackDescription index handle, engine)
  | .send handle message, engine =>
    let (answer, peer) := (engine.peer index).send handle message
    (answer, engine.setPeer index peer)
  | .receive handle capacity, engine =>
    let (answer, peer) := (engine.peer index).receive handle capacity
    (answer, engine.setPeer index peer)
  | .close, engine =>
    ((), engine.setPeer index { engine.peer index with closed := true })

end Engine
end WhipWhep.InMemory
