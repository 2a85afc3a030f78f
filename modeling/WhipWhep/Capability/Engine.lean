import WhipWhep.Error
import WhipWhep.Media.Codec
import WhipWhep.Text.Hex

/-!
The peer connection engine. It owns everything below the session: finding routes, encryption,
congestion. A session asks it for one peer connection, for tracks on it, for descriptions, and to
move messages on a track. No request waits.
-/

namespace WhipWhep

/-- The engine's name for a track; zero names none. -/
structure Handle where
  raw : UInt32
  nonzero : raw ≠ 0
  deriving DecidableEq

def Handle.of? (raw : UInt32) : Option Handle :=
  if nonzero : raw ≠ 0 then some ⟨raw, nonzero⟩ else none

def Handle.text (handle : Handle) : String := numeral handle.raw.toNat

/-- What a session description is in an exchange of two. -/
inductive SdpKind where
  | offer
  | answer
  deriving DecidableEq

def SdpKind.name : SdpKind → String
  | offer => "offer"
  | answer => "answer"

/-- A track as it is to be added. -/
structure TrackInit where
  direction : Direction
  codec : EngineCodec
  payloadType : UInt8
  ssrc : UInt32
  mid : String
  name : String
  /-- The media stream that the tracks of a session share. -/
  msid : String
  trackId : String
  /-- The format parameters that are advertised. -/
  profile : Option String
  deriving DecidableEq

inductive EngineCall where
  | create (iceServers : List String)
  | watchStates
  | addTrack (init : TrackInit)
  | deleteTrack (track : Handle)
  | setLocal (kind : SdpKind)
  | localDescription
  | setRemote (kind : SdpKind) (description : String)
  | trackDescription (track : Handle)
  | send (track : Handle) (message : Bytes)
  | receive (track : Handle) (capacity : Nat)
  | close
  deriving DecidableEq

@[reducible] def EngineCall.Answer : EngineCall → Type
  | create _ => Except EngineError Unit
  | watchStates => Except EngineError Unit
  | addTrack _ => Except EngineError Handle
  | deleteTrack _ => Unit
  | setLocal _ => Except EngineError Unit
  | localDescription => Except EngineError String
  | setRemote _ _ => Except EngineError Unit
  | trackDescription _ => Except EngineError String
  | send _ _ => Except EngineError Unit
  | receive _ _ => Except EngineError Bytes
  | close => Unit

end WhipWhep
