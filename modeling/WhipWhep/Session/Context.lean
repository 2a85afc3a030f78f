import WhipWhep.Exchange
import WhipWhep.Session.Config
import WhipWhep.Session.Wait
import WhipWhep.Text.Uuid
import WhipWhep.Track.Registry

/-!
What sessions of both roles have in common: a peer connection, its tracks, and the exchange with the
endpoint. Once the peer connection is released nothing reaches the engine any more.
-/

namespace WhipWhep

structure Context where
  hasPeer : Bool
  registry : Registry
  exchange : Exchange
  config : ClientConfig
  /-- The media stream that the tracks share. -/
  msid : String
  startedAt : Nat
  timeToConnect : Option Nat
  deriving DecidableEq

namespace Context

variable {α : Type}

/-- The name under which tracks are announced. -/
def trackName : String := "whip-rs/0.1.0"

def isClosed (context : Context) : Bool := !context.hasPeer

/-- Makes the peer connection and asks to be told its states. No track is on it yet. -/
def init (config : ClientConfig) (trackCount : Nat) : Act Unit Context := do
  let url ← Act.settle (config.validate.mapError Error.config)
  Act.ask (.host .bridgeLog)
  Act.granted (← Act.ask (.engine (.create config.iceServers)))
  match ← Act.ask (.engine .watchStates) with
  | .error cause => do
    Act.ask (.engine .close)
    Act.fail (.engine cause)
  | .ok () => do
    let bits ← Act.ask (.host (.random 122))
    let started ← Act.ask (.host (.now 0))
    return {
      hasPeer := true
      registry := .allocate trackCount
      exchange := .start url config.bearerToken
      config := config
      msid := Text.uuid bits
      startedAt := started.val
      timeToConnect := none }

def onRegistry (act : Act Registry α) : Act Context α :=
  act.within Context.registry fun registry context => { context with registry := registry }

def onTrack (index : Nat) (act : Act Track α) : Act Context α :=
  onRegistry (Registry.onTrack index act)

def onExchange (act : Act Exchange α) : Act Context α :=
  act.within Context.exchange fun exchange context => { context with exchange := exchange }

/-- The state that the engine has last reported. -/
def state : Act Context ConnectionState := Act.ask (.host .connectionState)

def requirePeer : Act Context Unit := do
  if (← Act.get).hasPeer then pure () else Act.fail (.notConnected .closed)

/-- Packets only pass while the peer connection is open. -/
def ensureConnected : Act Context Unit := do
  requirePeer
  match ← state with
  | .connected => pure ()
  | state => Act.fail (.notConnected state)

/-- Opens the transport of a track. -/
def bindTrack (index : Nat) : Act Context Binding := do
  requirePeer
  let context ← Act.get
  onTrack index (Track.setBinding (.fresh index context.config.rwTimeout))

def addTrack (index : Nat) (init : TrackInit) : Act Context Handle := do
  requirePeer
  onTrack index (Track.add init)

/-- The negotiated description of a track. -/
def trackDescription (index : Nat) : Act Context String := do
  let track ← Act.settle ((← Act.get).registry.get index)
  match track.handle with
  | none => Act.fail (.defect .trackWithoutHandle)
  | some handle => do
    requirePeer
    Act.granted (← Act.ask (.engine (.trackDescription handle)))

def createResource : Act Context Unit := do
  requirePeer
  onExchange Exchange.create

def waitConnected : Act Context Unit := do
  Wait.connected (← Act.get).config.connectionTimeout
  let context ← Act.get
  let now ← Act.ask (.host (.now context.startedAt))
  Act.modify fun context =>
    { context with timeToConnect := some (now.val - context.startedAt) }

/-- Releases the tracks in their order, then the peer connection. -/
def release : Act Context Unit := do
  if (← Act.get).hasPeer then do
    onRegistry (Registry.release true)
    Act.ask (.engine .close)
    Act.modify fun context => { context with hasPeer := false }
  else pure ()

/-- Deletes the remote resource, then releases everything on the engine's side. A failure to delete
changes nothing about that. -/
def close : Act Context Unit := do
  let _ ← (onExchange Exchange.delete).attempt
  release

def stats : Act Context SessionStats := do
  let context ← Act.get
  let now ← Act.ask (.host (.now context.startedAt))
  return ⟨now.val - context.startedAt, context.timeToConnect, context.registry.counters⟩

end Context
end WhipWhep
