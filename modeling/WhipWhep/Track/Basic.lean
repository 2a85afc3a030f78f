import WhipWhep.Track.Transport

/-!
A track carries one stream. It owns up to three things on the engine's side, which are released in
this order: its codec session, its transport binding, its handle. Its counters outlive them.
-/

namespace WhipWhep

structure Track where
  index : Nat
  /-- Set once the track is on the peer connection. -/
  handle : Option Handle
  binding : Option Binding
  codec : Option CodecSession
  params : Option StreamParams
  counters : Counters
  deriving DecidableEq

namespace Track

def fresh (index : Nat) : Track := ⟨index, none, none, none, none, .zero⟩

/-- Whether anything on the engine's side is still held. -/
def isAllocated (track : Track) : Bool :=
  track.handle.isSome || track.binding.isSome || track.codec.isSome

/-- The track in one line, as logs show it. -/
def summary (track : Track) : String :=
  let handle := match track.handle with
    | none => "None"
    | some handle => "Some(TrackId(" ++ handle.text ++ "))"
  let bound := if track.binding.isSome then "true" else "false"
  let codec := match track.codec with
    | none => "None"
    | some (.writer _) => "Some(Writer)"
    | some (.reader _) => "Some(Reader)"
  "Track \x7b index: " ++ numeral track.index ++ ", handle: " ++ handle ++ ", bound: " ++ bound ++
    ", codec: " ++ codec ++ " \x7d"

/-- Where the transport of the track leads. -/
def target (track : Track) : Option Handle := track.binding.bind Binding.attached

def counting {α : Type} (act : Act Counters α) : Act Track α :=
  act.within Track.counters fun counters track => { track with counters := counters }

/-- What the layer does on the transport of the track. -/
def relay {α : Type} (call : Option Handle → Act Counters α) : Act Track α := fun track =>
  counting (call track.target) track

/-- An act on the transport of the track. -/
def onBinding {α : Type} (act : Binding → Act Counters α) : Act Track α := do
  match (← Act.get).binding with
  | none => Act.fail (.defect .trackWithoutTransport)
  | some binding => counting (act binding)

/-- Takes one message off the transport of the track. -/
def receive (capacity : Nat) : Act Track Bytes := onBinding fun binding => binding.receive capacity

/-- Puts one message on the transport of the track. -/
def send (message : Bytes) : Act Track Nat := onBinding fun binding => binding.send message

/-- Attaches the transport of the track, if there is one. -/
def attach (handle : Handle) : Act Track Unit := do
  match (← Act.get).binding with
  | none => pure ()
  | some binding => do
    let attached ← Act.settle (binding.attach handle)
    Act.modify fun track => { track with binding := some attached }

/-- Takes over a transport. If the track is on the peer connection already, the transport is
attached to it. -/
def setBinding (binding : Binding) : Act Track Binding := do
  let track ← Act.get
  if track.binding.isSome then Act.fail (.defect .bindingOpenedTwice)
  else
    let installed ← match track.handle with
      | none => pure binding
      | some handle => Act.settle (binding.attach handle)
    Act.modify fun track => { track with binding := some installed }
    return installed

/-- Takes over a codec session. One that is refused is closed. -/
def setCodec (codec : CodecSession) : Act Track Unit := do
  let track ← Act.get
  if track.codec.isSome then do
    counting (codec.close none)
    Act.fail (.defect .codecOpenedTwice)
  else Act.modify fun track => { track with codec := some codec }

/-- Opens a writer on the transport of the track, which takes it over. -/
def openWriter (params : StreamParams) (index : Nat) (transport : TransportInfo) :
    Act Track Writer := do
  let writer ← relay fun target => CodecSession.openWriter target params index transport
  setCodec (.writer writer)
  return writer

/-- Opens a reader on the transport of the track, which takes it over. -/
def openReader (media : Sdp.MediaDescription) (transport : TransportInfo) : Act Track Reader := do
  let reader ← relay fun target => CodecSession.openReader target media transport
  setCodec (.reader reader)
  return reader

def setParams (params : StreamParams) : Act Track Unit :=
  Act.modify fun track => { track with params := some params }

def writer? (track : Track) : Option Writer :=
  match track.codec with
  | some (.writer writer) => some writer
  | _ => none

def reader? (track : Track) : Option Reader :=
  match track.codec with
  | some (.reader reader) => some reader
  | _ => none

/-- Puts the track on the peer connection. The handle stays even if the transport turns out to be
attached elsewhere, so that it can be released. -/
def add (init : TrackInit) : Act Track Handle := do
  let track ← Act.get
  if track.handle.isSome then Act.fail (.defect .trackAddedTwice)
  else
    let handle ← Act.granted (← Act.ask (.engine (.addTrack init)))
    Act.modify fun track => { track with handle := some handle }
    attach handle
    return handle

def closeCodec : Act Track Unit := do
  let track ← Act.get
  match track.codec with
  | none => pure ()
  | some codec => do
    relay codec.close
    Act.modify fun track => { track with codec := none }

def releaseBinding : Act Track Unit := do
  let track ← Act.get
  match track.binding with
  | none => pure ()
  | some _ => do
    Act.ask (.layer (.releaseTransport track.index))
    Act.modify fun track => { track with binding := none }

/-- Gives the handle back to the peer connection, or drops it if there is none any more. -/
def releaseHandle (hasPeer : Bool) : Act Track Unit := do
  let track ← Act.get
  match track.handle with
  | none => pure ()
  | some handle => do
    if hasPeer then Act.ask (.engine (.deleteTrack handle)) else pure ()
    Act.modify fun track => { track with handle := none }

def release (hasPeer : Bool) : Act Track Unit := do
  closeCodec
  releaseBinding
  releaseHandle hasPeer

/-- Hands a packet, if it could be framed, to the writer and counts it if it was taken. -/
def write (framed : Except Error Packet) : Act Track Unit := do
  let track ← Act.get
  match track.writer? with
  | none => Act.fail (.defect .trackWithoutWriter)
  | some writer => do
    let packet ← Act.settle framed
    let relay ← Act.ask (.layer (.write writer.key packet))
    Act.settle (← Track.relay fun target => relay.play target)
    counting (Act.modify fun counters => counters.frame packet.isKeyframe)

/-- Takes a packet from the reader and counts it. -/
def read : Act Track Packet := do
  let track ← Act.get
  match track.reader? with
  | none => Act.fail (.defect .trackWithoutReader)
  | some reader => do
    let relay ← Act.ask (.layer (.read reader.key))
    let packet ← Act.settle (← Track.relay fun target => relay.play target)
    counting (Act.modify fun counters => counters.frame packet.isKeyframe)
    return { packet with stream := track.index }

end Track
end WhipWhep
