import WhipWhep.Rehearsal.Host
import WhipWhep.Rehearsal.Message
import WhipWhep.Rehearsal.Negotiation

/-!
Surroundings that follow a plan. The plan says what the engine, the HTTP client and the RTP layer
answer to the calls of a session, which states are reported when, and at what point the session is
cancelled. Everything it leaves open goes well.
-/

namespace WhipWhep.Rehearsal

/-- The call within which the session is cancelled. -/
inductive CancelPoint where
  | start
  | addTrack
  | setLocal
  | http
  | setRemote
  deriving DecidableEq

/-- A planned result of a request, which may stay pending for a moment first. -/
structure Response where
  pending : Bool
  result : Except SignalingError HttpResponse

structure Plan where
  cancelAt : Option CancelPoint
  firstHandle : UInt32
  createError : Option EngineError
  watchError : Option EngineError
  setLocalError : Option EngineError
  localError : Option EngineError
  setRemoteError : Option EngineError
  /-- An entry for each call; so with all lists of errors. -/
  addTrackErrors : List (Option EngineError)
  statesAtInit : List ConnectionState
  localText : Option String
  /-- Reported within the call that applies the answer. -/
  states : List ConnectionState
  /-- Happening afterwards, one by one. -/
  later : List Happening
  /-- Track descriptions by mid. -/
  descriptions : List (String × Except EngineError String)
  responses : List Response
  payloadTypes : List (Option UInt8)
  writerErrors : List (Option Error)
  readerErrors : List (Option Error)
  writeErrors : List (Option Error)
  readErrors : List (Option Error)

/-- The time between two later happenings, in nanoseconds. -/
def laterInterval : Nat := 4_000_000

structure World where
  plan : Plan
  host : Host
  watched : Bool
  /-- The tracks on the peer connection, in the order of their handles. -/
  tracks : List (Handle × TrackInit)
  nextHandle : UInt32
  addsSoFar : Nat
  hasLocal : Bool
  closed : Bool
  /-- Messages and errors that wait to be received, each on the track of a raw handle. -/
  incoming : List (UInt32 × Except EngineError Bytes)
  sendErrors : List EngineError
  responses : List Response
  readersSoFar : Nat
  writesSoFar : Nat
  readsSoFar : Nat

namespace World

def ofPlan (plan : Plan) : World where
  plan := plan
  host := if plan.cancelAt = some .start then Host.initial.cancel else .initial
  watched := false
  tracks := []
  nextHandle := plan.firstHandle
  addsSoFar := 0
  hasLocal := false
  closed := false
  incoming := []
  sendErrors := []
  responses := plan.responses
  readersSoFar := 0
  writesSoFar := 0
  readsSoFar := 0

/-- Cancels the session if the plan says so for this point. -/
def reach (point : CancelPoint) (world : World) : World :=
  if world.plan.cancelAt = some point then { world with host := world.host.cancel } else world

def report (state : ConnectionState) (world : World) : World :=
  { world with host := world.host.report state }

/-- Reports a state if anyone has asked to be told. -/
def notify (state : ConnectionState) (world : World) : World :=
  if world.watched then world.report state else world

def notifyAll (states : List ConnectionState) (world : World) : World :=
  states.foldl (fun world state => world.notify state) world

def cancel (world : World) : World := { world with host := world.host.cancel }

def push (raw : UInt32) (item : Except EngineError Bytes) (world : World) : World :=
  { world with incoming := world.incoming ++ [(raw, item)] }

def failSend (cause : EngineError) (world : World) : World :=
  { world with sendErrors := world.sendErrors ++ [cause] }

def addResponse (response : Response) (world : World) : World :=
  { world with responses := world.responses ++ [response] }

def track? (world : World) (handle : Handle) : Option TrackInit := world.tracks.lookup handle

/-- The planned error for the call of a number, if any. -/
def planned {ε : Type} (errors : List (Option ε)) (number : Nat) : Option ε :=
  errors[number]?.join

def orElse {ε α : Type} (planned : Option ε) (otherwise : Except ε α) : Except ε α :=
  match planned with
  | some cause => .error cause
  | none => otherwise

def addTrack (init : TrackInit) (world : World) : Except EngineError Handle × World :=
  let counted := { world with addsSoFar := world.addsSoFar + 1 }
  match planned world.plan.addTrackErrors world.addsSoFar with
  | some cause => (.error cause, counted)
  | none =>
    if world.closed then (.error .invalid, counted)
    else
      let numbered := { counted with nextHandle := world.nextHandle + 1 }
      match Handle.of? world.nextHandle with
      | none => (.error .invalid, numbered)
      | some handle =>
        let before := world.tracks.takeWhile fun (other, _) => other.raw < handle.raw
        let after := world.tracks.dropWhile fun (other, _) => other.raw < handle.raw
        (.ok handle, { numbered with tracks := before ++ (handle, init) :: after })

def localDescription (world : World) : Except EngineError String :=
  orElse world.plan.localError <|
    match world.plan.localText with
    | some text => .ok text
    | none => if world.hasLocal then .ok (offer (world.tracks.map Prod.snd)) else .error .invalid

def setRemote (description : String) (world : World) : Except EngineError Unit × World :=
  match world.plan.setRemoteError with
  | some cause => (.error cause, world)
  | none =>
    if isDescription description then
      let told := world.notifyAll world.plan.states
      (.ok (), { told with host := told.host.schedule laterInterval world.plan.later })
    else (.error (.failure "invalid remote description"), world)

def trackDescription (handle : Handle) (world : World) : Except EngineError String :=
  match world.track? handle with
  | none => .error .invalid
  | some init =>
    (world.plan.descriptions.lookup init.mid).getD
      (.ok (String.ofList init.describe.render))

def send (handle : Handle) (world : World) : Except EngineError Unit × World :=
  match world.sendErrors with
  | cause :: rest => (.error cause, { world with sendErrors := rest })
  | [] => (if (world.track? handle).isSome then .ok () else .error .invalid, world)

def receive (handle : Handle) (capacity : Nat) (world : World) :
    Except EngineError Bytes × World :=
  let taken := { world with
    incoming := world.incoming.eraseP fun (raw, _) => raw == handle.raw }
  if (world.track? handle).isNone then (.error .invalid, world)
  else
    match world.incoming.lookup handle.raw with
    | none => (.error .notAvailable, world)
    | some (.error cause) => (.error cause, taken)
    | some (.ok message) =>
      if capacity < message.length then (.error .tooSmall, world) else (.ok message, taken)

def respondEngine : (call : EngineCall) → World → call.Answer × World
  | .create _, world => (orElse world.plan.createError (.ok ()), world)
  | .watchStates, world =>
    match world.plan.watchError with
    | some cause => (.error cause, world)
    | none => (.ok (), { world with watched := true }.notifyAll world.plan.statesAtInit)
  | .addTrack init, world =>
    let (answer, world) := world.addTrack init
    (answer, world.reach .addTrack)
  | .deleteTrack handle, world =>
    ((), { world with
      tracks := world.tracks.filter fun (other, _) => other ≠ handle
      incoming := world.incoming.filter fun (raw, _) => raw ≠ handle.raw })
  | .setLocal _, world =>
    let world := world.reach .setLocal
    match world.plan.setLocalError with
    | some cause => (.error cause, world)
    | none => (.ok (), { world with hasLocal := true })
  | .localDescription, world => (world.localDescription, world)
  | .setRemote _ description, world => (world.reach .setRemote).setRemote description
  | .trackDescription handle, world => (world.trackDescription handle, world)
  | .send handle _, world => world.send handle
  | .receive handle capacity, world => world.receive handle capacity
  | .close, world => ((), { world with closed := true })

def respondHttp (world : World) : Progress × World :=
  let world := world.reach .http
  match world.responses with
  | [] => (⟨[], .error (.transport "connection refused")⟩, world)
  | response :: rest =>
    (⟨if response.pending then [world.host.cancelled] else [], response.result⟩,
      { world with responses := rest })

def openWriter (params : StreamParams) (index : Nat) (world : World) : Except Error Writer :=
  orElse (planned world.plan.writerErrors index) <|
    .ok {
      key := index
      payloadType := (planned world.plan.payloadTypes index).getD (params.codec.payloadType index)
      ssrc := UInt32.ofNat (1000 + index) }

def respondLayer : (call : LayerCall) → World → call.Answer × World
  | .openWriter params index _, world => (.done (world.openWriter params index), world)
  | .openReader media _, world =>
    (.done (orElse (planned world.plan.readerErrors world.readersSoFar)
        (.ok ⟨world.readersSoFar, media.streamParams⟩)),
      { world with readersSoFar := world.readersSoFar + 1 })
  | .write _ packet, world =>
    (match planned world.plan.writeErrors world.writesSoFar with
      | some cause => .done (.error cause)
      | none => write packet (.done (.ok ())),
      { world with writesSoFar := world.writesSoFar + 1 })
  | .read _, world =>
    (match planned world.plan.readErrors world.readsSoFar with
      | some cause => .done (.error cause)
      | none => read,
      { world with readsSoFar := world.readsSoFar + 1 })
  | .closeWriter _, world => (.done (), world)
  | .closeReader _, world => (.done (), world)
  | .releaseTransport _, world => ((), world)
  | .note _ _, world => ((), world)

def respond : (call : Call) → World → call.Answer × World
  | .engine call, world => world.respondEngine call
  | .http _, world => world.respondHttp
  | .layer call, world => world.respondLayer call
  | .host call, world =>
    let (answer, host) := world.host.respond call
    (answer, { world with host := host })

def surroundings : Script.Surroundings World := ⟨respond⟩

end World
end WhipWhep.Rehearsal
