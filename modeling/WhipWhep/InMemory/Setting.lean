import WhipWhep.InMemory.Engine
import WhipWhep.InMemory.Http
import WhipWhep.InMemory.Rtp
import WhipWhep.Rehearsal.Host

/-!
Surroundings made of the capabilities in memory. The calls of a session go to the newest peer
connection of the engine.
-/

namespace WhipWhep.InMemory

structure Setting where
  engine : Engine
  http : Http
  rtp : Rtp
  host : Host
  bridge : LogBridge

namespace Setting

/-- In a process whose log bridge stands already. -/
def empty : Setting := ⟨.empty, .empty, .empty, .initial, ⟨true⟩⟩

/-- The time between two reports of the engine, in nanoseconds. -/
def reportInterval : Nat := 2_000_000

/-- Puts a message on a track. -/
def push (track : Handle) (message : Bytes) (setting : Setting) : Setting :=
  { setting with engine := setting.engine.pushIncoming track message }

def addResponse (response : Except SignalingError HttpResponse) (setting : Setting) : Setting :=
  { setting with http := setting.http.push response }

def cancel (setting : Setting) : Setting := { setting with host := setting.host.cancel }

/-- Reports a state of the newest peer connection, if anyone has asked to be told. -/
def notify (state : ConnectionState) (setting : Setting) : Setting :=
  match setting.engine.peers.getLast? with
  | none => setting
  | some peer =>
    if peer.watched then { setting with host := setting.host.report state } else setting

/-- Answers a call to the peer connection at an index. -/
def respondEngine (index : Nat) (call : EngineCall) (setting : Setting) : call.Answer × Setting :=
  let reports := setting.engine.reportsAfter index call
  let (answer, engine) := setting.engine.respond index call
  (answer,
    { setting with
      engine := engine
      host := setting.host.schedule reportInterval (reports.map .report) })

def bridgeLog (setting : Setting) : Setting :=
  let (level, bridge) := setting.bridge.install .trace
  { setting with
    bridge := bridge
    engine := if level.isSome then setting.engine.setLogger.2 else setting.engine }

def respond : (call : Call) → Setting → call.Answer × Setting
  | .engine call, setting => setting.respondEngine (setting.engine.peers.length - 1) call
  | .http request, setting =>
    let (answer, http) := setting.http.respond request
    (answer, { setting with http := http })
  | .layer call, setting =>
    let (answer, rtp) := setting.rtp.respond call
    (answer, { setting with rtp := rtp })
  | .host .bridgeLog, setting => ((), setting.bridgeLog)
  | .host call, setting =>
    let (answer, host) := setting.host.respond call
    (answer, { setting with host := host })

def surroundings : Script.Surroundings Setting := ⟨respond⟩

end Setting
end WhipWhep.InMemory
