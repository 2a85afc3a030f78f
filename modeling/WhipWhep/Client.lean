import WhipWhep.Player
import WhipWhep.Publisher

/-!
A session whose role is picked when it is opened.
-/

namespace WhipWhep

inductive Role where
  | ingest (streams : List StreamParams)
  | egress
  deriving DecidableEq

inductive Client where
  | publisher (session : Publisher)
  | player (session : Player)
  deriving DecidableEq

namespace Client

variable {α : Type}

def context : Client → Context
  | publisher session => session.context
  | player session => session.context

def withContext (context : Context) : Client → Client
  | publisher session => publisher { session with context := context }
  | player session => player { session with context := context }

/-- What is known of the streams, in the order of their indices. -/
def streams : Client → List StreamParams
  | publisher session => session.streams
  | player session => session.streams

def onContext (act : Act Context α) : Act Client α := act.within context withContext

/-- An act of a publisher; a player gives the cause instead. -/
def asPublisher (cause : Error) (act : Act Publisher α) : Act Client α
  | publisher session =>
    (act session).bind fun (outcome, session) => .done (outcome, publisher session)
  | player session => .done (.error cause, player session)

/-- An act of a player; a publisher gives the cause instead. -/
def asPlayer (cause : Error) (act : Act Player α) : Act Client α
  | publisher session => .done (.error cause, publisher session)
  | player session => (act session).bind fun (outcome, session) => .done (outcome, player session)

def openSession (role : Role) (config : ClientConfig) : Act Unit Client :=
  match role with
  | .ingest streams => do return publisher (← Publisher.openSession config streams)
  | .egress => do return player (← Player.openSession config)

def state : Act Client ConnectionState := onContext Context.state

def stats : Act Client SessionStats := onContext Context.stats

def close : Act Client Unit := onContext Context.close

/-- A session that is let go without being closed still releases all it holds on the engine's side. -/
def drop : Act Client Unit := onContext Context.release

def writePacket (packet : Packet) : Act Client Unit :=
  asPublisher (.defect .writeOnEgress) (Publisher.writePacket packet)

end Client
end WhipWhep
