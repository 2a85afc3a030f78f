/-!
The life of a peer connection as its engine reports it. A session never asks the engine: it keeps a
mirror of the last state it was told.
-/

namespace WhipWhep

inductive ConnectionState where
  | new
  | connecting
  | connected
  | disconnected
  | failed
  | closed
  deriving DecidableEq

namespace ConnectionState

def all : List ConnectionState := [new, connecting, connected, disconnected, failed, closed]

def name : ConnectionState → String
  | new => "New"
  | connecting => "Connecting"
  | connected => "Connected"
  | disconnected => "Disconnected"
  | failed => "Failed"
  | closed => "Closed"

/-- No transition leads from such a state to `connected`. -/
def isTerminal : ConnectionState → Bool
  | failed | closed => true
  | _ => false

end ConnectionState

/-- The state that a session sees: the last one of those that were reported, in their order. -/
def mirrored (reports : List ConnectionState) : ConnectionState :=
  reports.getLast?.getD .new

end WhipWhep
