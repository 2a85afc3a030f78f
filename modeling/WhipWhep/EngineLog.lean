/-!
What the engine logs is passed on to the log of the host. The bridge between the two is put up once
in a process, at the level that the host listens at.
-/

namespace WhipWhep

/-- The levels of the engine, the most severe first. -/
inductive EngineLevel where
  | none
  | fatal
  | error
  | warning
  | info
  | debug
  | verbose
  deriving DecidableEq

def EngineLevel.all : List EngineLevel := [none, fatal, error, warning, info, debug, verbose]

def EngineLevel.rank : EngineLevel → Nat
  | none => 0
  | fatal => 1
  | error => 2
  | warning => 3
  | info => 4
  | debug => 5
  | verbose => 6

def EngineLevel.name : EngineLevel → String
  | none => "None"
  | fatal => "Fatal"
  | error => "Error"
  | warning => "Warning"
  | info => "Info"
  | debug => "Debug"
  | verbose => "Verbose"

/-- How much the host listens to. -/
inductive HostFilter where
  | off
  | error
  | warn
  | info
  | debug
  | trace
  deriving DecidableEq

def HostFilter.all : List HostFilter := [off, error, warn, info, debug, trace]

def HostFilter.name : HostFilter → String
  | off => "OFF"
  | error => "ERROR"
  | warn => "WARN"
  | info => "INFO"
  | debug => "DEBUG"
  | trace => "TRACE"

/-- The levels of the entries that reach the host's log. -/
inductive HostLevel where
  | error
  | warn
  | info
  | debug
  deriving DecidableEq

def HostLevel.name : HostLevel → String
  | error => "ERROR"
  | warn => "WARN"
  | info => "INFO"
  | debug => "DEBUG"

structure LogEntry where
  level : HostLevel
  target : String
  message : String
  deriving DecidableEq

namespace EngineLevel

def ofFilter : HostFilter → EngineLevel
  | .off => none
  | .error => error
  | .warn => warning
  | .info => info
  | .debug => debug
  | .trace => verbose

/-- The levels that are at most as verbose as the given one. -/
def atMost (level : EngineLevel) : List EngineLevel :=
  all.filter fun other => other.rank ≤ level.rank

def hostLevel? : EngineLevel → Option HostLevel
  | none => .none
  | fatal | error => some .error
  | warning => some .warn
  | info => some .info
  | debug | verbose => some .debug

/-- The entry that a line of the engine becomes, unless its level is `none`. -/
def entry? (level : EngineLevel) (message : String) : Option LogEntry :=
  level.hostLevel?.map fun host => ⟨host, "whip_rs::engine", message⟩

end EngineLevel

/-- Whether the bridge stands. -/
structure LogBridge where
  installed : Bool
  deriving DecidableEq

namespace LogBridge

/-- The level that an engine is told when the bridge is put up; it is told nothing if the bridge
stands already. -/
def install (bridge : LogBridge) (filter : HostFilter) : Option EngineLevel × LogBridge :=
  (if bridge.installed then none else some (.ofFilter filter), ⟨true⟩)

end LogBridge
end WhipWhep
