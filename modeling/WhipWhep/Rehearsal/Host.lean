import WhipWhep.Capability.Script

/-!
A host for rehearsals. Its clock moves when a session pauses, and a little with every look at it; what
is to happen at a later time happens when the clock gets there. Its random numbers count up.
-/

namespace WhipWhep

/-- What can happen to a session from outside. -/
inductive Happening where
  | report (state : ConnectionState)
  | cancel
  deriving DecidableEq

structure Host where
  /-- The states that were reported to the session, in their order. -/
  reports : List ConnectionState
  cancelled : Bool
  clock : Nat
  /-- What is still to happen, in the order of time. -/
  upcoming : List (Nat × Happening)
  drawn : Nat
  deriving DecidableEq

namespace Host

def initial : Host := ⟨[], false, 0, [], 0⟩

def state (host : Host) : ConnectionState := mirrored host.reports

def cancel (host : Host) : Host := { host with cancelled := true }

def report (host : Host) (state : ConnectionState) : Host :=
  { host with reports := host.reports ++ [state] }

def happen (host : Host) : Happening → Host
  | .report state => host.report state
  | .cancel => host.cancel

/-- Things that are to happen one after the other, a fixed time apart, from now on. -/
def schedule (host : Host) (interval : Nat) (happenings : List Happening) : Host :=
  let timed := happenings.zipIdx.map fun (happening, i) =>
    (host.clock + interval * (i + 1), happening)
  { host with upcoming := host.upcoming.merge timed fun a b => a.1 ≤ b.1 }

/-- Takes the clock to a later time; what is due by then happens. -/
def advance (host : Host) (time : Nat) : Host :=
  let due := host.upcoming.takeWhile fun (planned, _) => planned ≤ time
  let later := host.upcoming.dropWhile fun (planned, _) => planned ≤ time
  due.foldl (fun host (_, happening) => host.happen happening)
    { host with clock := max host.clock time, upcoming := later }

/-- Lets time pass until a number of states have been reported or nothing more is to happen. -/
def awaitReports (count : Nat) (host : Host) : Host :=
  let (_, time) := host.upcoming.foldl (fun (reached, passed) (time, happening) =>
    if count ≤ reached then (reached, passed)
    else (reached + (if happening = .cancel then 0 else 1), time)) (host.reports.length, host.clock)
  host.advance time

/-- How long a look at the clock takes, in nanoseconds. -/
def lookTime : Nat := 1_000

def respond : (call : HostCall) → Host → call.Answer × Host
  | .isCancelled, host => (host.cancelled, host)
  | .connectionState, host => (host.state, host)
  | .now since, host =>
    let time := max since (host.clock + lookTime)
    (⟨time, Nat.le_max_left _ _⟩, host.advance time)
  | .sleep since duration, host =>
    let time := max (since + duration) host.clock
    (⟨time, Nat.le_max_left _ _⟩, host.advance time)
  | .random bits, host => (BitVec.ofNat bits (host.drawn + 1), { host with drawn := host.drawn + 1 })
  | .bridgeLog, host => ((), host)

end Host
end WhipWhep
