import WhipWhep.Capability.Act
import WhipWhep.Track.Transport

/-!
Waiting for the peer connection to open. The mirrored state is looked at again and again, a pause
apart, until it says how the connection turned out, the caller cancels, or the time is over.
-/

namespace WhipWhep.Wait

/-- The pause between two looks, in nanoseconds. -/
def pause : Nat := 1_000_000

/-- The end of the clock, in nanoseconds. Its seconds are a number of 63 bits. -/
def clockEnd : Nat := Nat.pow 2 63 * 1_000_000_000

/-- What a state says about a connection that is to open, if it says anything. -/
def verdict : ConnectionState → Option (Except Error Unit)
  | .connected => some (.ok ())
  | .failed => some (.error (.establishment .failed))
  | .closed => some (.error (.establishment .closed))
  | .new | .connecting | .disconnected => none

variable {σ : Type}

/-- The looks from a point in time on. Each pause takes the clock further, so there are only so many
before the deadline. -/
def untilDeadline (timeout deadline clock : Nat) : Act σ Unit := do
  let state ← Act.ask (.host .connectionState)
  match verdict state with
  | some outcome => Act.settle outcome
  | none =>
    if ← isCancelled then Act.fail .cancelled
    else
      let time ← Act.ask (.host (.now clock))
      if _over : deadline < time.val then Act.fail (.establishment (.timedOut timeout))
      else
        let later ← Act.ask (.host (.sleep time.val pause))
        untilDeadline timeout deadline later.val
termination_by deadline + 1 - clock
decreasing_by
  have := time.property
  have := later.property
  simp only [pause] at this
  omega

/-- The end of a span of time. It has to be a point in time that the clock can tell. -/
def deadline (start timeout : Nat) : Act σ Nat := do
  Act.assert (start + timeout < clockEnd)
  return start + timeout

/-- Waits until the connection is open, at most for the given time. -/
def connected (timeout : Nat) : Act σ Unit := do
  let start ← Act.ask (.host (.now 0))
  let deadline ← deadline start.val timeout
  untilDeadline timeout deadline start.val

end WhipWhep.Wait
