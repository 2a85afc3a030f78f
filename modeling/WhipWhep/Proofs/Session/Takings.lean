import WhipWhep.Proofs.Session.Rotation
import WhipWhep.Proofs.Session.Screening

/-!
What readers give while packets are read. It can be told from the events, and whatever kind of read it is, all of it
comes out: there is one packet if the read succeeds, and it is the outcome, and none if the read fails.
-/

namespace WhipWhep

/-- The packet that a call to a reader comes to. Whether there is one shows in the events after the call. -/
def Event.packet? : Event → List Event → Option Packet
  | ⟨.layer (.read _), relay⟩, rest => relay.opened? rest
  | _, _ => none

/-- The packets that readers have given, in order. -/
def takings : List Event → List Packet
  | [] => []
  | event :: rest => (event.packet? rest).toList ++ takings rest

variable {events more : List Event} {packets others : List Packet}

theorem takings_of_free (free : ∀ event ∈ events, event.call.isForwarding = false) {rest : List Event} :
    takings (events ++ rest) = takings rest := by
  induction events with
  | nil => rfl
  | cons event later ih =>
    obtain ⟨here, onward⟩ := List.forall_mem_cons.1 free
    have nothing : event.packet? (later ++ rest) = none := by
      unfold Event.packet?
      split
      · cases here
      · rfl
    rw [List.cons_append, takings, nothing]
    exact ih onward

/-- The packets that readers give in some events, whatever comes after them. -/
structure Gathers (events : List Event) (packets : List Packet) : Prop where
  fresh : Fresh events
  packets : ∀ {rest : List Event}, Fresh rest → takings (events ++ rest) = packets ++ takings rest

namespace Gathers

theorem append (first : Gathers events packets) (second : Gathers more others) :
    Gathers (events ++ more) (packets ++ others) where
  fresh := first.fresh.append second.fresh
  packets fresh := by
    rw [List.append_assoc, first.packets (second.fresh.append fresh), second.packets fresh, List.append_assoc]

theorem nothing (fresh : Fresh events) (free : ∀ event ∈ events, event.call.isForwarding = false) :
    Gathers events [] where
  fresh := fresh
  packets _ := takings_of_free free

theorem waiting (waits : AllOf Call.isWaiting events) : Gathers events [] :=
  nothing (fresh_of_kind waits idle_of_waiting) fun event member => unforwarded_of_waiting (waits event member)

/-- A call to a reader, with what the layer does before it returns. -/
theorem reading {reader : Nat} {relay : Relay (Except Error Packet)} {target : Option Handle}
    {counters after : Counters} {answer : Except Error Packet}
    (plays : (relay.play target).Runs counters events (.ok answer) after) :
    Gathers (⟨.layer (.read reader), relay⟩ :: events) answer.toOption.toList where
  fresh := fresh_cons rfl
  packets fresh := by
    rw [List.cons_append, takings, takings_of_free (unforwarded_of_play plays), Event.packet?,
      Relay.opened?_played plays fresh]

/-- At the end of a run nothing follows. -/
theorem total (gathers : Gathers events packets) : takings events = packets := by
  have all := gathers.packets fresh_nil
  simpa [takings] using all

end Gathers

/-- What readers give is what comes of it: one packet, under the index of its stream, or none. -/
def Returned (packets : List Packet) : Except Error Packet → Prop
  | .ok packet => ∃ given, packets = [given] ∧ packet = { given with stream := packet.stream }
  | .error _ => packets = []

/-- In some events readers give nothing but what comes of them. -/
def Returns (events : List Event) (outcome : Except Error Packet) : Prop :=
  ∃ packets, Gathers events packets ∧ Returned packets outcome

theorem returns_nothing {cause : Error} (gathers : Gathers events []) : Returns events (.error cause) :=
  ⟨[], gathers, rfl⟩

theorem Returns.behind {outcome : Except Error Packet} {cause : Error} (first : Returns events (.error cause))
    (second : Returns more outcome) : Returns (events ++ more) outcome := by
  obtain ⟨_, gathers, rfl⟩ := first
  obtain ⟨packets, onward, returned⟩ := second
  exact ⟨packets, gathers.append onward, returned⟩

theorem Track.read_returns {track after : Track} {outcome : Except Error Packet}
    (run : Track.read.Runs track events outcome after) : Returns events outcome := by
  cases found : track.reader? with
  | none =>
    unfold Track.read at run
    rw [Act.runs_get_bind, found] at run
    obtain ⟨rfl, rfl, -⟩ := Act.runs_fail.1 run
    exact returns_nothing (.waiting .nil)
  | some reader =>
    obtain ⟨relay, played, answer, counters, rfl, plays, rfl, -⟩ := read_plays (codec_of_reader? found) run
    refine ⟨_, .reading plays, ?_⟩
    cases answer with
    | error cause => rfl
    | ok packet => exact ⟨packet, rfl, rfl⟩

namespace Player

variable {player after : Player} {outcome : Except Error Packet}

theorem tryReadStream_returns {index : Nat} (run : (tryReadStream index).Runs player events outcome after) :
    Returns events outcome := by
  cases Context.gate_of_runs rfl run with
  | released down => exact returns_nothing (.waiting .nil)
  | unconnected up other => exact returns_nothing (.waiting (.single rfl _))
  | passed up passes =>
    have looks : Gathers [seenOpen] [] := .waiting (.single rfl _)
    obtain ⟨_, -, inside⟩ := Act.runs_within.1 passes
    rcases Context.onTrack_runs_iff.1 inside with ⟨-, rfl, rfl, -⟩ | ⟨_, _, -, -, reading⟩
    · exact returns_nothing looks
    · obtain ⟨packets, gathers, returned⟩ := Track.read_returns reading
      exact ⟨packets, looks.append gathers, returned⟩

theorem tryEach_returns {count : Nat} {indices : List Nat}
    (run : (tryEach count indices).Runs player events outcome after) : Returns events outcome := by
  induction indices generalizing player events with
  | nil =>
    obtain ⟨rfl, rfl, -⟩ := Act.runs_fail.1 run
    exact returns_nothing (.waiting .nil)
  | cons index rest ih =>
    obtain ⟨first, inner, middle, second, rfl, reading, onward⟩ := Act.runs_attempt_bind.1 run
    have returns := tryReadStream_returns reading
    split at onward
    · have last := Act.runs_modify_bind.1 onward
      obtain ⟨rfl, rfl, -⟩ := Act.runs_pure.1 last
      rwa [List.append_nil]
    · exact returns.behind (ih onward)
    · obtain ⟨rfl, rfl, -⟩ := Act.runs_fail.1 onward
      rwa [List.append_nil]

theorem Round.returns (round : Round) : Returns round.events round.outcome :=
  tryEach_returns (Act.runs_get_bind.1 round.run)

theorem Circling.returns {rounds : List Round} (circling : Circling player events rounds outcome after) :
    Returns events outcome := by
  induction circling with
  | ended round final => exact round.returns
  | halted round blocked waits =>
    have returns := round.returns
    rw [blocked] at returns
    exact returns.behind (returns_nothing (.waiting waits))
  | again round blocked waits onward ih =>
    have returns := round.returns
    rw [blocked] at returns
    have pauses : Returns _ (.error .wouldBlock) := returns_nothing (.waiting waits)
    exact returns.behind (pauses.behind ih)

theorem read_returns (run : Player.read.Runs player events outcome after) : Returns events outcome := by
  obtain ⟨start, rest, rfl, -, reading⟩ := runs_read.1 run
  obtain ⟨rounds, circling⟩ := circling_of_readUntil reading
  have begins : Returns [⟨.host (.now 0), start⟩] (.error .wouldBlock) := returns_nothing (.waiting (.single rfl _))
  exact begins.behind circling.returns

end Player
end WhipWhep
