import WhipWhep.Proofs.Preceding
import WhipWhep.Proofs.Session.Counting
import WhipWhep.Proofs.Session.Dismantling

/-!
What the guard makes of an operation. One that is to move a packet is let through by a look that finds the
connection open, or it is turned away with the state that was found, before anything else is asked for.
Between two packets there is always another look.
-/

namespace WhipWhep

variable {α : Type} {events : List Event}

/-- The requests that hand a packet to the layer, or ask it for one. -/
def Call.isForwarding : Call → Bool
  | .layer (.write _ _) => true
  | .layer (.read _) => true
  | _ => false

/-- Each packet is let through by the look right before it. -/
def Looked (events : List Event) : Prop :=
  Preceded Call.isForwarding (fun previous _ => previous = seenOpen) none events

/-- At most the first request is for a packet. -/
def ForwardsFirst (events : List Event) : Prop :=
  ∀ event ∈ events.tail, event.call.isForwarding = false

theorem unforwarded_of_relayed {call : Call} (relayed : call.isRelayed = true) : call.isForwarding = false := by
  unfold Call.isForwarding
  split <;> first | rfl | cases relayed

theorem unforwarded_of_releasing {call : Call} (releasing : call.isReleasing = true) :
    call.isForwarding = false := by
  unfold Call.isForwarding
  split <;> first | rfl | cases releasing

theorem unforwarded_of_waiting {call : Call} (waiting : call.isWaiting = true) : call.isForwarding = false := by
  unfold Call.isForwarding
  split <;> first | rfl | cases waiting

theorem unforwarded_of_play {relay : Relay α} {target : Option Handle} {counters after : Counters}
    {outcome : Except Error α} (plays : (relay.play target).Runs counters events outcome after) :
    ∀ event ∈ events, event.call.isForwarding = false :=
  fun event member => unforwarded_of_relayed (relayed_of_relayedOn (Relay.keeps_target _ _ _ plays event member))

theorem looked_of_free (free : ∀ event ∈ events, event.call.isForwarding = false) : Looked events :=
  preceded_of_free free

theorem forwardsFirst_nil : ForwardsFirst [] := List.forall_mem_nil _

/-- A look that finds the connection open lets one packet through. -/
theorem ForwardsFirst.looked (first : ForwardsFirst events) : Looked (seenOpen :: events) := by
  cases events with
  | nil => exact ⟨nofun, trivial⟩
  | cons event rest => exact ⟨nofun, fun _ => ⟨_, rfl, rfl⟩, preceded_of_free first⟩

namespace Track

variable {track after : Track}

theorem write_forwards {framed : Except Error Packet} {outcome : Except Error Unit}
    (run : (write framed).Runs track events outcome after) : ForwardsFirst events := by
  cases found : track.writer? with
  | none =>
    unfold write at run
    rw [Act.runs_get_bind, found] at run
    obtain ⟨rfl, -, -⟩ := Act.runs_fail.1 run
    exact forwardsFirst_nil
  | some writer =>
    have opened := codec_of_writer? found
    cases framed with
    | error cause =>
      obtain ⟨rfl, -, -⟩ := write_broken opened run
      exact forwardsFirst_nil
    | ok packet =>
      obtain ⟨relay, played, counters, rfl, plays, -⟩ := write_plays opened run
      exact unforwarded_of_play plays

theorem read_forwards {outcome : Except Error Packet} (run : Track.read.Runs track events outcome after) :
    ForwardsFirst events := by
  cases found : track.reader? with
  | none =>
    unfold Track.read at run
    rw [Act.runs_get_bind, found] at run
    obtain ⟨rfl, -, -⟩ := Act.runs_fail.1 run
    exact forwardsFirst_nil
  | some reader =>
    obtain ⟨relay, played, answer, counters, rfl, plays, -⟩ := read_plays (codec_of_reader? found) run
    exact unforwarded_of_play plays

end Track

/-- An operation fails with the state of the connection, and nothing but the host was asked. -/
structure TurnedAway (state : ConnectionState) (events : List Event) (outcome : Except Error α) : Prop where
  failed : outcome = .error (.notConnected state)
  unseen : seenOpen ∉ events
  quiet : AllOf Call.isHost events

namespace Context

variable {context after : Context} {outcome : Except Error α}

/-- What becomes of an operation by the guard: it is turned away, or let through. -/
inductive Screened (context : Context) (events : List Event) (outcome : Except Error α) : Prop where
  | released (down : context.hasPeer = false) (away : TurnedAway .closed events outcome)
  | unconnected {reported : ConnectionState} (up : context.hasPeer = true) (other : reported ≠ .connected)
      (looked : ⟨.host .connectionState, reported⟩ ∈ events) (away : TurnedAway reported events outcome)
  | passed (up : context.hasPeer = true) (seen : seenOpen ∈ events)

theorem Gate.screened {σ : Type} {state last : σ} {passes : List Event → Except Error α → σ → Prop}
    (gate : Gate context state passes events outcome last) : Screened context events outcome := by
  cases gate with
  | released down => exact .released down ⟨rfl, List.not_mem_nil, .nil⟩
  | @unconnected reported up other =>
    have unseen : seenOpen ∉ [(⟨.host .connectionState, reported⟩ : Event)] := by
      intro member
      cases List.mem_singleton.1 member
      exact other rfl
    exact .unconnected up other List.mem_cons_self ⟨rfl, unseen, .single rfl _⟩
  | passed up onward => exact .passed up List.mem_cons_self

/-- The time may be noted before. -/
theorem Screened.behind {least : Nat} {start : { time : Nat // least ≤ time }}
    (screened : Screened context events outcome) :
    Screened context (⟨.host (.now least), start⟩ :: events) outcome := by
  have later : ∀ {state}, TurnedAway state events outcome →
      TurnedAway state (⟨.host (.now least), start⟩ :: events) outcome := fun away =>
    ⟨away.failed, by simpa [seenOpen] using away.unseen, (AllOf.single rfl _).append away.quiet⟩
  cases screened with
  | released down away => exact .released down (later away)
  | unconnected up other looked away => exact .unconnected up other (List.mem_cons_of_mem _ looked) (later away)
  | passed up seen => exact .passed up (List.mem_cons_of_mem _ seen)

theorem Screened.map {β : Type} {told : α → β} (screened : Screened context events outcome) :
    Screened context events (outcome.map told) := by
  have same : ∀ {state}, TurnedAway state events outcome → TurnedAway state events (outcome.map told) := by
    rintro state ⟨rfl, unseen, quiet⟩
    exact ⟨rfl, unseen, quiet⟩
  cases screened with
  | released down away => exact .released down (same away)
  | unconnected up other looked away => exact .unconnected up other looked (same away)
  | passed up seen => exact .passed up seen

/-- What is behind the guard forwards one packet at most, so that what begins with the guard has looked. -/
theorem Gate.looked {σ : Type} {state last : σ} {passes : List Event → Except Error α → σ → Prop}
    (gate : Gate context state passes events outcome last)
    (behind : ∀ {rest outcome after}, passes rest outcome after → ForwardsFirst rest) : Looked events := by
  cases gate with
  | released down => exact trivial
  | unconnected up other => exact looked_of_free (by simp [Call.isForwarding])
  | passed up onward => exact (behind onward).looked

theorem onTrack_forwards {index : Nat} {act : Act Track α}
    (first : ∀ {track events outcome after}, act.Runs track events outcome after → ForwardsFirst events)
    (run : (Context.onTrack index act).Runs context events outcome after) : ForwardsFirst events := by
  rcases onTrack_runs_iff.1 run with ⟨-, rfl, -, -⟩ | ⟨_, _, -, -, inside⟩
  · exact forwardsFirst_nil
  · exact first inside

theorem Closes.unforwarded (closes : Closes context events after) :
    ∀ event ∈ events, event.call.isForwarding = false := by
  obtain ⟨deleting, releasing, rfl, deletes, releases⟩ := closes.course
  refine List.forall_mem_append.2 ⟨?_, ?_⟩
  · cases deletes with
    | absent vacant => simp
    | unsendable stored unfit => simp
    | sent stored fit progress => simp [Call.isForwarding]
  · cases releases with
    | absent closed => simp
    | released up uses bare =>
      refine List.forall_mem_append.2 ⟨fun event member => ?_, by simp [Call.isForwarding]⟩
      exact unforwarded_of_releasing (uses.ofKind event member)

end Context

namespace Publisher

variable {publisher after : Publisher}

theorem writePacket_looked {packet : Packet} {outcome : Except Error Unit}
    (run : (writePacket packet).Runs publisher events outcome after) : Looked events := by
  refine (Context.gate_of_runs rfl run).looked fun {rest outcome after} passes => ?_
  rw [Act.runs_get_bind, Act.runs_settle_bind] at passes
  cases kept : publisher.framing[packet.stream]? with
  | none =>
    rw [kept] at passes
    obtain ⟨rfl, -, -⟩ := passes
    exact forwardsFirst_nil
  | some framing =>
    rw [kept] at passes
    obtain ⟨_, -, inside⟩ := Act.runs_within.1 passes
    exact Context.onTrack_forwards Track.write_forwards inside

end Publisher

namespace Player

/-- Reads look again before each packet, however many streams they try, and however often. -/
theorem reading_looked : Reading fun _ events _ => Looked events where
  composes := composes_preceded
  stream _ _ _ run := (Context.gate_of_runs rfl run).looked fun passes => by
    obtain ⟨_, -, inside⟩ := Act.runs_within.1 passes
    exact Context.onTrack_forwards Track.read_forwards inside
  waits waiting _ := looked_of_free (List.forall_mem_singleton.2 (unforwarded_of_waiting waiting))
  begins := trivial

end Player

namespace Client

variable {client after : Client} {operation : Operation} {outcome : Except Error (Option Packet)}

/-- The operations that are to move a packet of a session in this role. -/
def Operation.suits : Operation → Client → Bool
  | write _, .publisher _ => true
  | tryReadStream _, .player _ => true
  | tryRead, .player _ => true
  | read, .player _ => true
  | _, _ => false

/-- Whatever is done with a session, each packet is let through by a look of its own. -/
theorem Operation.looked (run : operation.moves.Runs client events outcome after) : Looked events := by
  have reads : ∀ {act : Act Player Packet}, (∀ player, act.Keeps (fun _ events _ => Looked events) player) →
      (do return some (← asPlayer Operation.moves.notPlayer act) : Act Client (Option Packet)).Runs client events
        outcome after → Looked events := by
    intro act looks run
    obtain ⟨_, -, inside⟩ := runs_told run
    rcases runs_asPlayer inside with ⟨rfl, -⟩ | ⟨player, _, -, -, reading⟩
    · exact trivial
    · exact looks player _ _ _ reading
  cases operation with
  | write packet =>
    obtain ⟨_, -, inside⟩ := runs_told run
    rcases runs_asPublisher inside with ⟨rfl, -⟩ | ⟨publisher, _, -, -, writing⟩
    · exact trivial
    · exact Publisher.writePacket_looked writing
  | tryReadStream index => exact reads (fun _ => Player.reading_looked.stream) run
  | tryRead => exact reads (fun _ => Player.reading_looked.tryRead) run
  | read => exact reads (fun _ => Player.reading_looked.read) run
  | state =>
    obtain ⟨_, -, inside⟩ := runs_told run
    obtain ⟨answer, rfl, -⟩ := Act.runs_ask.1 (runs_onContext inside)
    exact looked_of_free (by simp [Call.isForwarding])
  | stats =>
    obtain ⟨_, -, inside⟩ := runs_told run
    obtain ⟨now, rfl, -⟩ := Context.runs_stats (runs_onContext inside)
    exact looked_of_free (by simp [Call.isForwarding])
  | close =>
    obtain ⟨_, -, inside⟩ := runs_told run
    exact looked_of_free (Context.closes_of_runs (runs_onContext inside)).2.unforwarded

/-- The guard decides on every operation that is to move a packet. -/
theorem Operation.screened (ready : client.Ready) (suits : operation.suits client = true)
    (run : operation.moves.Runs client events outcome after) :
    Context.Screened client.context events outcome := by
  cases client with
  | publisher session =>
    cases operation with
    | write packet =>
      obtain ⟨_, rfl, inside⟩ := runs_told run
      obtain ⟨_, -, writing⟩ := runs_publisher inside
      exact (Publisher.writePacket_gate ready writing).screened.map
    | _ => cases suits
  | player session =>
    cases operation with
    | tryReadStream index =>
      obtain ⟨_, rfl, inside⟩ := runs_told run
      obtain ⟨_, -, reading⟩ := runs_player inside
      exact (Player.tryReadStream_gate ready reading).screened.map
    | tryRead =>
      obtain ⟨_, rfl, inside⟩ := runs_told run
      obtain ⟨_, -, reading⟩ := runs_player inside
      exact (Player.tryRead_gate ready reading).screened.map
    | read =>
      obtain ⟨_, rfl, inside⟩ := runs_told run
      obtain ⟨_, -, reading⟩ := runs_player inside
      obtain ⟨start, rest, rfl, gate⟩ := Player.read_gate ready reading
      exact gate.screened.behind.map
    | _ => cases suits

end Client
end WhipWhep
