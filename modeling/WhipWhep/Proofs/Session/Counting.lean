import WhipWhep.Proofs.Session.Guarding
import WhipWhep.Proofs.Session.Lending

/-!
The counters of a session. Whatever its caller does with it, from its opening to its end and beyond, the counters
of each track say what has passed through the transport of that track, and which packets.
-/

namespace WhipWhep

variable {handles : List Handle} {plan : Nat → Nat} {lent : Nat} {events : List Event}

theorem aside_seenOpen : AllOf Call.isAside [seenOpen] := .single rfl _

/-- A session that holds its handles as long as it has its peer connection. -/
def Context.Bound (handles : List Handle) (context : Context) : Prop :=
  context.hasPeer = true → context.Holds handles

theorem Context.Bound.lasts {context after : Context} (bound : context.Bound handles)
    (lasts : context.Lasts after) : after.Bound handles := by
  intro up
  have same := lasts.up up
  exact (bound ((codecs_of_settings same).2.symm.trans up)).of_settings same

namespace Publisher

variable {publisher after : Publisher}

/-- A packet that is taken counts as one packet of its stream. -/
theorem writePacket_bills {packet : Packet} {outcome : Except Error Unit} (ready : publisher.Ready)
    (bound : publisher.context.Bound handles) (turn : plan lent = packet.stream)
    (run : (writePacket packet).Runs publisher events outcome after) :
    Registry.Bills handles plan lent publisher.context.registry events
      (outcome.toOption.map fun _ => packet).toList after.context.registry := by
  cases writePacket_puts ready run with
  | released down => exact Registry.bills_aside .nil rfl
  | unconnected up other => exact Registry.bills_aside (.single rfl _) rfl
  | passed up puts =>
    refine Registry.Bills.behind aside_seenOpen ?_
    cases puts with
    | absent beyond => exact Registry.bills_aside .nil rfl
    | malformed kept broken => exact Registry.bills_aside .nil rfl
    | @put track writer framing framed relay played _ counters found opened kept whole plays =>
      obtain ⟨handle, own, -, -, target⟩ := (bound up).of_track found
      obtain ⟨payload, rfl⟩ := reframed_ok whole
      have same : Track.moving counters (outcome.toOption.map fun _ => { packet with payload := payload }) =
          Track.moving counters (outcome.toOption.map fun _ => packet) := by
        cases outcome <;> rfl
      refine Registry.bills_lent rfl turn found (Relay.keeps_target _ _ _ plays) (target ▸ ?_)
        (same.trans (Relay.tally_of_moving _ plays)) fun moved member => ?_
      · rintro _ ⟨⟩
        exact own
      · obtain ⟨_, -, rfl⟩ := Option.map_eq_some_iff.1 (Option.mem_toList.1 member)
        rfl

end Publisher

namespace Player

variable {player after : Player} {index : Nat} {outcome : Except Error Packet}

/-- A packet that is read counts as one packet of the stream that it is of. A stream that has none was asked. -/
theorem tryReadStream_bills (ready : player.Ready)
    (bound : player.context.Bound handles) (turn : plan lent = index)
    (run : (tryReadStream index).Runs player events outcome after) :
    Registry.Bills handles plan lent player.context.registry events outcome.toOption.toList
        after.context.registry ∧
      (outcome = .error .wouldBlock → lendings events = 1) := by
  cases tryReadStream_takes ready run with
  | released down => exact ⟨Registry.bills_aside .nil rfl, nofun⟩
  | unconnected up other => exact ⟨Registry.bills_aside (.single rfl _) rfl, nofun⟩
  | passed up takes =>
    cases takes with
    | absent beyond => exact ⟨Registry.bills_aside aside_seenOpen rfl, nofun⟩
    | @taken track reader relay played answer _ counters found opened plays marked =>
      obtain ⟨handle, own, same, -, target⟩ := (bound up).of_track found
      have stays := Relay.keeps_target _ _ _ plays
      refine ⟨Registry.Bills.behind aside_seenOpen ?_, fun _ => ?_⟩
      · refine Registry.bills_lent rfl turn found stays (target ▸ ?_) (Relay.tally_of_moving _ plays)
          fun packet member => ?_
        · rintro _ ⟨⟩
          exact own
        · subst marked
          cases answer with
          | error cause => cases member
          | ok packet =>
            cases List.mem_singleton.1 member
            exact same
      · rw [lendings_cons, lendings_aside aside_seenOpen, lendings_cons, lendings_lent rfl,
          lendings_relayed (stays.weaken relayed_of_relayedOn)]

theorem bound_of_counted (bound : player.context.Bound handles) (counted : player.Counted after) :
    after.context.Bound handles :=
  bound.lasts (Context.lasts_of_settings counted.1)

/-- Streams that are tried one after the other are lent one after the other. -/
theorem tryEach_bills {count : Nat} {indices : List Nat} (ready : player.Ready)
    (bound : player.context.Bound handles)
    (turns : ∀ {place index : Nat}, indices[place]? = some index → plan (lent + place) = index)
    (run : (tryEach count indices).Runs player events outcome after) :
    Registry.Bills handles plan lent player.context.registry events outcome.toOption.toList
        after.context.registry ∧
      (outcome = .error .wouldBlock → lendings events = indices.length ∧ after.next = player.next) := by
  induction indices generalizing player events lent with
  | nil =>
    obtain ⟨rfl, rfl, rfl⟩ := Act.runs_fail.1 run
    exact ⟨Registry.bills_aside .nil rfl, fun _ => ⟨rfl, rfl⟩⟩
  | cons index rest ih =>
    obtain ⟨first, inner, middle, second, rfl, reading, onward⟩ := Act.runs_attempt_bind.1 run
    have front : (index :: rest)[0]? = some index := rfl
    have here : plan lent = index := turns front
    obtain ⟨bills, once⟩ := tryReadStream_bills ready bound here reading
    have counted := tryReadStream_counts reading
    split at onward
    · have last := Act.runs_modify_bind.1 onward
      obtain ⟨rfl, rfl, rfl⟩ := Act.runs_pure.1 last
      rw [List.append_nil]
      exact ⟨bills, fun wrong => by cases wrong⟩
    · have later : ∀ {place other : Nat}, rest[place]? = some other → plan (lent + lendings first + place) = other := by
        intro place other found
        rw [once rfl, Nat.add_assoc, Nat.add_comm 1 place]
        exact turns found
      obtain ⟨onwards, blocked⟩ := ih (ready.of_counted counted) (bound_of_counted bound counted) later onward
      refine ⟨bills.trans onwards, fun none => ?_⟩
      obtain ⟨all, still⟩ := blocked none
      rw [lendings_append, once rfl, all, List.length_cons, Nat.add_comm]
      exact ⟨rfl, still.trans (heeds_of_gate (tryReadStream_gate ready reading)).2⟩
    · next cause final =>
      obtain ⟨rfl, rfl, rfl⟩ := Act.runs_fail.1 onward
      rw [List.append_nil]
      exact ⟨bills, fun blocked => absurd (Except.error.inj blocked) final⟩

/-- A read of any stream lends the transports from the stream on where it begins. -/
theorem tryRead_bills (ready : player.Ready) (bound : player.context.Bound handles)
    (turns : ∀ place, plan (lent + place) = (player.next + place) % player.context.registry.tracks.length)
    (run : tryRead.Runs player events outcome after) :
    Registry.Bills handles plan lent player.context.registry events outcome.toOption.toList
        after.context.registry ∧
      (outcome = .error .wouldBlock →
        lendings events = player.context.registry.tracks.length ∧ after.next = player.next) := by
  have listed : ∀ {place index : Nat},
      (order player.next player.context.registry.tracks.length)[place]? = some index → plan (lent + place) = index := by
    intro place index found
    rw [order, List.getElem?_map, Option.map_eq_some_iff] at found
    obtain ⟨attempt, ranged, rfl⟩ := found
    obtain ⟨within, rfl⟩ := List.getElem?_eq_some_iff.1 ranged
    rw [turns, List.getElem_range]
  obtain ⟨bills, blocked⟩ := tryEach_bills ready bound listed (Act.runs_get_bind.1 run)
  refine ⟨bills, fun none => ?_⟩
  obtain ⟨all, still⟩ := blocked none
  rw [order, List.length_map, List.length_range] at all
  exact ⟨all, still⟩

theorem readUntil_bills {deadline clock : Nat} (ready : player.Ready) (bound : player.context.Bound handles)
    (turns : ∀ place, plan (lent + place) = (player.next + place) % player.context.registry.tracks.length)
    (run : (readUntil deadline clock).Runs player events outcome after) :
    Registry.Bills handles plan lent player.context.registry events outcome.toOption.toList
      after.context.registry := by
  induction clock using readUntil.induct deadline generalizing player events lent with
  | _ clock ih =>
    rw [readUntil] at run
    obtain ⟨first, inner, middle, second, rfl, reading, onward⟩ := Act.runs_attempt_bind.1 run
    obtain ⟨bills, blocked⟩ := tryRead_bills ready bound turns reading
    have counted := reading_counted.tryRead _ _ _ reading
    split at onward
    · obtain ⟨rfl, rfl, rfl⟩ := Act.runs_pure.1 onward
      rw [List.append_nil]
      exact bills
    · obtain ⟨stopped, _, rfl, asked⟩ := Act.runs_ask_bind.1 onward
      have looks : AllOf Call.isAside [⟨.host .isCancelled, stopped⟩] := .single rfl _
      refine bills.next (.behind looks ?_)
      cases stopped with
      | true =>
        obtain ⟨rfl, rfl, rfl⟩ := Act.runs_fail.1 asked
        exact Registry.bills_aside .nil rfl
      | false =>
        obtain ⟨time, _, rfl, timed⟩ := Act.runs_ask_bind.1 asked
        have reads : AllOf Call.isAside [⟨.host (.now clock), time⟩] := .single rfl _
        refine .behind reads ?_
        by_cases late : deadline ≤ time.val
        · rw [dif_pos late] at timed
          obtain ⟨rfl, rfl, rfl⟩ := Act.runs_fail.1 timed
          exact Registry.bills_aside .nil rfl
        · rw [dif_neg late] at timed
          obtain ⟨later, rest, rfl, slept⟩ := Act.runs_ask_bind.1 timed
          have pauses : AllOf Call.isAside [⟨.host (.sleep time.val Wait.pause), later⟩] := .single rfl _
          refine .behind pauses (ih time late later (ready.of_counted counted) (bound_of_counted bound counted)
            (fun place => ?_) slept)
          -- A round that has found nothing has lent each transport once.
          obtain ⟨all, still⟩ := blocked rfl
          rw [all, still, Context.size_of_settings counted.1, Nat.add_assoc, turns, Nat.add_left_comm,
            Nat.add_mod_left]
    · obtain ⟨rfl, rfl, rfl⟩ := Act.runs_fail.1 onward
      rw [List.append_nil]
      exact bills

theorem read_bills (ready : player.Ready) (bound : player.context.Bound handles)
    (turns : ∀ place, plan (lent + place) = (player.next + place) % player.context.registry.tracks.length)
    (run : Player.read.Runs player events outcome after) :
    Registry.Bills handles plan lent player.context.registry events outcome.toOption.toList
      after.context.registry := by
  obtain ⟨start, rest, rfl, -, started⟩ := runs_read.1 run
  have looks : AllOf Call.isAside [⟨.host (.now 0), start⟩] := .single rfl _
  exact .behind looks (readUntil_bills ready bound turns started)

end Player
namespace Registry

variable {registry after : Registry} {outcome : Except Error Unit}

/-- Tracks that are released lend their transports once more, each in its turn. -/
theorem releases_bills {start left : Nat} (within : start + left ≤ registry.tracks.length)
    (held : ∀ {index : Nat} {track : Track}, start ≤ index → registry.tracks[index]? = some track →
      track.codec.isSome = true ∧ ∀ handle, track.target = some handle → handles[index]? = some handle)
    (run : ((List.range' start left).forM fun index => Registry.onTrack index (Track.release true)).Runs registry
      events outcome after) :
    Bills handles id start registry events [] after := by
  induction left generalizing start registry events with
  | zero =>
    obtain ⟨rfl, -, rfl⟩ := Act.runs_pure.1 run
    exact bills_aside .nil rfl
  | succ left ih =>
    have present : start < registry.tracks.length := by omega
    rcases Act.runs_bind.1 run with ⟨_, rfl, failed⟩ | ⟨_, _, middle, _, rfl, releases, onward⟩
    · cases (releases_at present failed).1
    rcases runs_onTrack.1 releases with ⟨missing, -⟩ | ⟨track, inner, found, rfl, letting⟩
    · rw [List.getElem?_eq_none_iff] at missing
      omega
    obtain ⟨opened, own⟩ := held (Nat.le_refl _) found
    obtain ⟨codec, voiced⟩ := Option.isSome_iff_exists.1 opened
    obtain ⟨answer, played, rest, rfl, stays, aside, counted⟩ := Track.release_counts voiced letting
    have lends : codec.closing.lends = true := by cases codec <;> rfl
    have lent : Bills handles id start registry (⟨codec.closing, answer⟩ :: played) []
        ⟨registry.tracks.set start inner⟩ := bills_lent lends rfl found stays own counted nofun
    have quiet : Bills handles id (start + lendings (⟨codec.closing, answer⟩ :: played))
        ⟨registry.tracks.set start inner⟩ rest [] ⟨registry.tracks.set start inner⟩ := bills_aside aside rfl
    have once : lendings ((⟨codec.closing, answer⟩ :: played) ++ rest) = 1 := by
      rw [lendings_append, lendings_cons, lendings_lent lends, lendings_aside aside,
        lendings_relayed (stays.weaken relayed_of_relayedOn)]
    have still : ∀ {index : Nat} {other : Track}, start + 1 ≤ index →
        (registry.tracks.set start inner)[index]? = some other → other.codec.isSome = true ∧
          ∀ handle, other.target = some handle → handles[index]? = some handle := by
      intro index other beyond there
      rw [List.getElem?_set_ne (by omega)] at there
      exact held (by omega) there
    have later := ih (by rw [List.length_set]; omega) still onward
    rw [← once] at later
    exact (lent.next quiet).next later

end Registry

namespace Context

variable {context after : Context}

theorem runs_stats {outcome : Except Error SessionStats} (run : stats.Runs context events outcome after) :
    ∃ now, events = [⟨.host (.now context.startedAt), now⟩] ∧
      outcome = .ok ⟨now.val - context.startedAt, context.timeToConnect, context.registry.counters⟩ ∧
      after = context := by
  unfold stats at run
  rw [Act.runs_get_bind] at run
  obtain ⟨now, _, rfl, told⟩ := Act.runs_ask_bind.1 run
  obtain ⟨rfl, rfl, rfl⟩ := Act.runs_pure.1 told
  exact ⟨now, rfl, rfl, rfl⟩

/-- A session that is closed lends each transport once more, if it was not closed before. -/
theorem close_bills {outcome : Except Error Unit} (held : context.hasPeer = true → ∀ {index : Nat} {track : Track},
      context.registry.tracks[index]? = some track → track.codec.isSome = true ∧
        ∀ handle, track.target = some handle → handles[index]? = some handle)
    (run : close.Runs context events outcome after) :
    Registry.Bills handles id 0 context.registry events [] after.registry := by
  obtain ⟨deleting, _, _, releasing, rfl, tried, onward⟩ := Act.runs_attempt_bind.1 run
  obtain ⟨_, rfl, inside⟩ := Act.runs_within.1 tried
  obtain ⟨deletes, rfl⟩ := Exchange.deletes_of_runs inside
  have aside : AllOf Call.isAside deleting := by
    cases deletes with
    | absent vacant => exact .nil
    | unsendable stored unfit => exact .nil
    | sent stored fit progress => exact .single rfl _
  refine .behind aside ?_
  unfold release at onward
  rw [Act.runs_get_bind] at onward
  cases up : context.hasPeer with
  | false =>
    rw [if_neg (by simp [up])] at onward
    obtain ⟨rfl, -, rfl⟩ := Act.runs_pure.1 onward
    exact Registry.bills_aside .nil rfl
  | true =>
    rw [if_pos up] at onward
    rcases Act.runs_bind.1 onward with ⟨_, -, failed⟩ | ⟨_, _, _, _, rfl, releases, last⟩
    · obtain ⟨_, -, wrong⟩ := Act.runs_within.1 failed
      cases (Registry.release_lets wrong).1
    obtain ⟨registry, rfl, letting⟩ := Act.runs_within.1 releases
    obtain ⟨_, _, rfl, closed⟩ := Act.runs_ask_bind.1 last
    obtain ⟨rfl, -, rfl⟩ := Act.runs_modify.1 closed
    unfold Registry.release at letting
    rw [Act.runs_get_bind, List.range_eq_range'] at letting
    have bills := Registry.releases_bills (Nat.le_of_eq (Nat.zero_add _)) (fun _ => held up) letting
    have ends : AllOf Call.isAside [⟨.engine .close, ()⟩] := .single rfl _
    exact bills.next (Registry.bills_aside ends rfl)

end Context
namespace Client

variable {α : Type} {client after first last : Client} {role : Role} {config : ClientConfig}

theorem context_withContext (context : Context) : (client.withContext context).context = context := by
  cases client <;> rfl

theorem Lasts.context (lasts : client.Lasts after) : client.context.Lasts after.context := by
  cases lasts <;> assumption

/-- The streams whose transports an operation lends, in order. A read of any stream begins where the last one
has left off, and goes round as often as it takes. -/
def Operation.schedule (client : Client) : Operation → Nat → Nat
  | write packet => fun _ => packet.stream
  | tryReadStream index => fun _ => index
  | tryRead => rounds client
  | read => rounds client
  | state => id
  | stats => id
  | close => id
where
  rounds : Client → Nat → Nat
    | .publisher _ => id
    | .player session => fun place => (session.next + place) % session.context.registry.tracks.length

theorem runs_player {cause : Error} {act : Act Player α} {session : Player} {outcome : Except Error α}
    (run : (asPlayer cause act).Runs (.player session) events outcome after) :
    ∃ inner, after = .player inner ∧ act.Runs session events outcome inner := by
  obtain ⟨_, ⟨result, inner⟩, _, rfl, inside, rest⟩ := Script.yields_bind_iff.1 run
  obtain ⟨rfl, same⟩ := Script.yields_done_iff.1 rest
  obtain ⟨rfl, rfl⟩ := Prod.mk.inj same
  rw [List.append_nil]
  exact ⟨inner, rfl, inside⟩

/-- As long as there is a peer connection, each track has its end of the layer. -/
theorem Ready.voiced (ready : client.Ready) (up : client.context.hasPeer = true) {index : Nat} {track : Track}
    (found : client.context.registry.tracks[index]? = some track) : track.codec.isSome = true := by
  have member := List.mem_map_of_mem (f := Track.codec) (List.mem_of_getElem? found)
  cases client with
  | publisher session =>
    obtain ⟨writer, voiced⟩ := Publisher.Ready.writers ready up _ member
    rw [voiced]
    rfl
  | player session =>
    obtain ⟨reader, voiced⟩ := Player.Ready.readers ready up _ member
    rw [voiced]
    rfl

/-- What one operation adds to the counters. -/
theorem Operation.bills {operation : Operation} {outcome : Except Error (Option Packet)} (ready : client.Ready)
    (bound : client.context.Bound handles) (run : operation.moves.Runs client events outcome after) :
    Registry.Bills handles (operation.schedule client) 0 client.context.registry events outcome.toOption.join.toList
      after.context.registry := by
  have reads : ∀ {act : Act Player Packet} {plan : Nat → Nat},
      (do return some (← asPlayer Operation.moves.notPlayer act) : Act Client (Option Packet)).Runs client events
        outcome after →
      (∀ {session inner : Player} {outcome : Except Error Packet}, client = .player session →
        act.Runs session events outcome inner → Registry.Bills handles plan 0 session.context.registry events
          outcome.toOption.toList inner.context.registry) →
      Registry.Bills handles plan 0 client.context.registry events outcome.toOption.join.toList
        after.context.registry := by
    intro act plan run bills
    obtain ⟨inner, rfl, inside⟩ := runs_told run
    cases client with
    | publisher session =>
      obtain ⟨rfl, same⟩ := Script.yields_done_iff.1 inside
      obtain ⟨rfl, rfl⟩ := Prod.mk.inj same
      exact Registry.bills_aside .nil rfl
    | player session =>
      obtain ⟨later, rfl, reading⟩ := runs_player inside
      have all := bills rfl reading
      cases inner <;> exact all
  cases operation with
  | write packet =>
    obtain ⟨inner, rfl, inside⟩ := runs_told run
    cases client with
    | publisher session =>
      obtain ⟨later, rfl, writing⟩ := runs_publisher inside
      have all : Registry.Bills handles (fun _ => packet.stream) 0 session.context.registry events
          (inner.toOption.map fun _ => packet).toList later.context.registry :=
        Publisher.writePacket_bills ready bound rfl writing
      cases inner <;> exact all
    | player session =>
      obtain ⟨rfl, same⟩ := Script.yields_done_iff.1 inside
      obtain ⟨rfl, rfl⟩ := Prod.mk.inj same
      exact Registry.bills_aside .nil rfl
  | tryReadStream index =>
    refine reads run fun same reading => ?_
    subst same
    exact (Player.tryReadStream_bills ready bound rfl reading).1
  | tryRead =>
    refine reads run fun same reading => ?_
    subst same
    exact (Player.tryRead_bills ready bound (fun place => by rw [Nat.zero_add]; rfl) reading).1
  | read =>
    refine reads run fun same reading => ?_
    subst same
    exact Player.read_bills ready bound (fun place => by rw [Nat.zero_add]; rfl) reading
  | state =>
    obtain ⟨_, rfl, inside⟩ := runs_told run
    obtain ⟨_, rfl, asked⟩ := Act.runs_within.1 inside
    obtain ⟨answer, rfl, rfl, rfl⟩ := Act.runs_ask.1 asked
    exact Registry.bills_aside (.single rfl _) (by rw [context_withContext])
  | stats =>
    obtain ⟨_, rfl, inside⟩ := runs_told run
    obtain ⟨_, rfl, looks⟩ := Act.runs_within.1 inside
    obtain ⟨now, rfl, rfl, rfl⟩ := Context.runs_stats looks
    exact Registry.bills_aside (.single rfl _) (by rw [context_withContext])
  | close =>
    obtain ⟨inner, rfl, inside⟩ := runs_told run
    obtain ⟨context, rfl, closes⟩ := Act.runs_within.1 inside
    have bills := Context.close_bills (fun up _ _ found => ⟨ready.voiced up found, fun handle target => by
      obtain ⟨own, given, -, -, same⟩ := (bound up).of_track found
      cases same.symm.trans target
      exact given⟩) closes
    rw [context_withContext]
    cases inner <;> exact bills

/-- An operation with its course, and the session before and after it. -/
structure Turn where
  operation : Operation
  before : Client
  events : List Event
  outcome : Except Error (Option Packet)
  after : Client

/-- The packets that went from or to the caller. -/
def Turn.packets (turn : Turn) : List Packet := turn.outcome.toOption.join.toList

/-- What belongs to the track at an index. -/
def Turn.share (turn : Turn) (index : Nat) : List Event :=
  WhipWhep.share (turn.operation.schedule turn.before) index 0 turn.events

/-- A session in use. -/
inductive Lives : Client → List Turn → Client → Prop where
  | nil (client : Client) : Lives client [] client
  | cons {turn : Turn} {turns : List Turn} {last : Client}
      (run : turn.operation.moves.Runs turn.before turn.events turn.outcome turn.after)
      (rest : Lives turn.after turns last) : Lives turn.before (turn :: turns) last

/-- All that has passed on the track at an index, from the opening on. -/
def traffic (opening : List Event) (turns : List Turn) (index : Nat) : List Event :=
  WhipWhep.share id index 0 opening ++ turns.flatMap fun turn => turn.share index

/-- What the counters of the track at an index are to say. -/
def counted (opening : List Event) (turns : List Turn) (index : Nat) : Counters :=
  tally (traffic opening turns index) (packetsOf index (turns.flatMap Turn.packets))

/-- What the turns of a session add to its counters. -/
structure Lives.Bills (handles : List Handle) (first : Client) (turns : List Turn) (last : Client) : Prop where
  counters : ∀ index : Nat, last.context.registry.counters[index]? =
    first.context.registry.counters[index]?.map fun counters : Counters =>
      counters.plus (tally (turns.flatMap fun turn => turn.share index) (packetsOf index (turns.flatMap Turn.packets)))
  each : ∀ turn ∈ turns, Registry.Bills handles (turn.operation.schedule turn.before) 0 turn.before.context.registry
    turn.events turn.packets turn.after.context.registry

theorem Lives.bills {turns : List Turn} (lives : Lives first turns last) (ready : first.Ready)
    (bound : first.context.Bound handles) : Lives.Bills handles first turns last := by
  induction lives with
  | nil client => exact ⟨fun index => by simp [packetsOf], List.forall_mem_nil _⟩
  | @cons turn turns last run rest ih =>
    have lasts : turn.before.Lasts turn.after := Operation.lasts run
    have here := Operation.bills ready bound run
    obtain ⟨counters, each⟩ := ih (ready.lasts lasts) (bound.lasts lasts.context)
    refine ⟨fun index => ?_, List.forall_mem_cons.2 ⟨here, each⟩⟩
    rw [counters, here.counters, Option.map_map, List.flatMap_cons, List.flatMap_cons, packetsOf_append,
      tally_append]
    exact Option.map_congr fun counters _ => counters.plus_assoc _ _

/-- The counters of a session in use, against all that has passed since it began to open. -/
structure Books (role : Role) (opening : List Event) (first : Client) (turns : List Turn) (last : Client) : Prop where
  counters : last.context.registry.counters = (List.range role.tracks).map (counted opening turns)
  stats : ∀ {events : List Event} {outcome : Except Error SessionStats} {after : Client},
    Client.stats.Runs last events outcome after → ∃ duration, outcome =
      .ok ⟨duration, last.context.timeToConnect, (List.range role.tracks).map (counted opening turns)⟩
  /-- A packet is of a stream whose transport was lent. -/
  streams : ∀ turn ∈ turns, ∀ packet ∈ turn.packets,
    ∃ place < lendings turn.events, turn.operation.schedule turn.before place = packet.stream
  apart : ∀ turn ∈ turns, ∀ index,
    (∀ place < lendings turn.events, turn.operation.schedule turn.before place ≠ index) →
      turn.after.context.registry.counters[index]? = turn.before.context.registry.counters[index]?
  /-- All that the engine was asked to carry was asked on the handle of the one track that it counts for. -/
  carried : ∃ handles : List Handle, first.context.registry.handles = handles.map some ∧
    (∀ {index : Nat} {event : Event}, event ∈ traffic opening turns index →
      ∀ {handle : Handle}, event.carrier? = some handle → handles[index]? = some handle) ∧
    ∀ event ∈ opening ++ turns.flatMap Turn.events, event.call.isTransfer = true →
      ∃ index, event ∈ traffic opening turns index

/-- Whatever a caller does with a session, the counters of each track say what has passed through its transport
and which packets, and no other track's. The statistics list them by index, also when the session is closed. -/
theorem openSession_counts {opening : List Event} {turns : List Turn}
    (opened : (openSession role config).Runs () opening (.ok first) ()) (lives : Lives first turns last) :
    Books role opening first turns last := by
  obtain ⟨handles, -, holds, opens⟩ := (opens_of_runs opened).bills
  obtain ⟨counters, each⟩ := lives.bills (ready_of_opened opened) fun _ => holds
  have all : last.context.registry.counters = (List.range role.tracks).map (counted opening turns) := by
    refine List.ext_getElem? fun index => ?_
    rw [counters, opens.counters, Option.map_map, Registry.counters, Registry.allocate, List.map_map,
      List.getElem?_map, List.getElem?_map, Option.map_map]
    refine Option.map_congr fun place there => ?_
    obtain ⟨within, rfl⟩ := List.getElem?_eq_some_iff.1 there
    rw [List.getElem_range]
    exact (congrArg (Counters.plus · _) (Counters.zero_plus _)).trans tally_append.symm
  refine ⟨all, fun looks => ?_, fun turn member packet moved => (each turn member).streams packet moved,
    fun turn member index elsewhere => (each turn member).apart elsewhere, handles, holds.handles_eq,
    fun member handle carried => ?_, fun event member transfer => ?_⟩
  · obtain ⟨_, -, asks⟩ := Act.runs_within.1 looks
    obtain ⟨now, -, rfl, -⟩ := Context.runs_stats asks
    exact ⟨_, by rw [all]⟩
  · rcases List.mem_append.1 member with early | late
    · exact opens.own early carried
    · obtain ⟨turn, among, shared⟩ := List.mem_flatMap.1 late
      exact (each turn among).own shared carried
  · rcases List.mem_append.1 member with early | late
    · obtain ⟨index, shared⟩ := opens.covered event early transfer
      exact ⟨index, List.mem_append_left _ shared⟩
    · obtain ⟨turn, among, within⟩ := List.mem_flatMap.1 late
      obtain ⟨index, shared⟩ := (each turn among).covered event within transfer
      exact ⟨index, List.mem_append_right _ (List.mem_flatMap.2 ⟨turn, among, shared⟩)⟩

/-- The caller of a broadcast sends one packet. -/
def broadcast : Turn :=
  ⟨.write Publisher.Broadcast.packet, .publisher Publisher.Broadcast.session, Publisher.Broadcast.passing,
    .ok (some Publisher.Broadcast.packet), .publisher Publisher.Broadcast.passed⟩

theorem openSession_counts_broadcast :
    Books (.ingest [Publisher.Broadcast.video, Publisher.Broadcast.audio]) Publisher.Broadcast.opening
      broadcast.before [broadcast] broadcast.after := by
  have opened : (openSession (.ingest [Publisher.Broadcast.video, Publisher.Broadcast.audio])
      Unanswered.setting).Runs () Publisher.Broadcast.opening (.ok broadcast.before) () :=
    Act.runs_bind.2 (.inr ⟨_, _, (), [], (List.append_nil _).symm, Publisher.Broadcast.runs, .done _⟩)
  have writes : broadcast.operation.moves.Runs broadcast.before broadcast.events broadcast.outcome broadcast.after :=
    .call _ _ _ (.call _ _ _ (.call _ _ _ (.call _ _ _ (.done _))))
  exact openSession_counts opened (.cons writes (.nil _))

/-- Its three bytes are counted on the second track. -/
example : counted Publisher.Broadcast.opening [broadcast] 1 = ⟨1, 3, 0, 0, 1, 0, 0⟩ := by
  decide

end Client
end WhipWhep
