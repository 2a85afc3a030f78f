import WhipWhep.Proofs.Session.Roles
import WhipWhep.Proofs.Track.Passing

/-!
Packets in a session. A packet passes only where a look has just found the connection open; else nothing
is asked of the layer or of the engine, and nothing changes. Where it passes, it is one call to the layer,
on the track of its stream.
-/

namespace WhipWhep

variable {α : Type} {events : List Event}

namespace Context

variable {context after : Context}

/-- What passes only while the session is connected. The look comes first, and it decides. -/
inductive Gate {σ : Type} (context : Context) (state : σ) (passes : List Event → Except Error α → σ → Prop) :
    List Event → Except Error α → σ → Prop where
  | released (down : context.hasPeer = false) :
      Gate context state passes [] (.error (.notConnected .closed)) state
  | unconnected {reported : ConnectionState} (up : context.hasPeer = true) (other : reported ≠ .connected) :
      Gate context state passes [⟨.host .connectionState, reported⟩] (.error (.notConnected reported)) state
  | passed {rest : List Event} {outcome : Except Error α} {after : σ} (up : context.hasPeer = true)
      (onward : passes rest outcome after) : Gate context state passes (seenOpen :: rest) outcome after

theorem Gate.imp {σ : Type} {state after : σ} {passes weaker : List Event → Except Error α → σ → Prop}
    {outcome : Except Error α} (gate : Gate context state passes events outcome after)
    (implies : ∀ {rest outcome after}, context.hasPeer = true → passes rest outcome after →
      weaker rest outcome after) :
    Gate context state weaker events outcome after := by
  cases gate with
  | released down => exact .released down
  | unconnected up other => exact .unconnected up other
  | passed up onward => exact .passed up (implies up onward)

theorem gate_of_ensureConnected {outcome : Except Error Unit}
    (run : ensureConnected.Runs context events outcome after) :
    Gate context context (fun rest outcome after => rest = [] ∧ outcome = .ok () ∧ after = context)
      events outcome after := by
  rcases Act.runs_bind.1 run with ⟨cause, rfl, failed⟩ | ⟨_, _, _, _, rfl, passed, onward⟩
  · unfold requirePeer at failed
    rw [Act.runs_get_bind] at failed
    cases up : context.hasPeer with
    | true =>
      rw [if_pos up] at failed
      obtain ⟨-, wrong, -⟩ := Act.runs_pure.1 failed
      cases wrong
    | false =>
      rw [if_neg (by simp [up])] at failed
      obtain ⟨rfl, same, rfl⟩ := Act.runs_fail.1 failed
      cases same
      exact .released up
  · obtain ⟨rfl, same, up⟩ := requirePeer_up passed
    rw [same] at onward
    obtain ⟨reported, rest, rfl, judged⟩ := Act.runs_ask_bind.1 onward
    by_cases connected : reported = .connected
    · subst connected
      obtain ⟨rfl, rfl, rfl⟩ := Act.runs_pure.1 judged
      exact .passed (up rfl) ⟨rfl, rfl, rfl⟩
    · have refused : rest = [] ∧ outcome = .error (.notConnected reported) ∧ after = context := by
        cases reported with
        | connected => exact absurd rfl connected
        | _ => exact Act.runs_fail.1 judged
      obtain ⟨rfl, rfl, rfl⟩ := refused
      exact .unconnected (up rfl) connected

/-- An act that begins with the guard. -/
theorem gate_of_runs {σ : Type} {part : σ → Context} {put : Context → σ → σ} {next : Act σ α} {state last : σ}
    {outcome : Except Error α} (same : put (part state) state = state)
    (run : (ensureConnected.within part put >>= fun _ => next).Runs state events outcome last) :
    Gate (part state) state (next.Runs state) events outcome last := by
  have looks : ∀ {events outcome last}, (ensureConnected.within part put).Runs state events outcome last →
      Gate (part state) state (fun rest outcome after => rest = [] ∧ outcome = .ok () ∧ after = state)
        events outcome last := by
    intro events outcome last run
    obtain ⟨inner, rfl, inside⟩ := Act.runs_within.1 run
    cases gate_of_ensureConnected inside with
    | released down =>
      rw [same]
      exact .released down
    | unconnected up other =>
      rw [same]
      exact .unconnected up other
    | passed up onward =>
      obtain ⟨rfl, rfl, rfl⟩ := onward
      exact .passed up ⟨rfl, rfl, same⟩
  rcases Act.runs_bind.1 run with ⟨_, rfl, failed⟩ | ⟨_, _, _, _, rfl, passed, onward⟩
  · cases looks failed with
    | released down => exact .released down
    | unconnected up other => exact .unconnected up other
    | passed up onward => cases onward.2.1
  · cases looks passed with
    | passed up quiet =>
      obtain ⟨rfl, -, rfl⟩ := quiet
      exact .passed up onward

/-- A session with another track at an index. -/
def setTrack (context : Context) (index : Nat) (track : Track) : Context :=
  { context with registry := ⟨context.registry.tracks.set index track⟩ }

/-- Putting back the track that is there changes nothing. -/
theorem setTrack_self {index : Nat} {track : Track} (found : context.registry.tracks[index]? = some track) :
    context.setTrack index track = context := by
  obtain ⟨present, rfl⟩ := List.getElem?_eq_some_iff.1 found
  rw [setTrack, List.set_getElem_self present]

theorem setTrack_setTrack {index : Nat} {first second : Track} :
    (context.setTrack index first).setTrack index second = context.setTrack index second := by
  simp [setTrack]

theorem length_setTrack {index : Nat} {track : Track} :
    (context.setTrack index track).registry.tracks.length = context.registry.tracks.length :=
  List.length_set

theorem getElem?_setTrack {index : Nat} {track other : Track}
    (found : context.registry.tracks[index]? = some track) :
    (context.setTrack index other).registry.tracks[index]? = some other := by
  obtain ⟨present, -⟩ := List.getElem?_eq_some_iff.1 found
  exact List.getElem?_set_self present

theorem getElem?_setTrack_ne {index place : Nat} {track : Track} (apart : index ≠ place) :
    (context.setTrack index track).registry.tracks[place]? = context.registry.tracks[place]? :=
  List.getElem?_set_ne apart

/-- An act on one track, or on none if there is none at the index. -/
theorem onTrack_runs_iff {index : Nat} {act : Act Track α} {outcome : Except Error α} :
    (Context.onTrack index act).Runs context events outcome after ↔
      (context.registry.tracks.length ≤ index ∧ events = [] ∧ outcome = .error (.invalidStream index) ∧
        after = context) ∨
      ∃ track inner, context.registry.tracks[index]? = some track ∧ after = context.setTrack index inner ∧
        act.Runs track events outcome inner := by
  unfold Context.onTrack onRegistry setTrack
  simp only [Act.runs_within, Registry.runs_onTrack, List.getElem?_eq_none_iff]
  constructor
  · rintro ⟨_, rfl, ⟨missing, rfl, rfl, rfl⟩ | ⟨track, inner, found, rfl, inside⟩⟩
    · exact .inl ⟨missing, rfl, rfl, rfl⟩
    · exact .inr ⟨track, inner, found, rfl, inside⟩
  · rintro (⟨missing, rfl, rfl, rfl⟩ | ⟨track, inner, found, rfl, inside⟩)
    · exact ⟨_, rfl, .inl ⟨missing, rfl, rfl, rfl⟩⟩
    · exact ⟨_, rfl, .inr ⟨track, inner, found, rfl, inside⟩⟩

/-- A session without the counters of its tracks. -/
def settings (context : Context) : Context :=
  { context with registry := ⟨context.registry.tracks.map Track.settings⟩ }

theorem settings_setTrack {index : Nat} {track inner : Track}
    (found : context.registry.tracks[index]? = some track) (counted : track.Counted inner) :
    (context.setTrack index inner).settings = context.settings := by
  have still : (context.registry.tracks.set index inner).map Track.settings =
      context.registry.tracks.map Track.settings := by
    obtain ⟨present, rfl⟩ := List.getElem?_eq_some_iff.1 found
    rw [List.map_set, counted, ← List.getElem_map Track.settings, List.set_getElem_self]
    simpa using present
  simp only [settings, setTrack, still]

/-- The ends of the layer are those of the tracks at their places. -/
theorem track_of_codec {codec : Option CodecSession} (member : codec ∈ context.registry.tracks.map Track.codec) :
    ∃ index track, index < context.registry.tracks.length ∧
      context.registry.tracks[index]? = some track ∧ track.codec = codec := by
  obtain ⟨track, held, same⟩ := List.mem_map.1 member
  obtain ⟨index, found⟩ := List.mem_iff_getElem?.1 held
  exact ⟨index, track, (List.getElem?_eq_some_iff.1 found).1, found, same⟩

theorem codecs_of_settings (same : after.settings = context.settings) :
    after.registry.tracks.map Track.codec = context.registry.tracks.map Track.codec ∧
      after.hasPeer = context.hasPeer := by
  have tracks := congrArg (fun context => context.registry.tracks.map Track.codec) same
  simp only [settings, List.map_map] at tracks
  have peer := congrArg Context.hasPeer same
  exact ⟨tracks, peer⟩

end Context

/-- An access unit can only be framed anew if it is well formed. -/
theorem Avc.Framing.apply_error {framing : Avc.Framing} {packet : Packet} {cause : MediaError}
    (broken : framing.apply packet = .error cause) : cause = .invalidAccessUnit := by
  cases unit : framing.accessUnit packet with
  | ok bytes =>
    rw [apply, unit] at broken
    cases broken
  | error found =>
    rw [apply, unit] at broken
    cases broken
    unfold accessUnit at unit
    cases sized : framing.lengthSize with
    | none =>
      rw [sized] at unit
      cases unit
    | some size =>
      rw [sized] at unit
      have cut : demand MediaError.invalidAccessUnit (toByteStream? packet.payload size) = .error cause := unit
      generalize toByteStream? packet.payload size = stream at cut
      cases stream <;> cases cut
      rfl

namespace Publisher

variable {publisher after : Publisher}

/-- A packet as the writer of its stream takes it. -/
def reframed (framing : Option Avc.Framing) (packet : Packet) : Except Error Packet :=
  match framing with
  | none => .ok packet
  | some framing => (framing.apply packet).mapError Error.media

theorem reframed_error {framing : Option Avc.Framing} {packet : Packet} {cause : Error}
    (broken : reframed framing packet = .error cause) :
    ∃ own, framing = some own ∧ own.apply packet = .error .invalidAccessUnit ∧
      cause = .media .invalidAccessUnit := by
  cases framing with
  | none => cases broken
  | some own =>
    unfold reframed at broken
    cases framed : own.apply packet with
    | ok packet =>
      simp only [framed] at broken
      cases broken
    | error found =>
      obtain rfl := Avc.Framing.apply_error framed
      simp only [framed] at broken
      cases broken
      exact ⟨own, rfl, framed, rfl⟩

/-- A publisher of which every track has its writer, as long as there is a peer connection. -/
structure Ready (publisher : Publisher) : Prop where
  framing : publisher.framing.length = publisher.context.registry.tracks.length
  writers : publisher.context.hasPeer = true →
    ∀ codec ∈ publisher.context.registry.tracks.map Track.codec, ∃ writer, codec = some (.writer writer)

/-- What becomes of a packet that has passed the guard. Only the writer of its stream is called, and it is
called once, unless the access unit is malformed. -/
inductive Writes (publisher : Publisher) (packet : Packet) :
    List Event → Except Error Unit → Publisher → Prop where
  | absent (beyond : publisher.context.registry.tracks.length ≤ packet.stream) :
      Writes publisher packet [] (.error (.invalidStream packet.stream)) publisher
  | malformed {framing : Avc.Framing} (kept : publisher.framing[packet.stream]? = some (some framing))
      (broken : framing.apply packet = .error .invalidAccessUnit) :
      Writes publisher packet [] (.error (.media .invalidAccessUnit)) publisher
  | written {track inner : Track} {writer : Writer} {framing : Option Avc.Framing} {framed : Packet}
      {relay : Relay (Except Error Unit)} {played : List Event} {outcome : Except Error Unit}
      (found : publisher.context.registry.tracks[packet.stream]? = some track)
      (opened : track.codec = some (.writer writer))
      (kept : publisher.framing[packet.stream]? = some framing) (whole : reframed framing packet = .ok framed)
      (stays : AllOf (Call.isRelayedOn track.target) played) (told : relay.outcome? played = some outcome)
      (counted : track.Counted inner) :
      Writes publisher packet (⟨.layer (.write writer.key framed), relay⟩ :: played) outcome
        { publisher with context := publisher.context.setTrack packet.stream inner }

/-- What becomes of a packet that has passed the guard, to the last counter. -/
inductive Puts (publisher : Publisher) (packet : Packet) :
    List Event → Except Error Unit → Publisher → Prop where
  | absent (beyond : publisher.context.registry.tracks.length ≤ packet.stream) :
      Puts publisher packet [] (.error (.invalidStream packet.stream)) publisher
  | malformed {framing : Option Avc.Framing} (kept : publisher.framing[packet.stream]? = some framing)
      (broken : reframed framing packet = .error (.media .invalidAccessUnit)) :
      Puts publisher packet [] (.error (.media .invalidAccessUnit)) publisher
  | put {track : Track} {writer : Writer} {framing : Option Avc.Framing} {framed : Packet}
      {relay : Relay (Except Error Unit)} {played : List Event} {outcome : Except Error Unit} {counters : Counters}
      (found : publisher.context.registry.tracks[packet.stream]? = some track)
      (opened : track.codec = some (.writer writer))
      (kept : publisher.framing[packet.stream]? = some framing) (whole : reframed framing packet = .ok framed)
      (plays : (relay.play track.target).Runs track.counters played (.ok outcome) counters) :
      Puts publisher packet (⟨.layer (.write writer.key framed), relay⟩ :: played) outcome
        { publisher with
          context := publisher.context.setTrack packet.stream
            { track with counters := Track.moving counters (outcome.toOption.map fun _ => framed) } }

theorem writePacket_puts {packet : Packet} {outcome : Except Error Unit} (ready : publisher.Ready)
    (run : (writePacket packet).Runs publisher events outcome after) :
    Context.Gate publisher.context publisher (Puts publisher packet) events outcome after := by
  refine (Context.gate_of_runs rfl run).imp fun {rest outcome after} up passes => ?_
  rw [Act.runs_get_bind, Act.runs_settle_bind] at passes
  cases kept : publisher.framing[packet.stream]? with
  | none =>
    rw [kept] at passes
    obtain ⟨rfl, rfl, rfl⟩ := passes
    rw [List.getElem?_eq_none_iff, ready.framing] at kept
    exact .absent kept
  | some framing =>
    rw [kept] at passes
    obtain ⟨_, rfl, inside⟩ := Act.runs_within.1 passes
    rcases Context.onTrack_runs_iff.1 inside with ⟨beyond, rfl, rfl, rfl⟩ | ⟨track, inner, found, rfl, writing⟩
    · exact .absent beyond
    obtain ⟨writer, opened⟩ := ready.writers up _ (List.mem_map_of_mem (List.mem_of_getElem? found))
    replace writing : (Track.write (reframed framing packet)).Runs track rest outcome inner := writing
    cases whole : reframed framing packet with
    | error cause =>
      rw [whole] at writing
      obtain ⟨rfl, rfl, rfl⟩ := Track.write_broken opened writing
      obtain ⟨_, -, -, rfl⟩ := reframed_error whole
      rw [Context.setTrack_self found]
      exact .malformed kept whole
    | ok framed =>
      rw [whole] at writing
      obtain ⟨relay, played, counters, rfl, plays, rfl⟩ := Track.write_plays opened writing
      exact .put found opened kept whole plays

theorem Puts.writes {packet : Packet} {outcome : Except Error Unit}
    (puts : Puts publisher packet events outcome after) : Writes publisher packet events outcome after := by
  cases puts with
  | absent beyond => exact .absent beyond
  | malformed kept broken =>
    obtain ⟨own, rfl, malformed, -⟩ := reframed_error broken
    exact .malformed kept malformed
  | put found opened kept whole plays =>
    have told := Relay.outcome?_played plays fresh_nil
    rw [List.append_nil] at told
    exact .written found opened kept whole (Relay.keeps_target _ _ _ plays) told rfl

theorem writePacket_gate {packet : Packet} {outcome : Except Error Unit} (ready : publisher.Ready)
    (run : (writePacket packet).Runs publisher events outcome after) :
    Context.Gate publisher.context publisher (Writes publisher packet) events outcome after :=
  (writePacket_puts ready run).imp fun _ puts => puts.writes

/-- Only counters differ after a packet. -/
def Counted (publisher after : Publisher) : Prop :=
  after.context.settings = publisher.context.settings ∧ after.streams = publisher.streams ∧
    after.framing = publisher.framing

theorem writePacket_counts {packet : Packet} {outcome : Except Error Unit}
    (run : (writePacket packet).Runs publisher events outcome after) : publisher.Counted after := by
  cases Context.gate_of_runs rfl run with
  | released down => exact ⟨rfl, rfl, rfl⟩
  | unconnected up other => exact ⟨rfl, rfl, rfl⟩
  | passed up onward =>
    rw [Act.runs_get_bind, Act.runs_settle_bind] at onward
    cases kept : publisher.framing[packet.stream]? with
    | none =>
      rw [kept] at onward
      obtain ⟨-, -, rfl⟩ := onward
      exact ⟨rfl, rfl, rfl⟩
    | some framing =>
      rw [kept] at onward
      obtain ⟨_, rfl, inside⟩ := Act.runs_within.1 onward
      rcases Context.onTrack_runs_iff.1 inside with ⟨-, -, -, rfl⟩ | ⟨track, inner, found, rfl, writing⟩
      · exact ⟨rfl, rfl, rfl⟩
      · exact ⟨Context.settings_setTrack found (Track.counted_of_write writing), rfl, rfl⟩

end Publisher

/-- What a look found that was not open. -/
def Event.refusal? : Event → Option ConnectionState
  | ⟨.host .connectionState, reported⟩ => if reported = .connected then none else some reported
  | _ => none

theorem refusal?_of_relayed {event : Event} (relayed : event.call.isRelayed = true) :
    event.refusal? = none := by
  obtain ⟨call | request | call | call, answer⟩ := event <;>
    first | rfl | (cases call <;> first | rfl | cases relayed)

/-- An operation that looks again and again: where a look finds the connection not open, nothing is asked
for any more and the operation fails with what was found. -/
inductive Heeds : List Event → Except Error α → Prop where
  | through {events : List Event} {outcome : Except Error α}
      (unrefused : ∀ event ∈ events, event.refusal? = none) :
      Heeds events outcome
  | refused {events : List Event} {reported : ConnectionState}
      (unrefused : ∀ event ∈ events, event.refusal? = none) (other : reported ≠ .connected) :
      Heeds (events ++ [⟨.host .connectionState, reported⟩]) (.error (.notConnected reported))

theorem Heeds.after {more : List Event} {outcome : Except Error α} (later : Heeds more outcome)
    (unrefused : ∀ event ∈ events, event.refusal? = none) : Heeds (events ++ more) outcome := by
  cases later with
  | through others => exact .through (List.forall_mem_append.2 ⟨unrefused, others⟩)
  | refused others other =>
    rw [← List.append_assoc]
    exact .refused (List.forall_mem_append.2 ⟨unrefused, others⟩) other

namespace Player

variable {player after : Player}

/-- A player of which every track has its reader, as long as there is a peer connection. -/
structure Ready (player : Player) : Prop where
  tracks : player.context.registry.tracks.length = offeredTracks.length
  readers : player.context.hasPeer = true →
    ∀ codec ∈ player.context.registry.tracks.map Track.codec, ∃ reader, codec = some (.reader reader)

/-- What a read of a stream that has passed the guard does. The reader of the stream is called once. -/
inductive Reads (player : Player) (index : Nat) : List Event → Except Error Packet → Player → Prop where
  | absent (beyond : player.context.registry.tracks.length ≤ index) :
      Reads player index [] (.error (.invalidStream index)) player
  | asked {track inner : Track} {reader : Reader} {relay : Relay (Except Error Packet)}
      {played : List Event} {answer : Except Error Packet}
      (found : player.context.registry.tracks[index]? = some track)
      (opened : track.codec = some (.reader reader))
      (stays : AllOf (Call.isRelayedOn track.target) played) (told : relay.outcome? played = some answer)
      (counted : track.Counted inner) :
      Reads player index (⟨.layer (.read reader.key), relay⟩ :: played)
        (answer.map fun packet => { packet with stream := track.index })
        { player with context := player.context.setTrack index inner }

/-- What a read of a stream that has passed the guard does, to the last counter. -/
inductive Takes (player : Player) (index : Nat) : List Event → Except Error Packet → Player → Prop where
  | absent (beyond : player.context.registry.tracks.length ≤ index) :
      Takes player index [] (.error (.invalidStream index)) player
  | taken {track : Track} {reader : Reader} {relay : Relay (Except Error Packet)} {played : List Event}
      {answer outcome : Except Error Packet} {counters : Counters}
      (found : player.context.registry.tracks[index]? = some track)
      (opened : track.codec = some (.reader reader))
      (plays : (relay.play track.target).Runs track.counters played (.ok answer) counters)
      (marked : outcome = answer.map fun packet => { packet with stream := track.index }) :
      Takes player index (⟨.layer (.read reader.key), relay⟩ :: played) outcome
        { player with
          context := player.context.setTrack index
            { track with counters := Track.moving counters outcome.toOption } }

theorem tryReadStream_takes {index : Nat} {outcome : Except Error Packet} (ready : player.Ready)
    (run : (tryReadStream index).Runs player events outcome after) :
    Context.Gate player.context player (Takes player index) events outcome after := by
  refine (Context.gate_of_runs rfl run).imp fun {rest outcome after} up passes => ?_
  obtain ⟨_, rfl, inside⟩ := Act.runs_within.1 passes
  rcases Context.onTrack_runs_iff.1 inside with ⟨beyond, rfl, rfl, rfl⟩ | ⟨track, inner, found, rfl, reading⟩
  · exact .absent beyond
  · obtain ⟨reader, opened⟩ := ready.readers up _ (List.mem_map_of_mem (List.mem_of_getElem? found))
    obtain ⟨relay, played, answer, counters, rfl, plays, marked, rfl⟩ := Track.read_plays opened reading
    exact .taken found opened plays marked

theorem Takes.reads {index : Nat} {outcome : Except Error Packet} (takes : Takes player index events outcome after) :
    Reads player index events outcome after := by
  cases takes with
  | absent beyond => exact .absent beyond
  | taken found opened plays marked =>
    subst marked
    have told := Relay.outcome?_played plays fresh_nil
    rw [List.append_nil] at told
    exact .asked found opened (Relay.keeps_target _ _ _ plays) told rfl

theorem tryReadStream_gate {index : Nat} {outcome : Except Error Packet} (ready : player.Ready)
    (run : (tryReadStream index).Runs player events outcome after) :
    Context.Gate player.context player (Reads player index) events outcome after :=
  (tryReadStream_takes ready run).imp fun _ takes => takes.reads

theorem Reads.heeds {index : Nat} {outcome : Except Error Packet}
    (reads : Reads player index events outcome after) :
    ∀ event ∈ events, event.refusal? = none := by
  cases reads with
  | absent beyond => simp
  | asked found opened stays told counted =>
    intro event member
    rcases List.mem_cons.1 member with rfl | later
    · rfl
    · exact refusal?_of_relayed (relayed_of_relayedOn (stays event later))

/-- A read of one stream looks once, and it leaves the place where the next read of any stream begins. -/
theorem heeds_of_gate {index : Nat} {outcome : Except Error Packet}
    (gate : Context.Gate player.context player (Reads player index) events outcome after) :
    Heeds events outcome ∧ after.next = player.next := by
  cases gate with
  | released down => exact ⟨.through (by simp), rfl⟩
  | @unconnected reported up other =>
    have none : ∀ event ∈ ([] : List Event), event.refusal? = none := by simp
    exact ⟨.refused none other, rfl⟩
  | passed up reads =>
    have looked : ∀ event ∈ [seenOpen], event.refusal? = none := by simp [seenOpen, Event.refusal?]
    refine ⟨.through (List.forall_mem_append.2 ⟨looked, reads.heeds⟩), ?_⟩
    cases reads <;> rfl

/-- Only counters differ after a read, and the place where the next one begins. -/
def Counted (player after : Player) : Prop :=
  after.context.settings = player.context.settings ∧ after.streams = player.streams

theorem composes_counted : Act.Composes fun (before : Player) _ after => before.Counted after where
  refl _ := ⟨rfl, rfl⟩
  trans one two := ⟨two.1.trans one.1, two.2.trans one.2⟩

theorem tryReadStream_counts {index : Nat} {outcome : Except Error Packet}
    (run : (tryReadStream index).Runs player events outcome after) : player.Counted after := by
  cases Context.gate_of_runs rfl run with
  | released down => exact composes_counted.refl _
  | unconnected up other => exact composes_counted.refl _
  | passed up onward =>
    obtain ⟨_, rfl, inside⟩ := Act.runs_within.1 onward
    rcases Context.onTrack_runs_iff.1 inside with ⟨-, -, -, rfl⟩ | ⟨track, inner, found, rfl, reading⟩
    · exact composes_counted.refl _
    · exact ⟨Context.settings_setTrack found (Track.counted_of_read reading), rfl⟩

theorem reading_counted : Reading fun before _ after => before.Counted after where
  composes := composes_counted
  stream _ _ _ run := tryReadStream_counts run
  waits _ _ := composes_counted.refl _
  begins := ⟨rfl, rfl⟩

theorem Ready.of_counted (ready : player.Ready) (counted : player.Counted after) : after.Ready := by
  obtain ⟨codecs, up⟩ := Context.codecs_of_settings counted.1
  have size := congrArg List.length codecs
  rw [List.length_map, List.length_map] at size
  refine ⟨size.trans ready.tracks, fun still => ?_⟩
  rw [codecs]
  exact ready.readers (up.symm.trans still)

/-- Streams that are tried one after the other, each behind the guard. The first one that has a packet or
fails for good ends it, and only a packet moves the place where the next read begins. -/
inductive Tries (count : Nat) : List Nat → Player → List Event → Except Error Packet → Player → Prop where
  | exhausted {player : Player} : Tries count [] player [] (.error .wouldBlock) player
  | taken {index : Nat} {rest : List Nat} {player after : Player} {events : List Event} {packet : Packet}
      (gate : Context.Gate player.context player (Reads player index) events (.ok packet) after) :
      Tries count (index :: rest) player events (.ok packet) { after with next := (index + 1) % count }
  | failed {index : Nat} {rest : List Nat} {player after : Player} {events : List Event} {cause : Error}
      (gate : Context.Gate player.context player (Reads player index) events (.error cause) after)
      (final : cause ≠ .wouldBlock) : Tries count (index :: rest) player events (.error cause) after
  | blocked {index : Nat} {rest : List Nat} {player middle after : Player} {early late : List Event}
      {outcome : Except Error Packet}
      (gate : Context.Gate player.context player (Reads player index) early (.error .wouldBlock) middle)
      (later : Tries count rest middle late outcome after) :
      Tries count (index :: rest) player (early ++ late) outcome after

theorem tryEach_tries {count : Nat} {indices : List Nat} {outcome : Except Error Packet} (ready : player.Ready)
    (run : (tryEach count indices).Runs player events outcome after) :
    Tries count indices player events outcome after := by
  induction indices generalizing player events with
  | nil =>
    obtain ⟨rfl, rfl, rfl⟩ := Act.runs_fail.1 run
    exact .exhausted
  | cons index rest ih =>
    obtain ⟨first, inner, middle, second, rfl, reading, onward⟩ := Act.runs_attempt_bind.1 run
    have gate := tryReadStream_gate ready reading
    have still := ready.of_counted (tryReadStream_counts reading)
    split at onward
    · have last := Act.runs_modify_bind.1 onward
      obtain ⟨rfl, rfl, rfl⟩ := Act.runs_pure.1 last
      rw [List.append_nil]
      exact .taken gate
    · exact .blocked gate (ih still onward)
    · next cause final =>
      obtain ⟨rfl, rfl, rfl⟩ := Act.runs_fail.1 onward
      rw [List.append_nil]
      exact .failed gate final

/-- An operation that looks again and again stops at the first look that finds the connection not open. One
that fails leaves the place where the next read begins. -/
theorem Tries.heeds {count : Nat} {indices : List Nat} {outcome : Except Error Packet}
    (tries : Tries count indices player events outcome after) :
    Heeds events outcome ∧ ∀ cause, outcome = .error cause → after.next = player.next := by
  induction tries with
  | exhausted => exact ⟨.through (by simp), fun _ _ => rfl⟩
  | taken gate =>
    cases (heeds_of_gate gate).1 with
    | through unrefused => exact ⟨.through unrefused, nofun⟩
  | failed gate final =>
    obtain ⟨heeds, still⟩ := heeds_of_gate gate
    exact ⟨heeds, fun _ _ => still⟩
  | blocked gate later ih =>
    obtain ⟨heeds, still⟩ := heeds_of_gate gate
    cases heeds with
    | through unrefused => exact ⟨ih.1.after unrefused, fun cause failed => (ih.2 cause failed).trans still⟩

theorem tryRead_tries {outcome : Except Error Packet} (ready : player.Ready)
    (run : tryRead.Runs player events outcome after) :
    Tries offeredTracks.length (order player.next offeredTracks.length) player events outcome after := by
  rw [← ready.tracks]
  exact tryEach_tries ready (Act.runs_get_bind.1 run)

/-- Where streams are tried, the guard of the first one comes first. -/
theorem Tries.gate {count index : Nat} {rest : List Nat} {outcome : Except Error Packet}
    (tries : Tries count (index :: rest) player events outcome after) :
    Context.Gate player.context player (fun later outcome after =>
      Tries count (index :: rest) player (seenOpen :: later) outcome after) events outcome after := by
  have whole := tries
  cases tries with
  | taken gate =>
    cases gate with
    | passed up reads => exact .passed up whole
  | failed gate final =>
    cases gate with
    | released down => exact .released down
    | unconnected up other => exact .unconnected up other
    | passed up reads => exact .passed up whole
  | blocked gate later =>
    cases gate with
    | passed up reads => exact .passed up whole

theorem tryRead_gate {outcome : Except Error Packet} (ready : player.Ready)
    (run : tryRead.Runs player events outcome after) :
    Context.Gate player.context player (fun later outcome after =>
      Tries offeredTracks.length (order player.next offeredTracks.length) player (seenOpen :: later) outcome
        after) events outcome after :=
  (tryRead_tries ready run).gate

theorem readUntil_heeds {deadline clock : Nat} {outcome : Except Error Packet} (ready : player.Ready)
    (run : (readUntil deadline clock).Runs player events outcome after) :
    Heeds events outcome ∧ ∀ cause, outcome = .error cause → after.next = player.next := by
  induction clock using readUntil.induct deadline generalizing player events with
  | _ clock ih =>
    rw [readUntil] at run
    obtain ⟨first, inner, middle, second, rfl, reading, onward⟩ := Act.runs_attempt_bind.1 run
    obtain ⟨heeds, still⟩ := (tryRead_tries ready reading).heeds
    have counted := reading_counted.tryRead _ _ _ reading
    split at onward
    · obtain ⟨rfl, rfl, rfl⟩ := Act.runs_pure.1 onward
      rw [List.append_nil]
      exact ⟨heeds, fun cause failed => by cases failed⟩
    · have stays := still _ rfl
      cases heeds with
      | through unrefused =>
        -- Between two reads nothing is looked at.
        obtain ⟨stopped, _, rfl, asked⟩ := Act.runs_ask_bind.1 onward
        cases stopped with
        | true =>
          obtain ⟨rfl, rfl, rfl⟩ := Act.runs_fail.1 asked
          exact ⟨.through (List.forall_mem_append.2 ⟨unrefused, by simp [Event.refusal?]⟩), fun _ _ => stays⟩
        | false =>
          obtain ⟨time, _, rfl, timed⟩ := Act.runs_ask_bind.1 asked
          by_cases late : deadline ≤ time.val
          · rw [dif_pos late] at timed
            obtain ⟨rfl, rfl, rfl⟩ := Act.runs_fail.1 timed
            exact ⟨.through (List.forall_mem_append.2 ⟨unrefused, by simp [Event.refusal?]⟩), fun _ _ => stays⟩
          · rw [dif_neg late] at timed
            obtain ⟨later, rest, rfl, slept⟩ := Act.runs_ask_bind.1 timed
            obtain ⟨again, kept⟩ := ih time late later (ready.of_counted counted) slept
            have waits : ∀ event ∈ [⟨.host .isCancelled, false⟩, ⟨.host (.now clock), time⟩,
                (⟨.host (.sleep time.val Wait.pause), later⟩ : Event)], event.refusal? = none := by
              simp [Event.refusal?]
            exact ⟨(again.after waits).after unrefused, fun cause failed => (kept cause failed).trans stays⟩
    · obtain ⟨rfl, rfl, rfl⟩ := Act.runs_fail.1 onward
      rw [List.append_nil]
      exact ⟨heeds, still⟩

/-- A read notes the time, and then it begins with the guard. -/
theorem read_gate {outcome : Except Error Packet} (ready : player.Ready)
    (run : Player.read.Runs player events outcome after) :
    ∃ start rest, events = ⟨.host (.now 0), start⟩ :: rest ∧
      Context.Gate player.context player (fun rest outcome after => Heeds (seenOpen :: rest) outcome ∧
        ∀ cause, outcome = .error cause → after.next = player.next) rest outcome after := by
  obtain ⟨start, rest, rfl, -, started⟩ := runs_read.1 run
  refine ⟨start, rest, rfl, ?_⟩
  have heeds := readUntil_heeds ready started
  rw [readUntil] at started
  obtain ⟨first, inner, middle, second, rfl, reading, onward⟩ := Act.runs_attempt_bind.1 started
  cases tryRead_gate ready reading with
  | released down =>
    obtain ⟨rfl, rfl, rfl⟩ := Act.runs_fail.1 onward
    exact .released down
  | unconnected up other =>
    obtain ⟨rfl, rfl, rfl⟩ := Act.runs_fail.1 onward
    exact .unconnected up other
  | passed up reads => exact .passed up heeds

end Player
end WhipWhep
