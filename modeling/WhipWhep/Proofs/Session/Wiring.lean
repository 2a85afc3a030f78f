import WhipWhep.Proofs.Session.Lasting
import WhipWhep.Proofs.Track.Wiring

/-!
How a publisher is wired. Each of its streams has a writer of its own and a track of its own, both at the
index of the stream. A packet of a stream goes to that writer, and what the writer sends goes to that track.
-/

namespace WhipWhep

variable {events more : List Event}

/-- The writer that an event opens, and what it is opened for. Whether the layer has opened one shows in the
events after the call to it. -/
def Event.writer? : Event → List Event → Option (StreamParams × Nat × Writer)
  | ⟨.layer (.openWriter params index _), relay⟩, rest =>
    (relay.opened? rest).map fun writer => (params, index, writer)
  | _, _ => none

/-- The writers that were opened, in order. -/
def openedWriters : List Event → List (StreamParams × Nat × Writer)
  | [] => []
  | event :: rest => (event.writer? rest).toList ++ openedWriters rest

/-- A track that the engine was asked to add, and what the engine said. -/
def Event.adding? : Event → Option (TrackInit × Except EngineError Handle)
  | ⟨.engine (.addTrack init), answer⟩ => some (init, answer)
  | _ => none

/-- Every call that was to add a track, in order. -/
def additions (events : List Event) : List (TrackInit × Except EngineError Handle) :=
  events.filterMap Event.adding?

/-- The requests that neither open a writer nor add a track. -/
def Call.isPlain : Call → Bool
  | .layer (.openWriter _ _ _) => false
  | .engine (.addTrack _) => false
  | _ => true

theorem writer?_of_plain {event : Event} (plain : event.call.isPlain = true) (rest : List Event) :
    event.writer? rest = none ∧ event.adding? = none := by
  obtain ⟨call | request | call | call, answer⟩ := event <;>
    first | exact ⟨rfl, rfl⟩ | (cases call <;> first | exact ⟨rfl, rfl⟩ | cases plain)

theorem plain_of_relayed {call : Call} (relayed : call.isRelayed = true) : call.isPlain = true := by
  unfold Call.isPlain
  split <;> first | rfl | cases relayed

theorem plain_of_exchanging {call : Call} (exchanging : call.isExchanging = true) : call.isPlain = true := by
  unfold Call.isPlain
  split <;> first | rfl | cases exchanging

theorem plain_of_waiting {call : Call} (waiting : call.isWaiting = true) : call.isPlain = true := by
  unfold Call.isPlain
  split <;> first | rfl | cases waiting

theorem openedWriters_plain {rest : List Event} (plain : AllOf Call.isPlain events) :
    openedWriters (events ++ rest) = openedWriters rest := by
  induction events with
  | nil => rfl
  | cons event later ih =>
    rw [List.cons_append, openedWriters, (writer?_of_plain (plain event List.mem_cons_self) _).1]
    exact ih fun other member => plain other (List.mem_cons_of_mem _ member)

theorem additions_plain (plain : AllOf Call.isPlain events) : additions events = [] :=
  List.filterMap_eq_nil_iff.2 fun event member => (writer?_of_plain (plain event member) []).2

/-- The writers that events open and the tracks that they ask for, whatever comes after them. -/
structure Logs (events : List Event) (writers : List (StreamParams × Nat × Writer))
    (tracks : List (TrackInit × Except EngineError Handle)) : Prop where
  fresh : Fresh events
  writers : ∀ {rest : List Event}, Fresh rest → openedWriters (events ++ rest) = writers ++ openedWriters rest
  tracks : additions events = tracks

namespace Logs

variable {writers others : List (StreamParams × Nat × Writer)}
  {tracks further : List (TrackInit × Except EngineError Handle)}

theorem append (first : Logs events writers tracks) (second : Logs more others further) :
    Logs (events ++ more) (writers ++ others) (tracks ++ further) where
  fresh := first.fresh.append second.fresh
  writers fresh := by
    rw [List.append_assoc, first.writers (second.fresh.append fresh), second.writers fresh, List.append_assoc]
  tracks := by rw [additions, List.filterMap_append, ← first.tracks, ← second.tracks, additions, additions]

theorem plain (fresh : Fresh events) (plain : AllOf Call.isPlain events) : Logs events [] [] where
  fresh := fresh
  writers _ := openedWriters_plain plain
  tracks := additions_plain plain

/-- A call that opens a writer, with what the layer does before it returns. -/
theorem opening {params : StreamParams} {index : Nat} (transport : TransportInfo) {writer : Writer}
    {relay : Relay (Except Error Writer)} {played : List Event} (relayed : AllOf Call.isRelayed played)
    (told : ∀ {rest}, Fresh rest → relay.opened? (played ++ rest) = some writer) :
    Logs (⟨.layer (.openWriter params index transport), relay⟩ :: played) [(params, index, writer)] [] where
  fresh := fresh_cons rfl
  writers fresh := by
    rw [List.cons_append, openedWriters, Event.writer?, told fresh,
      openedWriters_plain (relayed.weaken plain_of_relayed)]
    rfl
  tracks := by
    rw [additions, List.filterMap_cons]
    exact additions_plain (relayed.weaken plain_of_relayed)

theorem adding (init : TrackInit) (answer : Except EngineError Handle) :
    Logs [⟨.engine (.addTrack init), answer⟩] [] [(init, answer)] where
  fresh := fresh_cons rfl
  writers _ := rfl
  tracks := rfl

/-- At the end of a run nothing follows. -/
theorem total (logs : Logs events writers tracks) : openedWriters events = writers := by
  have all := logs.writers fresh_nil
  simpa [openedWriters] using all

end Logs

/-- The time base of a published stream: the RTP clock of video, or the samples of audio. -/
def StreamParams.clock (params : StreamParams) : TimeBase :=
  match params.kind with
  | .video => ⟨1, 90000⟩
  | .audio => ⟨1, params.sampleRate⟩

/-- What the stream at one index is published through. -/
structure Line where
  params : StreamParams
  codec : EngineCodec
  writer : Writer
  profile : Option String
  handle : Handle

namespace Line

/-- A stream as it is published, which is as the caller has it but for the time base. -/
def published (line : Line) : StreamParams := { line.params with timeBase := line.params.clock }

/-- The track of a stream as the engine is asked to add it. -/
def announced (msid : String) (index : Nat) (line : Line) : TrackInit where
  direction := .sendOnly
  codec := line.codec
  payloadType := line.writer.payloadType
  ssrc := line.writer.ssrc
  mid := numeral index
  name := Context.trackName
  msid := msid
  trackId := msid ++ "-" ++ line.params.kind.name ++ "-" ++ numeral index
  profile := line.profile

/-- The track of a stream, once it is wired. -/
def track (line : Line) (index timeout : Nat) (counters : Counters) : Track where
  index := index
  handle := some line.handle
  binding := some ⟨index, timeout, some line.handle⟩
  codec := some (.writer line.writer)
  params := some line.published
  counters := counters

/-- What a line has from its stream: the codec of the track, and the format parameters with which the track
is advertised. -/
structure Suits (line : Line) : Prop where
  codec : EngineCodec.ofCodec? line.params.codec = some line.codec
  profile : ∃ format, Sdp.advertisedFormat line.published line.writer.payloadType = .ok format ∧
    line.profile = format.map String.ofList

/-- A track that is wired as a line at an index has it. -/
structure LeadsTo (line : Line) (index : Nat) (track : Track) : Prop where
  index : track.index = index
  handle : track.handle = some line.handle
  writer : track.codec = some (.writer line.writer)
  target : track.target = some line.handle

end Line

namespace Context

variable {α : Type} {context after : Context} {index : Nat}

theorem onTrack_ok {act : Act Track α} {result : α}
    (run : (Context.onTrack index act).Runs context events (.ok result) after) :
    ∃ track inner, context.registry.tracks[index]? = some track ∧ after = context.setTrack index inner ∧
      act.Runs track events (.ok result) inner := by
  rcases onTrack_runs_iff.1 run with ⟨-, -, wrong, -⟩ | acted
  · cases wrong
  · exact acted

/-- What is done on a track is done on the one that is there by now. -/
theorem onTrack_again {act : Act Track α} {result : α} {track other : Track}
    (present : context.registry.tracks[index]? = some other)
    (run : (Context.onTrack index act).Runs (context.setTrack index track) events (.ok result) after) :
    ∃ changed, act.Runs track events (.ok result) changed ∧ after = context.setTrack index changed := by
  obtain ⟨_, changed, found, rfl, acted⟩ := onTrack_ok run
  cases (getElem?_setTrack present).symm.trans found
  exact ⟨changed, acted, setTrack_setTrack⟩

/-- What needs a peer connection, and has succeeded, has come to what needs it. -/
theorem requirePeer_ok {next : Act Context α} {result : α}
    (run : (requirePeer >>= fun _ => next).Runs context events (.ok result) after) :
    next.Runs context events (.ok result) after := by
  obtain ⟨_, _, _, _, rfl, passed, onward⟩ := Act.runs_bind_ok run
  obtain ⟨rfl, rfl, -⟩ := requirePeer_up passed
  exact onward

theorem bindTrack_ok {binding : Binding} (run : (bindTrack index).Runs context events (.ok binding) after) :
    (Context.onTrack index (Track.setBinding (.fresh index context.config.rwTimeout))).Runs context events
      (.ok binding) after :=
  Act.runs_get_bind.1 (requirePeer_ok run)

theorem addTrack_ok {init : TrackInit} {handle : Handle}
    (run : (addTrack index init).Runs context events (.ok handle) after) :
    (Context.onTrack index (Track.add init)).Runs context events (.ok handle) after :=
  requirePeer_ok run

theorem createResource_ok (run : createResource.Runs context events (.ok ()) after) :
    ∃ exchange, after = { context with exchange := exchange } ∧
      Exchange.Creates Url.join context.exchange events (.ok ()) exchange := by
  obtain ⟨exchange, rfl, inside⟩ := Act.runs_within.1 (requirePeer_ok run)
  exact ⟨exchange, rfl, Exchange.creates_of_runs inside⟩

/-- A wait that succeeds notes how long the connection took, and nothing else. -/
theorem waitConnected_ok (run : waitConnected.Runs context events (.ok ()) after) :
    ∃ time, after = { context with timeToConnect := some time } := by
  unfold waitConnected at run
  rw [Act.runs_get_bind] at run
  obtain ⟨_, _, _, _, rfl, waited, onward⟩ := Act.runs_bind_ok run
  obtain ⟨rfl, -, -⟩ := Wait.connected_waits waited
  rw [Act.runs_get_bind] at onward
  obtain ⟨now, _, rfl, timed⟩ := Act.runs_ask_bind.1 onward
  obtain ⟨-, -, rfl⟩ := Act.runs_modify.1 timed
  exact ⟨_, rfl⟩

/-- Where only counters differ, each track is the one before but for its counters. -/
theorem counted_of_settings {track : Track} (same : after.settings = context.settings)
    (found : after.registry.tracks[index]? = some track) :
    ∃ before, context.registry.tracks[index]? = some before ∧ before.Counted track := by
  have tracks := congrArg (fun context => context.registry.tracks[index]?) same
  simp only [settings, List.getElem?_map, found, Option.map_some] at tracks
  obtain ⟨before, there, counted⟩ := Option.map_eq_some_iff.1 tracks.symm
  exact ⟨before, there, counted.symm⟩

/-- A session begins with tracks on which nothing was done. -/
theorem Begins.bare {config : ClientConfig} {count : Nat} (begins : Begins config count events context) :
    Logs events [] [] ∧ context.registry = .allocate count := by
  cases begins with
  | begun valid bits started => exact ⟨.plain (fresh_cons rfl) (by simp [AllOf, Call.isPlain]), rfl⟩

end Context

/-- An act of a publisher is one of the session that it is. -/
theorem Client.runs_publisher {α : Type} {cause : Error} {act : Act Publisher α} {session : Publisher}
    {after : Client} {outcome : Except Error α}
    (run : (Client.asPublisher cause act).Runs (.publisher session) events outcome after) :
    ∃ inner, after = .publisher inner ∧ act.Runs session events outcome inner := by
  obtain ⟨_, ⟨result, inner⟩, _, rfl, inside, rest⟩ := Script.yields_bind_iff.1 run
  obtain ⟨rfl, same⟩ := Script.yields_done_iff.1 rest
  obtain ⟨rfl, rfl⟩ := Prod.mk.inj same
  rw [List.append_nil]
  exact ⟨inner, rfl, inside⟩

namespace Publisher

variable {publisher after : Publisher} {params : StreamParams} {index : Nat}

/-- A publisher in which the track of one stream and its framing are other ones. -/
structure Differs (start : Publisher) (index : Nat) (track : Track) (own : Option Avc.Framing)
    (after : Publisher) : Prop where
  context : after.context = start.context.setTrack index track
  streams : after.streams = start.streams
  framing : after.framing = start.framing.set index own

theorem timed_eq : timed params = { params with timeBase := params.clock } := by
  obtain ⟨kind⟩ := params
  cases kind <;> rfl

/-- All that adding a stream does, with what the layer did on the transport while it opened the writer. -/
theorem addStream_plays (bare : publisher.context.registry.tracks[index]? = some (.fresh index))
    (run : (addStream params index).Runs publisher events (.ok ()) after) :
    ∃ (line : Line) (own : Option Avc.Framing) (relay : Relay (Except Error Writer)) (played : List Event)
        (counters : Counters),
      line.params = params ∧ line.Suits ∧ framingOf params = .ok own ∧
      events =
        ⟨.layer (.openWriter line.published index ⟨publisher.context.config.rwTimeout, maxPacketSize⟩), relay⟩ ::
        (played ++ [⟨.engine (.addTrack (line.announced publisher.context.msid index)), .ok line.handle⟩]) ∧
      (relay.play none).Runs .zero played (.ok (.ok line.writer)) counters ∧
      after =
        { context := publisher.context.setTrack index
            (line.track index publisher.context.config.rwTimeout counters)
          streams := publisher.streams.set index line.published
          framing := publisher.framing.set index own } := by
  unfold addStream at run
  rw [timed_eq] at run
  obtain ⟨_, binding, _, _, rfl, binds, bound⟩ := Act.runs_bind_ok (Act.runs_modify_bind.1 run)
  obtain ⟨_, rfl, ties⟩ := Act.runs_within.1 binds
  obtain ⟨_, tied, found, rfl, tying⟩ := Context.onTrack_ok (Context.bindTrack_ok ties)
  cases bare.symm.trans found
  obtain rfl := Track.setBinding_loose rfl tying
  obtain ⟨rfl, rfl⟩ := Track.setBinding_ok tying
  obtain ⟨_, writer, _, _, rfl, opens, opened⟩ := Act.runs_bind_ok bound
  obtain ⟨_, rfl, voicing⟩ := Act.runs_within.1 opens
  obtain ⟨voiced, opening, rfl⟩ := Context.onTrack_again bare voicing
  obtain ⟨relay, played, counters, rfl, rfl, plays⟩ := Track.opening_plays opening
  obtain ⟨_, profile, _, _, rfl, formats, formatted⟩ := Act.runs_bind_ok opened
  obtain ⟨rfl, advertised, rfl⟩ := Act.runs_settle.1 formats
  obtain ⟨_, own, _, _, rfl, frames, framed⟩ := Act.runs_bind_ok formatted
  obtain ⟨rfl, asked, rfl⟩ := Act.runs_settle.1 frames
  obtain ⟨_, codec, _, _, rfl, chooses, chosen⟩ := Act.runs_bind_ok (Act.runs_modify_bind.1 framed)
  obtain ⟨rfl, known, rfl⟩ := Act.runs_settle.1 chooses
  obtain ⟨_, handle, _, _, rfl, adds, added⟩ := Act.runs_bind_ok (Act.runs_get_bind.1 chosen)
  obtain ⟨_, rfl, joining⟩ := Act.runs_within.1 adds
  obtain ⟨joined, adding, rfl⟩ := Context.onTrack_again bare (Context.addTrack_ok joining)
  obtain ⟨rfl, rfl⟩ := Track.add_ok adding
  obtain ⟨_, rfl, setting⟩ := Act.runs_within.1 added
  obtain ⟨last, sets, rfl⟩ := Context.onTrack_again bare setting
  obtain ⟨rfl, -, rfl⟩ := Act.runs_modify.1 sets
  let line : Line := ⟨params, codec, writer, profile.map String.ofList, handle⟩
  have suits : line.Suits :=
    ⟨demand_eq_ok_iff.1 known.symm, profile, mapError_eq_ok_iff.1 advertised.symm, rfl⟩
  refine ⟨line, own, relay, played, counters, rfl, suits, mapError_eq_ok_iff.1 asked.symm, ?_, plays, rfl⟩
  simp only [List.nil_append, List.append_nil, List.cons_append]
  rfl

/-- A stream that could be added has a line of its own, from its writer to its track. -/
theorem addStream_ok (bare : publisher.context.registry.tracks[index]? = some (.fresh index))
    (run : (addStream params index).Runs publisher events (.ok ()) after) :
    ∃ (line : Line) (track : Track) (own : Option Avc.Framing), line.params = params ∧ line.Suits ∧
      framingOf params = .ok own ∧ line.LeadsTo index track ∧
      Logs events [(line.published, index, line.writer)]
        [(line.announced publisher.context.msid index, .ok line.handle)] ∧
      Differs { publisher with streams := publisher.streams.set index line.published } index track own after := by
  obtain ⟨line, own, relay, played, counters, same, suits, asked, rfl, plays, rfl⟩ := addStream_plays bare run
  refine ⟨line, _, own, same, suits, asked, ⟨rfl, rfl, rfl, rfl⟩, ?_, ⟨rfl, rfl, rfl⟩⟩
  have opens : Logs _ [(line.published, index, line.writer)] [] :=
    .opening ⟨publisher.context.config.rwTimeout, maxPacketSize⟩ (Relay.keeps_play _ _ _ plays)
      (Relay.opened?_played plays)
  exact opens.append (Logs.adding (line.announced publisher.context.msid index) (.ok line.handle))

/-- A publisher of which the first streams have their lines, and the others are as they were given. -/
structure Strung (lines : List Line) (rest : List StreamParams) (publisher : Publisher) : Prop where
  up : publisher.context.hasPeer = true
  tracks : publisher.context.registry.tracks.length = lines.length + rest.length
  framing : publisher.framing.length = lines.length + rest.length
  streams : publisher.streams = lines.map Line.published ++ rest
  leads : ∀ {index : Nat} {line : Line}, lines[index]? = some line →
    ∃ track, publisher.context.registry.tracks[index]? = some track ∧ line.LeadsTo index track
  framed : ∀ {index : Nat} {line : Line}, lines[index]? = some line →
    ∃ own, framingOf line.params = .ok own ∧ publisher.framing[index]? = some own
  bare : ∀ index, lines.length ≤ index → index < lines.length + rest.length →
    publisher.context.registry.tracks[index]? = some (.fresh index)

variable {lines : List Line} {rest : List StreamParams}

/-- A stream that is added takes the place after those that have their lines. -/
theorem Strung.next {line : Line} {track : Track} {own : Option Avc.Framing}
    (strung : Strung lines (line.params :: rest) publisher) (leads : line.LeadsTo lines.length track)
    (asked : framingOf line.params = .ok own)
    (differs : Differs { publisher with streams := publisher.streams.set lines.length line.published }
      lines.length track own after) :
    Strung (lines ++ [line]) rest after where
  up := by rw [differs.context]; exact strung.up
  tracks := by
    rw [differs.context, Context.length_setTrack, strung.tracks]
    simp only [List.length_append, List.length_cons, List.length_nil]
    omega
  framing := by
    rw [differs.framing, List.length_set, strung.framing]
    simp only [List.length_append, List.length_cons, List.length_nil]
    omega
  streams := by
    rw [differs.streams, strung.streams]
    simp
  leads {index other} found := by
    rw [differs.context]
    by_cases last : index = lines.length
    · subst last
      rw [List.getElem?_concat_length] at found
      cases found
      have bare := strung.bare lines.length (Nat.le_refl _) (by rw [List.length_cons]; omega)
      exact ⟨track, Context.getElem?_setTrack bare, leads⟩
    · obtain ⟨present, -⟩ := List.getElem?_eq_some_iff.1 found
      rw [List.length_append, List.length_singleton] at present
      rw [List.getElem?_append_left (by omega)] at found
      obtain ⟨early, there, wired⟩ := strung.leads found
      rw [Context.getElem?_setTrack_ne (Ne.symm last)]
      exact ⟨early, there, wired⟩
  framed {index other} found := by
    rw [differs.framing]
    by_cases last : index = lines.length
    · subst last
      rw [List.getElem?_concat_length] at found
      cases found
      have within : lines.length < publisher.framing.length := by
        rw [strung.framing, List.length_cons]
        omega
      exact ⟨own, asked, List.getElem?_set_self within⟩
    · obtain ⟨present, -⟩ := List.getElem?_eq_some_iff.1 found
      rw [List.length_append, List.length_singleton] at present
      rw [List.getElem?_append_left (by omega)] at found
      rw [List.getElem?_set_ne (Ne.symm last)]
      exact strung.framed found
  bare index beyond within := by
    rw [List.length_append, List.length_singleton] at beyond within
    have apart : lines.length ≠ index := by omega
    rw [differs.context, Context.getElem?_setTrack_ne apart]
    exact strung.bare index (by omega) (by rw [List.length_cons]; omega)

/-- The writers of lines, as they are opened one after the other. -/
def voices (lines : List Line) (index : Nat) : List (StreamParams × Nat × Writer) :=
  (lines.zipIdx index).map fun (line, index) => (line.published, index, line.writer)

/-- The tracks of lines, as they are added one after the other. -/
def places (msid : String) (lines : List Line) (index : Nat) : List (TrackInit × Except EngineError Handle) :=
  (lines.zipIdx index).map fun (line, index) => (line.announced msid index, .ok line.handle)

theorem addStreams_ok (strung : Strung lines rest publisher)
    (run : ((rest.zipIdx lines.length).forM fun (params, index) => addStream params index).Runs publisher events
      (.ok ()) after) :
    ∃ others : List Line, others.map Line.params = rest ∧ (∀ line ∈ others, line.Suits) ∧
      Strung (lines ++ others) [] after ∧ after.context.msid = publisher.context.msid ∧
      Logs events (voices others lines.length) (places publisher.context.msid others lines.length) := by
  -- The streams that are left begin at the index after the lines that there are by then.
  induction rest generalizing lines publisher events with
  | nil =>
    obtain ⟨rfl, -, rfl⟩ := Act.runs_pure.1 run
    exact ⟨[], rfl, by simp, by simpa using strung, rfl, .plain fresh_nil .nil⟩
  | cons params rest ih =>
    obtain ⟨_, _, middle, _, rfl, adds, onward⟩ := Act.runs_bind_ok run
    have bare := strung.bare lines.length (Nat.le_refl _) (by rw [List.length_cons]; omega)
    obtain ⟨line, track, own, rfl, suits, asked, leads, logs, differs⟩ := addStream_ok bare adds
    have next := strung.next leads asked differs
    have msid : middle.context.msid = publisher.context.msid :=
      (congrArg Context.msid differs.context).trans rfl
    have size : (lines ++ [line]).length = lines.length + 1 := List.length_append
    replace onward : Act.Runs ((rest.zipIdx (lines.length + 1)).forM fun (params, index) =>
      addStream params index) middle _ (.ok ()) after := onward
    rw [← size] at onward
    obtain ⟨others, rfl, suit, wired, still, more⟩ := ih next onward
    rw [size, msid] at more
    refine ⟨line :: others, rfl, List.forall_mem_cons.2 ⟨suits, suit⟩, ?_, still.trans msid, logs.append more⟩
    rw [← List.append_cons] at wired
    exact wired

/-- The exchange and the wait leave all lines as they are. -/
theorem Strung.beside (strung : Strung lines rest publisher) {context : Context}
    (peer : context.hasPeer = publisher.context.hasPeer)
    (registry : context.registry = publisher.context.registry) :
    Strung lines rest { publisher with context := context } where
  up := peer.trans strung.up
  tracks := registry ▸ strung.tracks
  framing := strung.framing
  streams := strung.streams
  leads := registry ▸ strung.leads
  framed := strung.framed
  bare := registry ▸ strung.bare

theorem setup_ok (strung : Strung [] rest publisher) (given : publisher.streams = rest)
    (run : setup.Runs publisher events (.ok ()) after) :
    ∃ lines : List Line, lines.map Line.params = rest ∧ (∀ line ∈ lines, line.Suits) ∧ Strung lines [] after ∧
      Logs events (voices lines 0) (places publisher.context.msid lines 0) := by
  unfold setup at run
  rw [Act.runs_get_bind, given] at run
  obtain ⟨_, _, ready, _, rfl, adds, onward⟩ := Act.runs_bind_ok run
  obtain ⟨lines, params, suit, wired, -, logs⟩ := addStreams_ok strung adds
  obtain ⟨_, _, _, _, rfl, creating, waiting⟩ := Act.runs_bind_ok onward
  obtain ⟨_, rfl, creates⟩ := Act.runs_within.1 creating
  obtain ⟨exchange, rfl, created⟩ := Context.createResource_creates wired.up creates
  obtain ⟨_, rfl, waits⟩ := Act.runs_within.1 waiting
  obtain ⟨time, rfl⟩ := Context.waitConnected_ok waits
  have exchanged : Logs _ [] [] :=
    .plain (fresh_of_kind created.exchanging idle_of_exchanging) (created.exchanging.weaken plain_of_exchanging)
  have kind := (Context.waitConnected_waits waits).1.ofKind
  have waited : Logs _ [] [] := .plain (fresh_of_kind kind idle_of_waiting) (kind.weaken plain_of_waiting)
  refine ⟨lines, params, suit, (wired.beside rfl rfl).beside rfl rfl, ?_⟩
  have all := logs.append (exchanged.append waited)
  rwa [List.append_nil, List.append_nil, List.append_nil, List.append_nil] at all

theorem strung_of_begins {config : ClientConfig} {streams : List StreamParams} {context : Context}
    (begins : Context.Begins config streams.length events context) :
    Strung [] streams ⟨context, streams, streams.map fun _ => none⟩ := by
  have registry := begins.bare.2
  refine ⟨begins.accounts.2, ?_, ?_, rfl, nofun, nofun, fun index _ within => ?_⟩
  · simp [registry, Registry.allocate]
  · simp
  · rw [List.length_nil, Nat.zero_add] at within
    simp [registry, Registry.allocate, within]

/-- What the opening of a publisher has come to: each stream has its line, which was opened and added in its
turn. -/
structure Wired (streams : List StreamParams) (opening : List Event) (publisher : Publisher) (msid : String)
    (lines : List Line) : Prop where
  params : lines.map Line.params = streams
  codecs : ∀ line ∈ lines, EngineCodec.ofCodec? line.params.codec = some line.codec
  writers : openedWriters opening = voices lines 0
  tracks : additions opening = places msid lines 0
  published : publisher.streams = lines.map Line.published

theorem wired_of_opened {config : ClientConfig} {streams : List StreamParams} {opening : List Event}
    (opened : (openSession config streams).Runs () opening (.ok publisher) ()) :
    ∃ msid lines, Wired streams opening publisher msid lines ∧ Strung lines [] publisher := by
  have opens := Client.opens_of_publisher opened
  generalize same : (Except.ok publisher).map Client.publisher = outcome at opens
  cases opens with
  | unfit | unbegun | unopened => cases same
  | @opened _ _ context _ fit begins sets =>
    cases same
    cases sets with
    | ingest run =>
      obtain ⟨lines, params, suit, wired, logs⟩ := setup_ok (strung_of_begins begins) rfl run
      have all := begins.bare.1.append logs
      have codecs := fun line member => (suit line member).codec
      exact ⟨_, lines, ⟨params, codecs, all.total, all.tracks, by simpa using wired.streams⟩, wired⟩

/-- What becomes of a packet that has passed the guard. It goes to the writer of its stream, if it can be
framed, and all that the layer then does stays on the track of the stream. -/
inductive Carries (lines : List Line) (packet : Packet) (client : Client) :
    List Event → Except Error Unit → Client → Prop where
  | absent (beyond : lines.length ≤ packet.stream) :
      Carries lines packet client [] (.error (.invalidStream packet.stream)) client
  | malformed {line : Line} (found : lines[packet.stream]? = some line) :
      Carries lines packet client [] (.error (.media .invalidAccessUnit)) client
  | carried {line : Line} {payload : Bytes} {relay : Relay (Except Error Unit)} {played : List Event}
      {outcome : Except Error Unit} {after : Client} (found : lines[packet.stream]? = some line)
      (stays : AllOf (Call.isRelayedOn (some line.handle)) played)
      (told : relay.outcome? played = some outcome) :
      Carries lines packet client
        (⟨.layer (.write line.writer.key { packet with payload := payload }), relay⟩ :: played) outcome after

theorem reframed_ok {framing : Option Avc.Framing} {packet framed : Packet}
    (whole : reframed framing packet = .ok framed) :
    ∃ payload, framed = { packet with payload := payload } := by
  cases framing with
  | none =>
    cases whole
    exact ⟨packet.payload, rfl⟩
  | some framing =>
    cases unit : framing.accessUnit packet with
    | error cause =>
      simp only [reframed, Avc.Framing.apply, unit] at whole
      cases whole
    | ok bytes =>
      simp only [reframed, Avc.Framing.apply, unit] at whole
      obtain rfl := Except.ok.inj whole
      by_cases key : packet.isKeyframe = true
      · exact ⟨_, if_pos key⟩
      · exact ⟨_, if_neg key⟩

theorem Strung.ready (strung : Strung lines [] publisher) : publisher.Ready where
  framing := strung.framing.trans strung.tracks.symm
  writers _ codec member := by
    obtain ⟨index, track, within, found, rfl⟩ := Context.track_of_codec member
    rw [strung.tracks, List.length_nil, Nat.add_zero] at within
    obtain ⟨other, same, leads⟩ := strung.leads (List.getElem?_eq_getElem within)
    cases found.symm.trans same
    exact ⟨_, leads.writer⟩

/-- What lasts of a publisher is enough for its packets. -/
theorem Ready.lasts {later : Publisher} (ready : publisher.Ready)
    (lasts : publisher.context.Lasts later.context) (framing : later.framing = publisher.framing) : later.Ready where
  framing := by rw [framing, ready.framing, lasts.size]
  writers up := by
    obtain ⟨codecs, still⟩ := Context.codecs_of_settings (lasts.up up)
    rw [codecs]
    exact ready.writers (still.symm.trans up)

theorem Strung.carries {later : Publisher} {packet : Packet} {outcome : Except Error Unit}
    (strung : Strung lines [] publisher) (lasts : publisher.context.Lasts later.context)
    (up : later.context.hasPeer = true) (writes : later.Writes packet events outcome after)
    (framing : later.framing = publisher.framing) :
    Carries lines packet (.publisher later) events outcome (.publisher after) := by
  cases writes with
  | absent beyond =>
    rw [lasts.size, strung.tracks] at beyond
    exact .absent beyond
  | malformed kept broken =>
    obtain ⟨within, -⟩ := List.getElem?_eq_some_iff.1 kept
    rw [framing, strung.framing, List.length_nil, Nat.add_zero] at within
    exact .malformed (List.getElem?_eq_getElem within)
  | written found opened kept whole stays told counted =>
    obtain ⟨before, there, same⟩ := Context.counted_of_settings (lasts.up up) found
    obtain ⟨within, -⟩ := List.getElem?_eq_some_iff.1 there
    rw [strung.tracks, List.length_nil, Nat.add_zero] at within
    have held := List.getElem?_eq_getElem within
    obtain ⟨track, placed, leads⟩ := strung.leads held
    cases there.symm.trans placed
    have codec := same.codec.trans leads.writer
    have target := same.target.trans leads.target
    cases opened.symm.trans codec
    obtain ⟨payload, rfl⟩ := reframed_ok whole
    rw [target] at stays
    exact .carried held stays told

end Publisher

/-! An opening that succeeds: a stream of video and one of audio, to an endpoint that answers at once. -/

namespace Publisher.Broadcast

def video : StreamParams := .video .vp9 640 480

def audio : StreamParams := .audio .opus 48000 2

def lines : List Line :=
  [⟨video, .vp9, ⟨0, 96, 7⟩, none, Client.Unanswered.video⟩,
    ⟨audio, .opus, ⟨1, 97, 8⟩, some "sprop-stereo=1", Client.Unanswered.audio⟩]

def wiring (line : Line) (index : Nat) : List Event :=
  [⟨.layer (.openWriter line.published index ⟨1, maxPacketSize⟩), .done (.ok line.writer)⟩,
    ⟨.engine (.addTrack (line.announced (Text.uuid 0) index)), .ok line.handle⟩]

def creating : List Event :=
  [⟨.engine (.setLocal .offer), .ok ()⟩, ⟨.engine .localDescription, .ok "v=0"⟩,
    ⟨.host .isCancelled, false⟩,
    ⟨.http ((Exchange.start Exchange.atHome none).offerTo (Text.utf8 "v=0") Exchange.atHome),
      ⟨[], .ok ⟨201, none, Text.utf8 "v=0"⟩⟩⟩,
    ⟨.engine (.setRemote .answer "v=0"), .ok ()⟩]

def waiting : List Event :=
  [⟨.host (.now 0), Client.Unanswered.outset⟩, seenOpen, ⟨.host (.now 0), Client.Unanswered.outset⟩]

def opening : List Event :=
  Client.Unanswered.beginning ++
    (wiring lines[0] 0 ++ wiring lines[1] 1 ++ (creating ++ waiting))

def track (index : Nat) (line : Line) : Track where
  index := index
  handle := some line.handle
  binding := some ⟨index, 1, some line.handle⟩
  codec := some (.writer line.writer)
  params := some line.published
  counters := .zero

def session : Publisher where
  context :=
    { hasPeer := true
      registry := ⟨[track 0 lines[0], track 1 lines[1]]⟩
      exchange := .start Exchange.atHome none
      config := Client.Unanswered.setting
      msid := Text.uuid 0
      startedAt := 0
      timeToConnect := some 0 }
  streams := lines.map Line.published
  framing := [none, none]

def start : Publisher where
  context :=
    { hasPeer := true
      registry := .allocate 2
      exchange := .start Exchange.atHome none
      config := Client.Unanswered.setting
      msid := Text.uuid 0
      startedAt := 0
      timeToConnect := none }
  streams := [video, audio]
  framing := [none, none]

def offered : Publisher :=
  { session with context := { session.context with timeToConnect := none } }

theorem waits {σ : Type} {state : σ} {timeout : Nat} (told : timeout < Wait.clockEnd) :
    (Wait.connected timeout).Runs state [⟨.host (.now 0), Client.Unanswered.outset⟩, seenOpen] (.ok ())
      state := by
  refine Wait.runs_connected.2 ⟨Client.Unanswered.outset, _, rfl, (Nat.zero_add timeout).symm ▸ told, ?_⟩
  rw [Wait.untilDeadline]
  exact Act.runs_ask_bind.2 ⟨.connected, [], rfl, .done _⟩

theorem adds : ([video, audio].zipIdx.forM fun (params, index) => addStream params index).Runs start
    (wiring lines[0] 0 ++ wiring lines[1] 1) (.ok ()) offered :=
  .call _ _ _ (.call _ _ _ (.call _ _ _ (.call _ _ _ (.done _))))

theorem creates : (onContext Context.createResource).Runs offered creating (.ok ()) offered :=
  .call _ _ _ (.call _ _ _ (.call _ _ _ (.call _ _ _ (.call _ _ _ (.done _)))))

theorem connects : (onContext Context.waitConnected).Runs offered waiting (.ok ()) session := by
  refine Act.runs_within.2 ⟨session.context, rfl, ?_⟩
  refine Act.runs_get_bind.2 (Act.runs_bind.2 (.inr ⟨_, (), _, _, rfl, waits (by decide), ?_⟩))
  exact .call _ _ _ (.done _)

theorem sets : setup.Runs start (wiring lines[0] 0 ++ wiring lines[1] 1 ++ (creating ++ waiting)) (.ok ())
    session :=
  Act.runs_get_bind.2 (Act.runs_bind.2 (.inr ⟨_, (), offered, _, rfl, adds,
    Act.runs_bind.2 (.inr ⟨_, (), offered, _, rfl, creates, connects⟩)⟩))

theorem runs : (openSession Client.Unanswered.setting [video, audio]).Runs () opening (.ok session) () := by
  refine Act.runs_bind.2 (.inr ⟨[], (), (), _, rfl, Act.runs_settle.2 ⟨rfl, rfl, rfl⟩, ?_⟩)
  refine Act.runs_bind.2 (.inr ⟨Client.Unanswered.beginning, _, (), _, rfl,
    (Context.Begins.begun Client.Unanswered.validate_setting 0 Client.Unanswered.outset).runs, ?_⟩)
  exact Script.yields_bind_iff.2 ⟨_, _, [], (List.append_nil _).symm, sets, .done _⟩

def packet : Packet := .make 1 0 [1, 2, 3]

/-- The layer sends the packet as one message. -/
def passing : List Event :=
  [seenOpen, ⟨.layer (.write 1 packet), .send [1, 2, 3] fun _ => .done (.ok ())⟩, ⟨.host .isCancelled, false⟩,
    ⟨.engine (.send lines[1].handle [1, 2, 3]), .ok ()⟩]

def passed : Publisher :=
  { session with
    context := session.context.setTrack 1
      { track 1 lines[1] with counters := (Counters.zero.sent 3).frame false } }

theorem passes : (Client.writePacket packet).Runs (.publisher session) passing (.ok ()) (.publisher passed) :=
  .call _ _ _ (.call _ _ _ (.call _ _ _ (.call _ _ _ (.done _))))

end Publisher.Broadcast

namespace Publisher

/-- An opened publisher is wired, and it stays so. However the session was used since then, a packet of a
stream goes to the writer that was opened for the stream, and what the layer sends for it goes to the track
that was added for the stream. -/
theorem openSession_wires {config : ClientConfig} {streams : List StreamParams} {opening : List Event}
    {publisher : Publisher}
    (opened : (openSession config streams).Runs () opening (.ok publisher) ()) :
    ∃ msid lines, Wired streams opening publisher msid lines ∧
      ∀ {operations : List Client.Operation} {used : List Event} {result : Except Error PUnit}
          {client : Client},
        (operations.forM Client.Operation.perform).Runs (.publisher publisher) used result client →
        ∀ {packet : Packet} {written : List Event} {outcome : Except Error Unit} {last : Client},
          (Client.writePacket packet).Runs client written outcome last →
          Context.Gate client.context client (Carries lines packet client) written outcome last := by
  obtain ⟨msid, lines, wired, strung⟩ := wired_of_opened opened
  refine ⟨msid, lines, wired, ?_⟩
  intro operations used result client uses packet written outcome last writes
  cases Client.lasts_of_operations uses with
  | @publisher _ later lasts same framing =>
    obtain ⟨inner, rfl, writing⟩ := Client.runs_publisher writes
    have gate := writePacket_gate (strung.ready.lasts lasts framing) writing
    cases gate with
    | released down => exact .released down
    | unconnected up other => exact .unconnected up other
    | passed up writes => exact .passed up (strung.carries lasts up writes framing)

theorem openSession_wires_broadcast :
    ∃ msid lines, Wired [Broadcast.video, Broadcast.audio] Broadcast.opening Broadcast.session msid lines ∧
      Context.Gate Broadcast.session.context (.publisher Broadcast.session)
        (Carries lines Broadcast.packet (.publisher Broadcast.session)) Broadcast.passing (.ok ())
        (.publisher Broadcast.passed) := by
  obtain ⟨msid, lines, wired, carries⟩ := openSession_wires Broadcast.runs
  have looks : ([Client.Operation.state].forM Client.Operation.perform).Runs (.publisher Broadcast.session)
      [seenOpen] (.ok ()) (.publisher Broadcast.session) := .call _ _ _ (.done _)
  exact ⟨msid, lines, wired, carries looks Broadcast.passes⟩

end Publisher
end WhipWhep
