import WhipWhep.Proofs.InMemory.Feeding
import WhipWhep.Proofs.InMemory.Playing
import WhipWhep.Proofs.Session.Guarding

/-!
Reading over the engine and the RTP layer in memory. However reads and incoming messages follow one another,
the reads hand over the messages of each track in their order, each message once, and nothing gets lost on
the way.
-/

namespace WhipWhep

namespace InMemory

/-- What a read makes of a message of the stream at an index. -/
def delivered (index : Nat) : Bytes → Except Error Packet
  | [] => .error (.rtp "empty message")
  | flag :: payload => .ok { Packet.make index 0 payload with isKeyframe := flag == 1 }

theorem delivered_eq (index : Nat) (message : Bytes) :
    (Rehearsal.packetOf message).map (fun packet => { packet with stream := index }) = delivered index message := by
  cases message <;> rfl

theorem delivered_ne_wouldBlock {index : Nat} {message : Bytes} :
    delivered index message ≠ .error .wouldBlock := by
  cases message <;> nofun

/-- What a read of the stream at an index comes to, and what it takes off the tracks. The messages that can
come off a track wait there before, or have come in meanwhile. The oldest of them is taken if it fits, unless a
look has just found the connection not open or the session cancelled. -/
inductive Polls (handles : List Handle) (before : Backend) (pushed : List (Handle × Bytes)) (events : List Event)
    (index : Nat) : List (Handle × Bytes) → Except Error Packet → Prop where
  | unconnected {state : ConnectionState} (other : state ≠ .connected)
      (told : ⟨.host .connectionState, state⟩ ∈ events) :
      Polls handles before pushed events index [] (.error (.notConnected state))
  | absent (beyond : handles.length ≤ index) :
      Polls handles before pushed events index [] (.error (.invalidStream index))
  | cancelled (told : ⟨.host .isCancelled, true⟩ ∈ events) :
      Polls handles before pushed events index [] (.error .cancelled)
  | blocked {handle : Handle} (own : handles[index]? = some handle) (empty : before.waiting handle = []) :
      Polls handles before pushed events index [] (.error .wouldBlock)
  | tooLarge {handle : Handle} {message : Bytes} (own : handles[index]? = some handle)
      (oldest : (before.waiting handle ++ messagesOn handle pushed).head? = some message)
      (large : maxPacketSize < message.length) :
      Polls handles before pushed events index [] (.error .bufferTooSmall)
  | taken {handle : Handle} {message : Bytes} (own : handles[index]? = some handle)
      (oldest : (before.waiting handle ++ messagesOn handle pushed).head? = some message)
      (fits : message.length ≤ maxPacketSize) :
      Polls handles before pushed events index [(handle, message)] (delivered index message)

namespace Polls

variable {handles : List Handle} {before middle : Backend} {pushed late : List (Handle × Bytes)}
  {events more : List Event} {index : Nat} {off : List (Handle × Bytes)} {outcome : Except Error Packet}

/-- A stream that blocks has lost nothing. -/
theorem of_wouldBlock (polls : Polls handles before pushed events index off (.error .wouldBlock)) : off = [] := by
  generalize same : Except.error Error.wouldBlock = outcome at polls
  cases polls with
  | taken own oldest fits => exact absurd same.symm delivered_ne_wouldBlock
  | _ => rfl

/-- What happened besides makes no difference. -/
theorem within (polls : Polls handles before pushed events index off outcome) (among : events ⊆ more) :
    Polls handles before pushed more index off outcome := by
  cases polls with
  | unconnected other told => exact .unconnected other (among told)
  | absent beyond => exact .absent beyond
  | cancelled told => exact .cancelled (among told)
  | blocked own empty => exact .blocked own empty
  | tooLarge own oldest large => exact .tooLarge own oldest large
  | taken own oldest fits => exact .taken own oldest fits

/-- More messages behind the others make no difference. -/
theorem later (polls : Polls handles before pushed events index off outcome) :
    Polls handles before (pushed ++ late) events index off outcome := by
  have behind : ∀ {handle : Handle} {message : Bytes},
      (before.waiting handle ++ messagesOn handle pushed).head? = some message →
      (before.waiting handle ++ messagesOn handle (pushed ++ late)).head? = some message := by
    intro handle message oldest
    rw [messagesOn_append, ← List.append_assoc, List.head?_append, oldest]
    rfl
  cases polls with
  | unconnected other told => exact .unconnected other told
  | absent beyond => exact .absent beyond
  | cancelled told => exact .cancelled told
  | blocked own empty => exact .blocked own empty
  | tooLarge own oldest large => exact .tooLarge own (behind oldest) large
  | taken own oldest fits => exact .taken own (behind oldest) fits

/-- As long as nothing was taken off, a read can be seen from an earlier point on. -/
theorem earlier (polls : Polls handles middle late events index off outcome)
    (kept : ∀ handle ∈ handles, before.waiting handle ++ messagesOn handle pushed = middle.waiting handle) :
    Polls handles before (pushed ++ late) events index off outcome := by
  have there : ∀ {handle : Handle}, handles[index]? = some handle →
      before.waiting handle ++ messagesOn handle (pushed ++ late) =
        middle.waiting handle ++ messagesOn handle late := by
    intro handle own
    rw [messagesOn_append, ← List.append_assoc, kept handle (List.mem_of_getElem? own)]
  cases polls with
  | unconnected other told => exact .unconnected other told
  | absent beyond => exact .absent beyond
  | cancelled told => exact .cancelled told
  | blocked own empty =>
    have none := kept _ (List.mem_of_getElem? own)
    rw [empty] at none
    exact .blocked own (List.append_eq_nil_iff.1 none).1
  | tooLarge own oldest large => exact .tooLarge own (there own ▸ oldest) large
  | taken own oldest fits => exact .taken own (there own ▸ oldest) fits

/-- A message that a read has taken off a track is the outcome of that read, and it was on the track of the
stream that was read. -/
theorem took {handle : Handle} (polls : Polls handles before pushed events index off outcome)
    (distinct : handles.Nodup) {place : Nat} (own : handles[place]? = some handle) :
    (messagesOn handle off).map (fun _ => outcome) = (messagesOn handle off).map (delivered place) := by
  cases polls with
  | @taken other message given oldest fits =>
    by_cases same : other = handle
    · subst same
      have within := (List.getElem?_eq_some_iff.1 given).1
      obtain rfl := (List.getElem?_inj within distinct).1 (given.trans own.symm)
      rw [messagesOn_cons_self]
      rfl
    · rw [messagesOn_cons_ne same]
      rfl
  | _ => rfl

/-- A stream is read by one receive, whatever that is answered. -/
theorem of_received {handle : Handle} {received : Except EngineError Bytes} (own : handles[index]? = some handle)
    (told : received = match (before.waiting handle ++ messagesOn handle pushed).head? with
      | none => .error .notAvailable
      | some message => if maxPacketSize < message.length then .error .tooSmall else .ok message) :
    Polls handles before pushed events index (takenOff [⟨.engine (.receive handle maxPacketSize), received⟩])
      (((Transport.receivedAs received).bind Rehearsal.packetOf).map fun packet => { packet with stream := index }) := by
  cases oldest : (before.waiting handle ++ messagesOn handle pushed).head? with
  | none =>
    rw [oldest] at told
    subst told
    rw [List.head?_eq_none_iff] at oldest
    exact .blocked own (List.append_eq_nil_iff.1 oldest).1
  | some message =>
    rw [oldest] at told
    dsimp only at told
    split at told
    · next large =>
      subst told
      exact .tooLarge own oldest large
    · next fits =>
      subst told
      have made : Polls handles before pushed events index _ _ := .taken own oldest (Nat.le_of_not_lt fits)
      rw [← delivered_eq] at made
      exact made

end Polls

namespace Backend

variable {backend last : Backend} {events : List Event} {pushed : List (Handle × Bytes)} {handle : Handle}
  {handles : List Handle}

/-- What a receive is answered goes by the oldest message of the track. -/
theorem Feeds.received {capacity : Nat} {answer : Except EngineError Bytes}
    (fed : Feeds backend (events ++ [⟨.engine (.receive handle capacity), answer⟩]) pushed last)
    (leaves : AllOf Call.leavesTracks events) (present : backend.engine.peers ≠ [])
    (live : backend.engine.latest.isLive handle = true) (idle : takenOff events = []) :
    ∃ early late, pushed = early ++ late ∧
      answer = match (backend.waiting handle ++ messagesOn handle early).head? with
        | none => .error .notAvailable
        | some message => if capacity < message.length then .error .tooSmall else .ok message := by
  obtain ⟨middle, first, second, rfl, before, after⟩ := feeds_append fed
  obtain ⟨there, _, third, late, rfl, pushes, answers, -⟩ := feeds_cons after
  obtain ⟨still, law⟩ := before.waiting leaves present live
  obtain ⟨here, same⟩ := pushes.waiting .nil (before.tracks leaves present).1 still
  rw [idle] at law
  refine ⟨first ++ third, late, (List.append_assoc _ _ _).symm, ?_⟩
  obtain ⟨rfl, -⟩ := answers.of_engine
  have queue : backend.waiting handle ++ messagesOn handle (first ++ third) = there.waiting handle := by
    rw [messagesOn_append, ← List.append_assoc, law]
    exact same
  rw [queue]
  exact Peer.receive_of_live here

end Backend
end InMemory

open InMemory

/-- The layer in memory reads by one receive of the size of a packet. -/
theorem runs_rehearsal_read {target : Option Handle} {counters after : Counters} {events : List Event}
    {answer : Except Error Packet} (run : (Rehearsal.read.play target).Runs counters events (.ok answer) after) :
    ∃ reply, Transport.Receives target counters maxPacketSize events reply after ∧
      answer = reply.bind Rehearsal.packetOf := by
  obtain ⟨_, reply, _, _, rfl, received, onward⟩ := Act.runs_attempt_bind.1 run
  have receives := Transport.receives_of_runs received
  cases reply with
  | ok message =>
    obtain ⟨rfl, same, rfl⟩ := Act.runs_pure.1 onward
    cases same
    rw [List.append_nil]
    exact ⟨_, receives, rfl⟩
  | error cause =>
    obtain ⟨rfl, same, rfl⟩ := Act.runs_pure.1 onward
    cases same
    rw [List.append_nil]
    exact ⟨_, receives, rfl⟩

namespace Player

variable {player middle after : Player} {backend between last : Backend} {events : List Event}
  {pushed early late : List (Handle × Bytes)} {handles : List Handle} {index : Nat}
  {outcome : Except Error Packet}

/-- A player over the engine in memory. Each of its tracks has a reader, and leads to its own handle. -/
structure Attached (handles : List Handle) (player : Player) (backend : Backend) : Prop where
  up : player.context.hasPeer = true
  ready : player.Ready
  holds : player.context.Holds handles
  carries : backend.Carries handles

theorem Attached.later (attached : Attached handles player backend) (counted : player.Counted after)
    (fed : backend.Feeds events pushed last) (leaves : AllOf Call.leavesTracks events) :
    Attached handles after last where
  up := (Context.codecs_of_settings counted.1).2.trans attached.up
  ready := attached.ready.of_counted counted
  holds := attached.holds.of_settings counted.1
  carries := attached.carries.feeds fed leaves

theorem leavesTracks_of_tryReadStream (run : (tryReadStream index).Runs player events outcome after) :
    AllOf Call.leavesTracks events :=
  (works_tryReadStream _ _ _ run).ofKind.weaken leavesTracks_of_working

theorem takenOff_quiet {first second : Event} (one : first.taken? = none) (two : second.taken? = none) :
    takenOff (first :: second :: events) = takenOff events := by
  rw [takenOff_cons, one, takenOff_cons, two]
  rfl

/-- A read of one stream takes at most the oldest message of its own track. -/
theorem tryReadStream_polls (attached : Attached handles player backend)
    (run : (tryReadStream index).Runs player events outcome after) (fed : backend.Feeds events pushed last) :
    Polls handles backend pushed events index (takenOff events) outcome := by
  cases tryReadStream_takes attached.ready run with
  | released down => cases down.symm.trans attached.up
  | unconnected up other => exact .unconnected other List.mem_cons_self
  | passed up takes =>
    cases takes with
    | absent beyond =>
      rw [attached.holds.size] at beyond
      exact .absent beyond
    | @taken track reader relay played answer _ counters found opened plays marked =>
      subst marked
      obtain ⟨handle, own, rfl, -, target⟩ := attached.holds.of_track found
      obtain ⟨_, _, _, _, rfl, -, -, asked⟩ := Backend.feeds_cons fed
      obtain ⟨_, _, _, _, rfl, -, answers, -⟩ := Backend.feeds_cons asked
      obtain ⟨rfl, -⟩ := answers.of_layer
      obtain ⟨reply, receives, rfl⟩ := runs_rehearsal_read plays
      rw [takenOff_quiet rfl rfl]
      have live := attached.carries.live handle (List.mem_of_getElem? own)
      rw [target] at receives
      cases receives with
      | cancelled => exact .cancelled (by simp)
      | unattached loose => cases loose
      | answered same received =>
        cases same
        have whole : Backend.Feeds backend ([seenOpen, ⟨.layer (.read reader.key), Rehearsal.read⟩,
            ⟨.host .isCancelled, false⟩] ++ [⟨.engine (.receive handle maxPacketSize), received⟩]) _ last := fed
        have leaves : AllOf Call.leavesTracks [seenOpen, ⟨.layer (.read reader.key), Rehearsal.read⟩,
            ⟨.host .isCancelled, false⟩] := by
          simp [AllOf, seenOpen, Call.leavesTracks]
        obtain ⟨first, rest, all, told⟩ := whole.received leaves attached.carries.present live rfl
        rw [all]
        exact (Polls.of_received own told).later

/-- Where streams are tried one after the other, they all block or one of them is read. -/
theorem tryEach_polls {count : Nat} {indices : List Nat} (attached : Attached handles player backend)
    (run : (tryEach count indices).Runs player events outcome after) (fed : backend.Feeds events pushed last) :
    (takenOff events = [] ∧ outcome = .error .wouldBlock ∧
      ∀ index ∈ indices, Polls handles backend pushed events index [] (.error .wouldBlock)) ∨
    ∃ index ∈ indices, Polls handles backend pushed events index (takenOff events) outcome := by
  induction indices generalizing player backend events pushed with
  | nil =>
    obtain ⟨rfl, rfl, rfl⟩ := Act.runs_fail.1 run
    exact .inl ⟨rfl, rfl, nofun⟩
  | cons index rest ih =>
    obtain ⟨first, inner, middle, second, rfl, reading, onward⟩ := Act.runs_attempt_bind.1 run
    obtain ⟨between, early, late, rfl, here, there⟩ := Backend.feeds_append fed
    have polls := tryReadStream_polls attached reading here
    split at onward
    · have last := Act.runs_modify_bind.1 onward
      obtain ⟨rfl, rfl, rfl⟩ := Act.runs_pure.1 last
      rw [List.append_nil]
      exact .inr ⟨index, List.mem_cons_self, polls.later⟩
    · have leaves := leavesTracks_of_tryReadStream reading
      have next := attached.later (tryReadStream_counts reading) here leaves
      have quiet : takenOff (first ++ second) = takenOff second := by
        rw [takenOff_append, polls.of_wouldBlock, List.nil_append]
      have kept : ∀ handle ∈ handles, backend.waiting handle ++ messagesOn handle early = between.waiting handle := by
        intro handle member
        have law := (here.waiting leaves attached.carries.present (attached.carries.live handle member)).2
        rwa [polls.of_wouldBlock] at law
      rw [polls.of_wouldBlock] at polls
      rw [quiet]
      have front := List.subset_append_left first second
      have rear := List.subset_append_right first second
      rcases ih next onward there with ⟨none, blocked, all⟩ | ⟨other, member, read⟩
      · have others := fun other member => ((all other member).earlier kept).within rear
        exact .inl ⟨none, blocked, List.forall_mem_cons.2 ⟨polls.later.within front, others⟩⟩
      · exact .inr ⟨other, List.mem_cons_of_mem _ member, (read.earlier kept).within rear⟩
    · obtain ⟨rfl, rfl, rfl⟩ := Act.runs_fail.1 onward
      rw [List.append_nil]
      exact .inr ⟨index, List.mem_cons_self, polls.later⟩

/-- A read of any stream takes at most the oldest message of one of them. -/
theorem tryRead_polls (attached : Attached handles player backend)
    (run : tryRead.Runs player events outcome after) (fed : backend.Feeds events pushed last) :
    ∃ index, Polls handles backend pushed events index (takenOff events) outcome := by
  replace run := Act.runs_get_bind.1 run
  rcases tryEach_polls attached run fed with ⟨none, rfl, all⟩ | ⟨index, -, polls⟩
  · rw [none]
    have first : player.next % offeredTracks.length ∈ order player.next player.context.registry.tracks.length := by
      rw [attached.ready.tracks]
      exact List.mem_cons_self
    exact ⟨_, all _ first⟩
  · exact ⟨index, polls⟩

/-- How packets are read: from one stream, or from whichever has one. -/
inductive Attempt where
  | on (index : Nat)
  | any

def Attempt.act : Attempt → Act Player Packet
  | on index => tryReadStream index
  | any => tryRead

theorem Attempt.polls {attempt : Attempt} (attached : Attached handles player backend)
    (run : attempt.act.Runs player events outcome after) (fed : backend.Feeds events pushed last) :
    ∃ index, (∀ own, attempt = .on own → index = own) ∧
      Polls handles backend pushed events index (takenOff events) outcome := by
  cases attempt with
  | on index =>
    refine ⟨index, fun own same => ?_, tryReadStream_polls attached run fed⟩
    cases same
    rfl
  | any =>
    obtain ⟨index, polls⟩ := tryRead_polls attached run fed
    exact ⟨index, nofun, polls⟩

theorem Attempt.works {attempt : Attempt} (run : attempt.act.Runs player events outcome after) :
    player.Counted after ∧ AllOf Call.leavesTracks events := by
  cases attempt with
  | on index => exact ⟨tryReadStream_counts run, leavesTracks_of_tryReadStream run⟩
  | any =>
    exact ⟨reading_counted.tryRead _ _ _ run,
      (reading_works.tryRead _ _ _ run).ofKind.weaken leavesTracks_of_working⟩

/-- One read, with what was on the tracks before it and what came in meanwhile. -/
structure Turn where
  attempt : Attempt
  before : Backend
  pushed : List (Handle × Bytes)
  events : List Event
  outcome : Except Error Packet

/-- The messages that the read has taken off one track. -/
def Turn.taken (turn : Turn) (handle : Handle) : List Bytes := messagesOn handle (takenOff turn.events)

/-- Reads one after the other, with messages that come in during them and after the last one. -/
inductive Course : Player → Backend → List Turn → List (Handle × Bytes) → Player → Backend → Prop where
  | done {player : Player} {backend last : Backend} {pushed : List (Handle × Bytes)}
      (fed : backend.Feeds [] pushed last) : Course player backend [] pushed player last
  | turn {player middle after : Player} {between last : Backend} {turn : Turn} {turns : List Turn}
      {pushed : List (Handle × Bytes)} (run : turn.attempt.act.Runs player turn.events turn.outcome middle)
      (fed : turn.before.Feeds turn.events turn.pushed between)
      (rest : Course middle between turns pushed after last) :
      Course player turn.before (turn :: turns) (turn.pushed ++ pushed) after last

variable {turns : List Turn}

/-- Each read takes at most the oldest message of one track, and the reads together take the messages of each
track from the oldest on. -/
theorem Course.delivers (course : Course player backend turns pushed after last)
    (attached : Attached handles player backend) :
    (∀ turn ∈ turns, ∃ index, (∀ own, turn.attempt = .on own → index = own) ∧
      Polls handles turn.before turn.pushed turn.events index (takenOff turn.events) turn.outcome) ∧
    ∀ {index : Nat} {handle : Handle}, handles[index]? = some handle → ∃ read,
      backend.waiting handle ++ messagesOn handle pushed = read ++ last.waiting handle ∧
      turns.flatMap (fun turn => (turn.taken handle).map fun _ => turn.outcome) = read.map (delivered index) := by
  induction course with
  | done fed =>
    refine ⟨nofun, fun {index handle} own => ⟨[], ?_, rfl⟩⟩
    have carries := attached.carries
    exact (fed.waiting .nil carries.present (carries.live handle (List.mem_of_getElem? own))).2
  | @turn _ _ _ between last turn turns pushed run fed rest ih =>
    obtain ⟨counted, leaves⟩ := Attempt.works run
    obtain ⟨all, onward⟩ := ih (attached.later counted fed leaves)
    obtain ⟨place, same, polls⟩ := Attempt.polls attached run fed
    refine ⟨List.forall_mem_cons.2 ⟨⟨place, same, polls⟩, all⟩, fun {index handle} own => ?_⟩
    obtain ⟨read, law, outcomes⟩ := onward own
    have carries := attached.carries
    have here := (fed.waiting leaves carries.present (carries.live handle (List.mem_of_getElem? own))).2
    refine ⟨turn.taken handle ++ read, ?_, ?_⟩
    · rw [messagesOn_append, ← List.append_assoc, here, List.append_assoc, law, ← List.append_assoc]
      rfl
    · rw [List.flatMap_cons, List.map_append, outcomes]
      exact congrArg (· ++ _) (polls.took carries.distinct own)

/-- A player that has opened over the engine and the layer in memory reads the messages of each track in their
order and each message once. What it has not read yet is still there. -/
theorem openSession_delivers {config : ClientConfig} {opening : List Event} {start : Backend}
    (opened : (openSession config).Runs () opening (.ok player) ()) (fed : backend.Feeds opening early start)
    (course : Course player start turns late after last) :
    ∃ handles : List Handle, player.context.registry.handles = handles.map some ∧
      handles.length = offeredTracks.length ∧ handles.Nodup ∧
      (∀ turn ∈ turns, ∃ index, (∀ own, turn.attempt = .on own → index = own) ∧
        Polls handles turn.before turn.pushed turn.events index (takenOff turn.events) turn.outcome) ∧
      ∀ {index : Nat} {handle : Handle}, handles[index]? = some handle →
        (start.waiting handle).Sublist (messagesOn handle early) ∧ ∃ read,
          start.waiting handle ++ messagesOn handle late = read ++ last.waiting handle ∧
          turns.flatMap (fun turn => (turn.taken handle).map fun _ => turn.outcome) =
            read.map (delivered index) := by
  have whole : (Client.openSession .egress config).Runs () opening (.ok (.player player)) () :=
    Act.runs_bind.2 (.inr ⟨_, _, (), [], (List.append_nil _).symm, opened, .done _⟩)
  obtain ⟨handles, size, holds, carries, waits⟩ := fed.carries (Client.opens_of_runs whole)
  obtain ⟨polls, delivers⟩ := course.delivers ⟨Client.up_of_opened whole, Client.ready_of_opened whole, holds, carries⟩
  exact ⟨handles, holds.handles_eq, size, carries.distinct, polls, fun own => ⟨waits _, delivers own⟩⟩

/-! Messages come in on both tracks of an open session. The first on the video track is a keyframe, and the next read of
any stream takes it. The second one there is too large to be read, and stays. -/

namespace Revised

def keyframe : Bytes := [1, 0x65, 0x88]

def oversized : Bytes := List.replicate (maxPacketSize + 1) 0

def sound : Bytes := [0, 7]

def packet : Packet := (Packet.make 0 0 [0x65, 0x88]).keyframe

def reading : Turn where
  attempt := .any
  before := left
  pushed := [(Client.Unanswered.video, keyframe), (Client.Unanswered.video, oversized),
    (Client.Unanswered.audio, sound)]
  events := [seenOpen, ⟨.layer (.read 0), Rehearsal.read⟩, ⟨.host .isCancelled, false⟩,
    ⟨.engine (.receive Client.Unanswered.video maxPacketSize), .ok keyframe⟩]
  outcome := .ok packet

def told : Player :=
  { session with
    context := session.context.setTrack 0
      { heard 0 Client.Unanswered.video video with counters := (Counters.zero.received 3).frame true }
    next := 1 }

theorem reads : reading.attempt.act.Runs session reading.events reading.outcome told :=
  .call _ _ _ (.call _ _ _ (.call _ _ _ (.call _ _ _ (.done _))))

/-- The session with these messages on its tracks. -/
def queued (incoming : List (Handle × Bytes)) : Backend where
  engine := { left.engine with peers := left.engine.peers.map fun peer => { peer with incoming := incoming } }
  rtp := left.rtp

theorem answers_large {message : Bytes} {rest : List (Handle × Bytes)} (large : maxPacketSize < message.length) :
    (queued ((Client.Unanswered.video, message) :: rest)).Answers
      ⟨.engine (.receive Client.Unanswered.video maxPacketSize), .error .tooSmall⟩
      (queued ((Client.Unanswered.video, message) :: rest)) := by
  generalize same : queued ((Client.Unanswered.video, message) :: rest) = backend
  have received : (backend.engine.peer backend.engine.newest).receive Client.Unanswered.video maxPacketSize =
      (.error .tooSmall, backend.engine.peer backend.engine.newest) := by
    subst same
    exact if_pos large
  have kept : backend.engine.respond backend.engine.newest (.receive Client.Unanswered.video maxPacketSize) =
      (.error .tooSmall, backend.engine) := by
    rw [Engine.respond, received]
    subst same
    rfl
  have answers : backend.Answers _ _ := .engine (.receive Client.Unanswered.video maxPacketSize)
  rwa [kept] at answers

def sample : Packet := .make 1 0 [7]

def second : Turn where
  attempt := .any
  before := queued [(Client.Unanswered.video, oversized), (Client.Unanswered.audio, sound)]
  pushed := []
  events := [seenOpen, ⟨.layer (.read 1), Rehearsal.read⟩, ⟨.host .isCancelled, false⟩,
    ⟨.engine (.receive Client.Unanswered.audio maxPacketSize), .ok sound⟩]
  outcome := .ok sample

def third : Turn where
  attempt := .any
  before := queued [(Client.Unanswered.video, oversized)]
  pushed := [(Client.Unanswered.audio, [])]
  events := [seenOpen, ⟨.layer (.read 0), Rehearsal.read⟩, ⟨.host .isCancelled, false⟩,
    ⟨.engine (.receive Client.Unanswered.video maxPacketSize), .error .tooSmall⟩]
  outcome := .error .bufferTooSmall

def fourth : Turn where
  attempt := .on audioStream
  before := queued [(Client.Unanswered.video, oversized), (Client.Unanswered.audio, [])]
  pushed := []
  events := [seenOpen, ⟨.layer (.read 1), Rehearsal.read⟩, ⟨.host .isCancelled, false⟩,
    ⟨.engine (.receive Client.Unanswered.audio maxPacketSize), .ok []⟩]
  outcome := .error (.rtp "empty message")

def attempts : List Turn := [reading, second, third, fourth]

def toldBoth : Player :=
  { told with
    context := told.context.setTrack 1
      { heard 1 Client.Unanswered.audio audio with counters := (Counters.zero.received 2).frame false }
    next := 0 }

def toldAll : Player :=
  { toldBoth with
    context := toldBoth.context.setTrack 1
      { heard 1 Client.Unanswered.audio audio with
        counters := ((Counters.zero.received 2).frame false).received 0 } }

theorem reads_second : second.attempt.act.Runs told second.events second.outcome toldBoth :=
  .call _ _ _ (.call _ _ _ (.call _ _ _ (.call _ _ _ (.done _))))

theorem reads_third : third.attempt.act.Runs toldBoth third.events third.outcome toldBoth :=
  .call _ _ _ (.call _ _ _ (.call _ _ _ (.call _ _ _ (.done _))))

theorem reads_fourth : fourth.attempt.act.Runs toldBoth fourth.events fourth.outcome toldAll :=
  .call _ _ _ (.call _ _ _ (.call _ _ _ (.call _ _ _ (.done _))))

theorem feeds_reading : reading.before.Feeds reading.events reading.pushed second.before :=
  .push (.push (.push (.call (.host _ _) (.call (.layer _) (.call (.host _ _) (.call (.engine _) (.nil _)))))))

theorem feeds_second : second.before.Feeds second.events second.pushed third.before :=
  .call (.host _ _) (.call (.layer _) (.call (.host _ _) (.call (.engine _) (.nil _))))

theorem feeds_third : third.before.Feeds third.events third.pushed fourth.before := by
  have large : maxPacketSize < oversized.length := by simp [oversized]
  exact .call (.host _ _) (.call (.layer _) (.call (.host _ _) (.call (answers_large large) (.push (.nil _)))))

theorem feeds_fourth : fourth.before.Feeds fourth.events fourth.pushed
    (queued [(Client.Unanswered.video, oversized)]) :=
  .call (.host _ _) (.call (.layer _) (.call (.host _ _) (.call (.engine _) (.nil _))))

theorem courses : Course session left attempts
    (reading.pushed ++ (second.pushed ++ (third.pushed ++ (fourth.pushed ++ [(Client.Unanswered.video, keyframe)]))))
    toldAll (queued [(Client.Unanswered.video, oversized), (Client.Unanswered.video, keyframe)]) :=
  .turn reads feeds_reading (.turn reads_second feeds_second (.turn reads_third feeds_third
    (.turn reads_fourth feeds_fourth (.done (.push (.nil _))))))

end Revised

theorem openSession_delivers_revised :
    (∀ turn ∈ Revised.attempts, ∃ index, (∀ own, turn.attempt = .on own → index = own) ∧
      Polls [Client.Unanswered.video, Client.Unanswered.audio] turn.before turn.pushed turn.events index
        (takenOff turn.events) turn.outcome) ∧
    (∃ read, [Revised.keyframe, Revised.oversized, Revised.keyframe] = read ++ [Revised.oversized, Revised.keyframe] ∧
      [Except.ok Revised.packet] = read.map (delivered 0)) ∧
    ∃ read, [Revised.sound, []] = read ++ [] ∧
      [Except.ok Revised.sample, .error (.rtp "empty message")] = read.map (delivered 1) := by
  obtain ⟨handles, named, -, -, polls, delivers⟩ :=
    openSession_delivers Revised.runs Revised.serves.feeds Revised.courses
  obtain rfl : [Client.Unanswered.video, Client.Unanswered.audio] = handles :=
    (List.map_inj_right fun _ _ => Option.some.inj).1 named
  have video : [Client.Unanswered.video, Client.Unanswered.audio][0]? = some Client.Unanswered.video := rfl
  have audio : [Client.Unanswered.video, Client.Unanswered.audio][1]? = some Client.Unanswered.audio := rfl
  exact ⟨polls, (delivers video).2, (delivers audio).2⟩

end Player
end WhipWhep
