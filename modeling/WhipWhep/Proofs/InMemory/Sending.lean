import WhipWhep.Proofs.InMemory.Feeding
import WhipWhep.Proofs.InMemory.Playing
import WhipWhep.Proofs.Session.Guarding
import WhipWhep.Proofs.Session.Keyframes
import WhipWhep.Proofs.Session.Lending

/-!
Sending over the engine and the RTP layer in memory. Each packet that goes out becomes one message on the track
of its stream, and the messages stand there in the order of their packets. A packet that does not go out leaves
everything as it was.
-/

namespace WhipWhep

namespace InMemory

namespace Engine

variable {engine : Engine} {handle : Handle}

theorem sent_congr {after : Engine} (peers : after.peers = engine.peers) : after.sent handle = engine.sent handle := by
  rw [sent, sent, peers]

/-- The newest peer connection is the last one. -/
theorem peers_split (present : engine.peers ≠ []) : ∃ front, engine.peers = front ++ [engine.latest] := by
  obtain ⟨front, final, split⟩ := (List.eq_nil_or_concat engine.peers).resolve_left present
  refine ⟨front, split.trans ?_⟩
  simp [latest, newest, Engine.peer, split]

theorem sent_of_split {front : List Peer} {peer : Peer} (split : engine.peers = front ++ [peer]) :
    engine.sent handle = (front.flatMap fun peer => messagesOn handle peer.sent) ++ messagesOn handle peer.sent := by
  show (engine.peers.flatMap fun peer => messagesOn handle peer.sent) = _
  rw [split, List.flatMap_append, List.flatMap_singleton]

/-- What the newest peer connection sends comes behind all that the engine has sent. -/
theorem sent_setPeer {peer : Peer} {more : List (Handle × Bytes)} (grown : peer.sent = engine.latest.sent ++ more)
    (standing : engine.peers = [] → more = []) :
    (engine.setPeer engine.newest peer).sent handle = engine.sent handle ++ messagesOn handle more := by
  by_cases none : engine.peers = []
  · rw [standing none, sent_congr (by rw [setPeer, none]; rfl)]
    exact (List.append_nil _).symm
  · obtain ⟨front, split⟩ := peers_split none
    have changed : (engine.setPeer engine.newest peer).peers = front ++ [peer] := by
      simp [setPeer, newest, split]
    rw [sent_of_split changed, sent_of_split split, grown, messagesOn_append, List.append_assoc]

theorem sent_addTrack (init : TrackInit) :
    (engine.addTrack engine.newest init).2.sent handle = engine.sent handle := by
  unfold addTrack
  dsimp only
  split
  · rfl
  split
  · rfl
  split
  · rfl
  · next given _ =>
    let counted : Engine := { engine with lastTrack := engine.lastTrack + 1, tracksAdded := engine.tracksAdded + 1 }
    let grown : Peer := { engine.latest with tracks := engine.latest.tracks ++ [(given, init)] }
    have same : grown.sent = counted.latest.sent ++ [] := (List.append_nil _).symm
    exact (sent_setPeer same fun _ => rfl).trans (List.append_nil _)

/-- What a call sends on a track is what was sent there more. -/
theorem sent_respond (call : EngineCall) :
    (engine.respond engine.newest call).2.sent handle = engine.sent handle ++
      messagesOn handle (Event.sent? ⟨.engine call, (engine.respond engine.newest call).1⟩).toList := by
  have still : ∀ {peer : Peer}, peer.sent = engine.latest.sent →
      (engine.setPeer engine.newest peer).sent handle = engine.sent handle ++ messagesOn handle [] :=
    fun same => sent_setPeer (same.trans (List.append_nil _).symm) fun _ => rfl
  cases call with
  | create servers =>
    refine Eq.trans ?_ (List.append_nil _).symm
    unfold respond create
    dsimp only
    split
    · rfl
    · show (engine.peers ++ [Peer.fresh]).flatMap _ = _
      rw [List.flatMap_append]
      exact List.append_nil _
  | watchStates => exact still rfl
  | addTrack init => exact (sent_addTrack init).trans (List.append_nil _).symm
  | deleteTrack track => exact still rfl
  | setLocal kind => exact still (by cases kind <;> rfl)
  | localDescription => exact (List.append_nil _).symm
  | setRemote kind description => exact (List.append_nil _).symm
  | trackDescription track => exact (List.append_nil _).symm
  | send track message =>
    show (engine.setPeer engine.newest ((engine.peer engine.newest).send track message).2).sent handle =
      engine.sent handle ++ messagesOn handle
        (Event.sent? ⟨.engine (.send track message), ((engine.peer engine.newest).send track message).1⟩).toList
    unfold Peer.send
    split
    · next live =>
      refine sent_setPeer rfl fun none => ?_
      -- Without a peer connection no track is live.
      simp [Engine.peer, none, Peer.isLive, Peer.fresh] at live
    · exact still rfl
  | receive track capacity =>
    refine still ?_
    show ((engine.peer engine.newest).receive track capacity).2.sent = _
    unfold Peer.receive
    split
    · split
      · rfl
      · split <;> rfl
    · rfl
  | close => exact still rfl

end Engine

namespace Backend

variable {backend middle last : Backend} {event : Event} {events : List Event} {handle : Handle}

theorem Answers.sent (answers : backend.Answers event middle) :
    middle.engine.sent handle = backend.engine.sent handle ++ messagesOn handle event.sent?.toList := by
  cases answers with
  | engine call => exact Engine.sent_respond call
  | _ => exact (List.append_nil _).symm

/-- What the engine has sent goes on by what is sent along a run. -/
theorem Serves.sent (served : Serves backend events last) :
    last.engine.sent handle = backend.engine.sent handle ++ messagesOn handle (sentOff events) := by
  induction served with
  | nil backend => exact (List.append_nil _).symm
  | cons first rest ih => rw [ih, first.sent, sentOff_cons, messagesOn_append, List.append_assoc]

/-- Where nothing is transferred nothing is sent. -/
theorem Serves.sent_idle (served : Serves backend events last)
    (idle : ∀ event ∈ events, event.call.isTransfer = false) : last.engine.sent handle = backend.engine.sent handle := by
  have none : sentOff events = [] := List.filterMap_eq_nil_iff.2 fun event member => (quiet_of_idle (idle event member)).1
  rw [served.sent, none]
  exact List.append_nil _

theorem serves_cons (served : Serves backend (event :: events) last) :
    ∃ middle, backend.Answers event middle ∧ Serves middle events last := by
  cases served with
  | cons first rest => exact ⟨_, first, rest⟩

/-- What the host is asked makes no difference to the engine and the layer. -/
theorem Answers.of_host {call : HostCall} {answer : call.Answer}
    (answers : backend.Answers ⟨.host call, answer⟩ middle) (plain : call ≠ .bridgeLog) : middle = backend := by
  cases answers with
  | host => rfl
  | bridged => exact absurd rfl plain

/-- A message for a live track is taken. -/
theorem Carries.sends {handles : List Handle} (carries : backend.Carries handles) (own : handle ∈ handles)
    {message : Bytes} {answer : Except EngineError Unit}
    (answers : backend.Answers ⟨.engine (.send handle message), answer⟩ middle) : answer = .ok () := by
  obtain ⟨rfl, -⟩ := answers.of_engine
  have live : (backend.engine.peer backend.engine.newest).isLive handle = true := carries.live handle own
  simp [Engine.respond, Peer.send, live]

end Backend
end InMemory

open InMemory

namespace Rehearsal

/-- The record of a packet that was sent. -/
def noted (key : Nat) (packet : Packet) : Except Error Nat → List Event
  | .ok _ => [⟨.layer (.note key packet), ()⟩]
  | .error _ => []

/-- What the layer in memory does with a packet. One that is too large goes nowhere, any other becomes one message. -/
inductive Sends (target : Option Handle) (counters : Counters) (key : Nat) (packet : Packet) :
    List Event → Except Error Unit → Counters → Prop where
  | tooLarge (large : maxPacketSize < (message packet).length) :
      Sends target counters key packet [] (.error (.rtp "packet exceeds transport size")) counters
  | tried {events : List Event} {reply : Except Error Nat} {after : Counters}
      (fits : (message packet).length ≤ maxPacketSize)
      (sends : Transport.Sends target counters (message packet) events reply after) :
      Sends target counters key packet (events ++ noted key packet reply) (reply.map fun _ => ()) after

theorem sends_of_runs {target : Option Handle} {counters after : Counters} {key : Nat} {packet : Packet}
    {events : List Event} {outcome : Except Error Unit}
    (run : ((write packet (.note key packet (.done (.ok ())))).play target).Runs counters events (.ok outcome) after) :
    Sends target counters key packet events outcome after := by
  unfold write at run
  split at run
  · next large =>
    obtain ⟨rfl, same, rfl⟩ := Act.runs_pure.1 run
    cases same
    exact .tooLarge large
  · next fits =>
    obtain ⟨_, reply, _, _, rfl, sent, onward⟩ := Act.runs_attempt_bind.1 run
    have tried : Sends target counters key packet _ _ _ :=
      .tried (Nat.le_of_not_lt fits) (Transport.sends_of_runs sent)
    cases reply with
    | error cause =>
      obtain ⟨rfl, same, rfl⟩ := Act.runs_pure.1 onward
      cases same
      exact tried
    | ok size =>
      obtain ⟨_, _, rfl, noted⟩ := Act.runs_ask_bind.1 onward
      obtain ⟨rfl, same, rfl⟩ := Act.runs_pure.1 noted
      cases same
      exact tried

end Rehearsal

namespace Publisher

variable {publisher after : Publisher} {backend left : Backend} {events : List Event} {handles : List Handle}
  {streams : List StreamParams} {packet : Packet} {outcome : Except Error Unit}

/-- The payload with which a packet of a stream is sent. Access units of H.264 are framed as the stream asks. -/
def payloadOn (params : StreamParams) (packet : Packet) : Except Error Bytes := do
  let framing ← (framingOf params).mapError Error.media
  return (← reframed framing packet).payload

/-- The message that a packet of a stream becomes: a byte that tells keyframes, and the payload behind it. -/
def messageOn (params : StreamParams) (packet : Packet) : Except Error Bytes :=
  (payloadOn params packet).map fun payload => (if packet.isKeyframe then 1 else 0) :: payload

/-- What comes of a packet, and what it puts on the tracks. A packet that can go out does, unless a look has just
found the connection not open or the session cancelled. -/
inductive Posts (handles : List Handle) (streams : List StreamParams) (packet : Packet) (events : List Event) :
    List (Handle × Bytes) → Except Error Unit → Prop where
  | unconnected {state : ConnectionState} (other : state ≠ .connected)
      (told : ⟨.host .connectionState, state⟩ ∈ events) :
      Posts handles streams packet events [] (.error (.notConnected state))
  | absent (beyond : handles.length ≤ packet.stream) :
      Posts handles streams packet events [] (.error (.invalidStream packet.stream))
  | malformed {params : StreamParams} (given : streams[packet.stream]? = some params)
      (broken : messageOn params packet = .error (.media .invalidAccessUnit)) :
      Posts handles streams packet events [] (.error (.media .invalidAccessUnit))
  | tooLarge {params : StreamParams} {message : Bytes} (given : streams[packet.stream]? = some params)
      (whole : messageOn params packet = .ok message) (large : maxPacketSize < message.length) :
      Posts handles streams packet events [] (.error (.rtp "packet exceeds transport size"))
  | cancelled (told : ⟨.host .isCancelled, true⟩ ∈ events) :
      Posts handles streams packet events [] (.error .cancelled)
  | sent {params : StreamParams} {handle : Handle} {message : Bytes} (given : streams[packet.stream]? = some params)
      (own : handles[packet.stream]? = some handle) (whole : messageOn params packet = .ok message)
      (fits : message.length ≤ maxPacketSize) :
      Posts handles streams packet events [(handle, message)] (.ok ())

/-- A publisher over the engine in memory. Each of its tracks has a writer, and leads to its own handle, and each
of its streams is framed as it asks. -/
structure Attached (handles : List Handle) (streams : List StreamParams) (publisher : Publisher)
    (backend : Backend) : Prop where
  up : publisher.context.hasPeer = true
  ready : publisher.Ready
  holds : publisher.context.Holds handles
  carries : backend.Carries handles
  size : handles.length = streams.length
  framing : ∀ {index : Nat} {params : StreamParams}, streams[index]? = some params →
    ∃ own, framingOf params = .ok own ∧ publisher.framing[index]? = some own

theorem Attached.later (attached : Attached handles streams publisher backend) (counted : publisher.Counted after)
    (served : backend.Serves events left) (leaves : AllOf Call.leavesTracks events) :
    Attached handles streams after left where
  up := (Context.codecs_of_settings counted.1).2.trans attached.up
  ready := attached.ready.lasts (Context.lasts_of_settings counted.1) counted.2.2
  holds := attached.holds.of_settings counted.1
  carries := attached.carries.feeds served.feeds leaves
  size := attached.size
  framing given := counted.2.2 ▸ attached.framing given

/-- A packet of a stream is framed as the stream asks. -/
theorem Attached.messageOn_eq (attached : Attached handles streams publisher backend) {framing : Option Avc.Framing}
    (kept : publisher.framing[packet.stream]? = some framing) :
    ∃ params, streams[packet.stream]? = some params ∧
      messageOn params packet = (reframed framing packet).map Rehearsal.message := by
  have within := (List.getElem?_eq_some_iff.1 kept).1
  rw [attached.ready.framing, attached.holds.size, attached.size] at within
  have given := List.getElem?_eq_getElem within
  obtain ⟨own, asked, placed⟩ := attached.framing given
  cases kept.symm.trans placed
  refine ⟨_, given, ?_⟩
  rw [messageOn, payloadOn, asked]
  show Except.map _ (reframed framing packet >>= _) = _
  cases whole : reframed framing packet with
  | error cause => rfl
  | ok framed =>
    obtain ⟨payload, rfl⟩ := reframed_ok whole
    rfl

/-- A packet of a stream becomes one message on the track of the stream, or there is no trace of it. -/
theorem writePacket_posts (attached : Attached handles streams publisher backend)
    (run : (writePacket packet).Runs publisher events outcome after) (served : backend.Serves events left) :
    Posts handles streams packet events (sentOff events) outcome ∧
      ∀ cause, outcome = .error cause → after = publisher ∧ left = backend := by
  cases writePacket_puts attached.ready run with
  | released down => cases down.symm.trans attached.up
  | unconnected up other =>
    obtain ⟨_, looked, rest⟩ := Backend.serves_cons served
    cases rest
    exact ⟨.unconnected other List.mem_cons_self, fun _ _ => ⟨rfl, looked.of_host nofun⟩⟩
  | passed up puts =>
    obtain ⟨_, looked, rest⟩ := Backend.serves_cons served
    obtain rfl := looked.of_host nofun
    cases puts with
    | absent beyond =>
      cases rest
      rw [attached.holds.size] at beyond
      exact ⟨.absent beyond, fun _ _ => ⟨rfl, rfl⟩⟩
    | malformed kept broken =>
      cases rest
      obtain ⟨params, given, message⟩ := attached.messageOn_eq kept
      rw [broken] at message
      exact ⟨.malformed given message, fun _ _ => ⟨rfl, rfl⟩⟩
    | @put track writer framing framed relay played _ counters found opened kept whole plays =>
      obtain ⟨params, given, message⟩ := attached.messageOn_eq kept
      rw [whole] at message
      obtain ⟨handle, own, -, -, target⟩ := attached.holds.of_track found
      obtain ⟨_, called, rest⟩ := Backend.serves_cons rest
      obtain ⟨rfl, rfl⟩ := called.of_layer
      have unchanged : { publisher with context := publisher.context.setTrack packet.stream track } = publisher := by
        rw [Context.setTrack_self found]
      cases Rehearsal.sends_of_runs plays with
      | tooLarge large =>
        cases rest
        exact ⟨.tooLarge given message large, fun _ _ => ⟨unchanged, rfl⟩⟩
      | tried fits sends =>
        rw [target] at sends
        cases sends with
        | cancelled =>
          obtain ⟨_, asked, rest⟩ := Backend.serves_cons rest
          cases rest
          exact ⟨.cancelled (by simp), fun _ _ => ⟨unchanged, asked.of_host nofun⟩⟩
        | unattached loose => cases loose
        | answered same answer =>
          cases same
          obtain ⟨_, asked, rest⟩ := Backend.serves_cons rest
          obtain rfl := asked.of_host nofun
          obtain ⟨_, sent, -⟩ := Backend.serves_cons rest
          obtain rfl := attached.carries.sends (List.mem_of_getElem? own) sent
          exact ⟨.sent given own message fits, nofun⟩

/-- One packet of the caller, with all there is before it and after it. -/
structure Turn where
  packet : Packet
  publisher : Publisher
  backend : Backend
  events : List Event
  outcome : Except Error Unit
  after : Publisher
  left : Backend

/-- Whether the packet went out on the stream at an index. -/
def Turn.passed (index : Nat) (turn : Turn) : Bool := turn.outcome.isOk && turn.packet.stream == index

/-- Packets one after the other, all sent over the engine and the layer in memory. -/
inductive Course : Publisher → Backend → List Turn → Publisher → Backend → Prop where
  | done (publisher : Publisher) (backend : Backend) : Course publisher backend [] publisher backend
  | turn {turn : Turn} {turns : List Turn} {after : Publisher} {left : Backend}
      (run : (writePacket turn.packet).Runs turn.publisher turn.events turn.outcome turn.after)
      (served : turn.backend.Serves turn.events turn.left) (rest : Course turn.after turn.left turns after left) :
      Course turn.publisher turn.backend (turn :: turns) after left

variable {turns : List Turn} {index : Nat} {handle : Handle} {params : StreamParams}

/-- A packet puts its message on the track of its stream if it goes out, and on no other. -/
theorem Posts.messages {posted : List (Handle × Bytes)} (posts : Posts handles streams packet events posted outcome)
    (distinct : handles.Nodup) (own : handles[index]? = some handle) (given : streams[index]? = some params) :
    (messagesOn handle posted).map Except.ok =
      if outcome.isOk && packet.stream == index then [messageOn params packet] else [] := by
  cases posts with
  | @sent params other message there held whole fits =>
    by_cases same : packet.stream = index
    · subst same
      cases held.symm.trans own
      cases there.symm.trans given
      rw [messagesOn_cons_self, beq_self_eq_true, whole]
      rfl
    · have apart : other ≠ handle := by
        rintro rfl
        have within := (List.getElem?_eq_some_iff.1 held).1
        exact same ((List.getElem?_inj within distinct).1 (held.trans own.symm))
      rw [messagesOn_cons_ne apart, beq_eq_false_iff_ne.2 same]
      rfl
  | _ => rfl

/-- Packet by packet, the messages on the track of a stream are those of the packets that went out on it. -/
theorem Course.sends (course : Course publisher backend turns after left)
    (attached : Attached handles streams publisher backend) :
    (∀ turn ∈ turns, Posts handles streams turn.packet turn.events (sentOff turn.events) turn.outcome ∧
      ∀ cause, turn.outcome = .error cause → turn.after = turn.publisher ∧ turn.left = turn.backend) ∧
    ∀ {index : Nat} {handle : Handle} {params : StreamParams}, handles[index]? = some handle →
      streams[index]? = some params → ∃ messages,
        left.engine.sent handle = backend.engine.sent handle ++ messages ∧
        messages.map Except.ok = (turns.filter (Turn.passed index)).map fun turn => messageOn params turn.packet := by
  induction course with
  | done publisher backend => exact ⟨List.forall_mem_nil _, fun _ _ => ⟨[], (List.append_nil _).symm, rfl⟩⟩
  | @turn turn turns after left run served rest ih =>
    have leaves := (works_writePacket _ _ _ run).ofKind.weaken leavesTracks_of_working
    have posts := writePacket_posts attached run served
    obtain ⟨all, onward⟩ := ih (attached.later (writePacket_counts run) served leaves)
    refine ⟨List.forall_mem_cons.2 ⟨posts, all⟩, fun {index handle params} own given => ?_⟩
    obtain ⟨messages, law, told⟩ := onward own given
    refine ⟨messagesOn handle (sentOff turn.events) ++ messages, ?_, ?_⟩
    · rw [law, served.sent, List.append_assoc]
    · rw [List.map_append, told, posts.1.messages attached.carries.distinct own given, List.filter_cons, Turn.passed]
      split <;> rfl

/-- A publisher that has opened over the engine and the layer in memory sends each packet once, in order and whole,
or not at all. -/
theorem openSession_sends {config : ClientConfig} {opening : List Event} {start : Backend}
    (opened : (openSession config streams).Runs () opening (.ok publisher) ()) (served : backend.Serves opening start)
    (course : Course publisher start turns after left) :
    ∃ handles : List Handle, publisher.context.registry.handles = handles.map some ∧
      handles.length = streams.length ∧ handles.Nodup ∧
      (∀ turn ∈ turns, Posts handles streams turn.packet turn.events (sentOff turn.events) turn.outcome ∧
        ∀ cause, turn.outcome = .error cause → turn.after = turn.publisher ∧ turn.left = turn.backend) ∧
      ∀ {index : Nat} {handle : Handle} {params : StreamParams}, handles[index]? = some handle →
        streams[index]? = some params → ∃ messages,
          left.engine.sent handle = backend.engine.sent handle ++ messages ∧
          messages.map Except.ok = (turns.filter (Turn.passed index)).map fun turn => messageOn params turn.packet := by
  have whole : (Client.openSession (.ingest streams) config).Runs () opening (.ok (.publisher publisher)) () :=
    Act.runs_bind.2 (.inr ⟨_, _, (), [], (List.append_nil _).symm, opened, .done _⟩)
  obtain ⟨handles, size, holds, carries, -⟩ := served.feeds.carries (Client.opens_of_runs whole)
  obtain ⟨_, lines, wired, strung⟩ := wired_of_opened opened
  have framing : ∀ {index : Nat} {params : StreamParams}, streams[index]? = some params →
      ∃ own, framingOf params = .ok own ∧ publisher.framing[index]? = some own := by
    intro index params given
    rw [← wired.params, List.getElem?_map, Option.map_eq_some_iff] at given
    obtain ⟨line, listed, rfl⟩ := given
    exact strung.framed listed
  obtain ⟨posts, sends⟩ := course.sends ⟨strung.up, Client.ready_of_opened whole, holds, carries, size, framing⟩
  refine ⟨handles, holds.handles_eq, size, carries.distinct, posts, fun own given => ?_⟩
  rw [← served.sent_idle (opening_idle opened)]
  exact sends own given

/-! The camera over the engine and the layer in memory. A keyframe goes out, and a packet that is cut short does
not. -/

namespace Camera.Live

open AvcConfig
open Player.Revised (posting)

def line : Line := { Camera.line with writer := ⟨0, 96, 0x10000⟩ }

def offer : String := Rehearsal.offer [line.announced (Text.uuid 0) 0]

def opening : List Event :=
  Client.Unanswered.beginning ++
    (Broadcast.wiring line 0 ++ ((Exchange.offering offer ++ posting offer) ++ Broadcast.waiting))

def session : Publisher :=
  { Camera.session with
    context := { Broadcast.session.context with registry := ⟨[Broadcast.track 0 line]⟩ } }

def offered : Publisher := { session with context := { session.context with timeToConnect := none } }

theorem adds : ([stream].zipIdx.forM fun (params, index) => addStream params index).Runs start
    (Broadcast.wiring line 0) (.ok ()) offered :=
  .call _ _ _ (.call _ _ _ (.done _))

theorem offer_small : Sdp.checkSize offer.utf8ByteSize = .ok () := by
  rw [offer, Rehearsal.offer, Text.utf8ByteSize_ofList]
  decide +kernel

theorem creates {offer : String} (small : Sdp.checkSize offer.utf8ByteSize = .ok ()) :
    (onContext Context.createResource).Runs offered (Exchange.offering offer ++ posting offer) (.ok ()) offered := by
  refine Act.runs_within.2 ⟨offered.context, rfl, ?_⟩
  refine Act.runs_bind.2 (.inr ⟨[], (), offered.context, _, rfl, .done _, ?_⟩)
  refine Act.runs_within.2 ⟨offered.context.exchange, rfl, Exchange.runs_offering rfl small ?_⟩
  exact .call _ _ _ (.call _ _ _ (.call _ _ _ (.done _)))

theorem connects : (onContext Context.waitConnected).Runs offered Broadcast.waiting (.ok ()) session := by
  refine Act.runs_within.2 ⟨session.context, rfl, ?_⟩
  refine Act.runs_get_bind.2 (Act.runs_bind.2 (.inr ⟨_, (), _, _, rfl, Broadcast.waits (by decide), ?_⟩))
  exact .call _ _ _ (.done _)

theorem sets : setup.Runs start
    (Broadcast.wiring line 0 ++ ((Exchange.offering offer ++ posting offer) ++ Broadcast.waiting)) (.ok ()) session :=
  Act.runs_get_bind.2 (Act.runs_bind.2 (.inr ⟨_, (), offered, _, rfl, adds,
    Act.runs_bind.2 (.inr ⟨_, (), offered, _, rfl, creates offer_small, connects⟩)⟩))

theorem runs : (openSession Client.Unanswered.setting [stream]).Runs () opening (.ok session) () := by
  refine Act.runs_bind.2 (.inr ⟨[], (), (), _, rfl, Act.runs_settle.2 ⟨rfl, rfl, rfl⟩, ?_⟩)
  refine Act.runs_bind.2 (.inr ⟨Client.Unanswered.beginning, _, (), _, rfl,
    (Context.Begins.begun Client.Unanswered.validate_setting 0 Client.Unanswered.outset).runs, ?_⟩)
  exact Script.yields_bind_iff.2 ⟨_, _, [], (List.append_nil _).symm, sets, .done _⟩

/-- What is in memory with these messages sent and these packets on record. -/
def stage (sent : List (Handle × Bytes)) (packets : List Packet) : Backend where
  engine := { Engine.empty with
    peers := [⟨true, [(Client.Unanswered.video, line.announced (Text.uuid 0) 0)], [], sent, some offer, false⟩]
    lastTrack := 1
    tracksAdded := 1 }
  rtp := ⟨[⟨96, 0x10000, line.published, packets⟩], [], 1⟩

theorem serves : (⟨.empty, .empty⟩ : Backend).Serves opening (stage [] []) :=
  .cons (.host _ _) (.cons (.engine _) (.cons (.engine _) (.cons (.host _ _) (.cons (.host _ _)
    (.cons (.layer _) (.cons (.engine _) (.cons (.engine _) (.cons (.engine _) (.cons (.host _ _)
      (.cons (.http _ _) (.cons (.engine _) (.cons (.host _ _) (.cons (.host _ _)
        (.cons (.host _ _) (.nil _)))))))))))))))

def message : Bytes := Rehearsal.message framed

def sent : Publisher :=
  { session with
    context := session.context.setTrack 0
      { Broadcast.track 0 line with counters := (Counters.zero.sent 29).frame true } }

def sending : Turn where
  packet := keyframe
  publisher := session
  backend := stage [] []
  events := [seenOpen, ⟨.layer (.write 0 framed), Rehearsal.write framed (.note 0 framed (.done (.ok ())))⟩,
    ⟨.host .isCancelled, false⟩, ⟨.engine (.send Client.Unanswered.video message), .ok ()⟩,
    ⟨.layer (.note 0 framed), ()⟩]
  outcome := .ok ()
  after := sent
  left := stage [(Client.Unanswered.video, message)] [framed]

/-- A length of which three bytes are missing. -/
def short : Packet := .make 0 6000 [0]

def failing : Turn where
  packet := short
  publisher := sent
  backend := sending.left
  events := [seenOpen]
  outcome := .error (.media .invalidAccessUnit)
  after := sent
  left := sending.left

theorem sends : (writePacket sending.packet).Runs sending.publisher sending.events sending.outcome sending.after := by
  have looks : (onContext Context.ensureConnected).Runs session [seenOpen] (.ok ()) session :=
    .call _ _ _ (.done _)
  refine Act.runs_bind.2 (.inr ⟨_, (), _, _, rfl, looks, ?_⟩)
  show Act.Runs (onContext (Context.onTrack 0 (Track.write
    (((Avc.Framing.ofConfig Baseline.config).apply keyframe).mapError Error.media)))) _ _ _ _
  rw [applies]
  exact .call _ _ _ (.call _ _ _ (.call _ _ _ (.call _ _ _ (.done _))))

theorem refuses : (Avc.Framing.ofConfig Baseline.config).apply short = .error .invalidAccessUnit := by
  have unsplit : Avc.splitUnits? (4 : UInt8).toNat short.payload = none := by
    rw [Avc.splitUnits?]
    rfl
  have cut : Avc.toByteStream? short.payload 4 = none := by
    show (if _ then (Avc.splitUnits? _ _).map Avc.write else none) = none
    rw [if_pos (by decide), unsplit]
    rfl
  show (demand MediaError.invalidAccessUnit (Avc.toByteStream? short.payload 4)).map _ = _
  rw [cut]
  rfl

theorem fails : (writePacket failing.packet).Runs failing.publisher failing.events failing.outcome failing.after := by
  have looks : (onContext Context.ensureConnected).Runs sent [seenOpen] (.ok ()) sent :=
    .call _ _ _ (.done _)
  refine Act.runs_bind.2 (.inr ⟨_, (), _, _, rfl, looks, ?_⟩)
  show Act.Runs (onContext (Context.onTrack 0 (Track.write
    (((Avc.Framing.ofConfig Baseline.config).apply short).mapError Error.media)))) _ _ _ _
  rw [refuses]
  exact .done _

theorem courses : Course session (stage [] []) [sending, failing] sent failing.left := by
  have sent : sending.backend.Serves sending.events sending.left :=
    .cons (.host _ _) (.cons (.layer _) (.cons (.host _ _) (.cons (.engine _) (.cons (.layer _) (.nil _)))))
  have failed : failing.backend.Serves failing.events failing.left := .cons (.host _ _) (.nil _)
  exact .turn sends sent (.turn fails failed (.done _ _))

end Camera.Live

theorem openSession_sends_camera : ∃ messages,
    Camera.Live.failing.left.engine.sent Client.Unanswered.video = [] ++ messages ∧
      messages.map Except.ok = [messageOn Camera.stream Camera.keyframe] := by
  obtain ⟨handles, named, -, -, -, sends⟩ := openSession_sends Camera.Live.runs Camera.Live.serves Camera.Live.courses
  obtain rfl : [Client.Unanswered.video] = handles := (List.map_inj_right fun _ _ => Option.some.inj).1 named
  have own : [Client.Unanswered.video][0]? = some Client.Unanswered.video := rfl
  exact sends own rfl

end Publisher
end WhipWhep
