import WhipWhep.Proofs.Exchange.Refusing
import WhipWhep.Proofs.Session.Awaiting
import WhipWhep.Proofs.Session.Dismantling
import WhipWhep.Proofs.Session.Refusing
import WhipWhep.Proofs.Session.Sizes

/-!
What a cancellation stops, and what it does not. It is looked at before a request that posts the offer and while
that is pending, before a message is sent or received, and whenever the wait for the connection has seen nothing
decisive. It is not looked at by anything that takes down what the session holds.
-/

namespace WhipWhep

variable {events : List Event}

/-! What has to be let through. -/

/-- What a session is woven of posts, sends and receives only right after a look that has let it. -/
theorem Woven.preceded {kind : Call → Bool} (woven : Woven kind events) :
    Preceded Call.isStoppable (fun previous _ => previous = lookedFree) none events := by
  induction woven with
  | nil => exact trivial
  | single allowed free woven ih =>
    exact ⟨fun stoppable => (by cases free.symm.trans stoppable), ih.after_any⟩
  | played plays woven ih =>
    refine (Relay.preceded_of_play (fun {call} relayed idle => ?_) _ _ _ plays).append ih
    unfold Call.isStoppable
    split
    · cases relayed
    · exact idle
  | posted allowed posting woven ih =>
    refine Preceded.append ?_ ih
    cases posting with
    | unsendable unfit => exact trivial
    | cancelled fit => exact ⟨nofun, trivial⟩
    | abandoned fit woken => exact ⟨nofun, fun _ => ⟨_, rfl, rfl⟩, trivial⟩
    | ended fit steady => exact ⟨nofun, fun _ => ⟨_, rfl, rfl⟩, trivial⟩

theorem idle_of_unstoppable {call : Call} (free : call.isStoppable = false) : call.isTransfer = false := by
  unfold Call.isStoppable at free
  split at free
  · rfl
  · exact free

/-! The one exchange of an opening. -/

namespace Exchanges

variable {α : Type} {outcome : Except Error α} {before after : List Event} {request : HttpRequest}
  {progress : Progress} {response : HttpResponse}

theorem refused {offer : String} (exchanges : Exchanges events outcome)
    (split : events = before ++ ⟨.engine .localDescription, .ok offer⟩ :: after) (cancelled : AllCancelled after) :
    ∃ cause, outcome = .error cause ∧ Unposted cause := by
  obtain ⟨_, _, _, _, _, _, _, -, rfl, -, -, creates, -, decides⟩ := exchanges.of_part split rfl
  obtain ⟨cause, failed, refused⟩ := creates.refused rfl cancelled.left
  exact ⟨cause, (decides cause failed).1, refused⟩

theorem refused_behind (exchanges : Exchanges events outcome)
    (split : events = before ++ ⟨.http request, progress⟩ :: after) (cancelled : AllCancelled after)
    (method : request.method = .post) (steady : progress.wakes.any id = false) (got : progress.result = .ok response)
    (redirect : response.isRedirect = true) : ∃ cause, outcome = .error cause ∧ Unposted cause := by
  obtain ⟨_, _, _, _, _, _, _, -, rfl, -, -, creates, -, decides⟩ :=
    exchanges.of_part split (by simp [Call.isApart, method])
  obtain ⟨cause, failed, refused⟩ := creates.refused_behind rfl cancelled.left steady got redirect
  exact ⟨cause, (decides cause failed).1, refused⟩

/-- A request that is given up is the last one of the opening, and there is no answer to apply. -/
theorem abandoned (exchanges : Exchanges events outcome) (made : ⟨.http request, progress⟩ ∈ events)
    (method : request.method = .post) (woken : progress.wakes.any id = true) :
    outcome = .error .cancelled ∧ (requested events).getLast? = some (request, progress) ∧
      ∀ event ∈ events, ∀ kind text, event.call ≠ .engine (.setRemote kind text) := by
  obtain ⟨_, _, split⟩ := List.append_of_mem made
  obtain ⟨early, first, second, late, _, _, _, rfl, rfl, apart, unasked, creates, behind, decides⟩ :=
    exchanges.of_part split (by simp [Call.isApart, method])
  obtain ⟨failed, last, vacant, unapplied⟩ := creates.abandoned (List.mem_append_right _ List.mem_cons_self) woken
  obtain ⟨same, offline⟩ := decides _ failed
  rw [List.append_assoc, ← List.cons_append, ← List.append_assoc first] at split
  rw [split]
  refine ⟨same, ?_, List.forall_mem_append.2 ⟨unapplied_of_apart apart,
    List.forall_mem_append.2 ⟨unapplied, unapplied_of_apart behind⟩⟩⟩
  rw [requested_append, requested_append, unasked, offline vacant, List.append_nil]
  exact last

end Exchanges

/-! The counters. -/

/-- What comes after the cancellation is not counted. -/
theorem Registry.Bills.stopped {handles : List Handle} {plan : Nat → Nat} {registry after : Registry}
    {early late : List Event} {packets : List Packet}
    (bills : Registry.Bills handles plan 0 registry events packets after)
    (split : events = early ++ late) (free : ∀ event ∈ late, event.call.isStoppable = false) (index : Nat) :
    after.counters[index]? = registry.counters[index]?.map fun counters : Counters =>
      counters.plus (tally (share plan index 0 early) (packetsOf index packets)) := by
  have idle : ∀ event ∈ share plan index (0 + lendings early) late, event.call.isTransfer = false :=
    fun event member => idle_of_unstoppable (free event (share_sublist.mem member))
  rw [bills.counters, split, share_append, tally_stopped idle]

namespace Client

variable {role : Role} {config : ClientConfig} {opening dropping : List Event} {outcome : Except Error Client}
  {first last : Client} {turns earlier later : List Turn} {turn : Turn}

theorem weaves_drop {client : Client} : Client.drop.Keeps (Weaves Call.isInUse) client :=
  weaves_within Context.weaves_release

theorem Lives.woven (lives : Lives first turns last) : Woven Call.isAny (turns.flatMap Turn.events) := by
  induction lives with
  | nil client => exact .nil
  | cons run rest ih => exact (Operation.weaves run).any.append ih

/-- Each turn of a session was taken, and the session had what it needs for it. -/
theorem Lives.turn_runs (lives : Lives first turns last) (ready : first.Ready) : ∀ turn ∈ turns,
    turn.before.Ready ∧ turn.operation.moves.Runs turn.before turn.events turn.outcome turn.after := by
  induction lives with
  | nil client => exact List.forall_mem_nil _
  | cons run rest ih =>
    have lasts := Operation.lasts run
    exact List.forall_mem_cons.2 ⟨⟨ready, run⟩, ih (ready.lasts lasts)⟩

/-- Over the layer in memory a session moves no packet for a caller who is cancelled. -/
theorem Lives.unmoved {backend left : InMemory.Backend} (lives : Lives first turns last) (ready : first.Ready)
    (member : turn ∈ turns) (moving : turn.operation.isMoving = true) (served : backend.Serves turn.events left)
    (cancelled : AllCancelled turn.events) : ∃ cause, turn.outcome = .error cause ∧ Unmoved cause := by
  obtain ⟨readied, moves⟩ := lives.turn_runs ready turn member
  exact Operation.refused readied moving moves cancelled fun event among => (served.layered event among).handsOn

/-- The books are kept up to each turn of a session. -/
theorem Lives.ledger {past : List Event} (lives : Lives first turns last) (ledger : Ledger past first.context)
    (split : turns = earlier ++ turn :: later) :
    Ledger (past ++ earlier.flatMap Turn.events) turn.before.context := by
  induction lives generalizing past earlier with
  | nil client => simp at split
  | cons run rest ih =>
    rcases earlier with - | ⟨_, others⟩
    · obtain ⟨rfl, -⟩ := List.cons.inj split
      rwa [List.flatMap_nil, List.append_nil]
    · obtain ⟨rfl, onward⟩ := List.cons.inj split
      have stepped := (Operation.ledger ledger run).1
      rw [List.flatMap_cons, ← List.append_assoc]
      exact ih stepped onward

/-- What is done with a session from its opening on: it is never opened, or it is used and in the end perhaps let
go without being closed. -/
inductive Used : Except Error Client → List Turn → List Event → Prop where
  | never (cause : Error) : Used (.error cause) [] []
  | kept {first last : Client} {turns : List Turn} (lives : Lives first turns last) : Used (.ok first) turns []
  | dropped {first last after : Client} {turns : List Turn} {dropping : List Event} {outcome : Except Error Unit}
      (lives : Lives first turns last) (drops : Client.drop.Runs last dropping outcome after) :
      Used (.ok first) turns dropping

theorem Used.woven (used : Used outcome turns dropping) : Woven Call.isAny (turns.flatMap Turn.events ++ dropping) := by
  cases used with
  | never cause => exact .nil
  | kept lives => exact lives.woven.append .nil
  | dropped lives drops => exact lives.woven.append (weaves_drop _ _ _ drops).any

/-- A session in use has been opened. -/
theorem Used.lives (used : Used outcome turns dropping) (member : turn ∈ turns) :
    ∃ first last, outcome = .ok first ∧ Lives first turns last := by
  cases used with
  | never cause => cases member
  | kept lives => exact ⟨_, _, rfl, lives⟩
  | dropped lives drops => exact ⟨_, _, rfl, lives⟩

/-- What is said of a session whose caller is cancelled at some time, or never. -/
structure Stops (role : Role) (opening : List Event) (outcome : Except Error Client) (turns : List Turn)
    (dropping : List Event) : Prop where
  /-- Nothing is posted, sent or received any more. -/
  stopped : ∀ before after, opening ++ (turns.flatMap Turn.events ++ dropping) = before ++ after →
    CancelledBetween before after → ∀ event ∈ after, event.call.isStoppable = false
  /-- An offer that was not posted yet is not posted, and the opening fails. -/
  unposted : ∀ before offer after, opening = before ++ ⟨.engine .localDescription, .ok offer⟩ :: after →
    AllCancelled after → ∃ cause, outcome = .error cause ∧ Unposted cause
  /-- One that was sent on is not posted again. -/
  redirected : ∀ before request progress response after, opening = before ++ ⟨.http request, progress⟩ :: after →
    AllCancelled after → request.method = .post → progress.wakes.any id = false → progress.result = .ok response →
    response.isRedirect = true → ∃ cause, outcome = .error cause ∧ Unposted cause
  /-- A post that is pending is given up, and no answer is applied. -/
  pending : ∀ request progress, ⟨.http request, progress⟩ ∈ opening → request.method = .post →
    progress.wakes.any id = true → outcome = .error .cancelled ∧
      (requested opening).getLast? = some (request, progress) ∧
      ∀ event ∈ opening, ∀ kind text, event.call ≠ .engine (.setRemote kind text)
  waiting : Awaits opening outcome
  /-- Whatever is tried on a transport is refused, and nothing is counted. -/
  sends : ∀ {target : Option Handle} {message : Bytes} {counters after : Counters} {events : List Event}
    {outcome : Except Error Nat}, (Transport.send target message).Runs counters events outcome after →
    AllCancelled events → outcome = .error .cancelled ∧ after = counters
  receives : ∀ {target : Option Handle} {capacity : Nat} {counters after : Counters} {events : List Event}
    {outcome : Except Error Bytes}, (Transport.receive target capacity).Runs counters events outcome after →
    AllCancelled events → outcome = .error .cancelled ∧ after = counters
  refused : ∀ turn ∈ turns, turn.operation.isMoving = true → AllCancelled turn.events →
    (∀ event ∈ turn.events, event.HandsOn) → ∃ cause, turn.outcome = .error cause ∧ Unmoved cause
  /-- The counters of an opening that was not kept from succeeding say what has passed before. -/
  opened : ∀ first early late, outcome = .ok first → opening = early ++ late → CancelledBetween early late →
    ∀ index : Nat, first.context.registry.counters[index]? =
      (Registry.allocate role.tracks).counters[index]?.map fun counters : Counters =>
        counters.plus (tally (share id index 0 early) [])
  /-- And so do those of a session in use. -/
  counted : ∀ turn ∈ turns, ∀ early late, turn.events = early ++ late → CancelledBetween early late →
    ∀ index : Nat, turn.after.context.registry.counters[index]? =
      turn.before.context.registry.counters[index]?.map fun counters : Counters =>
        counters.plus (tally (share (turn.operation.schedule turn.before) index 0 early) (packetsOf index turn.packets))
  /-- A failed opening has deleted what was created, and has given back what it held. -/
  failed : ∀ cause, outcome = .error cause → DeletesOnce opening
  /-- So has a session that is closed. It is taken down in order, and its resource is deleted. -/
  closed : ∀ earlier turn later, turns = earlier ++ turn :: later → turn.operation = .close →
    DeletesOnce (opening ++ (earlier.flatMap Turn.events ++ turn.events)) ∧
      (turn.before.context.hasPeer = true →
        Context.Dismantles turn.before.context .close turn.events turn.after.context)

/-- At whatever moment the caller of a session is cancelled, no offer is posted and no message is sent or received
from then on. What was pending is given up, and the end of the session is what it would have been. -/
theorem cancellation_stops (run : (openSession role config).Runs () opening outcome ())
    (used : Used outcome turns dropping) : Stops role opening outcome turns dropping := by
  have opens := opens_of_runs run
  have exchanges := opens.exchanges
  refine ⟨?_, fun _ _ _ => exchanges.refused, fun _ _ _ _ _ => exchanges.refused_behind, fun _ _ => exchanges.abandoned,
    opens.awaits, Transport.send_refused, Transport.receive_refused, ?_, ?_, ?_, ?_, ?_⟩
  · intro before after split cancelled
    have woven := (weaves_openSession _ _ _ run).append used.woven
    exact cancelled.stops (split ▸ woven.preceded)
  · intro turn member moving cancelled hands
    obtain ⟨first, last, rfl, lives⟩ := used.lives member
    obtain ⟨ready, moves⟩ := lives.turn_runs (ready_of_opened run) turn member
    exact Operation.refused ready moving moves cancelled hands
  · rintro first early late rfl split cancelled index
    obtain ⟨handles, -, -, bills⟩ := opens.bills
    exact bills.stopped split (cancelled.stops (split ▸ (weaves_openSession _ _ _ run).preceded)) index
  · intro turn member early late split cancelled
    obtain ⟨first, last, rfl, lives⟩ := used.lives member
    obtain ⟨handles, -, holds, -⟩ := opens.bills
    have bills := (lives.bills (ready_of_opened run) fun _ => holds).each turn member
    obtain ⟨-, moves⟩ := lives.turn_runs (ready_of_opened run) turn member
    exact bills.stopped split (cancelled.stops (split ▸ (Operation.weaves moves).preceded))
  · rintro cause rfl
    exact opens.deletes
  · intro earlier turn later split closes
    have member : turn ∈ turns := by simp [split]
    obtain ⟨first, last, rfl, lives⟩ := used.lives member
    have ledger := lives.ledger opens.ledger split
    obtain ⟨-, moves⟩ := lives.turn_runs (ready_of_opened run) turn member
    obtain ⟨closed, down⟩ := Operation.ledger ledger moves
    rw [List.append_assoc] at closed
    refine ⟨deletesOnce_of_ledger closed (down (.inl closes)), fun up => ?_⟩
    rw [closes] at moves
    obtain ⟨_, -, inside⟩ := runs_told moves
    exact Context.close_dismantles up ledger.sendable (runs_onContext inside)

/-- The caller of a broadcast is cancelled before its packet is sent. The layer hands that on. -/
def silenced : Turn where
  operation := .write Publisher.Broadcast.packet
  before := .publisher Publisher.Broadcast.session
  events :=
    [seenOpen, ⟨.layer (.write 1 Publisher.Broadcast.packet),
      .send [1, 2, 3] fun reply => .done (reply.map fun _ => ())⟩, ⟨.host .isCancelled, true⟩]
  outcome := .error .cancelled
  after := .publisher Publisher.Broadcast.session

theorem cancellation_stops_broadcast :
    Stops (.ingest [Publisher.Broadcast.video, Publisher.Broadcast.audio]) Publisher.Broadcast.opening
      (.ok silenced.before) [silenced] [] := by
  have opened : (openSession (.ingest [Publisher.Broadcast.video, Publisher.Broadcast.audio])
      Unanswered.setting).Runs () Publisher.Broadcast.opening (.ok silenced.before) () :=
    Act.runs_bind.2 (.inr ⟨_, _, (), [], (List.append_nil _).symm, Publisher.Broadcast.runs, .done _⟩)
  have writes : silenced.operation.moves.Runs silenced.before silenced.events silenced.outcome silenced.after :=
    .call _ _ _ (.call _ _ _ (.call _ _ _ (.done _)))
  exact cancellation_stops opened (.kept (.cons writes (.nil _)))

end Client
end WhipWhep
