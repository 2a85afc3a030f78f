import WhipWhep.Proofs.Exchange.Resource
import WhipWhep.Proofs.Session.Opening

/-!
Deleting the remote resource. What the endpoint has created is deleted once, before anything is taken
down on the engine's side, however the session comes to its end and however often it is closed.
-/

namespace WhipWhep

namespace Client

/-- What a caller can do with an open session. -/
inductive Operation where
  | write (packet : Packet)
  | tryReadStream (index : Nat)
  | tryRead
  | read
  | state
  | stats
  | close
  deriving DecidableEq

/-- An operation, with the packet that it takes or hands out if it succeeds. -/
def Operation.moves : Operation → Act Client (Option Packet)
  | write packet => do
    Client.writePacket packet
    return some packet
  | tryReadStream index => do return some (← asPlayer notPlayer (Player.tryReadStream index))
  | tryRead => do return some (← asPlayer notPlayer Player.tryRead)
  | read => do return some (← asPlayer notPlayer Player.read)
  | state => do
    let _ ← Client.state
    return none
  | stats => do
    let _ ← Client.stats
    return none
  | close => do
    Client.close
    return none
where
  notPlayer : Error := .defect (.other "not a player")

/-- An operation, whatever it comes to. -/
def Operation.perform (operation : Operation) : Act Client Unit := do
  let _ ← operation.moves.attempt

/-- A run of a session up to its end: it could not be opened, or it was closed at least once. -/
inductive Ended (role : Role) (config : ClientConfig) : List Event → Prop where
  | failed {events : List Event} {cause : Error}
      (run : (openSession role config).Runs () events (.error cause) ()) : Ended role config events
  | closed {first second : List Event} {client after : Client} {operations : List Operation}
      {outcome : Except Error PUnit}
      (opened : (openSession role config).Runs () first (.ok client) ())
      (used : (operations.forM Operation.perform).Runs client second outcome after)
      (closes : .close ∈ operations) : Ended role config (first ++ second)

end Client

/-! The order of deletions and dismissals. -/

/-- No resource is deleted once something was taken down. -/
def DeletesFirst (events : List Event) : Prop :=
  events.Pairwise fun earlier later => earlier.call.isDismissal = true → later.deletion? = none

variable {events more : List Event}

theorem DeletesFirst.append_quiet (first : DeletesFirst events) (quiet : deletions more = []) :
    DeletesFirst (events ++ more) := by
  have none : ∀ event ∈ more, event.deletion? = none := List.filterMap_eq_nil_iff.1 quiet
  have rest : DeletesFirst more := List.pairwise_of_forall_mem_list fun _ _ later member _ =>
    none later member
  exact List.pairwise_append.2 ⟨first, rest, fun _ _ later member _ => none later member⟩

theorem DeletesFirst.after_standing (stands : AllOf Call.stands events) (second : DeletesFirst more) :
    DeletesFirst (events ++ more) := by
  have never : ∀ {earlier later : Event}, earlier ∈ events → earlier.call.isDismissal = true →
      later.deletion? = none := by
    intro earlier later member dismissal
    have stays := stands earlier member
    rw [Call.stands, dismissal] at stays
    cases stays
  have first : DeletesFirst events := List.pairwise_of_forall_mem_list fun _ member _ _ => never member
  exact List.pairwise_append.2 ⟨first, second, fun _ member _ _ => never member⟩

theorem local_of_working {call : Call} (working : call.isWorking = true) : call.isLocal = true := by
  unfold Call.isLocal
  split <;> first | rfl | cases working

theorem local_of_releasing {call : Call} (releasing : call.isReleasing = true) :
    call.isLocal = true := by
  unfold Call.isLocal
  split <;> first | rfl | cases releasing

namespace Exchange

variable {exchange : Exchange}

theorem Deletes.stands (deletes : exchange.Deletes events) : AllOf Call.stands events := by
  cases deletes with
  | absent vacant => exact .nil
  | unsendable stored unfit => exact .nil
  | sent stored fit progress => exact .single rfl _

/-- What is kept is deleted, by one request at most. -/
theorem Deletes.deletions (deletes : exchange.Deletes events)
    (sendable : exchange.location.isSome = true → exchange.Sendable) :
    deletions events = exchange.location.toList ∧ resources events = [] := by
  cases deletes with
  | absent vacant =>
    rw [vacant]
    exact ⟨rfl, rfl⟩
  | unsendable stored unfit =>
    obtain ⟨request, fit⟩ := request_delete (sendable (by rw [stored]; rfl)) _
    rw [unfit] at fit
    cases fit
  | sent stored fit progress =>
    obtain ⟨method, url, -, -⟩ := of_request fit
    rw [stored]
    constructor
    · simp [WhipWhep.deletions, Event.deletion?, method, url]
    · simp [resources, Event.resource?, method]

end Exchange

/-- What is known of a session by what has happened in it so far. -/
structure Ledger (past : List Event) (context : Context) : Prop where
  accounts : Accounts [] past context.debts
  /-- What was created was deleted, or its location is kept. -/
  balance : resources past = deletions past ++ context.exchange.location.toList
  single : (resources past).length ≤ 1
  sendable : context.exchange.location.isSome = true → context.exchange.Sendable
  ordered : DeletesFirst past
  up : context.hasPeer = true → AllOf Call.stands past
  down : context.hasPeer = false → context.exchange.location = none ∧ context.debts = []

namespace Ledger

variable {past : List Event} {context after : Context}

theorem works (ledger : Ledger past context) (works : Context.Works context events after) :
    Ledger (past ++ events) after := by
  obtain ⟨creates, deletes⟩ := resources_of_local (works.ofKind.weaken local_of_working)
  constructor
  · exact ledger.accounts.append works.accounts
  · rw [resources_append, deletions_append, creates, deletes, works.exchange, ledger.balance]
    simp
  · rw [resources_append, creates, List.append_nil]
    exact ledger.single
  · rw [works.exchange]
    exact ledger.sendable
  · exact ledger.ordered.append_quiet deletes
  · intro up
    exact (ledger.up (works.peer.symm.trans up)).append (works.ofKind.weaken stands_of_working)
  · intro down
    have was := works.peer.symm.trans down
    rw [works.exchange, works.idle was]
    exact ledger.down was

theorem creates (ledger : Ledger past context) (up : context.hasPeer = true)
    (vacant : context.exchange.location = none) (first : resources past = [])
    {outcome : Except Error Unit} {exchange : Exchange}
    (creates : Exchange.Creates Url.join context.exchange events outcome exchange) :
    Ledger (past ++ events) { context with exchange := exchange } := by
  obtain ⟨deletes, created, sendable⟩ := creates.keeps vacant
  have none : deletions past = [] := by
    have balance := ledger.balance
    rw [first, vacant] at balance
    simpa using balance.symm
  constructor
  · exact ledger.accounts.append (Context.accounts_of_creates creates)
  · rw [resources_append, deletions_append, first, none, deletes, created]
    rfl
  · rw [resources_append, first, created, List.nil_append]
    cases exchange.location <;> simp
  · exact sendable
  · exact ledger.ordered.append_quiet deletes
  · intro _
    exact (ledger.up up).append (creates.exchanging.weaken stands_of_exchanging)
  · intro down
    cases up.symm.trans down

/-- Closing a session with a peer connection deletes what is kept, and then takes everything down. -/
theorem closes_up (ledger : Ledger past context) (up : context.hasPeer = true)
    (closes : Context.Closes context events after) : Ledger (past ++ events) after := by
  obtain ⟨closed, vacant, bare⟩ := closes.bare
  have accounts := closes.accounts
  obtain ⟨deleting, releasing, rfl, deletes, releases⟩ := closes.course
  obtain ⟨deleted, created⟩ := deletes.deletions ledger.sendable
  have dismissing : AllOf Call.isLocal releasing := by
    cases releases with
    | absent _ => exact .nil
    | released _ uses _ => exact (uses.ofKind.weaken local_of_releasing).append (.single rfl _)
  obtain ⟨noneCreated, noneDeleted⟩ := resources_of_local dismissing
  constructor
  · exact ledger.accounts.append accounts
  · rw [vacant]
    simp [deleted, created, noneCreated, noneDeleted, ledger.balance]
  · simp only [resources_append, created, noneCreated, List.append_nil]
    exact ledger.single
  · simp [vacant]
  · rw [← List.append_assoc]
    refine DeletesFirst.after_standing ((ledger.up up).append deletes.stands) ?_
    exact DeletesFirst.append_quiet List.Pairwise.nil noneDeleted
  · intro wrong
    cases closed.symm.trans wrong
  · exact fun _ => ⟨vacant, Context.debts_of_closed closed (bare up)⟩

/-- A session without a peer connection has nothing left to close. -/
theorem closes_down (ledger : Ledger past context) (down : context.hasPeer = false)
    (closes : Context.Closes context events after) : events = [] ∧ after = context := by
  obtain ⟨vacant, -⟩ := ledger.down down
  have same : { context with exchange := { context.exchange with location := none } } = context := by
    rw [← vacant]
  obtain ⟨deleting, releasing, rfl, deletes, releases⟩ := closes.course
  rw [same] at releases
  have quiet : deleting = [] := by
    cases deletes with
    | absent _ => rfl
    | unsendable stored _ => cases vacant.symm.trans stored
    | sent stored _ _ => cases vacant.symm.trans stored
  cases releases with
  | absent closed => exact ⟨by rw [quiet]; rfl, rfl⟩
  | released up _ _ => cases up.symm.trans down

theorem closes (ledger : Ledger past context) (closes : Context.Closes context events after) :
    Ledger (past ++ events) after := by
  by_cases up : context.hasPeer = true
  · exact ledger.closes_up up closes
  · obtain ⟨rfl, rfl⟩ := ledger.closes_down (Bool.eq_false_iff.2 up) closes
    rwa [List.append_nil]

/-- A session that begins has created nothing. -/
theorem begins {config : ClientConfig} {count : Nat} (begins : Context.Begins config count events context) :
    Ledger events context ∧ context.exchange.location = none ∧ resources events = [] := by
  obtain ⟨accounts, up⟩ := begins.accounts
  cases begins with
  | begun valid bits started =>
    refine ⟨⟨accounts, rfl, Nat.zero_le 1, nofun, ?_, fun _ => ?_, nofun⟩, rfl, rfl⟩
    · exact DeletesFirst.append_quiet List.Pairwise.nil rfl
    · simp [AllOf, Call.stands, Call.isDismissal]

theorem setUp (ledger : Ledger past context) (up : context.hasPeer = true)
    (vacant : context.exchange.location = none) (first : resources past = []) {count : Nat}
    {outcome : Except Error Unit} (sets : Context.SetUp count context events outcome after) :
    Ledger (past ++ events) after := by
  have prepares : ∀ {early middle}, Context.Uses Call.isPreparing context early middle →
      Ledger (past ++ early) middle ∧ middle.hasPeer = true ∧ middle.exchange.location = none ∧
        resources (past ++ early) = [] := by
    intro early middle preparing
    have working := preparing.weaken working_of_preparing
    refine ⟨ledger.works (working.works up), working.peer.trans up, by rw [working.exchange, vacant], ?_⟩
    rw [resources_append, first, (resources_of_local (working.ofKind.weaken local_of_working)).1]
    rfl
  cases sets with
  | unprepared preparing => exact (prepares preparing).1
  | uncreated preparing all creates =>
    obtain ⟨prepared, still, vacant, none⟩ := prepares preparing
    rw [← List.append_assoc]
    exact prepared.creates still vacant none creates
  | created preparing all creates finishes =>
    obtain ⟨prepared, still, vacant, none⟩ := prepares preparing
    rw [← List.append_assoc, ← List.append_assoc]
    exact (prepared.creates still vacant none creates).works (finishes.uses.works still)

end Ledger

namespace Client

variable {role : Role} {config : ClientConfig}

theorem Opens.ledger {client : Client} (opens : Opens role config events (.ok client)) :
    Ledger events client.context := by
  cases opens with
  | opened fit begins sets =>
    obtain ⟨-, up⟩ := begins.accounts
    obtain ⟨ledger, vacant, none⟩ := Ledger.begins begins
    exact ledger.setUp up vacant none (sets.setUp up)

/-! Operations on an open session. -/

variable {α : Type} {client after : Client}

theorem runs_asPublisher {cause : Error} {act : Act Publisher α} {outcome : Except Error α}
    (run : (asPublisher cause act).Runs client events outcome after) :
    events = [] ∧ after = client ∨ ∃ publisher inner, client = .publisher publisher ∧
      after = .publisher inner ∧ act.Runs publisher events outcome inner := by
  cases client with
  | publisher session =>
    obtain ⟨first, ⟨result, inner⟩, second, rfl, inside, rest⟩ := Script.yields_bind_iff.1 run
    obtain ⟨rfl, same⟩ := Script.yields_done_iff.1 rest
    obtain ⟨rfl, rfl⟩ := Prod.mk.inj same
    rw [List.append_nil]
    exact .inr ⟨session, inner, rfl, rfl, inside⟩
  | player session =>
    obtain ⟨rfl, same⟩ := Script.yields_done_iff.1 run
    exact .inl ⟨rfl, (Prod.mk.inj same).2⟩

theorem runs_asPlayer {cause : Error} {act : Act Player α} {outcome : Except Error α}
    (run : (asPlayer cause act).Runs client events outcome after) :
    events = [] ∧ after = client ∨ ∃ player inner, client = .player player ∧
      after = .player inner ∧ act.Runs player events outcome inner := by
  cases client with
  | publisher session =>
    obtain ⟨rfl, same⟩ := Script.yields_done_iff.1 run
    exact .inl ⟨rfl, (Prod.mk.inj same).2⟩
  | player session =>
    obtain ⟨first, ⟨result, inner⟩, second, rfl, inside, rest⟩ := Script.yields_bind_iff.1 run
    obtain ⟨rfl, same⟩ := Script.yields_done_iff.1 rest
    obtain ⟨rfl, rfl⟩ := Prod.mk.inj same
    rw [List.append_nil]
    exact .inr ⟨session, inner, rfl, rfl, inside⟩

theorem runs_onContext {act : Act Context α} {outcome : Except Error α}
    (run : (onContext act).Runs client events outcome after) :
    act.Runs client.context events outcome after.context :=
  Act.runs_part (fun _ => by cases client <;> rfl) run

/-- Work on the session of a client. -/
def Works (client : Client) (events : List Event) (after : Client) : Prop :=
  Context.Works client.context events after.context

theorem works_asPublisher {cause : Error} {act : Act Publisher α}
    (kept : ∀ publisher, act.Keeps (fun before events after =>
      Context.Works before.context events after.context) publisher) :
    (asPublisher cause act).Keeps Works client := by
  intro events outcome after run
  rcases runs_asPublisher run with ⟨rfl, rfl⟩ | ⟨publisher, _, rfl, rfl, inside⟩
  · exact Context.composes_works.refl _
  · exact kept publisher _ _ _ inside

theorem works_asPlayer {cause : Error} {act : Act Player α}
    (kept : ∀ player, act.Keeps Player.Works player) : (asPlayer cause act).Keeps Works client := by
  intro events outcome after run
  rcases runs_asPlayer run with ⟨rfl, rfl⟩ | ⟨player, _, rfl, rfl, inside⟩
  · exact Context.composes_works.refl _
  · exact kept player _ _ _ inside

theorem works_onContext {act : Act Context α} (kept : ∀ context, act.Keeps Context.Works context) :
    (onContext act).Keeps Works client :=
  fun _ _ _ run => kept _ _ _ _ (runs_onContext run)

/-- What is told of an outcome is told behind it. -/
theorem runs_told {act : Act Client α} {told : α → Option Packet} {outcome : Except Error (Option Packet)}
    (run : (do return told (← act) : Act Client (Option Packet)).Runs client events outcome after) :
    ∃ inner, outcome = inner.map told ∧ act.Runs client events inner after := by
  rcases Act.runs_bind.1 run with ⟨cause, rfl, failed⟩ | ⟨_, result, _, _, rfl, passed, onward⟩
  · exact ⟨.error cause, rfl, failed⟩
  · obtain ⟨rfl, rfl, rfl⟩ := Act.runs_pure.1 onward
    rw [List.append_nil]
    exact ⟨.ok result, rfl, passed⟩

namespace Operation

variable {operation : Operation} {outcome : Except Error (Option Packet)}

/-- An operation on an open session is work, or it closes the session. -/
theorem works (run : operation.moves.Runs client events outcome after) :
    operation ≠ .close ∧ Works client events after ∨
      operation = .close ∧ Context.Closes client.context events after.context := by
  have working : ∀ {α : Type} {act : Act Client α} {told : α → Option Packet}, operation ≠ .close →
      act.Keeps Works client → (do return told (← act) : Act Client (Option Packet)).Runs client events outcome after →
        operation ≠ .close ∧ Works client events after ∨
          operation = .close ∧ Context.Closes client.context events after.context := by
    intro α act told other kept run
    obtain ⟨_, -, inside⟩ := runs_told run
    exact .inl ⟨other, kept _ _ _ inside⟩
  cases operation with
  | write packet => exact working nofun (works_asPublisher fun _ => Publisher.works_writePacket) run
  | tryReadStream index => exact working nofun (works_asPlayer fun _ => Player.works_tryReadStream) run
  | tryRead => exact working nofun (works_asPlayer fun _ => Player.reading_works.tryRead) run
  | read => exact working nofun (works_asPlayer fun _ => Player.reading_works.read) run
  | state => exact working nofun (works_onContext fun _ => Context.works_state) run
  | stats => exact working nofun (works_onContext fun _ => Context.works_stats) run
  | close =>
    obtain ⟨_, -, inside⟩ := runs_told run
    exact .inr ⟨rfl, (Context.closes_of_runs (runs_onContext inside)).2⟩

/-- An operation is the same one whether or not its outcome is told. -/
theorem performs_iff {done : Except Error Unit} : operation.perform.Runs client events done after ↔
    done = .ok () ∧ ∃ outcome, operation.moves.Runs client events outcome after := by
  constructor
  · intro run
    obtain ⟨_, outcome, _, _, rfl, inside, onward⟩ := Act.runs_attempt_bind.1 run
    obtain ⟨rfl, rfl, rfl⟩ := Act.runs_pure.1 onward
    rw [List.append_nil]
    exact ⟨rfl, outcome, inside⟩
  · rintro ⟨rfl, outcome, inside⟩
    exact Act.runs_attempt_bind.2 ⟨events, outcome, after, [], (List.append_nil _).symm, inside, .done _⟩

theorem ledger {past : List Event} (ledger : Ledger past client.context)
    (run : operation.moves.Runs client events outcome after) :
    Ledger (past ++ events) after.context ∧
      (operation = .close ∨ client.context.hasPeer = false → after.context.hasPeer = false) := by
  rcases works run with ⟨other, works⟩ | ⟨-, closes⟩
  · refine ⟨ledger.works works, ?_⟩
    rintro (same | down)
    · exact absurd same other
    · exact works.peer.trans down
  · exact ⟨ledger.closes closes, fun _ => closes.bare.1⟩

end Operation

/-- Operations keep the books, and a closed session stays closed. -/
theorem operations_ledger {past : List Event} {operations : List Operation}
    {outcome : Except Error PUnit} (ledger : Ledger past client.context)
    (run : (operations.forM Operation.perform).Runs client events outcome after) :
    Ledger (past ++ events) after.context ∧
      (.close ∈ operations ∨ client.context.hasPeer = false → after.context.hasPeer = false) := by
  induction operations generalizing client past events with
  | nil =>
    obtain ⟨rfl, -, rfl⟩ := Act.runs_pure.1 run
    rw [List.append_nil]
    refine ⟨ledger, ?_⟩
    rintro (member | down)
    · cases member
    · exact down
  | cons operation rest ih =>
    rcases Act.runs_bind.1 run with ⟨_, rfl, failed⟩ | ⟨first, _, middle, second, rfl, performed, onward⟩
    · cases (Operation.performs_iff.1 failed).1
    obtain ⟨-, _, moves⟩ := Operation.performs_iff.1 performed
    obtain ⟨stepped, down⟩ := Operation.ledger ledger moves
    obtain ⟨ledgerAfter, stays⟩ := ih stepped onward
    rw [← List.append_assoc]
    refine ⟨ledgerAfter, fun closed => stays ?_⟩
    rcases closed with member | before
    · rcases List.mem_cons.1 member with same | later
      · exact .inr (down (.inl same.symm))
      · exact .inl later
    · exact .inr (down (.inr before))

/-- What is said of a session that has come to its end, by what it has asked for and was answered. -/
structure DeletesOnce (events : List Event) : Prop where
  /-- A resource that was created is deleted where it is, and nothing else is. -/
  deleted : ∀ location ∈ resources events, deletions events = [location]
  /-- Nothing is deleted if nothing was created. -/
  spared : resources events = [] → deletions events = []
  /-- Nothing is deleted once a track was deleted or the peer connection was closed. -/
  ordered : DeletesFirst events
  /-- All that was handed out was given back. -/
  returned : ∀ call : Call, call.isReturn = true → (asked events).count call = (owed events).count call

theorem deletesOnce_of_ledger {context : Context} (ledger : Ledger events context)
    (down : context.hasPeer = false) : DeletesOnce events := by
  obtain ⟨vacant, settled⟩ := ledger.down down
  have balance : resources events = deletions events := by
    rw [ledger.balance, vacant]
    simp
  have single := ledger.single
  refine ⟨fun location member => ?_, fun none => ?_, ledger.ordered, fun call returns => ?_⟩
  · obtain ⟨only, one⟩ : ∃ only, resources events = [only] := by
      rw [← List.length_eq_one_iff]
      have some := List.length_pos_of_mem member
      omega
    rw [one] at member
    rw [← balance, one, List.mem_singleton.1 member]
  · rw [← balance, none]
  · have total := ledger.accounts.total returns
    rw [settled] at total
    simpa using total.symm

/-- Nothing is deleted, and nothing has to be, where no request went to an endpoint. -/
theorem deletesOnce_of_local (stays : AllOf Call.isLocal events) (accounts : Accounts [] events []) :
    DeletesOnce events := by
  obtain ⟨creates, deletes⟩ := resources_of_local stays
  refine ⟨fun location member => ?_, fun _ => deletes, ?_, fun call returns => ?_⟩
  · rw [creates] at member
    cases member
  · exact DeletesFirst.append_quiet List.Pairwise.nil deletes
  · simpa using (accounts.total returns).symm

/-- An opening that fails leaves nothing behind. -/
theorem Opens.deletes {cause : Error} (opens : Opens role config events (.error cause)) : DeletesOnce events := by
  cases opens with
  | unfit refused => exact deletesOnce_of_local .nil (accounts_nil [])
  | unbegun fit fails =>
    refine deletesOnce_of_local ?_ fails.accounts
    cases fails <;> simp [AllOf, Call.isLocal]
  | unopened fit begins sets closes =>
    obtain ⟨-, up⟩ := begins.accounts
    obtain ⟨ledger, vacant, none⟩ := Ledger.begins begins
    have failed := ledger.setUp up vacant none (sets.setUp up)
    exact deletesOnce_of_ledger (failed.closes closes) closes.bare.1

/-- What an endpoint has created is deleted exactly once when the session has come to its end. -/
theorem ended_deletes_once (ended : Ended role config events) : DeletesOnce events := by
  cases ended with
  | failed run => exact (opens_of_runs run).deletes
  | closed opened used closes =>
    obtain ⟨ledger, down⟩ := operations_ledger (opens_of_runs opened).ledger used
    exact deletesOnce_of_ledger ledger (down (.inl closes))

theorem ended_deletes_once_unanswered : DeletesOnce Unanswered.whole :=
  ended_deletes_once (.failed Unanswered.runs)

end Client
end WhipWhep
