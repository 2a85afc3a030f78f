import WhipWhep.Proofs.Session.Cancellation
import WhipWhep.Proofs.Session.Screening

/-!
The states that the engine reports, over the time of a session. They come at any moment, between two
operations or in the middle of one, and a look reads the last of them. A connection that was reported to
have ended is open again as soon as the engine says so, and only then.
-/

namespace WhipWhep

/-- What comes next in the time of a session: the engine reports a state, or the session asks for something. -/
inductive Moment where
  | told (state : ConnectionState)
  | did (event : Event)

def Moment.report? : Moment → Option ConnectionState
  | told state => some state
  | did _ => none

def Moment.event? : Moment → Option Event
  | told _ => none
  | did event => some event

/-- What the engine has reported, in order. -/
def reports (moments : List Moment) : List ConnectionState := moments.filterMap Moment.report?

/-- What the session has asked for, in order. -/
def happened (moments : List Moment) : List Event := moments.filterMap Moment.event?

/-- The state that a look has found. -/
def Event.looked? : Event → Option ConnectionState
  | ⟨.host .connectionState, reported⟩ => some reported
  | _ => none

/-- Each look reads the last report before it. -/
def Mirrors : List ConnectionState → List Moment → Prop
  | _, [] => True
  | past, .told state :: rest => Mirrors (past ++ [state]) rest
  | past, .did event :: rest => (∀ seen ∈ event.looked?, seen = mirrored past) ∧ Mirrors past rest

variable {past : List ConnectionState} {state seen : ConnectionState} {moments early late : List Moment}
  {events : List Event}

@[simp] theorem reports_told : reports (.told state :: moments) = state :: reports moments := rfl

@[simp] theorem reports_did {event : Event} : reports (.did event :: moments) = reports moments := rfl

@[simp] theorem happened_told : happened (.told state :: moments) = happened moments := rfl

@[simp] theorem happened_did {event : Event} : happened (.did event :: moments) = event :: happened moments := rfl

@[simp] theorem reports_append : reports (early ++ late) = reports early ++ reports late := List.filterMap_append

@[simp] theorem happened_append : happened (early ++ late) = happened early ++ happened late := List.filterMap_append

@[simp] theorem reports_map_did : reports (events.map .did) = [] := by
  induction events with
  | nil => rfl
  | cons event rest ih => exact ih

@[simp] theorem happened_map_did : happened (events.map .did) = events := by
  induction events with
  | nil => rfl
  | cons event rest ih => exact congrArg (event :: ·) ih

/-- A later report counts, and without one the earlier ones do. -/
theorem mirrored_append {more : List ConnectionState} :
    mirrored (past ++ more) = more.getLast?.getD (mirrored past) := by
  unfold mirrored
  rw [List.getLast?_append]
  cases more.getLast? <;> rfl

theorem mirrors_append :
    Mirrors past (early ++ late) ↔ Mirrors past early ∧ Mirrors (past ++ reports early) late := by
  induction early generalizing past with
  | nil => simp [Mirrors, reports]
  | cons moment rest ih =>
    cases moment with
    | told state =>
      rw [reports_told, List.append_cons]
      exact ih
    | did event =>
      rw [List.cons_append, Mirrors, Mirrors, ih, reports_did, and_assoc]

theorem Mirrors.at_each {before after : List Moment} {event : Event} (mirrors : Mirrors past moments)
    (split : moments = before ++ .did event :: after) (looks : event.looked? = some seen) :
    seen = mirrored (past ++ reports before) := by
  rw [split, mirrors_append] at mirrors
  exact mirrors.2.1 seen looks

/-- While nothing else is reported, all looks read the same. -/
theorem mirrors_did : Mirrors past (events.map .did) ↔
    ∀ event ∈ events, ∀ seen ∈ event.looked?, seen = mirrored past := by
  induction events with
  | nil => simp [Mirrors]
  | cons event rest ih => rw [List.map_cons, Mirrors, ih, List.forall_mem_cons]

/-- A connection that is not open is not found open before it is reported open. -/
theorem Mirrors.unseen (mirrors : Mirrors past moments) (closed : mirrored past ≠ .connected)
    (unreported : .connected ∉ reports moments) : seenOpen ∉ happened moments := by
  induction moments generalizing past with
  | nil => exact List.not_mem_nil
  | cons moment rest ih =>
    cases moment with
    | told state =>
      rw [reports_told, List.mem_cons, not_or] at unreported
      have last : mirrored (past ++ [state]) = state := mirrored_append
      exact ih mirrors (by rw [last]; exact Ne.symm unreported.1) unreported.2
    | did event =>
      rw [happened_did, List.mem_cons, not_or]
      refine ⟨?_, ih mirrors.2 closed unreported⟩
      rintro rfl
      exact closed (mirrors.1 .connected rfl).symm

namespace Client

variable {role : Role} {config : ClientConfig} {opening dropping : List Event} {outcome : Except Error Client}
  {turns : List Turn}

/-- What is said of a session that the engine does not report open any more, from some report on. -/
structure Barred (opening : List Event) (outcome : Except Error Client) (turns : List Turn)
    (early late : List Moment) : Prop where
  unseen : seenOpen ∉ happened late
  /-- An opening that has succeeded had found the connection open before. -/
  opened : ∀ client, outcome = .ok client → seenOpen ∈ happened early
  /-- A wait does not succeed any more. -/
  waits : ∀ {context after : Context} {events : List Event} {outcome : Except Error Unit},
    Context.waitConnected.Runs context events outcome after → events <:+: happened late → outcome ≠ .ok ()
  /-- Neither is anything written or read any more: it is refused before anything is asked of the layer. -/
  turned : ∀ before turn after, turns = before ++ turn :: after → turn.operation.suits turn.before = true →
    happened early <+: opening ++ before.flatMap Turn.events →
      ∃ state, state ≠ .connected ∧ TurnedAway state turn.events turn.outcome
  /-- What was let through at the very last goes on, and nothing behind it. -/
  interrupted : ∀ before turn after first second, turns = before ++ turn :: after → turn.events = first ++ second →
    happened early = opening ++ (before.flatMap Turn.events ++ first) →
      ∀ others event rest, second = others ++ event :: rest → event.call.isForwarding = true →
        others = [] ∧ first.getLast? = some seenOpen

/-- What is said of a session since a state was reported that is to be the last one. -/
structure Since (state : ConnectionState) (opening : List Event) (outcome : Except Error Client)
    (turns : List Turn) (early late : List Moment) : Prop where
  /-- A look reads the last report since then, whichever it is. -/
  looks : ∀ before event after seen, late = before ++ .did event :: after → event.looked? = some seen →
    seen = (reports before).getLast?.getD state ∧
      (seen = .connected ↔ (reports before).getLast? = some .connected)
  barred : .connected ∉ reports late → Barred opening outcome turns early late

/-- A turn between what came before and what comes after it. -/
theorem flatMap_events_split {before after : List Turn} {turn : Turn} :
    (before ++ turn :: after).flatMap Turn.events =
      before.flatMap Turn.events ++ (turn.events ++ after.flatMap Turn.events) := by
  rw [List.flatMap_append, List.flatMap_cons]

theorem barred_of_unseen (run : (openSession role config).Runs () opening outcome ())
    (used : Used outcome turns dropping)
    (course : happened early ++ happened late = opening ++ (turns.flatMap Turn.events ++ dropping))
    (unseen : seenOpen ∉ happened late) : Barred opening outcome turns early late := by
  refine ⟨unseen, ?_, ?_, ?_, ?_⟩
  · intro client opened
    have seen : seenOpen ∈ opening := (opens_of_runs run).orderly.2 client opened
    have somewhere : seenOpen ∈ happened early ++ happened late := course ▸ List.mem_append_left _ seen
    exact (List.mem_append.1 somewhere).resolve_right unseen
  · intro context after events outcome waiting within fine
    exact unseen (within.subset ((Context.waitConnected_waits waiting).2 fine))
  · intro before turn after split suits begun
    obtain ⟨between, begun⟩ := begun
    have whole : happened late = between ++ (turn.events ++ (after.flatMap Turn.events ++ dropping)) := by
      rw [split, flatMap_events_split, ← List.append_assoc, ← List.append_assoc, ← begun] at course
      simpa using course
    have apart : seenOpen ∉ turn.events := fun seen => unseen (by simp [whole, seen])
    obtain ⟨first, last, rfl, lives⟩ := used.lives (show turn ∈ turns by simp [split])
    obtain ⟨ready, moves⟩ := lives.turn_runs (ready_of_opened run) turn (by simp [split])
    cases Operation.screened ready suits moves with
    | released down away => exact ⟨.closed, nofun, away⟩
    | unconnected up other looked away => exact ⟨_, other, away⟩
    | passed up seen => exact absurd seen apart
  · intro before turn after first second split cut begun others event rest here forwards
    have whole : happened late = second ++ (after.flatMap Turn.events ++ dropping) := by
      rw [split, flatMap_events_split, cut, begun] at course
      simpa using course
    obtain ⟨_, last, rfl, lives⟩ := used.lives (show turn ∈ turns by simp [split])
    obtain ⟨-, moves⟩ := lives.turn_runs (ready_of_opened run) turn (by simp [split])
    have place : turn.events = (first ++ others) ++ event :: rest := by rw [cut, here, List.append_assoc]
    obtain ⟨previous, member, rfl⟩ := (Operation.looked moves).at_each place forwards
    rw [Option.or_none, List.getLast?_append] at member
    cases found : others.getLast? with
    | none =>
      rw [found] at member
      exact ⟨List.getLast?_eq_none_iff.1 found, member⟩
    | some previous =>
      -- The look would be one of those that come after the report.
      rw [found] at member
      cases Option.mem_some.1 member
      have seen : seenOpen ∈ others := List.mem_of_getLast? found
      exact absurd (by simp [whole, here, seen]) unseen

/-- However the reports of the engine fall between the requests of a session: after a state that ends the
connection a look reads Connected exactly if that was reported last since then. If it is not reported, no wait
succeeds any more and nothing is written or read. -/
theorem terminal_until_reopened (run : (openSession role config).Runs () opening outcome ())
    (used : Used outcome turns dropping)
    (course : happened (early ++ .told state :: late) = opening ++ (turns.flatMap Turn.events ++ dropping))
    (mirrors : Mirrors [] (early ++ .told state :: late)) (terminal : state.isTerminal = true) :
    Since state opening outcome turns early late := by
  have ended : state ≠ .connected := by
    rintro rfl
    cases terminal
  have onward : Mirrors (reports early ++ [state]) late := (mirrors_append.1 mirrors).2
  have last : mirrored (reports early ++ [state]) = state := mirrored_append
  refine ⟨?_, fun unreported => ?_⟩
  · intro before event after seen split looks
    have same : seen = (reports before).getLast?.getD state := by
      rw [onward.at_each split looks, mirrored_append, last]
    refine ⟨same, ?_⟩
    rw [same]
    cases (reports before).getLast? with
    | none => simp [ended]
    | some other => simp
  · have apart : seenOpen ∉ happened late := onward.unseen (by rwa [last]) unreported
    rw [happened_append] at course
    exact barred_of_unseen run used course apart

/-! A broadcast whose connection fails before its packet is sent. The packet is refused, unless the connection
is reported open once more. -/

/-- The opening, during which the connection is reported open. -/
def connecting : List Moment :=
  (Unanswered.beginning ++ (Publisher.Broadcast.lines.zipIdx.flatMap (fun placed =>
    Publisher.Broadcast.wiring placed.1 placed.2) ++ Publisher.Broadcast.creating)).map .did ++
      .told .connected :: Publisher.Broadcast.waiting.map .did

def refused : Turn where
  operation := .write Publisher.Broadcast.packet
  before := .publisher Publisher.Broadcast.session
  events := [⟨.host .connectionState, .failed⟩]
  outcome := .error (.notConnected .failed)
  after := .publisher Publisher.Broadcast.session

def reopened : List Moment := .told .connected :: broadcast.events.map .did

theorem mirrors_connecting : Mirrors [] connecting :=
  mirrors_append.2 ⟨mirrors_did.2 (by decide), by rw [reports_map_did, Mirrors]; exact mirrors_did.2 (by decide)⟩

theorem opened_broadcast : (openSession (.ingest [Publisher.Broadcast.video, Publisher.Broadcast.audio])
    Unanswered.setting).Runs () Publisher.Broadcast.opening (.ok broadcast.before) () :=
  Act.runs_bind.2 (.inr ⟨_, _, (), [], (List.append_nil _).symm, Publisher.Broadcast.runs, .done _⟩)

theorem terminal_until_reopened_refused :
    Since .failed Publisher.Broadcast.opening (.ok refused.before) [refused] connecting
      (refused.events.map .did) := by
  have refuses : refused.operation.moves.Runs refused.before refused.events refused.outcome refused.after :=
    .call _ _ _ (.done _)
  have mirrors : Mirrors [] (connecting ++ .told .failed :: refused.events.map .did) :=
    mirrors_append.2 ⟨mirrors_connecting, mirrors_did.2 (by decide)⟩
  exact terminal_until_reopened opened_broadcast (.kept (.cons refuses (.nil _))) rfl mirrors rfl

/-- The packet is forwarded although the connection has failed in the meantime. -/
theorem forwards_after_failed :
    (openSession (.ingest [Publisher.Broadcast.video, Publisher.Broadcast.audio]) Unanswered.setting).Runs ()
        Publisher.Broadcast.opening (.ok broadcast.before) () ∧
      Lives broadcast.before [broadcast] broadcast.after ∧
      happened (connecting ++ .told .failed :: reopened) = Publisher.Broadcast.opening ++ broadcast.events ∧
      Mirrors [] (connecting ++ .told .failed :: reopened) ∧
      ¬ Barred Publisher.Broadcast.opening (.ok broadcast.before) [broadcast] connecting reopened ∧
      broadcast.outcome = .ok (some Publisher.Broadcast.packet) := by
  have writes : broadcast.operation.moves.Runs broadcast.before broadcast.events broadcast.outcome broadcast.after :=
    .call _ _ _ (.call _ _ _ (.call _ _ _ (.call _ _ _ (.done _))))
  have mirrors : Mirrors [] (connecting ++ .told .failed :: reopened) :=
    mirrors_append.2 ⟨mirrors_connecting, mirrors_did.2 (by decide)⟩
  refine ⟨opened_broadcast, .cons writes (.nil _), rfl, mirrors, fun barred => barred.unseen ?_, rfl⟩
  exact List.mem_cons_self

end Client
end WhipWhep
