import WhipWhep.Proofs.Session.Finality

/-!
Whether the state of a session and the guard of its packets agree. The state is what the engine has reported
last. The guard goes by that as well, but what was closed it turns away as closed, whatever was reported.
So the two agree as long as the session is not closed, and after that only if the engine has reported it.
-/

namespace WhipWhep

variable {events asked : List Event}

theorem TurnedAway.unique {α : Type} {state other : ConnectionState} {outcome : Except Error α}
    (away : TurnedAway state events outcome) (again : TurnedAway other events outcome) : state = other := by
  cases away.failed.symm.trans again.failed
  rfl

namespace Client

variable {role : Role} {config : ClientConfig} {opening : List Event} {first last client after : Client}
  {turns : List Turn} {operation : Operation} {outcome : Except Error (Option Packet)}
  {reported : List ConnectionState} {said : ConnectionState}

/-- An operation is turned away exactly if the state is not Connected, and then with that state. -/
def Agrees (said : ConnectionState) (events : List Event) (outcome : Except Error (Option Packet)) : Prop :=
  ∀ state, TurnedAway state events outcome ↔ said ≠ .connected ∧ state = said

theorem runs_state {found : Except Error ConnectionState} (run : Client.state.Runs client events found after) :
    ∃ said, events = [⟨.host .connectionState, said⟩] ∧ found = .ok said ∧ after = client := by
  obtain ⟨_, rfl, inside⟩ := Act.runs_within.1 run
  obtain ⟨said, rfl, rfl, rfl⟩ := Act.runs_ask.1 inside
  exact ⟨said, rfl, rfl, by cases client <;> rfl⟩

/-- Closing takes the peer connection away, and nothing else does. -/
theorem Operation.leaves_peer (run : operation.moves.Runs client events outcome after) :
    operation = .close ∧ after.context.hasPeer = false ∨
      operation ≠ .close ∧ after.context.hasPeer = client.context.hasPeer := by
  rcases Operation.works run with ⟨other, works⟩ | ⟨closes, closing⟩
  · exact .inr ⟨other, works.peer⟩
  · exact .inl ⟨closes, closing.bare.1⟩

/-- What has lost its peer connection does not get it back. -/
theorem Lives.stays_down (lives : Lives first turns last) (down : first.context.hasPeer = false) :
    last.context.hasPeer = false := by
  induction lives with
  | nil client => exact down
  | cons run rest ih =>
    rcases Operation.leaves_peer run with ⟨-, closed⟩ | ⟨-, same⟩
    · exact ih closed
    · exact ih (same.trans down)

/-- A session has its peer connection as long as it was not closed. -/
theorem Lives.up_iff (lives : Lives first turns last) (up : first.context.hasPeer = true) :
    last.context.hasPeer = true ↔ ∀ turn ∈ turns, turn.operation ≠ .close := by
  induction lives with
  | nil client => simp [up]
  | cons run rest ih =>
    rw [List.forall_mem_cons]
    rcases Operation.leaves_peer run with ⟨closes, closed⟩ | ⟨other, same⟩
    · simp [closes, rest.stays_down closed]
    · rw [ih (same.trans up)]
      simp [other]

theorem Lives.ready (lives : Lives first turns last) (ready : first.Ready) : last.Ready := by
  induction lives with
  | nil client => exact ready
  | cons run rest ih => exact ih (ready.lasts (Operation.lasts run))

/-- The guard and the state agree where there is a peer connection, and else if the state is Closed. -/
theorem agrees_iff_of_screened (screened : Context.Screened client.context events outcome)
    (same : ∀ event ∈ events, ∀ seen ∈ event.looked?, seen = said) :
    Agrees said events outcome ↔ client.context.hasPeer = true ∨ said = .closed := by
  cases screened with
  | released down away =>
    rw [down]
    constructor
    · intro agrees
      exact .inr ((agrees .closed).1 away).2.symm
    · rintro (wrong | rfl) state
      · cases wrong
      · exact ⟨fun again => ⟨nofun, again.unique away⟩, fun ⟨_, closed⟩ => closed ▸ away⟩
  | unconnected up other looked away =>
    obtain rfl := same _ looked _ rfl
    refine iff_of_true (fun state => ?_) (.inl up)
    exact ⟨fun again => ⟨other, again.unique away⟩, fun ⟨_, equal⟩ => equal ▸ away⟩
  | passed up seen =>
    obtain rfl : .connected = said := same _ seen _ rfl
    refine iff_of_true (fun state => ?_) (.inl up)
    exact ⟨fun away => absurd seen away.unseen, fun ⟨wrong, _⟩ => absurd rfl wrong⟩

/-- What the state of a session and its guard have to do with each other, while nothing else is reported. -/
structure Concord (turns : List Turn) (reported : List ConnectionState) (said : ConnectionState)
    (events : List Event) (outcome : Except Error (Option Packet)) : Prop where
  mirrors : said = mirrored reported
  agrees : Agrees said events outcome ↔ (∀ turn ∈ turns, turn.operation ≠ .close) ∨ said = .closed
  /-- After a closing the guard says so, whatever the state is. -/
  closed : (∃ turn ∈ turns, turn.operation = .close) → TurnedAway .closed events outcome

/-- However a session was used since it was opened, and whatever was reported: the state and the guard that
come next agree exactly if the session was not closed, or Closed was reported last. -/
theorem state_agrees_iff (opened : (openSession role config).Runs () opening (.ok first) ())
    (lives : Lives first turns last) (states : Client.state.Runs last asked (.ok said) client)
    (suits : operation.suits client = true) (run : operation.moves.Runs client events outcome after)
    (mirrors : Mirrors reported ((asked ++ events).map .did)) : Concord turns reported said events outcome := by
  have looks := mirrors_did.1 mirrors
  obtain ⟨_, rfl, told, rfl⟩ := runs_state states
  cases told
  have same : said = mirrored reported := looks _ List.mem_cons_self said rfl
  have ready := lives.ready (ready_of_opened opened)
  have screened := Operation.screened ready suits run
  have unclosed := lives.up_iff (up_of_opened opened)
  refine ⟨same, ?_, ?_⟩
  · rw [← unclosed]
    refine agrees_iff_of_screened screened fun event member seen looked => ?_
    exact (looks event (List.mem_append_right _ member) seen looked).trans same.symm
  · rintro ⟨turn, member, closes⟩
    have down : client.context.hasPeer ≠ true := fun up => unclosed.1 up turn member closes
    cases screened with
    | released _ away => exact away
    | unconnected up other looked away => exact absurd up down
    | passed up seen => exact absurd up down

/-! A broadcast that is closed, and whose engine does not report it. Its state is still Connected, and a packet is
refused. -/

def closing : Turn where
  operation := .close
  before := .publisher Publisher.Broadcast.session
  events :=
    [⟨.layer (.closeWriter 0), .done ()⟩, ⟨.layer (.releaseTransport 0), ()⟩,
      ⟨.engine (.deleteTrack Unanswered.video), ()⟩, ⟨.layer (.closeWriter 1), .done ()⟩,
      ⟨.layer (.releaseTransport 1), ()⟩, ⟨.engine (.deleteTrack Unanswered.audio), ()⟩, ⟨.engine .close, ()⟩]
  outcome := .ok none
  after := .publisher
    { Publisher.Broadcast.session with
      context :=
        { Publisher.Broadcast.session.context with
          hasPeer := false
          registry := ⟨Publisher.Broadcast.session.context.registry.tracks.map fun track =>
            { track with handle := none, binding := none, codec := none }⟩ } }

theorem closes_broadcast : Lives broadcast.before [closing] closing.after :=
  have closes : closing.operation.moves.Runs closing.before closing.events closing.outcome closing.after :=
    .call _ _ _ (.call _ _ _ (.call _ _ _ (.call _ _ _ (.call _ _ _ (.call _ _ _ (.call _ _ _ (.done _)))))))
  .cons closes (.nil _)

theorem states_broadcast : Client.state.Runs closing.after [seenOpen] (.ok .connected) closing.after :=
  .call _ _ _ (.done _)

theorem refuses_broadcast : (Operation.write Publisher.Broadcast.packet).moves.Runs closing.after []
    (.error (.notConnected .closed)) closing.after :=
  .done _

theorem state_agrees_iff_closed :
    Concord [closing] [.connecting, .connected] .connected [] (.error (.notConnected .closed)) :=
  state_agrees_iff opened_broadcast closes_broadcast states_broadcast rfl refuses_broadcast
    (mirrors_did.2 (by decide))

/-- The session is closed, its state is Connected, and its guard says Closed. -/
theorem disagrees_after_close :
    (openSession (.ingest [Publisher.Broadcast.video, Publisher.Broadcast.audio]) Unanswered.setting).Runs ()
        Publisher.Broadcast.opening (.ok broadcast.before) () ∧
      Lives broadcast.before [closing] closing.after ∧
      Client.state.Runs closing.after [seenOpen] (.ok .connected) closing.after ∧
      (Operation.write Publisher.Broadcast.packet).moves.Runs closing.after [] (.error (.notConnected .closed))
        closing.after ∧
      Mirrors [.connecting, .connected] (([seenOpen] ++ []).map .did) ∧
      ¬ Agrees .connected [] (.error (.notConnected .closed)) := by
  refine ⟨opened_broadcast, closes_broadcast, states_broadcast, refuses_broadcast, mirrors_did.2 (by decide),
    fun agrees => ?_⟩
  obtain ⟨wrong, -⟩ := (agrees .closed).1 ⟨rfl, List.not_mem_nil, .nil⟩
  exact wrong rfl

end Client
end WhipWhep
