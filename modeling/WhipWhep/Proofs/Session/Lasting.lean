import WhipWhep.Proofs.Session.Deletion
import WhipWhep.Proofs.Session.Passing

/-!
What lasts. Whatever a caller does with an open session, its streams stay as they are, and as long as it
has its peer connection each track keeps its handle, its transport and its end of the layer.
-/

namespace WhipWhep

variable {events : List Event}

/-- As long as there is a peer connection, nothing of a session is different but the counters of its
tracks. Their number is the same even later. -/
structure Context.Lasts (context after : Context) : Prop where
  size : after.registry.tracks.length = context.registry.tracks.length
  up : after.hasPeer = true → after.settings = context.settings

namespace Context

variable {context after : Context}

theorem lasts_of_settings (same : after.settings = context.settings) : context.Lasts after where
  size := by
    have sizes := congrArg (fun context => context.registry.tracks.length) same
    simpa [settings] using sizes
  up _ := same

theorem Lasts.trans {middle : Context} (first : context.Lasts middle) (second : middle.Lasts after) :
    context.Lasts after where
  size := second.size.trans first.size
  up still := by
    have same := second.up still
    have before := (codecs_of_settings same).2.symm.trans still
    exact same.trans (first.up before)

theorem Closes.lasts (closes : Closes context events after) : context.Lasts after := by
  obtain ⟨down, -, -⟩ := closes.bare
  obtain ⟨deleting, releasing, -, -, releases⟩ := closes.course
  have size : after.registry.tracks.length = context.registry.tracks.length := by
    cases releases with
    | absent closed => rfl
    | released up uses bare => exact uses.size
  refine ⟨size, fun up => ?_⟩
  cases down.symm.trans up

end Context

namespace Client

variable {client after : Client}

/-- The streams of a session are as they were, and the rest lasts as long as its peer connection. -/
inductive Lasts : Client → Client → Prop where
  | publisher {session later : Publisher} (lasts : session.context.Lasts later.context)
      (streams : later.streams = session.streams) (framing : later.framing = session.framing) :
      Lasts (.publisher session) (.publisher later)
  | player {session later : Player} (lasts : session.context.Lasts later.context)
      (streams : later.streams = session.streams) : Lasts (.player session) (.player later)

theorem lasts_withContext {context : Context} (lasts : client.context.Lasts context) :
    client.Lasts (client.withContext context) := by
  cases client with
  | publisher session => exact .publisher lasts rfl rfl
  | player session => exact .player lasts rfl

theorem Lasts.refl (client : Client) : client.Lasts client := by
  cases client with
  | publisher session => exact .publisher (Context.lasts_of_settings rfl) rfl rfl
  | player session => exact .player (Context.lasts_of_settings rfl) rfl

theorem composes_lasts : Act.Composes fun (before : Client) _ after => before.Lasts after where
  refl := Lasts.refl
  trans := by
    rintro _ _ _ _ _ (⟨one, streams, framing⟩ | ⟨one, streams⟩) second
    · cases second with
      | publisher two more framed =>
        exact .publisher (one.trans two) (more.trans streams) (framed.trans framing)
    · cases second with
      | player two more => exact .player (one.trans two) (more.trans streams)

/-- Every operation leaves the session lasting, a closing one too. -/
theorem Operation.lasts {operation : Operation} {outcome : Except Error (Option Packet)}
    (run : operation.moves.Runs client events outcome after) : client.Lasts after := by
  have aside : ∀ {α : Type} {act : Act Context α} {told : α → Option Packet}, (∀ {context events outcome inner},
      act.Runs context events outcome inner → context.Lasts inner) →
      (do return told (← onContext act) : Act Client (Option Packet)).Runs client events outcome after →
        client.Lasts after := by
    intro α act told kept run
    obtain ⟨_, -, inside⟩ := runs_told run
    obtain ⟨inner, rfl, acting⟩ := Act.runs_within.1 inside
    exact lasts_withContext (kept acting)
  have reads : ∀ {act : Act Player Packet}, (∀ player, act.Keeps (fun before _ after => before.Counted after)
      player) → (do return some (← asPlayer moves.notPlayer act) : Act Client (Option Packet)).Runs client events
        outcome after → client.Lasts after := by
    intro act kept run
    obtain ⟨_, -, inside⟩ := runs_told run
    rcases runs_asPlayer inside with ⟨-, rfl⟩ | ⟨player, inner, rfl, rfl, reading⟩
    · exact Lasts.refl _
    · obtain ⟨same, streams⟩ := kept player _ _ _ reading
      exact .player (Context.lasts_of_settings same) streams
  cases operation with
  | write packet =>
    obtain ⟨_, -, inside⟩ := runs_told run
    rcases runs_asPublisher inside with ⟨-, rfl⟩ | ⟨publisher, inner, rfl, rfl, writing⟩
    · exact Lasts.refl _
    · obtain ⟨same, streams, framing⟩ := Publisher.writePacket_counts writing
      exact .publisher (Context.lasts_of_settings same) streams framing
  | tryReadStream index => exact reads (fun _ _ _ _ => Player.tryReadStream_counts) run
  | tryRead => exact reads (fun _ => Player.reading_counted.tryRead) run
  | read => exact reads (fun _ => Player.reading_counted.read) run
  | state =>
    refine aside (fun run => ?_) run
    obtain ⟨_, -, -, rfl⟩ := Act.runs_ask.1 run
    exact Context.lasts_of_settings rfl
  | stats =>
    refine aside (fun run => ?_) run
    unfold Context.stats at run
    rw [Act.runs_get_bind] at run
    obtain ⟨_, _, -, told⟩ := Act.runs_ask_bind.1 run
    obtain ⟨-, -, rfl⟩ := Act.runs_pure.1 told
    exact Context.lasts_of_settings rfl
  | close => exact aside (fun run => (Context.closes_of_runs run).2.lasts) run

theorem keeps_perform {operation : Operation} :
    operation.perform.Keeps (fun before _ after => before.Lasts after) client := by
  intro events outcome after run
  obtain ⟨-, _, moves⟩ := Operation.performs_iff.1 run
  exact Operation.lasts moves

theorem lasts_of_operations {operations : List Operation} {outcome : Except Error PUnit}
    (run : (operations.forM Operation.perform).Runs client events outcome after) : client.Lasts after :=
  Act.keeps_forM composes_lasts (fun _ _ _ => keeps_perform) _ _ _ run

end Client
end WhipWhep
