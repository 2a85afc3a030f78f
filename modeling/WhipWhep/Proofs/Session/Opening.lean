import WhipWhep.Proofs.Exchange.Redirects
import WhipWhep.Proofs.Session.Closing
import WhipWhep.Proofs.Session.Roles

/-!
Opening. A session begins with a peer connection that tells its states, puts its tracks on it, makes the
exchange, and waits until it is connected. A session that fails on the way is closed at once.
-/

namespace WhipWhep

namespace Act

variable {σ τ : Type} {held after : σ} {events : List Event}

/-- A session is made by an act of its own, and one that cannot be made is closed. -/
inductive Guarded (setup close : Act τ Unit) (start : τ) : List Event → Except Error τ → Prop where
  | made {events : List Event} {session : τ} (sets : setup.Runs start events (.ok ()) session) :
      Guarded setup close start events (.ok session)
  | dropped {first second : List Event} {cause : Error} {half after : τ} {outcome : Except Error Unit}
      (sets : setup.Runs start first (.error cause) half)
      (closes : close.Runs half second outcome after) :
      Guarded setup close start (first ++ second) (.error cause)

theorem guarded_of_runs {setup close : Act τ Unit} {start : τ}
    {next : Except Error Unit × τ → Script (Except Error τ × σ)} {outcome : Except Error τ}
    (keep : ∀ session, next (.ok (), session) = .done (.ok session, held))
    (drop : ∀ cause session, next (.error cause, session) =
      (close session).bind fun _ => .done (.error cause, held))
    (run : Script.Yields ((setup start).bind next) events (outcome, after)) :
    Guarded setup close start events outcome := by
  obtain ⟨first, ⟨made, session⟩, second, rfl, making, onward⟩ := Script.yields_bind_iff.1 run
  rcases made with cause | ⟨⟩
  · rw [drop] at onward
    obtain ⟨_, ⟨closing, closed⟩, _, rfl, closes, last⟩ := Script.yields_bind_iff.1 onward
    obtain ⟨rfl, same⟩ := Script.yields_done_iff.1 last
    obtain ⟨rfl, rfl⟩ := Prod.mk.inj same
    rw [List.append_nil]
    exact .dropped making closes
  · rw [keep] at onward
    obtain ⟨rfl, same⟩ := Script.yields_done_iff.1 onward
    obtain ⟨rfl, rfl⟩ := Prod.mk.inj same
    rw [List.append_nil]
    exact .made making

end Act

theorem neutral_of_exchanging {call : Call} (exchanging : call.isExchanging = true) :
    call.isNeutral = true := by
  unfold Call.isNeutral
  split <;> first | rfl | cases exchanging

theorem idle_of_exchanging {call : Call} (exchanging : call.isExchanging = true) :
    call.isTransfer = false := by
  unfold Call.isTransfer
  split <;> first | rfl | cases exchanging

/-- The requests that take down what the engine has handed out. -/
def Call.isDismissal : Call → Bool
  | .engine (.deleteTrack _) => true
  | .engine .close => true
  | _ => false

/-- The requests that take nothing down. -/
def Call.stands (call : Call) : Bool := !call.isDismissal

theorem stands_of_working {call : Call} (working : call.isWorking = true) : call.stands = true := by
  unfold Call.stands Call.isDismissal
  split <;> first | rfl | cases working

theorem stands_of_exchanging {call : Call} (exchanging : call.isExchanging = true) :
    call.stands = true := by
  unfold Call.stands Call.isDismissal
  split <;> first | rfl | cases exchanging

namespace Context

/-- A session as it begins. -/
inductive Begins (config : ClientConfig) (count : Nat) : List Event → Context → Prop where
  | begun {url : Url} (valid : config.validate = .ok url) (bits : BitVec 122)
      (started : { time : Nat // 0 ≤ time }) :
      Begins config count
        [⟨.host .bridgeLog, ()⟩, ⟨.engine (.create config.iceServers), .ok ()⟩,
          ⟨.engine .watchStates, .ok ()⟩, ⟨.host (.random 122), bits⟩, ⟨.host (.now 0), started⟩]
        { hasPeer := true
          registry := .allocate count
          exchange := .start url config.bearerToken
          config := config
          msid := Text.uuid bits
          startedAt := started.val
          timeToConnect := none }

/-- A session that does not come to begin: what it does up to the failure, and what after it. -/
inductive Fails (config : ClientConfig) : List Event → List Event → Error → Prop where
  | invalid {cause : ConfigError} (refused : config.validate = .error cause) :
      Fails config [] [] (.config cause)
  | uncreated {url : Url} {cause : EngineError} (valid : config.validate = .ok url) :
      Fails config
        [⟨.host .bridgeLog, ()⟩, ⟨.engine (.create config.iceServers), .error cause⟩] [] (.engine cause)
  | unwatched {url : Url} {cause : EngineError} (valid : config.validate = .ok url) :
      Fails config
        [⟨.host .bridgeLog, ()⟩, ⟨.engine (.create config.iceServers), .ok ()⟩,
          ⟨.engine .watchStates, .error cause⟩]
        [⟨.engine .close, ()⟩] (.engine cause)

theorem init_of_runs {config : ClientConfig} {count : Nat} {events : List Event}
    {outcome : Except Error Context} (run : (init config count).Runs () events outcome ()) :
    (∃ building closing cause, events = building ++ closing ∧ outcome = .error cause ∧
      Fails config building closing cause) ∨
    ∃ context, outcome = .ok context ∧ Begins config count events context := by
  unfold init at run
  rw [Act.runs_settle_bind] at run
  cases valid : config.validate with
  | error cause =>
    rw [valid] at run
    obtain ⟨rfl, rfl, -⟩ := run
    exact .inl ⟨[], [], _, rfl, rfl, .invalid valid⟩
  | ok url =>
    rw [valid] at run
    obtain ⟨_, _, rfl, bridged⟩ := Act.runs_ask_bind.1 run
    obtain ⟨created, _, rfl, told⟩ := Act.runs_ask_bind.1 bridged
    rw [Act.runs_granted_bind] at told
    rcases created with cause | ⟨⟩
    · obtain ⟨rfl, rfl, -⟩ := told
      exact .inl ⟨_, [], _, rfl, rfl, .uncreated valid⟩
    · obtain ⟨watched, _, rfl, onward⟩ := Act.runs_ask_bind.1 told
      rcases watched with cause | ⟨⟩
      · obtain ⟨_, _, rfl, closed⟩ := Act.runs_ask_bind.1 onward
        obtain ⟨rfl, rfl, -⟩ := Act.runs_fail.1 closed
        exact .inl ⟨_, _, _, rfl, rfl, .unwatched valid⟩
      · obtain ⟨bits, _, rfl, drawn⟩ := Act.runs_ask_bind.1 onward
        obtain ⟨started, _, rfl, timed⟩ := Act.runs_ask_bind.1 drawn
        obtain ⟨rfl, rfl, -⟩ := Act.runs_pure.1 timed
        exact .inr ⟨_, rfl, .begun valid bits started⟩

theorem Begins.runs {config : ClientConfig} {count : Nat} {events : List Event} {context : Context}
    (begins : Begins config count events context) :
    (init config count).Runs () events (.ok context) () := by
  cases begins with
  | begun valid bits started =>
    unfold init
    rw [Act.runs_settle_bind, valid]
    exact .call _ _ _ (.call _ _ _ (.call _ _ _ (.call _ _ _ (.call _ _ _ (.done _)))))

/-- The names under which the given number of tracks stands in an offer. -/
def mids (count : Nat) : List String := (List.range count).map numeral

/-- What a setup does once the exchange is made. Nothing is read before an open connection was seen. -/
inductive Finishes (context : Context) : List Event → Except Error Unit → Context → Prop where
  | unconnected {events : List Event} {cause : Error} {after : Context}
      (waiting : Uses Call.isWaiting context events after) :
      Finishes context events (.error cause) after
  | connected {first second : List Event} {ready after : Context} {outcome : Except Error Unit}
      (waiting : Uses Call.isWaiting context first ready) (seen : seenOpen ∈ first)
      (reading : Uses Call.isWorking ready second after) :
      Finishes context (first ++ second) outcome after

/-- The stages of a setup, as far as it gets. Only the last one can succeed. -/
inductive SetUp (count : Nat) (start : Context) : List Event → Except Error Unit → Context → Prop where
  | unprepared {events : List Event} {cause : Error} {after : Context}
      (preparing : Uses Call.isPreparing start events after) :
      SetUp count start events (.error cause) after
  | uncreated {first second : List Event} {middle : Context} {cause : Error} {exchange : Exchange}
      (preparing : Uses Call.isPreparing start first middle) (all : added first = mids count)
      (creates : Exchange.Creates Url.join middle.exchange second (.error cause) exchange) :
      SetUp count start (first ++ second) (.error cause) { middle with exchange := exchange }
  | created {first second third : List Event} {middle after : Context} {exchange : Exchange}
      {outcome : Except Error Unit}
      (preparing : Uses Call.isPreparing start first middle) (all : added first = mids count)
      (creates : Exchange.Creates Url.join middle.exchange second (.ok ()) exchange)
      (finishes : Finishes { middle with exchange := exchange } third outcome after) :
      SetUp count start (first ++ second ++ third) outcome after

theorem createResource_creates {context after : Context} {events : List Event}
    {outcome : Except Error Unit} (up : context.hasPeer = true)
    (run : createResource.Runs context events outcome after) :
    ∃ exchange, after = { context with exchange := exchange } ∧
      Exchange.Creates Url.join context.exchange events outcome exchange := by
  rcases Act.runs_bind.1 run with ⟨_, rfl, failed⟩ | ⟨_, _, _, _, rfl, passed, onward⟩
  · unfold requirePeer at failed
    rw [Act.runs_get_bind, if_pos up] at failed
    obtain ⟨-, wrong, -⟩ := Act.runs_pure.1 failed
    cases wrong
  · obtain ⟨rfl, rfl, -⟩ := requirePeer_up passed
    obtain ⟨exchange, rfl, inside⟩ := Act.runs_within.1 onward
    exact ⟨exchange, rfl, Exchange.creates_of_runs inside⟩

/-- The stages of a setup are those of its parts, each of which works on the session. -/
theorem setUp_of_runs {σ : Type} {context : σ → Context} {prepare create finish : Act σ Unit} {start after : σ}
    {count : Nat} {events : List Event} {outcome : Except Error Unit}
    (up : (context start).hasPeer = true)
    (prepares : ∀ events outcome after, prepare.Runs start events outcome after →
      Uses Call.isPreparing (context start) events (context after) ∧
        (outcome = .ok () → added events = mids count))
    (creates : ∀ state events outcome after, create.Runs state events outcome after →
      createResource.Runs (context state) events outcome (context after))
    (finishes : ∀ state events outcome after, finish.Runs state events outcome after →
      Finishes (context state) events outcome (context after))
    (run : (do prepare; create; finish : Act σ Unit).Runs start events outcome after) :
    SetUp count (context start) events outcome (context after) := by
  rcases Act.runs_bind.1 run with ⟨_, rfl, failed⟩ | ⟨first, _, middle, _, rfl, prepared, onward⟩
  · exact .unprepared (prepares _ _ _ failed).1
  obtain ⟨preparing, all⟩ := prepares _ _ _ prepared
  have still : (context middle).hasPeer = true := preparing.peer.trans up
  rcases Act.runs_bind.1 onward with ⟨_, rfl, failed⟩ | ⟨_, _, last, third, rfl, created, finished⟩
  · obtain ⟨exchange, same, course⟩ := createResource_creates still (creates _ _ _ _ failed)
    rw [same]
    exact .uncreated preparing (all rfl) course
  · obtain ⟨exchange, same, course⟩ := createResource_creates still (creates _ _ _ _ created)
    have ended := finishes _ _ _ _ finished
    rw [same] at ended
    rw [← List.append_assoc]
    exact .created preparing (all rfl) course ended

theorem finishes_of_wait {context after : Context} {events : List Event} {outcome : Except Error Unit}
    (run : waitConnected.Runs context events outcome after) :
    Finishes context events outcome after := by
  obtain ⟨waiting, seen⟩ := waitConnected_waits run
  rcases outcome with cause | ⟨⟩
  · exact .unconnected waiting
  · rw [← List.append_nil events]
    exact .connected waiting (seen rfl) (composes_uses.refl _)

/-- The exchange hands out nothing and gives nothing back. -/
theorem accounts_of_creates {context : Context} {events : List Event} {outcome : Except Error Unit}
    {exchange : Exchange} (creates : Exchange.Creates Url.join context.exchange events outcome exchange) :
    Accounts context.debts events { context with exchange := exchange }.debts :=
  accounts_of_neutral (fresh_of_kind creates.exchanging idle_of_exchanging)
    (creates.exchanging.weaken neutral_of_exchanging) _

theorem Finishes.uses {context after : Context} {events : List Event} {outcome : Except Error Unit}
    (finishes : Finishes context events outcome after) : Uses Call.isWorking context events after := by
  cases finishes with
  | unconnected waiting => exact waiting.weaken working_of_waiting
  | connected waiting seen reading =>
    exact composes_uses.trans (waiting.weaken working_of_waiting) reading

theorem SetUp.accounts {count : Nat} {start after : Context} {events : List Event}
    {outcome : Except Error Unit} (sets : SetUp count start events outcome after) :
    Accounts start.debts events after.debts ∧ after.hasPeer = start.hasPeer := by
  cases sets with
  | unprepared preparing => exact ⟨preparing.accounts, preparing.peer⟩
  | uncreated preparing all creates =>
    exact ⟨preparing.accounts.append (accounts_of_creates creates), preparing.peer⟩
  | created preparing all creates finishes =>
    have made := preparing.accounts.append (accounts_of_creates creates)
    exact ⟨made.append finishes.uses.accounts, finishes.uses.peer.trans preparing.peer⟩

theorem Begins.accounts {config : ClientConfig} {count : Nat} {events : List Event} {context : Context}
    (begins : Begins config count events context) :
    Accounts [] events context.debts ∧ context.hasPeer = true := by
  cases begins with
  | begun valid bits started =>
    have bridge : Accounts [] [⟨.host .bridgeLog, ()⟩] [] :=
      accounts_of_neutral (fresh_cons rfl) (.single rfl _) _
    have create : Accounts [] [⟨.engine (.create config.iceServers), .ok ()⟩] [.engine .close] :=
      accounts_handed rfl rfl (fun _ => rfl) []
    have others : Accounts [.engine .close] [⟨.engine .watchStates, .ok ()⟩, ⟨.host (.random 122), bits⟩,
        ⟨.host (.now 0), started⟩] [.engine .close] := by
      refine accounts_of_neutral (fresh_cons rfl) ?_ _
      exact (AllOf.single rfl _).append ((AllOf.single rfl _).append (.single rfl _))
    refine ⟨?_, rfl⟩
    rw [debts, Registry.debts_allocate]
    exact bridge.append (create.append others)

theorem Fails.accounts {config : ClientConfig} {building closing : List Event} {cause : Error}
    (fails : Fails config building closing cause) : Accounts [] (building ++ closing) [] := by
  have bridge : Accounts [] [⟨.host .bridgeLog, ()⟩] [] :=
    accounts_of_neutral (fresh_cons rfl) (.single rfl _) _
  cases fails with
  | invalid refused => exact accounts_nil []
  | @uncreated _ cause valid =>
    have refused : Accounts [] [⟨.engine (.create config.iceServers), .error cause⟩] [] :=
      accounts_refused rfl rfl (fun _ => rfl) []
    exact bridge.append refused
  | @unwatched _ cause valid =>
    have create : Accounts [] [⟨.engine (.create config.iceServers), .ok ()⟩] [.engine .close] :=
      accounts_handed rfl rfl (fun _ => rfl) []
    have watch : Accounts [.engine .close] [⟨.engine .watchStates, .error cause⟩] [.engine .close] :=
      accounts_of_neutral (fresh_cons rfl) (.single rfl _) _
    exact bridge.append (create.append (watch.append (accounts_return rfl [])))

end Context

/-- Items with their places, where each puts one track on the peer connection under its place. -/
theorem added_of_each {σ β : Type} {relation : σ → List Event → σ → Prop}
    (composes : Act.Composes relation) {act : β × Nat → Act σ PUnit}
    (adds : ∀ item state events outcome after, (act item).Runs state events outcome after →
      relation state events after ∧ (outcome = .ok () → added events = [numeral item.2]))
    {items : List (β × Nat)} {state after : σ} {events : List Event} {outcome : Except Error PUnit}
    (run : (items.forM act).Runs state events outcome after) :
    relation state events after ∧
      (outcome = .ok () → added events = items.map fun item => numeral item.2) := by
  induction items generalizing state events with
  | nil =>
    obtain ⟨rfl, rfl, rfl⟩ := Act.runs_pure.1 run
    exact ⟨composes.refl _, fun _ => rfl⟩
  | cons item rest ih =>
    rcases Act.runs_bind.1 run with ⟨_, rfl, failed⟩ | ⟨_, _, _, _, rfl, first, onward⟩
    · exact ⟨(adds item _ _ _ _ failed).1, nofun⟩
    · obtain ⟨early, one⟩ := adds item _ _ _ _ first
      obtain ⟨late, others⟩ := ih onward
      refine ⟨composes.trans early late, fun fine => ?_⟩
      rw [added_append, one rfl, others fine]
      rfl

theorem mids_zipIdx {β : Type} (items : List β) :
    (items.zipIdx.map fun item => numeral item.2) = Context.mids items.length := by
  have places : items.zipIdx.map Prod.snd = List.range items.length := by
    rw [List.zipIdx_map_snd, List.range_eq_range']
  rw [Context.mids, ← places, List.map_map]
  rfl

theorem Publisher.setUp_of_setup {start after : Publisher} {events : List Event}
    {outcome : Except Error Unit} (up : start.context.hasPeer = true)
    (run : setup.Runs start events outcome after) :
    Context.SetUp start.streams.length start.context events outcome after.context := by
  unfold setup at run
  rw [Act.runs_get_bind] at run
  refine Context.setUp_of_runs up ?_ ?_ ?_ run
  · intro events outcome after prepares
    have each := added_of_each composes_uses (fun _ _ _ _ _ adding => addStream_adds _ _ _ adding) prepares
    rwa [mids_zipIdx] at each
  · exact fun _ _ _ _ => runs_onContext
  · exact fun _ _ _ _ waiting => Context.finishes_of_wait (runs_onContext waiting)

theorem Player.setUp_of_setup {start after : Player} {events : List Event}
    {outcome : Except Error Unit} (up : start.context.hasPeer = true)
    (run : setup.Runs start events outcome after) :
    Context.SetUp offeredTracks.length start.context events outcome after.context := by
  unfold setup at run
  refine Context.setUp_of_runs up ?_ ?_ ?_ run
  · intro events outcome after prepares
    have each := added_of_each composes_uses (fun _ _ _ _ _ adding => offerTrack_adds adding) prepares
    rwa [mids_zipIdx] at each
  · exact fun _ _ _ _ => runs_onContext
  · intro state events outcome after finishing
    rcases Act.runs_bind.1 finishing with ⟨_, rfl, failed⟩ | ⟨_, _, _, _, rfl, waited, reading⟩
    · exact .unconnected (Context.waitConnected_waits (runs_onContext failed)).1
    · obtain ⟨waiting, seen⟩ := Context.waitConnected_waits (runs_onContext waited)
      have opening := Act.keeps_forM composes_uses (fun _ _ _ => keeps_openReader) _ _ _ reading
      exact .connected waiting (seen rfl) opening

theorem Publisher.closes_of_runs {half after : Publisher} {events : List Event}
    {outcome : Except Error Unit} (run : Publisher.close.Runs half events outcome after) :
    Context.Closes half.context events after.context :=
  (Context.closes_of_runs (runs_onContext run)).2

theorem Player.closes_of_runs {half after : Player} {events : List Event}
    {outcome : Except Error Unit} (run : Player.close.Runs half events outcome after) :
    Context.Closes half.context events after.context :=
  (Context.closes_of_runs (runs_onContext run)).2

namespace Role

/-- The number of tracks of a session. -/
def tracks : Role → Nat
  | ingest streams => streams.length
  | egress => Player.offeredTracks.length

/-- What can be said against the streams of the caller. -/
def check : Role → Except ConfigError Unit
  | ingest streams => Publisher.checkStreams streams
  | egress => .ok ()

/-- The setup of a session, as its role has it. -/
inductive SetsUp (context : Context) (events : List Event) (outcome : Except Error Unit) :
    Role → Client → Prop where
  | ingest {streams : List StreamParams} {after : Publisher}
      (run : Publisher.setup.Runs ⟨context, streams, streams.map fun _ => none⟩ events outcome after) :
      SetsUp context events outcome (.ingest streams) (.publisher after)
  | egress {after : Player} (run : Player.setup.Runs ⟨context, [], 0⟩ events outcome after) :
      SetsUp context events outcome .egress (.player after)

end Role

variable {role : Role} {config : ClientConfig} {events : List Event}

theorem Role.SetsUp.setUp {context : Context} {outcome : Except Error Unit} {after : Client}
    (up : context.hasPeer = true) (sets : role.SetsUp context events outcome after) :
    Context.SetUp role.tracks context events outcome after.context := by
  cases sets with
  | ingest run => exact Publisher.setUp_of_setup up run
  | egress run => exact Player.setUp_of_setup up run

theorem Role.SetsUp.unique {context : Context} {first second rest more : List Event}
    {outcome other : Except Error Unit} {after last : Client}
    (sets : role.SetsUp context first outcome after) (again : role.SetsUp context second other last)
    (alike : first ++ rest = second ++ more) : first = second ∧ outcome = other := by
  cases sets with
  | ingest run =>
    cases again with
    | ingest other =>
      obtain ⟨rfl, same⟩ := run.unique other alike
      exact ⟨rfl, (Prod.mk.inj same).1⟩
  | egress run =>
    cases again with
    | egress other =>
      obtain ⟨rfl, same⟩ := run.unique other alike
      exact ⟨rfl, (Prod.mk.inj same).1⟩

namespace Client

/-- The courses that the opening of a session can take. -/
inductive Opens (role : Role) (config : ClientConfig) : List Event → Except Error Client → Prop where
  | unfit {cause : ConfigError} (refused : role.check = .error cause) :
      Opens role config [] (.error (.config cause))
  | unbegun {building closing : List Event} {cause : Error} (fit : role.check = .ok ())
      (fails : Context.Fails config building closing cause) :
      Opens role config (building ++ closing) (.error cause)
  | unopened {first second third : List Event} {context after : Context} {half : Client} {cause : Error}
      (fit : role.check = .ok ()) (begins : Context.Begins config role.tracks first context)
      (sets : role.SetsUp context second (.error cause) half)
      (closes : Context.Closes half.context third after) :
      Opens role config (first ++ second ++ third) (.error cause)
  | opened {first second : List Event} {context : Context} {client : Client}
      (fit : role.check = .ok ()) (begins : Context.Begins config role.tracks first context)
      (sets : role.SetsUp context second (.ok ()) client) :
      Opens role config (first ++ second) (.ok client)

/-- A session of a role begins, and then it is made by the setup of the role. -/
theorem opens_of_guarded {τ : Type} {setup close : Act τ Unit} {start : Context → τ} {client : τ → Client}
    {make : Context → Act Unit τ} {outcome : Except Error τ} (fit : role.check = .ok ())
    (guarded : ∀ {context events outcome}, (make context).Runs () events outcome () →
      Act.Guarded setup close (start context) events outcome)
    (sets : ∀ {context events outcome after}, setup.Runs (start context) events outcome after →
      role.SetsUp context events outcome (client after))
    (closes : ∀ {half events outcome after}, close.Runs half events outcome after →
      Context.Closes (client half).context events (client after).context)
    (run : (Context.init config role.tracks >>= make).Runs () events outcome ()) :
    Opens role config events (outcome.map client) := by
  rcases Act.runs_bind.1 run with ⟨_, rfl, failed⟩ | ⟨_, context, _, _, rfl, begun, making⟩
  · rcases Context.init_of_runs failed with ⟨_, _, _, rfl, same, fails⟩ | ⟨_, wrong, -⟩
    · cases same
      exact .unbegun fit fails
    · cases wrong
  rcases Context.init_of_runs begun with ⟨_, _, _, -, wrong, -⟩ | ⟨_, same, begins⟩
  · cases wrong
  cases same
  cases guarded making with
  | made setting => exact .opened fit begins (sets setting)
  | dropped setting closing =>
    rw [← List.append_assoc]
    exact .unopened fit begins (sets setting) (closes closing)

theorem opens_of_publisher {streams : List StreamParams} {outcome : Except Error Publisher}
    (run : (Publisher.openSession config streams).Runs () events outcome ()) :
    Opens (.ingest streams) config events (outcome.map publisher) := by
  unfold Publisher.openSession at run
  rw [Act.runs_settle_bind] at run
  cases fit : Publisher.checkStreams streams with
  | error cause =>
    rw [fit] at run
    obtain ⟨rfl, rfl, -⟩ := run
    exact .unfit fit
  | ok checked =>
    rw [fit] at run
    refine opens_of_guarded fit (fun making => ?_) .ingest Publisher.closes_of_runs run
    exact Act.guarded_of_runs (fun _ => rfl) (fun _ _ => rfl) making

theorem opens_of_player {outcome : Except Error Player}
    (run : (Player.openSession config).Runs () events outcome ()) :
    Opens .egress config events (outcome.map player) := by
  refine opens_of_guarded rfl (fun making => ?_) .egress Player.closes_of_runs run
  exact Act.guarded_of_runs (fun _ => rfl) (fun _ _ => rfl) making

theorem opens_of_runs {outcome : Except Error Client}
    (run : (openSession role config).Runs () events outcome ()) : Opens role config events outcome := by
  cases role with
  | ingest streams =>
    rcases Act.runs_bind.1 run with ⟨cause, rfl, failed⟩ | ⟨_, session, _, _, rfl, opened, onward⟩
    · exact opens_of_publisher failed
    · obtain ⟨rfl, rfl, -⟩ := Act.runs_pure.1 onward
      rw [List.append_nil]
      exact opens_of_publisher opened
  | egress =>
    rcases Act.runs_bind.1 run with ⟨cause, rfl, failed⟩ | ⟨_, session, _, _, rfl, opened, onward⟩
    · exact opens_of_player failed
    · obtain ⟨rfl, rfl, -⟩ := Act.runs_pure.1 onward
      rw [List.append_nil]
      exact opens_of_player opened

/-- What an opening is handed out it has given back, or the session holds it. -/
theorem Opens.accounts {outcome : Except Error Client} (opens : Opens role config events outcome) :
    Accounts [] events
      (match outcome with
      | .ok client => client.context.debts
      | .error _ => []) := by
  cases opens with
  | unfit refused => exact accounts_nil []
  | unbegun fit fails => exact fails.accounts
  | unopened fit begins sets closes =>
    obtain ⟨beginning, up⟩ := begins.accounts
    obtain ⟨setting, same⟩ := (sets.setUp up).accounts
    obtain ⟨closed, -, bare⟩ := closes.bare
    have all := (beginning.append setting).append closes.accounts
    rwa [Context.debts_of_closed closed (bare (same.trans up))] at all
  | opened fit begins sets =>
    obtain ⟨beginning, up⟩ := begins.accounts
    exact beginning.append (sets.setUp up).accounts.1

/-! An opening that fails late: the endpoint creates a resource, and answers with nothing. -/

namespace Unanswered

def setting : ClientConfig := ⟨"https://h/a", none, 1, 1, []⟩

def video : Handle := ⟨1, by decide⟩

def audio : Handle := ⟨2, by decide⟩

def added (index : Nat) (track : OfferedTrack) (handle : Handle) : List Event :=
  [⟨.host (.random 32), (0 : BitVec 32)⟩,
    ⟨.engine (.addTrack (Player.trackInit (Text.uuid 0) track index 0)), .ok handle⟩]

def creating : List Event :=
  [⟨.engine (.setLocal .offer), .ok ()⟩, ⟨.engine .localDescription, .ok "v=0"⟩,
    ⟨.host .isCancelled, false⟩,
    ⟨.http ((Exchange.start Exchange.atHome none).offerTo (Text.utf8 "v=0") Exchange.atHome),
      ⟨[], .ok ⟨201, some "/b", []⟩⟩⟩]

def closing : List Event :=
  [⟨.http ⟨.delete, Exchange.nextDoor, [], [], Sdp.maxSize⟩, ⟨[], .error (.transport "reset")⟩⟩,
    ⟨.engine (.deleteTrack video), ()⟩, ⟨.engine (.deleteTrack audio), ()⟩, ⟨.engine .close, ()⟩]

def beginning : List Event :=
  [⟨.host .bridgeLog, ()⟩, ⟨.engine (.create []), .ok ()⟩, ⟨.engine .watchStates, .ok ()⟩,
    ⟨.host (.random 122), (0 : BitVec 122)⟩, ⟨.host (.now 0), ⟨0, Nat.le_refl 0⟩⟩]

/-- The time at which the clock stands still. -/
def outset : { time : Nat // 0 ≤ time } := ⟨0, Nat.le_refl 0⟩

def whole : List Event :=
  beginning ++ (added 0 Player.offeredTracks[0] video ++ added 1 Player.offeredTracks[1] audio ++
    creating ++ closing)

theorem validate_setting : setting.validate = .ok Exchange.atHome := by
  have parsed : (Url.parse setting.url).toOption = some Exchange.atHome := by decide +kernel
  unfold ClientConfig.validate
  cases read : Url.parse setting.url with
  | error cause =>
    rw [read] at parsed
    cases parsed
  | ok url =>
    rw [read] at parsed
    cases parsed
    rfl

theorem runs : (openSession .egress setting).Runs () whole (.error (.signaling .emptyAnswer)) () := by
  refine Act.runs_bind.2 (.inl ⟨_, rfl, ?_⟩)
  refine Act.runs_bind.2 (.inr ⟨beginning, _, (), _, rfl,
    (Context.Begins.begun validate_setting 0 ⟨0, Nat.le_refl 0⟩).runs, ?_⟩)
  exact .call _ _ _ (.call _ _ _ (.call _ _ _ (.call _ _ _ (.call _ _ _ (.call _ _ _ (.call _ _ _
    (.call _ _ _ (.call _ _ _ (.call _ _ _ (.call _ _ _ (.call _ _ _ (.done _))))))))))))

end Unanswered
end Client
end WhipWhep
