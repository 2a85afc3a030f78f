import WhipWhep.Proofs.Exchange.Lifetime
import WhipWhep.Proofs.Session.Deletion
import WhipWhep.Proofs.Session.Playing
import WhipWhep.Proofs.Track.Dismantling

/-!
Taking a session down. However far its tracks have come, and whichever way it is ended first, they are taken
down in their order and the peer connection after them. From then on the engine is left alone, and the endpoint
is asked at most to delete what was not deleted before.
-/

namespace WhipWhep

variable {events more : List Event}

/-- What is taken away from the engine, in order. -/
def dismissals (events : List Event) : List Call := (events.map Event.call).filter Call.isDismissal

theorem dismissals_append : dismissals (events ++ more) = dismissals events ++ dismissals more := by
  rw [dismissals, List.map_append, List.filter_append]
  rfl

theorem dismissals_of_stands (stands : AllOf Call.stands events) : dismissals events = [] := by
  refine List.filter_eq_nil_iff.2 fun call member => ?_
  obtain ⟨event, among, rfl⟩ := List.mem_map.1 member
  simpa [Call.stands] using stands event among

/-- The requests that go to the host alone. -/
def Call.isHost : Call → Bool
  | .host _ => true
  | _ => false

def Call.isEngine : Call → Bool
  | .engine _ => true
  | _ => false

theorem host_of_waiting {call : Call} (waiting : call.isWaiting = true) : call.isHost = true := by
  unfold Call.isHost
  split
  · rfl
  · unfold Call.isWaiting at waiting
    split at waiting <;> simp_all

theorem stands_of_relayedOn {target : Option Handle} {call : Call} (on : call.isRelayedOn target = true) :
    call.stands = true :=
  stands_of_working (working_of_relayed (relayed_of_relayedOn on))

/-- A track that is taken down loses its handle, and nothing else of the engine's. -/
theorem Track.TakesDown.dismissals {track : Track} (takes : track.TakesDown events) :
    WhipWhep.dismissals events = (track.handle.map fun handle => Call.engine (.deleteTrack handle)).toList := by
  obtain ⟨closes⟩ := takes
  have closing : ∀ {events}, track.ClosesCodec events → AllOf Call.stands events := by
    intro events closes
    cases closes with
    | absent unvoiced => exact .nil
    | @closed codec answer played voiced stays =>
      have first : AllOf Call.stands [⟨codec.closing, answer⟩] := .single (by cases codec <;> rfl) _
      exact first.append (stays.weaken stands_of_relayedOn)
  have unbinding : AllOf Call.stands track.unbinding := by
    unfold Track.unbinding
    cases track.binding with
    | none => exact .nil
    | some binding => exact .single rfl _
  rw [dismissals_append, dismissals_append, dismissals_of_stands (closing closes), dismissals_of_stands unbinding,
    Track.deleting]
  cases track.handle <;> rfl

theorem Registry.TakesDown.dismissals {tracks : List Track} (takes : Registry.TakesDown tracks events) :
    WhipWhep.dismissals events = (tracks.filterMap Track.handle).map fun handle => .engine (.deleteTrack handle) := by
  induction takes with
  | nil => rfl
  | @cons track tracks early late first rest ih =>
    rw [dismissals_append, first.dismissals, ih, List.filterMap_cons]
    cases track.handle <;> rfl

namespace Context

variable {context middle after : Context}

/-- What can be done with a session while it is made, and after it has come to its end. -/
inductive Operation where
  | bindTrack (index : Nat)
  | addTrack (index : Nat) (init : TrackInit)
  | setCodec (index : Nat) (codec : CodecSession)
  | trackDescription (index : Nat)
  | createResource
  | waitConnected
  | requirePeer
  | ensureConnected
  | close
  | release
  deriving DecidableEq

namespace Operation

def act : Operation → Act Context Unit
  | bindTrack index => do let _ ← Context.bindTrack index
  | addTrack index init => do let _ ← Context.addTrack index init
  | setCodec index codec => onRegistry (Registry.setCodec index codec)
  | trackDescription index => do let _ ← Context.trackDescription index
  | createResource => Context.createResource
  | waitConnected => Context.waitConnected
  | requirePeer => Context.requirePeer
  | ensureConnected => Context.ensureConnected
  | close => Context.close
  | release => Context.release

/-- The ways in which a session comes to its end. One that is dropped is released. -/
def ends : Operation → Bool
  | close => true
  | release => true
  | _ => false

end Operation

/-- An operation with what it asked for, and how it came out. -/
structure Called where
  operation : Operation
  events : List Event
  outcome : Except Error Unit

/-- Operations on a session one after the other, however each of them comes out. -/
inductive History : Context → List Called → Context → Prop where
  | nil (context : Context) : History context [] context
  | cons {context middle after : Context} {operation : Operation} {events : List Event}
      {outcome : Except Error Unit} {calls : List Called}
      (run : operation.act.Runs context events outcome middle) (rest : History middle calls after) :
      History context (⟨operation, events, outcome⟩ :: calls) after

/-! A session that has not come to its end. -/

/-- A session keeps its peer connection, each track stays at its place, and what is stored can be deleted. -/
structure Builds (context : Context) (_ : List Event) (after : Context) : Prop where
  peer : after.hasPeer = context.hasPeer
  places : after.registry.tracks.map Track.index = context.registry.tracks.map Track.index
  sendable : (context.exchange.location.isSome = true → context.exchange.Sendable) →
    after.exchange.location.isSome = true → after.exchange.Sendable

theorem Builds.refl (context : Context) : Builds context events context := ⟨rfl, rfl, id⟩

theorem Builds.trans (first : Builds context events middle) (second : Builds middle more after) :
    Builds context (events ++ more) after :=
  ⟨second.peer.trans first.peer, second.places.trans first.places, second.sendable ∘ first.sendable⟩

theorem composes_builds : Act.Composes Builds where
  refl := Builds.refl
  trans := Builds.trans

theorem builds_requirePeer : requirePeer.Keeps Builds context := by
  intro events outcome after run
  obtain ⟨-, rfl, -⟩ := requirePeer_up run
  exact Builds.refl _

theorem builds_onTrack {α : Type} {index : Nat} {act : Act Track α}
    (kept : ∀ track, act.Keeps Track.Stays track) :
    (Context.onTrack index act).Keeps Builds context := by
  intro events outcome after run
  rcases onTrack_runs_iff.1 run with ⟨-, -, -, rfl⟩ | ⟨track, inner, found, rfl, inside⟩
  · exact Builds.refl _
  · exact ⟨rfl, map_setTrack Track.index found (kept track _ _ _ inside), id⟩

/-- What is stored came of a request, and so the request that deletes it can be made as well. -/
theorem builds_createResource : createResource.Keeps Builds context := by
  refine Act.keeps_bind composes_builds builds_requirePeer fun {_ _ middle} _ => ?_
  intro events outcome after run
  obtain ⟨exchange, rfl, inside⟩ := Act.runs_within.1 run
  refine ⟨rfl, rfl, fun sendable => ?_⟩
  cases stored : middle.exchange.location with
  | some location =>
    obtain ⟨-, -, rfl⟩ := (Exchange.runs_create_occupied (by rw [stored]; rfl)).1 inside
    exact sendable
  | none => exact ((Exchange.creates_of_runs inside).keeps stored).2.2

/-- A wait notes how long the connection took, if it came, and nothing else. -/
theorem waitConnected_notes {outcome : Except Error Unit} (run : waitConnected.Runs context events outcome after) :
    ∃ time, after = { context with timeToConnect := time } := by
  unfold waitConnected at run
  rw [Act.runs_get_bind] at run
  rcases Act.runs_bind.1 run with ⟨_, rfl, failed⟩ | ⟨_, _, _, _, rfl, waited, onward⟩
  · obtain ⟨rfl, -, -⟩ := Wait.connected_waits failed
    exact ⟨after.timeToConnect, rfl⟩
  · obtain ⟨rfl, -, -⟩ := Wait.connected_waits waited
    obtain ⟨now, _, rfl, timed⟩ := Act.runs_ask_bind.1 (Act.runs_get_bind.1 onward)
    obtain ⟨-, -, rfl⟩ := Act.runs_modify.1 timed
    exact ⟨_, rfl⟩

theorem builds_waitConnected : waitConnected.Keeps Builds context := by
  intro events outcome after run
  obtain ⟨time, rfl⟩ := waitConnected_notes run
  exact ⟨rfl, rfl, id⟩

theorem builds_trackDescription {index : Nat} : (trackDescription index).Keeps Builds context := by
  refine Act.keeps_bind composes_builds (Act.keeps_get composes_builds) fun _ => ?_
  refine Act.keeps_bind composes_builds (Act.keeps_settle composes_builds) fun {_ track _} _ => ?_
  cases track.handle with
  | none => exact Act.keeps_fail composes_builds
  | some handle =>
    refine Act.keeps_bind composes_builds builds_requirePeer fun _ => ?_
    refine Act.keeps_bind composes_builds (Act.keeps_ask fun _ => Builds.refl _) fun _ => ?_
    exact Act.keeps_granted composes_builds

theorem builds_setCodec {index : Nat} {codec : CodecSession} :
    (onRegistry (Registry.setCodec index codec)).Keeps Builds context := by
  intro events outcome after run
  obtain ⟨registry, rfl, inside⟩ := Act.runs_within.1 run
  refine ⟨rfl, ?_, id⟩
  unfold Registry.setCodec at inside
  rw [Act.runs_get_bind] at inside
  cases found : context.registry.tracks[index]? with
  | none =>
    rw [found] at inside
    rcases Act.runs_bind.1 inside with ⟨_, -, failed⟩ | ⟨_, _, _, _, -, closed, onward⟩
    · obtain ⟨_, rfl, -⟩ := Act.runs_within.1 failed
      rfl
    · obtain ⟨_, rfl, -⟩ := Act.runs_within.1 closed
      obtain ⟨-, -, rfl⟩ := Act.runs_fail.1 onward
      rfl
  | some track =>
    rw [found] at inside
    rcases Registry.runs_onTrack.1 inside with ⟨missing, -⟩ | ⟨_, inner, there, rfl, taking⟩
    · cases found.symm.trans missing
    · exact map_setTrack Track.index there (Track.stays_setCodec _ _ _ taking)

theorem Operation.builds {operation : Operation} (onward : operation.ends = false) :
    operation.act.Keeps Builds context := by
  cases operation with
  | bindTrack index =>
    refine Act.keeps_void (Act.keeps_bind composes_builds builds_requirePeer fun _ => ?_)
    refine Act.keeps_bind composes_builds (Act.keeps_get composes_builds) fun _ => ?_
    exact builds_onTrack fun _ => Track.stays_setBinding
  | addTrack index init =>
    refine Act.keeps_void (Act.keeps_bind composes_builds builds_requirePeer fun _ => ?_)
    exact builds_onTrack fun _ => Track.stays_add
  | setCodec index codec => exact builds_setCodec
  | trackDescription index => exact Act.keeps_void builds_trackDescription
  | createResource => exact builds_createResource
  | waitConnected => exact builds_waitConnected
  | requirePeer => exact builds_requirePeer
  | ensureConnected =>
    intro events outcome after run
    obtain ⟨-, rfl⟩ := keeps_ensureConnected _ _ _ run
    exact Builds.refl _
  | close => cases onward
  | release => cases onward

theorem History.builds {calls : List Called} (history : History context calls after)
    (onward : ∀ called ∈ calls, called.operation.ends = false) :
    Builds context (calls.flatMap Called.events) after := by
  induction history with
  | nil context => exact Builds.refl _
  | cons run rest ih =>
    obtain ⟨here, later⟩ := List.forall_mem_cons.1 onward
    exact (Operation.builds here _ _ _ run).trans (ih later)

/-! The end of a session. -/

/-- Only a session that is closed has its resource deleted. -/
inductive Withdraws (exchange : Exchange) : Operation → List Event → Prop where
  | kept : Withdraws exchange .release []
  | absent (vacant : exchange.location = none) : Withdraws exchange .close []
  | deleted {location : Url} {request : HttpRequest} (stored : exchange.location = some location)
      (deletion : Exchange.Deletion location request) (progress : Progress) :
      Withdraws exchange .close [⟨.http request, progress⟩]

/-- What a session comes to that is ended. -/
structure Dismantles (context : Context) (ending : Operation) (events : List Event) (after : Context) : Prop where
  course : ∃ withdrawing taking, events = withdrawing ++ (taking ++ [⟨.engine .close, ()⟩]) ∧
    Withdraws context.exchange ending withdrawing ∧ Registry.TakesDown context.registry.tracks taking
  dismissed : dismissals events =
    (context.registry.tracks.filterMap Track.handle).map (fun handle => .engine (.deleteTrack handle)) ++
      [.engine .close]
  down : after.hasPeer = false
  bare : after.registry.allocated = 0
  location : after.exchange.location = if ending = .close then none else context.exchange.location

theorem release_dismantles {outcome : Except Error Unit} (up : context.hasPeer = true)
    (run : Context.release.Runs context events outcome after) : Dismantles context .release events after := by
  unfold Context.release at run
  rw [Act.runs_get_bind, if_pos up] at run
  rcases Act.runs_bind.1 run with ⟨_, -, failed⟩ | ⟨taking, _, _, _, rfl, released, onward⟩
  · obtain ⟨_, -, inside⟩ := Act.runs_within.1 failed
    cases (Registry.release_lets inside).1
  obtain ⟨registry, rfl, inside⟩ := Act.runs_within.1 released
  obtain ⟨_, _, rfl, last⟩ := Act.runs_ask_bind.1 onward
  obtain ⟨rfl, -, rfl⟩ := Act.runs_modify.1 last
  have takes := Registry.release_takesDown inside
  refine ⟨⟨[], taking, rfl, .kept, takes⟩, ?_, rfl, (Registry.release_lets inside).2.2, rfl⟩
  rw [dismissals_append, takes.dismissals]
  rfl

theorem close_dismantles {outcome : Except Error Unit} (up : context.hasPeer = true)
    (sendable : context.exchange.location.isSome = true → context.exchange.Sendable)
    (run : Context.close.Runs context events outcome after) : Dismantles context .close events after := by
  unfold Context.close at run
  obtain ⟨withdrawing, _, _, releasing, rfl, tried, onward⟩ := Act.runs_attempt_bind.1 run
  obtain ⟨_, rfl, inside⟩ := Act.runs_within.1 tried
  obtain ⟨deletes, rfl⟩ := Exchange.deletes_of_runs inside
  have withdraws : Withdraws context.exchange .close withdrawing := by
    cases deletes with
    | absent vacant => exact .absent vacant
    | unsendable stored unfit =>
      obtain ⟨request, fit⟩ := Exchange.request_delete (sendable (by rw [stored]; rfl)) _
      cases unfit.symm.trans fit
    | sent stored fit progress => exact .deleted stored (Exchange.deletion_of_request fit) progress
  have still : { context with exchange := { context.exchange with location := none } }.hasPeer = true := up
  obtain ⟨⟨_, taking, rfl, none, takes⟩, dismissed, down, bare, location⟩ := release_dismantles still onward
  cases none
  refine ⟨⟨withdrawing, taking, rfl, withdraws, takes⟩, ?_, down, bare, location⟩
  rw [dismissals_append, dismissals_of_stands deletes.stands]
  exact dismissed

/-! After the end of a session. -/

/-- A session that has come to its end. -/
structure Spent (context : Context) : Prop where
  down : context.hasPeer = false
  bare : context.registry.allocated = 0

variable {α : Type}

/-- What needs a peer connection comes to nothing without one. -/
theorem runs_requirePeer_down {next : Act Context α} {outcome : Except Error α} (down : context.hasPeer = false)
    (run : (requirePeer >>= fun _ => next).Runs context events outcome after) :
    events = [] ∧ outcome = .error (.notConnected .closed) ∧ after = context := by
  rcases Act.runs_bind.1 run with ⟨cause, rfl, failed⟩ | ⟨_, _, _, _, -, passed, -⟩
  · unfold requirePeer at failed
    rw [Act.runs_get_bind, if_neg (by simp [down])] at failed
    obtain ⟨rfl, same, rfl⟩ := Act.runs_fail.1 failed
    cases same
    exact ⟨rfl, rfl, rfl⟩
  · cases down.symm.trans ((requirePeer_up passed).2.2 rfl)

/-- A session that is spent is asked for nothing but the time and the state that it was last told. -/
structure Rests (context : Context) (events : List Event) (after : Context) : Prop where
  ofKind : AllOf Call.isHost events
  peer : after.hasPeer = context.hasPeer
  registry : after.registry = context.registry
  exchange : after.exchange = context.exchange

theorem Rests.refl (context : Context) : Rests context [] context := ⟨.nil, rfl, rfl, rfl⟩

theorem Rests.of_down {next : Act Context α} {outcome : Except Error α} (down : context.hasPeer = false)
    (run : (requirePeer >>= fun _ => next).Runs context events outcome after) : Rests context events after := by
  obtain ⟨rfl, -, rfl⟩ := runs_requirePeer_down down run
  exact .refl _

theorem rests_trackDescription {index : Nat} {outcome : Except Error String} (spent : context.Spent)
    (run : (trackDescription index).Runs context events outcome after) : Rests context events after := by
  unfold trackDescription at run
  rw [Act.runs_get_bind, Act.runs_settle_bind] at run
  cases found : context.registry.get index with
  | error cause =>
    rw [found] at run
    obtain ⟨rfl, -, rfl⟩ := run
    exact .refl _
  | ok track =>
    rw [found] at run
    have bare := spent.bare
    rw [Registry.allocated, List.countP_eq_zero] at bare
    have none := bare track (List.mem_of_getElem? (demand_eq_ok_iff.1 found))
    have unheld : track.handle = .none := by
      cases held : track.handle with
      | none => rfl
      | some handle => simp [Track.isAllocated, held] at none
    dsimp only at run
    rw [unheld] at run
    obtain ⟨rfl, -, rfl⟩ := Act.runs_fail.1 run
    exact .refl _

theorem rests_waitConnected {outcome : Except Error Unit} (run : waitConnected.Runs context events outcome after) :
    Rests context events after := by
  have ofKind := (waitConnected_waits run).1.ofKind
  obtain ⟨time, rfl⟩ := waitConnected_notes run
  exact ⟨ofKind.weaken host_of_waiting, rfl, rfl, rfl⟩

/-- There is nothing left to release without a peer connection. -/
theorem Releases.nothing (releases : Releases context events after) (down : context.hasPeer = false) :
    events = [] ∧ after = context := by
  cases releases with
  | absent closed => exact ⟨rfl, rfl⟩
  | released up uses bare => cases down.symm.trans up

/-- Whatever is done with a spent session, the engine is not asked for anything. A session that is closed once
more deletes what it still has stored. -/
inductive Idles (context : Context) (operation : Operation) : List Event → Context → Prop where
  | rested {events : List Event} {after : Context} (other : operation ≠ .close)
      (rests : Rests context events after) : Idles context operation events after
  | closed {events : List Event} (closes : operation = .close) (deletes : context.exchange.Deletes events) :
      Idles context operation events { context with exchange := { context.exchange with location := none } }

theorem Operation.idles {operation : Operation} {outcome : Except Error Unit} (spent : context.Spent)
    (settled : ∀ index codec, operation ≠ .setCodec index codec)
    (run : operation.act.Runs context events outcome after) : Idles context operation events after := by
  have down := spent.down
  cases operation with
  | bindTrack index =>
    obtain ⟨_, -, inside⟩ := Act.runs_void run
    exact .rested nofun (.of_down down inside)
  | addTrack index init =>
    obtain ⟨_, -, inside⟩ := Act.runs_void run
    exact .rested nofun (.of_down down inside)
  | setCodec index codec => exact absurd rfl (settled index codec)
  | trackDescription index =>
    obtain ⟨_, -, inside⟩ := Act.runs_void run
    exact .rested nofun (rests_trackDescription spent inside)
  | createResource => exact .rested nofun (.of_down down run)
  | waitConnected => exact .rested nofun (rests_waitConnected run)
  | requirePeer =>
    obtain ⟨rfl, rfl, -⟩ := requirePeer_up run
    exact .rested nofun (.refl _)
  | ensureConnected => exact .rested nofun (.of_down down run)
  | close =>
    obtain ⟨withdrawing, releasing, rfl, deletes, releases⟩ := (closes_of_runs run).2.course
    obtain ⟨rfl, rfl⟩ := releases.nothing down
    rw [List.append_nil]
    exact .closed rfl deletes
  | release =>
    obtain ⟨rfl, rfl⟩ := (releases_of_runs run).2.nothing down
    exact .rested nofun (.refl _)

theorem Rests.spent (rests : Rests context events after) (spent : context.Spent) : after.Spent where
  down := rests.peer.trans spent.down
  bare := by rw [rests.registry, spent.bare]

/-- What is still asked for once a session with some location in store has come to its end. -/
structure Aftermath (location : Option Url) (calls : List Called) (last : Context) : Prop where
  spent : last.Spent
  /-- The engine is left alone. -/
  unasked : ∀ called ∈ calls, ∀ event ∈ called.events, event.call.isEngine = false
  /-- The endpoint is asked by a session that is closed, and by no other. -/
  closing : ∀ called ∈ calls, called.operation ≠ .close → requested called.events = []
  /-- It is asked once at most, to delete what is stored. -/
  deletion : requested (calls.flatMap Called.events) = [] ∨
    ∃ stored request progress, location = some stored ∧ Exchange.Deletion stored request ∧
      requested (calls.flatMap Called.events) = [(request, progress)]

theorem requested_of_host (ofKind : AllOf Call.isHost events) : requested events = [] := by
  refine requested_of_local (ofKind.weaken fun {call} host => ?_)
  unfold Call.isLocal
  split
  · cases host
  · rfl

theorem unasked_of_host (ofKind : AllOf Call.isHost events) : ∀ event ∈ events, event.call.isEngine = false := by
  intro event member
  have kind := ofKind event member
  obtain ⟨call | request | call | call, answer⟩ := event
  · cases kind
  · rfl
  · rfl
  · rfl

variable {operation : Operation} {outcome : Except Error Unit} {calls : List Called}

theorem Aftermath.behind_rest {location : Option Url} (rests : Rests context events middle)
    (rest : Aftermath location calls after) : Aftermath location (⟨operation, events, outcome⟩ :: calls) after := by
  have quiet := requested_of_host rests.ofKind
  refine ⟨rest.spent, List.forall_mem_cons.2 ⟨unasked_of_host rests.ofKind, rest.unasked⟩,
    List.forall_mem_cons.2 ⟨fun _ => quiet, rest.closing⟩, ?_⟩
  rw [List.flatMap_cons, requested_append, quiet, List.nil_append]
  exact rest.deletion

theorem Aftermath.behind_close {exchange : Exchange} (deletes : exchange.Deletes events)
    (rest : Aftermath none calls after) :
    Aftermath exchange.location (⟨.close, events, outcome⟩ :: calls) after := by
  have nothing : requested (calls.flatMap Called.events) = [] := by
    rcases rest.deletion with none | ⟨_, _, _, wrong, -⟩
    · exact none
    · cases wrong
  have unasked : ∀ event ∈ events, event.call.isEngine = false := by
    cases deletes with
    | absent vacant => simp
    | unsendable stored unfit => simp
    | sent stored fit progress => simp [Call.isEngine]
  refine ⟨rest.spent, List.forall_mem_cons.2 ⟨unasked, rest.unasked⟩,
    List.forall_mem_cons.2 ⟨fun other => absurd rfl other, rest.closing⟩, ?_⟩
  rw [List.flatMap_cons, requested_append, nothing, List.append_nil]
  cases deletes with
  | absent vacant => exact .inl rfl
  | unsendable stored unfit => exact .inl rfl
  | sent stored fit progress => exact .inr ⟨_, _, progress, stored, Exchange.deletion_of_request fit, rfl⟩

theorem History.aftermath (history : History context calls after) (spent : context.Spent)
    (settled : ∀ called ∈ calls, ∀ index codec, called.operation ≠ .setCodec index codec) :
    Aftermath context.exchange.location calls after := by
  induction history with
  | nil context => exact ⟨spent, List.forall_mem_nil _, List.forall_mem_nil _, .inl rfl⟩
  | cons run rest ih =>
    obtain ⟨here, later⟩ := List.forall_mem_cons.1 settled
    cases Operation.idles spent here run with
    | rested other rests =>
      have onward := ih (rests.spent spent) later
      rw [rests.exchange] at onward
      exact .behind_rest rests onward
    | closed closes deletes =>
      subst closes
      exact .behind_close deletes (ih ⟨spent.down, spent.bare⟩ later)

/-- What becomes of a session that is ended, and what is still asked for afterwards. -/
structure TakenDown (context : Context) (ending : Operation) (events : List Event) (after : Context)
    (calls : List Called) (last : Context) : Prop where
  /-- Up to its end each track has stayed at its place. -/
  places : context.registry.tracks.map Track.index = List.range context.registry.tracks.length
  dismantles : Dismantles context ending events after
  aftermath : Aftermath after.exchange.location calls last

/-- However far a session has come when it is first ended, and whatever is done with it later, it is taken down
once, in order, and nothing more is asked of the engine. -/
theorem first_end_takes_down {config : ClientConfig} {count : Nat} {beginning : List Event} {start last : Context}
    {made calls : List Called} {ending : Operation} {outcome : Except Error Unit}
    (begins : (init config count).Runs () beginning (.ok start) ())
    (history : History start made context) (onward : ∀ called ∈ made, called.operation.ends = false)
    (ends : ending.ends = true) (run : ending.act.Runs context events outcome after)
    (later : History after calls last)
    (settled : ∀ called ∈ calls, ∀ index codec, called.operation ≠ .setCodec index codec) :
    TakenDown context ending events after calls last := by
  have begun : Begins config count beginning start := by
    rcases init_of_runs begins with ⟨_, _, _, -, wrong, -⟩ | ⟨_, same, begun⟩
    · cases wrong
    · cases same
      exact begun
  have builds := history.builds onward
  have up : context.hasPeer = true := builds.peer.trans begun.accounts.2
  have sendable : context.exchange.location.isSome = true → context.exchange.Sendable := by
    refine builds.sendable ?_
    cases begun with
    | begun valid bits started => exact nofun
  have dismantles : Dismantles context ending events after := by
    cases ending with
    | close => exact close_dismantles up sendable run
    | release => exact release_dismantles up run
    | _ => cases ends
  refine ⟨?_, dismantles, later.aftermath ⟨dismantles.down, dismantles.bare⟩ settled⟩
  have size := congrArg List.length builds.places
  rw [List.length_map, List.length_map] at size
  rw [builds.places, size, begun.bare.2]
  simp [Registry.allocate, Track.fresh, Function.comp_def]

/-! A session that is dropped half made: one track has a handle, the other a transport and a reader, and the
endpoint has created a resource. -/

namespace HalfMade

open Client.Unanswered

def start : Context where
  hasPeer := true
  registry := .allocate 2
  exchange := .start Exchange.atHome none
  config := setting
  msid := Text.uuid 0
  startedAt := 0
  timeToConnect := none

def reader : Reader := ⟨7, .audio .opus 48000 2⟩

def init : TrackInit := Player.trackInit (Text.uuid 0) (Player.offeredTracks.get ⟨0, Nat.two_pos⟩) 0 0

def made : List Called :=
  [⟨.addTrack 0 init, [⟨.engine (.addTrack init), .ok video⟩], .ok ()⟩, ⟨.bindTrack 1, [], .ok ()⟩,
    ⟨.setCodec 1 (.reader reader), [], .ok ()⟩, ⟨.createResource, creating, .error (.signaling .emptyAnswer)⟩]

def half : Context :=
  { start with
    registry := ⟨[{ Track.fresh 0 with handle := some video },
      { Track.fresh 1 with binding := some (.fresh 1 1), codec := some (.reader reader) }]⟩
    exchange := { start.exchange with location := some Exchange.nextDoor } }

/-- The reader would say goodbye, but its transport leads nowhere yet. -/
def dropping : List Event :=
  [⟨.engine (.deleteTrack video), ()⟩, ⟨.layer (.closeReader 7), .send [203] fun _ => .done ()⟩,
    ⟨.host .isCancelled, false⟩, ⟨.layer (.releaseTransport 1), ()⟩, ⟨.engine .close, ()⟩]

def dropped : Context := { half with hasPeer := false, registry := .allocate 2 }

def closedLate : List Called :=
  [⟨.close, [⟨.http ⟨.delete, Exchange.nextDoor, [], [], Sdp.maxSize⟩, ⟨[], .error (.transport "reset")⟩⟩], .ok ()⟩,
    ⟨.bindTrack 0, [], .error (.notConnected .closed)⟩]

theorem history : History start made half :=
  .cons (.call _ _ _ (.done _)) (.cons (.done _) (.cons (.done _) (.cons
    (.call _ _ _ (.call _ _ _ (.call _ _ _ (.call _ _ _ (.done _))))) (.nil _))))

end HalfMade

theorem first_end_takes_down_half_made :
    TakenDown HalfMade.half .release HalfMade.dropping HalfMade.dropped HalfMade.closedLate
      { HalfMade.dropped with exchange := .start Exchange.atHome none } := by
  have begins : (init Client.Unanswered.setting 2).Runs () Client.Unanswered.beginning (.ok HalfMade.start) () :=
    (Begins.begun Client.Unanswered.validate_setting 0 Client.Unanswered.outset).runs
  have drops : Operation.release.act.Runs HalfMade.half HalfMade.dropping (.ok ()) HalfMade.dropped :=
    .call _ _ _ (.call _ _ _ (.call _ _ _ (.call _ _ _ (.call _ _ _ (.done _)))))
  have later : History HalfMade.dropped HalfMade.closedLate
      { HalfMade.dropped with exchange := .start Exchange.atHome none } :=
    .cons (.call _ _ _ (.done _)) (.cons (.done _) (.nil _))
  exact first_end_takes_down begins HalfMade.history (by decide) rfl drops later (by simp [HalfMade.closedLate])

end Context
end WhipWhep
