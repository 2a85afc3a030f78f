import WhipWhep.Proofs.Session.Counting

/-!
What a session is woven of. Whatever it does is made of single requests, of what the layer does with a transport
while it has control, and of requests that take the offer to the endpoint. What holds of these three holds of
every run.
-/

namespace WhipWhep

/-- The requests that a cancellation stops: an offer that is posted, and a message that is sent or received. -/
def Call.isStoppable : Call → Bool
  | .http request => request.method == .post
  | call => call.isTransfer

/-- Events that are woven of the three. The single ones are of a kind. -/
inductive Woven (kind : Call → Bool) : List Event → Prop where
  | nil : Woven kind []
  | single {event : Event} {rest : List Event} (allowed : kind event.call = true)
      (free : event.call.isStoppable = false) (woven : Woven kind rest) : Woven kind (event :: rest)
  | played {α : Type} {relay : Relay α} {target : Option Handle} {counters after : Counters}
      {outcome : Except Error α} {events rest : List Event}
      (plays : (relay.play target).Runs counters events outcome after) (woven : Woven kind rest) :
      Woven kind (events ++ rest)
  | posted {exchange : Exchange} {offer : Bytes} {target : Url} {outcome : Except Error HttpResponse}
      {events rest : List Event} (allowed : ∀ request, kind (.http request) = true)
      (posting : exchange.Posting offer target events outcome) (woven : Woven kind rest) :
      Woven kind (events ++ rest)

/-- The events of every run are woven. -/
def Weaves {σ : Type} (kind : Call → Bool) : σ → List Event → σ → Prop := fun _ events _ => Woven kind events

/-- The single requests of a session once it is open. -/
def Call.isInUse : Call → Bool
  | .host _ => true
  | .http request => request.method == .delete
  | .layer (.write _ _) => true
  | .layer (.read _) => true
  | .layer (.closeWriter _) => true
  | .layer (.closeReader _) => true
  | .layer (.releaseTransport _) => true
  | .engine (.deleteTrack _) => true
  | .engine .close => true
  | _ => false

variable {kind wider : Call → Bool} {events more : List Event}

theorem Woven.append (first : Woven kind events) (second : Woven kind more) : Woven kind (events ++ more) := by
  induction first with
  | nil => exact second
  | single allowed free woven ih => exact .single allowed free ih
  | played plays woven ih =>
    rw [List.append_assoc]
    exact .played plays ih
  | posted allowed posting woven ih =>
    rw [List.append_assoc]
    exact .posted allowed posting ih

theorem Woven.weaken (woven : Woven kind events) (wide : ∀ {call : Call}, kind call = true → wider call = true) :
    Woven wider events := by
  induction woven with
  | nil => exact .nil
  | single allowed free woven ih => exact .single (wide allowed) free ih
  | played plays woven ih => exact .played plays ih
  | posted allowed posting woven ih => exact .posted (fun request => wide (allowed request)) posting ih

theorem woven_of_kind (all : AllOf kind events) (free : ∀ event ∈ events, event.call.isStoppable = false) :
    Woven kind events := by
  induction events with
  | nil => exact .nil
  | cons event rest ih =>
    obtain ⟨here, later⟩ := List.forall_mem_cons.1 free
    obtain ⟨allowed, others⟩ := List.forall_mem_cons.1 all
    exact .single allowed here (ih others later)

theorem woven_of_play {α : Type} {relay : Relay α} {target : Option Handle} {counters after : Counters}
    {outcome : Except Error α} (plays : (relay.play target).Runs counters events outcome after) :
    Woven kind events := by
  rw [← List.append_nil events]
  exact .played plays .nil

theorem woven_of_posting {exchange : Exchange} {offer : Bytes} {target : Url} {outcome : Except Error HttpResponse}
    (allowed : ∀ request, kind (.http request) = true) (posting : exchange.Posting offer target events outcome) :
    Woven kind events := by
  rw [← List.append_nil events]
  exact .posted allowed posting .nil

section Weaves

variable {σ τ α β : Type} {state : σ}

theorem composes_weaves : @Act.Composes σ (Weaves kind) where
  refl _ := .nil
  trans := .append

theorem weaves_ask {request : Call} (allowed : kind request = true) (free : request.isStoppable = false) :
    (Act.ask request : Act σ request.Answer).Keeps (Weaves kind) state :=
  Act.keeps_ask fun _ => .single allowed free .nil

theorem weaves_within {part : σ → τ} {put : τ → σ → σ} {act : Act τ α}
    (woven : act.Keeps (Weaves kind) (part state)) : (act.within part put).Keeps (Weaves kind) state := by
  intro events outcome after run
  obtain ⟨_, -, inside⟩ := Act.runs_within.1 run
  exact woven _ _ _ inside

theorem weaves_modify {change : σ → σ} : (Act.modify change).Keeps (Weaves kind) state := Act.keeps_modify .nil

end Weaves

namespace Track

variable {α : Type} {track : Track}

/-- What asks for nothing is woven of nothing. -/
theorem weaves_of_idle {act : Act Track α} (idle : act.Keeps (Idle fun _ => false) track) :
    act.Keeps (Weaves kind) track := by
  intro events outcome after run
  rw [(idle _ _ _ run).ofKind.eq_nil]
  exact .nil

theorem weaves_relay {relay : Relay α} :
    (Track.relay fun target => relay.play target).Keeps (Weaves kind) track := by
  intro events outcome after run
  obtain ⟨_, -, plays⟩ := runs_relay.1 run
  exact woven_of_play plays

theorem weaves_add {init : TrackInit} (allowed : kind (.engine (.addTrack init)) = true) :
    (add init).Keeps (Weaves kind) track := by
  intro events outcome after run
  unfold add at run
  rw [Act.runs_get_bind] at run
  split at run
  · exact Act.keeps_fail composes_weaves _ _ _ run
  · refine Act.keeps_bind composes_weaves (weaves_ask allowed rfl) (fun _ => ?_) _ _ _ run
    refine Act.keeps_bind composes_weaves (Act.keeps_granted composes_weaves) fun _ => ?_
    refine Act.keeps_bind composes_weaves weaves_modify fun _ => ?_
    refine Act.keeps_bind composes_weaves (weaves_of_idle keeps_attach) fun _ => ?_
    exact Act.keeps_pure composes_weaves

theorem weaves_close {codec : CodecSession} {target : Option Handle} {counters : Counters}
    (allowed : kind codec.closing = true) : (codec.close target).Keeps (Weaves kind) counters := by
  intro events outcome after run
  obtain ⟨answer, played, relay, rfl, plays⟩ := close_plays run
  exact .single allowed (by cases codec <;> rfl) (woven_of_play plays)

theorem weaves_setCodec {codec : CodecSession} (allowed : kind codec.closing = true) :
    (setCodec codec).Keeps (Weaves kind) track := by
  intro events outcome after run
  unfold setCodec at run
  rw [Act.runs_get_bind] at run
  split at run
  · refine Act.keeps_bind composes_weaves (weaves_within (weaves_close allowed)) (fun _ => ?_) _ _ _ run
    exact Act.keeps_fail composes_weaves
  · exact weaves_modify _ _ _ run

/-- What the layer opens is handed to the track, or closed again. -/
theorem weaves_opening {request : Call} {relay : request.Answer → Relay (Except Error α)}
    (session : α → CodecSession) (allowed : kind request = true) (free : request.isStoppable = false)
    (closing : ∀ opened, kind (session opened).closing = true) :
    (do
      let opened ← Track.relay fun target => do
        let answer ← Act.ask request
        Act.settle (← (relay answer).play target)
      setCodec (session opened)
      return opened : Act Track α).Keeps (Weaves kind) track := by
  refine Act.keeps_bind composes_weaves ?_ fun {_ opened _} _ => ?_
  · intro events outcome after run
    obtain ⟨_, -, called⟩ := runs_relay.1 run
    obtain ⟨answer, played, rfl, plays⟩ := Relay.runs_called called
    exact .single allowed free (woven_of_play plays)
  · refine Act.keeps_bind composes_weaves (weaves_setCodec (closing opened)) fun _ => ?_
    exact Act.keeps_pure composes_weaves

theorem weaves_called {request : Call} {relay : request.Answer → Relay (Except Error α)} {β : Type}
    {next : α → Act Track β} (allowed : kind request = true) (free : request.isStoppable = false)
    (onward : ∀ result track, (next result).Keeps (Weaves kind) track) :
    (do
      let answer ← Act.ask request
      let result ← Act.settle (← Track.relay fun target => (relay answer).play target)
      next result : Act Track β).Keeps (Weaves kind) track := by
  refine Act.keeps_bind composes_weaves (weaves_ask allowed free) fun _ => ?_
  refine Act.keeps_bind composes_weaves weaves_relay fun _ => ?_
  exact Act.keeps_bind composes_weaves (Act.keeps_settle composes_weaves) fun _ => onward _ _

theorem weaves_write {framed : Except Error Packet}
    (allowed : ∀ writer packet, kind (.layer (.write writer packet)) = true) :
    (write framed).Keeps (Weaves kind) track := by
  intro events outcome after run
  unfold write at run
  rw [Act.runs_get_bind] at run
  split at run
  · exact Act.keeps_fail composes_weaves _ _ _ run
  · refine Act.keeps_bind composes_weaves (Act.keeps_settle composes_weaves) (fun _ => ?_) _ _ _ run
    exact weaves_called (allowed _ _) rfl fun _ _ => weaves_of_idle keeps_frame

theorem weaves_read (allowed : ∀ reader, kind (.layer (.read reader)) = true) :
    Track.read.Keeps (Weaves kind) track := by
  intro events outcome after run
  unfold Track.read at run
  rw [Act.runs_get_bind] at run
  split at run
  · exact Act.keeps_fail composes_weaves _ _ _ run
  · refine weaves_called (allowed _) rfl (fun _ _ => ?_) _ _ _ run
    exact Act.keeps_bind composes_weaves (weaves_of_idle keeps_frame) fun _ => Act.keeps_pure composes_weaves

theorem inUse_closing {codec : CodecSession} : codec.closing.isInUse = true := by
  cases codec <;> rfl

theorem weaves_closeCodec : closeCodec.Keeps (Weaves Call.isInUse) track := by
  intro events outcome after run
  unfold closeCodec at run
  rw [Act.runs_get_bind] at run
  split at run
  · exact Act.keeps_pure composes_weaves _ _ _ run
  · refine Act.keeps_bind composes_weaves ?_ (fun _ => weaves_modify) _ _ _ run
    intro events outcome after closing
    obtain ⟨_, -, inside⟩ := runs_relay.1 closing
    exact weaves_close inUse_closing _ _ _ inside

theorem weaves_releaseBinding : releaseBinding.Keeps (Weaves Call.isInUse) track := by
  intro events outcome after run
  unfold releaseBinding at run
  rw [Act.runs_get_bind] at run
  split at run
  · exact Act.keeps_pure composes_weaves _ _ _ run
  · exact Act.keeps_bind composes_weaves (weaves_ask rfl rfl) (fun _ => weaves_modify) _ _ _ run

theorem weaves_releaseHandle {hasPeer : Bool} : (releaseHandle hasPeer).Keeps (Weaves Call.isInUse) track := by
  intro events outcome after run
  unfold releaseHandle at run
  rw [Act.runs_get_bind] at run
  split at run
  · exact Act.keeps_pure composes_weaves _ _ _ run
  · dsimp only at run
    split at run
    · exact Act.keeps_bind composes_weaves (weaves_ask rfl rfl) (fun _ => weaves_modify) _ _ _ run
    · exact weaves_modify _ _ _ run

theorem weaves_release {hasPeer : Bool} : (release hasPeer).Keeps (Weaves Call.isInUse) track :=
  Act.keeps_bind composes_weaves weaves_closeCodec fun _ =>
    Act.keeps_bind composes_weaves weaves_releaseBinding fun _ => weaves_releaseHandle

end Track

namespace Context

variable {α : Type} {context : Context} {index : Nat}

theorem weaves_onTrack {act : Act Track α} (woven : ∀ track, act.Keeps (Weaves kind) track) :
    (Context.onTrack index act).Keeps (Weaves kind) context := by
  intro events outcome after run
  rcases onTrack_runs_iff.1 run with ⟨-, rfl, -, -⟩ | ⟨track, inner, -, -, inside⟩
  · exact .nil
  · exact woven track _ _ _ inside

theorem weaves_requirePeer : requirePeer.Keeps (Weaves kind) context := by
  intro events outcome after run
  obtain ⟨rfl, -, -⟩ := requirePeer_up run
  exact .nil

theorem weaves_ensureConnected : ensureConnected.Keeps (Weaves Call.isInUse) context := by
  refine Act.keeps_bind composes_weaves weaves_requirePeer fun _ => ?_
  refine Act.keeps_bind composes_weaves (weaves_ask rfl rfl) fun {_ reported _} _ => ?_
  cases reported with
  | connected => exact Act.keeps_pure composes_weaves
  | _ => exact Act.keeps_fail composes_weaves

theorem weaves_bindTrack : (bindTrack index).Keeps (Weaves kind) context := by
  refine Act.keeps_bind composes_weaves weaves_requirePeer fun _ => ?_
  refine Act.keeps_bind composes_weaves (Act.keeps_get composes_weaves) fun _ => ?_
  exact weaves_onTrack fun _ => Track.weaves_of_idle Track.keeps_setBinding

theorem weaves_release : Context.release.Keeps (Weaves Call.isInUse) context := by
  intro events outcome after run
  unfold Context.release at run
  rw [Act.runs_get_bind] at run
  split at run
  · refine Act.keeps_bind composes_weaves (weaves_within ?_) (fun _ => ?_) _ _ _ run
    · refine Act.keeps_bind composes_weaves (Act.keeps_get composes_weaves) fun _ => ?_
      refine Act.keeps_forM composes_weaves fun index _ registry events outcome after releases => ?_
      rcases Registry.runs_onTrack.1 releases with ⟨-, rfl, -⟩ | ⟨track, inner, -, -, inside⟩
      · exact .nil
      · exact Track.weaves_release _ _ _ inside
    · exact Act.keeps_bind composes_weaves (weaves_ask rfl rfl) fun _ => weaves_modify
  · exact Act.keeps_pure composes_weaves _ _ _ run

theorem weaves_close : Context.close.Keeps (Weaves Call.isInUse) context := by
  refine Act.keeps_bind composes_weaves (Act.keeps_attempt (weaves_within ?_)) fun _ => weaves_release
  intro events outcome after run
  cases (Exchange.deletes_of_runs run).1 with
  | absent vacant => exact .nil
  | unsendable stored unfit => exact .nil
  | sent stored fit progress =>
    obtain ⟨method, -⟩ := Exchange.of_request fit
    exact .single (by simp [Call.isInUse, method]) (by simp [Call.isStoppable, method]) .nil

theorem weaves_state : Context.state.Keeps (Weaves Call.isInUse) context := weaves_ask rfl rfl

theorem weaves_stats : Context.stats.Keeps (Weaves Call.isInUse) context := by
  refine Act.keeps_bind composes_weaves (Act.keeps_get composes_weaves) fun _ => ?_
  exact Act.keeps_bind composes_weaves (weaves_ask rfl rfl) fun _ => Act.keeps_pure composes_weaves

end Context

namespace Publisher

variable {α : Type} {publisher : Publisher}

theorem weaves_onContext {act : Act Context α} (woven : ∀ context, act.Keeps (Weaves kind) context) :
    (Publisher.onContext act).Keeps (Weaves kind) publisher :=
  weaves_within (woven _)

theorem weaves_writePacket {packet : Packet} : (writePacket packet).Keeps (Weaves Call.isInUse) publisher := by
  refine Act.keeps_bind composes_weaves (weaves_onContext fun _ => Context.weaves_ensureConnected) fun _ => ?_
  refine Act.keeps_bind composes_weaves (Act.keeps_get composes_weaves) fun _ => ?_
  refine Act.keeps_bind composes_weaves (Act.keeps_settle composes_weaves) fun _ => ?_
  exact weaves_onContext fun _ => Context.weaves_onTrack fun _ => Track.weaves_write fun _ _ => rfl

end Publisher

namespace Player

variable {α : Type} {player : Player}

theorem weaves_onContext {act : Act Context α} (woven : ∀ context, act.Keeps (Weaves kind) context) :
    (Player.onContext act).Keeps (Weaves kind) player :=
  weaves_within (woven _)

theorem reading_weaves : Reading (Weaves Call.isInUse) where
  composes := composes_weaves
  stream := by
    intro index player
    refine Act.keeps_bind composes_weaves (weaves_onContext fun _ => Context.weaves_ensureConnected) fun _ => ?_
    exact weaves_onContext fun _ => Context.weaves_onTrack fun _ => Track.weaves_read fun _ => rfl
  waits := by
    intro request _ waiting answer
    refine .single ?_ ?_ .nil
    · unfold Call.isWaiting at waiting
      split at waiting <;> first | rfl | cases waiting
    · unfold Call.isWaiting at waiting
      split at waiting <;> first | rfl | cases waiting
  begins := .nil

end Player

namespace Client

variable {α : Type} {client after : Client}

theorem weaves_asPublisher {cause : Error} {act : Act Publisher α}
    (woven : ∀ publisher, act.Keeps (Weaves kind) publisher) :
    (asPublisher cause act).Keeps (Weaves kind) client := by
  intro events outcome after run
  rcases runs_asPublisher run with ⟨rfl, -⟩ | ⟨publisher, _, -, -, inside⟩
  · exact .nil
  · exact woven publisher _ _ _ inside

theorem weaves_asPlayer {cause : Error} {act : Act Player α} (woven : ∀ player, act.Keeps (Weaves kind) player) :
    (asPlayer cause act).Keeps (Weaves kind) client := by
  intro events outcome after run
  rcases runs_asPlayer run with ⟨rfl, -⟩ | ⟨player, _, -, -, inside⟩
  · exact .nil
  · exact woven player _ _ _ inside

/-- Whatever is done with an open session is woven of what an open session asks for. -/
theorem Operation.weaves {operation : Operation} {outcome : Except Error (Option Packet)}
    (run : operation.moves.Runs client events outcome after) : Woven Call.isInUse events := by
  cases operation with
  | write packet =>
    obtain ⟨_, -, inside⟩ := runs_told run
    exact weaves_asPublisher (fun _ => Publisher.weaves_writePacket) _ _ _ inside
  | tryReadStream index =>
    obtain ⟨_, -, inside⟩ := runs_told run
    exact weaves_asPlayer (fun _ => Player.reading_weaves.stream) _ _ _ inside
  | tryRead =>
    obtain ⟨_, -, inside⟩ := runs_told run
    exact weaves_asPlayer (fun _ => Player.reading_weaves.tryRead) _ _ _ inside
  | read =>
    obtain ⟨_, -, inside⟩ := runs_told run
    exact weaves_asPlayer (fun _ => Player.reading_weaves.read) _ _ _ inside
  | state =>
    obtain ⟨_, -, inside⟩ := runs_told run
    exact weaves_within Context.weaves_state _ _ _ inside
  | stats =>
    obtain ⟨_, -, inside⟩ := runs_told run
    exact weaves_within Context.weaves_stats _ _ _ inside
  | close =>
    obtain ⟨_, -, inside⟩ := runs_told run
    exact weaves_within Context.weaves_close _ _ _ inside

end Client

/-! The opening of a session, which looks at the state of the connection only while it waits for it. -/

def Call.isAny : Call → Bool := fun _ => true

theorem allOf_any : AllOf Call.isAny events := fun _ _ => rfl

def Call.isUnpolled : Call → Bool
  | .host .connectionState => false
  | _ => true

theorem Woven.any (woven : Woven kind events) : Woven Call.isAny events := woven.weaken fun _ => rfl

theorem weaves_any {σ α : Type} {act : Act σ α} {state : σ} (woven : act.Keeps (Weaves kind) state) :
    act.Keeps (Weaves Call.isAny) state :=
  fun _ _ _ run => (woven _ _ _ run).any

namespace Exchange

variable {exchange after : Exchange}

theorem Posts.woven {join : Joining} {offer : Bytes} {remaining : Nat} {target : Url}
    {outcome : Except Error (Url × HttpResponse)} (posts : Posts join exchange offer remaining target events outcome) :
    Woven Call.isUnpolled events := by
  have one : ∀ {target events} {outcome : Except Error HttpResponse},
      Posting exchange offer target events outcome → Woven Call.isUnpolled events := woven_of_posting fun _ => rfl
  induction posts with
  | failed posted => exact one posted
  | answered posted final => exact one posted
  | endless posted redirect => exact one posted
  | lost posted redirect astray => exact one posted
  | followed posted redirect found rest ih => exact (one posted).append ih

theorem woven_offering {offer : String} : Woven Call.isUnpolled (offering offer) :=
  .single rfl rfl (.single rfl rfl .nil)

theorem Creates.woven {join : Joining} {outcome : Except Error Unit}
    (creates : Creates join exchange events outcome after) : Woven Call.isUnpolled events := by
  cases creates with
  | occupied stored => exact .nil
  | unoffered vacant => exact .single rfl rfl .nil
  | untold vacant => exact .single rfl rfl (.single rfl rfl .nil)
  | oversized vacant large => exact woven_offering
  | unposted vacant small posts => exact woven_offering.append posts.woven
  | posted vacant small posts settles =>
    refine (woven_offering.append posts.woven).append ?_
    cases settles with
    | rejected refused => exact .nil
    | unlocated created astray => exact .nil
    | unusable created located unfit => exact .nil
    | applied created located fit result => exact .single rfl rfl .nil

end Exchange

namespace Context

variable {context : Context} {index : Nat}

theorem weaves_addTrack {init : TrackInit} : (addTrack index init).Keeps (Weaves Call.isUnpolled) context :=
  Act.keeps_bind composes_weaves weaves_requirePeer fun _ => weaves_onTrack fun _ => Track.weaves_add rfl

theorem weaves_trackDescription : (trackDescription index).Keeps (Weaves Call.isUnpolled) context := by
  refine Act.keeps_bind composes_weaves (Act.keeps_get composes_weaves) fun _ => ?_
  refine Act.keeps_bind composes_weaves (Act.keeps_settle composes_weaves) fun {_ track _} _ => ?_
  cases track.handle with
  | none => exact Act.keeps_fail composes_weaves
  | some handle =>
    refine Act.keeps_bind composes_weaves weaves_requirePeer fun _ => ?_
    refine Act.keeps_bind composes_weaves (weaves_ask rfl rfl) fun _ => ?_
    exact Act.keeps_granted composes_weaves

theorem weaves_createResource : createResource.Keeps (Weaves Call.isUnpolled) context := by
  refine Act.keeps_bind composes_weaves weaves_requirePeer fun _ => weaves_within ?_
  exact fun _ _ _ run => (Exchange.creates_of_runs run).woven

theorem free_of_waiting {call : Call} (waiting : call.isWaiting = true) : call.isStoppable = false := by
  unfold Call.isWaiting at waiting
  split at waiting <;> first | rfl | cases waiting

theorem weaves_waitConnected : waitConnected.Keeps (Weaves Call.isAny) context := by
  intro events outcome after run
  have waiting := (waitConnected_waits run).1.ofKind
  exact woven_of_kind allOf_any fun event member => free_of_waiting (waiting event member)

theorem weaves_init {config : ClientConfig} {count : Nat} : (init config count).Keeps (Weaves Call.isUnpolled) () := by
  refine Act.keeps_bind composes_weaves (Act.keeps_settle composes_weaves) fun _ => ?_
  refine Act.keeps_bind composes_weaves (weaves_ask rfl rfl) fun _ => ?_
  refine Act.keeps_bind composes_weaves (weaves_ask rfl rfl) fun _ => ?_
  refine Act.keeps_bind composes_weaves (Act.keeps_granted composes_weaves) fun _ => ?_
  refine Act.keeps_bind composes_weaves (weaves_ask rfl rfl) fun {_ watched _} _ => ?_
  cases watched with
  | error cause =>
    refine Act.keeps_bind composes_weaves (weaves_ask rfl rfl) fun _ => ?_
    exact Act.keeps_fail composes_weaves
  | ok _ =>
    refine Act.keeps_bind composes_weaves (weaves_ask rfl rfl) fun _ => ?_
    refine Act.keeps_bind composes_weaves (weaves_ask rfl rfl) fun _ => ?_
    exact Act.keeps_pure composes_weaves

end Context

namespace Publisher

variable {publisher : Publisher}

theorem weaves_addStream {params : StreamParams} {index : Nat} :
    (addStream params index).Keeps (Weaves Call.isUnpolled) publisher := by
  refine Act.keeps_bind composes_weaves weaves_modify fun _ => ?_
  refine Act.keeps_bind composes_weaves (weaves_onContext fun _ => Context.weaves_bindTrack) fun _ => ?_
  refine Act.keeps_bind composes_weaves (weaves_onContext fun _ => Context.weaves_onTrack fun _ => ?_) fun _ => ?_
  · exact Track.weaves_opening CodecSession.writer rfl rfl fun _ => rfl
  refine Act.keeps_bind composes_weaves (Act.keeps_settle composes_weaves) fun _ => ?_
  refine Act.keeps_bind composes_weaves (Act.keeps_settle composes_weaves) fun _ => ?_
  refine Act.keeps_bind composes_weaves weaves_modify fun _ => ?_
  refine Act.keeps_bind composes_weaves (Act.keeps_settle composes_weaves) fun _ => ?_
  refine Act.keeps_bind composes_weaves (Act.keeps_get composes_weaves) fun _ => ?_
  refine Act.keeps_bind composes_weaves (weaves_onContext fun _ => Context.weaves_addTrack) fun _ => ?_
  exact weaves_onContext fun _ => Context.weaves_onTrack fun _ => weaves_modify

theorem weaves_setup : Publisher.setup.Keeps (Weaves Call.isAny) publisher := by
  refine Act.keeps_bind composes_weaves (Act.keeps_get composes_weaves) fun _ => ?_
  refine Act.keeps_bind composes_weaves (Act.keeps_forM composes_weaves fun _ _ _ => weaves_any weaves_addStream)
    fun _ => ?_
  refine Act.keeps_bind composes_weaves (weaves_any (weaves_onContext fun _ => Context.weaves_createResource))
    fun _ => ?_
  exact weaves_onContext fun _ => Context.weaves_waitConnected

end Publisher

namespace Player

variable {player : Player}

theorem weaves_offerTrack {track : OfferedTrack} {index : Nat} :
    (offerTrack track index).Keeps (Weaves Call.isUnpolled) player := by
  refine Act.keeps_bind composes_weaves (weaves_ask rfl rfl) fun _ => ?_
  refine Act.keeps_bind composes_weaves (Act.keeps_get composes_weaves) fun _ => ?_
  refine Act.keeps_bind composes_weaves (weaves_onContext fun _ => Context.weaves_addTrack) fun _ => ?_
  exact Act.keeps_pure composes_weaves

theorem weaves_openReader {index : Nat} : (openReader index).Keeps (Weaves Call.isUnpolled) player := by
  refine Act.keeps_bind composes_weaves (weaves_onContext fun _ => Context.weaves_trackDescription) fun _ => ?_
  refine Act.keeps_bind composes_weaves (Act.keeps_settle composes_weaves) fun _ => ?_
  refine Act.keeps_bind composes_weaves (Act.keeps_settle composes_weaves) fun _ => ?_
  refine Act.keeps_bind composes_weaves (weaves_onContext fun _ => Context.weaves_bindTrack) fun _ => ?_
  refine Act.keeps_bind composes_weaves (weaves_onContext fun _ => Context.weaves_onTrack fun _ => ?_) fun _ => ?_
  · exact Track.weaves_opening CodecSession.reader rfl rfl fun _ => rfl
  refine Act.keeps_bind composes_weaves ?_ fun _ => weaves_modify
  exact weaves_onContext fun _ => Context.weaves_onTrack fun _ => weaves_modify

theorem weaves_setup : Player.setup.Keeps (Weaves Call.isAny) player := by
  refine Act.keeps_bind composes_weaves (Act.keeps_forM composes_weaves fun _ _ _ => weaves_any weaves_offerTrack)
    fun _ => ?_
  refine Act.keeps_bind composes_weaves (weaves_any (weaves_onContext fun _ => Context.weaves_createResource))
    fun _ => ?_
  refine Act.keeps_bind composes_weaves (weaves_onContext fun _ => Context.weaves_waitConnected) fun _ => ?_
  exact Act.keeps_forM composes_weaves fun _ _ _ => weaves_any weaves_openReader

end Player

/-- A session that is made by an act of its own is woven if that act is, and so is one that is closed again. -/
theorem woven_of_guarded {τ : Type} {setup close : Act τ Unit} {start : τ} {outcome : Except Error τ}
    (sets : setup.Keeps (Weaves Call.isAny) start)
    (closes : ∀ half, close.Keeps (Weaves Call.isAny) half) (guarded : Act.Guarded setup close start events outcome) :
    Woven Call.isAny events := by
  cases guarded with
  | made setting => exact sets _ _ _ setting
  | dropped setting closing => exact (sets _ _ _ setting).append (closes _ _ _ _ closing)

namespace Client

variable {role : Role} {config : ClientConfig}

theorem weaves_openSession : (openSession role config).Keeps (Weaves Call.isAny) () := by
  cases role with
  | ingest streams =>
    refine Act.keeps_bind composes_weaves ?_ fun _ => Act.keeps_pure composes_weaves
    refine Act.keeps_bind composes_weaves (Act.keeps_settle composes_weaves) fun _ => ?_
    refine Act.keeps_bind composes_weaves (weaves_any Context.weaves_init) fun _ => ?_
    intro events outcome after run
    exact woven_of_guarded Publisher.weaves_setup
      (fun _ => weaves_any (Publisher.weaves_onContext fun _ => Context.weaves_close))
      (Act.guarded_of_runs (fun _ => rfl) (fun _ _ => rfl) run)
  | egress =>
    refine Act.keeps_bind composes_weaves ?_ fun _ => Act.keeps_pure composes_weaves
    refine Act.keeps_bind composes_weaves (weaves_any Context.weaves_init) fun _ => ?_
    intro events outcome after run
    exact woven_of_guarded Player.weaves_setup
      (fun _ => weaves_any (Player.weaves_onContext fun _ => Context.weaves_close))
      (Act.guarded_of_runs (fun _ => rfl) (fun _ _ => rfl) run)

end Client
end WhipWhep
