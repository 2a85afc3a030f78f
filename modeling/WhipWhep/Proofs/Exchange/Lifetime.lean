import WhipWhep.Proofs.Session.Order
import WhipWhep.Proofs.Steps

/-!
How long an exchange knows of a resource. It keeps a location from the response that named it, whatever
becomes of the answer, up to the next deletion, whatever comes of that. In between it makes no offer, and
a deletion can always be asked for, since the request that has led to the location carried the same token.
-/

namespace WhipWhep.Exchange

/-- The calls that can be made of an exchange. -/
inductive Operation where
  | create
  | delete
  deriving DecidableEq

def Operation.act : Operation → Act Exchange Unit
  | create => Exchange.create
  | delete => Exchange.delete

/-- A call, with what it asked for and was answered, and how it came out. -/
structure Called where
  operation : Operation
  events : List Event
  outcome : Except Error Unit

/-- The calls that were made of one exchange, in their order, and what has become of it. -/
inductive History (endpoint : Url) (token : Option String) : List Called → Exchange → Prop where
  | start : History endpoint token [] (.start endpoint token)
  | call {calls : List Called} {exchange after : Exchange} {operation : Operation} {events : List Event}
      {outcome : Except Error Unit} (history : History endpoint token calls exchange)
      (run : operation.act.Runs exchange events outcome after) :
      History endpoint token (calls ++ [⟨operation, events, outcome⟩]) after

variable {exchange after : Exchange} {events : List Event} {outcome : Except Error Unit}
  {location : Url} {calls : List Called}

/-- A creation has received a response that names a resource, and nothing was deleted since. -/
def Captured (calls : List Called) (location : Url) : Prop :=
  ∃ earlier called later, calls = earlier ++ called :: later ∧ called.operation = .create ∧
    location ∈ resources called.events ∧ ∀ other ∈ later, other.operation ≠ .delete

/-- A further call captures a resource itself, or lets the one that was captured be. -/
theorem captured_concat {called : Called} : Captured (calls ++ [called]) location ↔
    called.operation = .create ∧ location ∈ resources called.events ∨
      called.operation ≠ .delete ∧ Captured calls location := by
  constructor
  · rintro ⟨earlier, capturing, later, split, creates, named, undeleted⟩
    rcases List.eq_nil_or_concat later with rfl | ⟨later, last, rfl⟩
    · obtain ⟨-, same⟩ := List.append_inj' split rfl
      cases same
      exact .inl ⟨creates, named⟩
    · rw [List.concat_eq_append, ← List.cons_append, ← List.append_assoc] at split
      rw [List.concat_eq_append] at undeleted
      obtain ⟨rfl, same⟩ := List.append_inj' split rfl
      cases same
      exact .inr ⟨undeleted _ (by simp), earlier, capturing, later, rfl, creates, named,
        fun other member => undeleted other (List.mem_append_left _ member)⟩
  · rintro (⟨creates, named⟩ | ⟨stays, earlier, capturing, later, rfl, creates, named, undeleted⟩)
    · exact ⟨calls, called, [], rfl, creates, named, by simp⟩
    · refine ⟨earlier, capturing, later ++ [called], by simp, creates, named, fun other member => ?_⟩
      rcases List.mem_append.1 member with before | last
      · exact undeleted other before
      · rwa [List.mem_singleton.1 last]

/-! What one call comes to. -/

/-- What is made of the answer in the body of a response. -/
inductive Judged (body : Bytes) : List Event → Except Error Unit → Prop where
  | oversized (large : Sdp.maxSize < body.length) :
      Judged body [] (.error (.signaling (.descriptionTooLarge Sdp.maxSize)))
  | empty (nothing : body = []) : Judged body [] (.error (.signaling .emptyAnswer))
  | garbled (small : body.length ≤ Sdp.maxSize) (something : body ≠ [])
      (illegible : Text.ofUtf8? body = none) : Judged body [] (.error (.signaling .invalidEncoding))
  | told {answer : String} (small : body.length ≤ Sdp.maxSize) (something : body ≠ [])
      (legible : Text.ofUtf8? body = some answer) (result : Except EngineError Unit) :
      Judged body [⟨.engine (.setRemote .answer answer), result⟩] (result.mapError Error.engine)

/-- A creation captures no resource, and there is none, or it captures one, and there it is whatever is
made of the answer. -/
inductive Captures : List Event → Except Error Unit → Exchange → Prop where
  | lost {events : List Event} {outcome : Except Error Unit} {after : Exchange}
      (nothing : resources events = []) (vacant : after.location = none) : Captures events outcome after
  | kept {early late : List Event} {response : HttpResponse} {location : Url} {outcome : Except Error Unit}
      {after : Exchange} (named : resources early = [location]) (received : EndsIn early response)
      (stored : after.location = some location) (judged : Judged response.body late outcome) :
      Captures (early ++ late) outcome after

/-- An answer is looked at for its size first, and then for its text. -/
theorem answerOf_eq (body : Bytes) : answerOf body =
    if Sdp.maxSize < body.length then .error (.descriptionTooLarge Sdp.maxSize)
    else if body = [] then .error .emptyAnswer
    else demand .invalidEncoding (Text.ofUtf8? body) := by
  unfold answerOf Sdp.checkSize
  split
  · rfl
  · cases body <;> rfl

theorem Judged.of_unfit {body : Bytes} {cause : SignalingError} (unfit : answerOf body = .error cause) :
    Judged body [] (.error (.signaling cause)) := by
  rw [answerOf_eq] at unfit
  split at unfit
  · next large =>
    cases unfit
    exact .oversized large
  next fits =>
  split at unfit
  · next nothing =>
    cases unfit
    exact .empty nothing
  next something =>
  cases decoded : Text.ofUtf8? body with
  | none =>
    rw [decoded] at unfit
    cases unfit
    exact .garbled (Nat.not_lt.1 fits) something decoded
  | some answer =>
    rw [decoded] at unfit
    cases unfit

theorem Judged.of_fit {body : Bytes} {answer : String} (fit : answerOf body = .ok answer)
    (result : Except EngineError Unit) :
    Judged body [⟨.engine (.setRemote .answer answer), result⟩] (result.mapError Error.engine) := by
  rw [answerOf_eq] at fit
  split at fit
  · cases fit
  next fits =>
  split at fit
  · cases fit
  next something =>
  exact .told (Nat.not_lt.1 fits) something (demand_eq_ok_iff.1 fit) result

/-- Once a response has named a resource its answer decides. -/
theorem Settles.judged {target : Url} {response : HttpResponse} (named : resourceOf target response = some location)
    (settles : Settles Url.join exchange target response events outcome after) :
    Judged response.body events outcome := by
  cases settles with
  | rejected refused =>
    rw [resourceOf, refused] at named
    cases named
  | unlocated created astray =>
    rw [locationOf_error astray] at named
    cases named
  | unusable created located unfit => exact .of_unfit unfit
  | applied created located fit result => exact .of_fit fit result

theorem Creates.captures (vacant : exchange.location = none)
    (creates : Creates Url.join exchange events outcome after) : Captures events outcome after := by
  obtain ⟨-, created, -⟩ := creates.keeps vacant
  have lost : after.location = none → Captures events outcome after := fun none =>
    .lost (by rw [created, none]; rfl) none
  cases creates with
  | occupied stored => exact lost vacant
  | unoffered _ => exact lost vacant
  | untold _ => exact lost vacant
  | oversized _ large => exact lost vacant
  | unposted _ small posts => exact lost vacant
  | @posted offer early later target response _ _ _ small posts settles =>
    obtain ⟨-, -, kept⟩ := settles.keeps vacant
    have stored : after.location = resourceOf target response := by rw [kept]
    cases named : resourceOf target response with
    | none => exact lost (stored.trans named)
    | some location =>
      obtain ⟨-, -, creates⟩ := posts.creates
      obtain ⟨request, progress, last, received⟩ := posts.endsIn _ _ rfl
      refine .kept ?_ ⟨request, progress, ?_, received⟩ (stored.trans named)
        (settles.judged named)
      · rw [resources_append, (creates _ _ rfl).1, named]
        rfl
      · rw [requested_append, List.getLast?_append, last]
        rfl

theorem runs_create_occupied (stored : exchange.location.isSome = true) :
    create.Runs exchange events outcome after ↔
      events = [] ∧ outcome = .error (.defect .resourceAlreadyCreated) ∧ after = exchange := by
  unfold create createWith
  rw [Act.runs_get_bind, if_pos stored]
  exact Act.runs_fail

theorem runs_delete_absent (vacant : exchange.location = none) :
    delete.Runs exchange events outcome after ↔ events = [] ∧ outcome = .ok () ∧ after = exchange := by
  unfold delete
  rw [Act.runs_get_bind, vacant]
  exact Act.runs_pure

/-- A request that deletes what is at a location, and sends nothing along. -/
structure Deletion (location : Url) (request : HttpRequest) : Prop where
  method : request.method = .delete
  url : request.url = location
  untyped : ∀ header ∈ request.headers, header.1 ≠ "content-type"
  bare : request.body = []

theorem deletion_of_request {request : HttpRequest} (fit : exchange.request .delete location [] = .ok request) :
    Deletion location request := by
  obtain ⟨method, url, bare, -⟩ := of_request fit
  refine ⟨method, url, ?_, bare⟩
  unfold Exchange.request at fit
  cases held : exchange.token with
  | none =>
    rw [held] at fit
    cases fit
    simp
  | some token =>
    simp only [held] at fit
    split at fit
    · cases fit
      simp
    · cases fit

/-- What is stored is deleted by one request, and forgotten whatever that is answered. -/
theorem runs_delete_stored {request : HttpRequest} (stored : exchange.location = some location)
    (fit : exchange.request .delete location [] = .ok request) :
    (∃ outcome, delete.Runs exchange events outcome after) ↔
      ∃ progress, events = [⟨.http request, progress⟩] ∧ after = { exchange with location := none } := by
  constructor
  · rintro ⟨outcome, run⟩
    obtain ⟨deletes, rfl⟩ := deletes_of_runs run
    cases deletes with
    | absent vacant => cases vacant.symm.trans stored
    | unsendable other unfit =>
      cases other.symm.trans stored
      cases unfit.symm.trans fit
    | sent other same progress =>
      cases other.symm.trans stored
      cases same.symm.trans fit
      exact ⟨progress, rfl, rfl⟩
  · rintro ⟨progress, rfl, rfl⟩
    obtain ⟨outcome, answered⟩ : ∃ outcome, (do
        let response ← signaling progress.result
        if response.isSuccess then pure ()
        else Act.fail (.signaling (.status response.status)) : Act Exchange Unit).Runs
          { exchange with location := none } [] outcome { exchange with location := none } := by
      cases progress.result with
      | error cause => exact ⟨_, .done _⟩
      | ok response =>
        cases success : response.isSuccess with
        | true => exact ⟨.ok (), runs_signaling_bind.2 (by simp [success, Act.runs_pure])⟩
        | false =>
          exact ⟨.error (.signaling (.status response.status)),
            runs_signaling_bind.2 (by simp [success, Act.runs_fail])⟩
    refine ⟨outcome, ?_⟩
    unfold delete
    rw [Act.runs_get_bind, stored]
    refine Act.runs_modify_bind.2 (Act.runs_get_bind.2 (runs_signaling_bind.2 ?_))
    have same : Exchange.request { exchange with location := none } .delete location [] = .ok request := fit
    rw [same]
    exact Act.runs_ask_bind.2 ⟨progress, [], rfl, answered⟩

/-! What all calls so far come to. -/

/-- A location comes of a request that could be made, so that another one with the token can be made. -/
structure Standing (calls : List Called) (exchange : Exchange) : Prop where
  captured : ∀ location, exchange.location = some location ↔ Captured calls location
  sendable : exchange.location.isSome = true → exchange.Sendable

theorem Standing.create (standing : Standing calls exchange)
    (run : Exchange.create.Runs exchange events outcome after) :
    Standing (calls ++ [⟨.create, events, outcome⟩]) after := by
  cases stored : exchange.location with
  | some location =>
    obtain ⟨rfl, rfl, rfl⟩ := (runs_create_occupied (by rw [stored]; rfl)).1 run
    refine ⟨fun other => ?_, standing.sendable⟩
    rw [captured_concat, standing.captured]
    simp [resources]
  | none =>
    obtain ⟨-, created, sendable⟩ := (creates_of_runs run).keeps stored
    have none : ∀ location, ¬ Captured calls location := fun location captured => by
      have held := (standing.captured location).2 captured
      cases stored.symm.trans held
    refine ⟨fun location => ?_, sendable⟩
    rw [captured_concat, created]
    simp [none]

theorem standing_of_delete (run : Exchange.delete.Runs exchange events outcome after) :
    Standing (calls ++ [⟨.delete, events, outcome⟩]) after := by
  obtain ⟨-, rfl⟩ := deletes_of_runs run
  refine ⟨fun location => ?_, nofun⟩
  rw [captured_concat]
  simp

theorem standing_of_history {endpoint : Url} {token : Option String}
    (history : History endpoint token calls exchange) : Standing calls exchange := by
  induction history with
  | start => exact ⟨fun location => by simp [Captured, start], nofun⟩
  | @call _ _ _ operation _ _ _ run ih =>
    cases operation with
    | create => exact ih.create run
    | delete => exact standing_of_delete run

/-- What an exchange has stored, and what its next call comes to, by the calls so far. -/
structure Lifetime (calls : List Called) (exchange : Exchange) : Prop where
  stored : ∀ location, exchange.location = some location ↔ Captured calls location
  /-- Where something is stored, nothing is created. -/
  occupied : exchange.location.isSome = true → ∀ events outcome after,
    create.Runs exchange events outcome after ↔
      events = [] ∧ outcome = .error (.defect .resourceAlreadyCreated) ∧ after = exchange
  captures : exchange.location = none → ∀ events outcome after,
    create.Runs exchange events outcome after → Captures events outcome after
  /-- What is stored is deleted where it is, and is not stored any more. -/
  deleted : ∀ location, exchange.location = some location → ∃ request, Deletion location request ∧
    ∀ events after, (∃ outcome, delete.Runs exchange events outcome after) ↔
      ∃ progress, events = [⟨.http request, progress⟩] ∧ after = { exchange with location := none }
  /-- Where nothing is stored, nothing is deleted. -/
  absent : exchange.location = none → ∀ events outcome after,
    delete.Runs exchange events outcome after ↔ events = [] ∧ outcome = .ok () ∧ after = exchange

/-- Whatever calls were made of an exchange, it has stored the resource that was captured since the last
deletion, and its next call goes by that. -/
theorem history_keeps_location {endpoint : Url} {token : Option String}
    (history : History endpoint token calls exchange) : Lifetime calls exchange := by
  obtain ⟨captured, sendable⟩ := standing_of_history history
  refine ⟨captured, fun stored _ _ _ => runs_create_occupied stored, ?_, ?_,
    fun vacant _ _ _ => runs_delete_absent vacant⟩
  · intro vacant events outcome after run
    exact (creates_of_runs run).captures vacant
  · intro location stored
    obtain ⟨request, fit⟩ := request_delete (sendable (by rw [stored]; rfl)) location
    exact ⟨request, deletion_of_request fit, fun _ _ => runs_delete_stored stored fit⟩

/-! An empty answer: its resource is kept, another offer is refused, and a deletion fails. -/

def answeredEmpty : List Event :=
  offering "v=0" ++
    [⟨.host .isCancelled, false⟩,
      ⟨.http ((start atHome (some "secret")).offerTo (Text.utf8 "v=0") atHome), ⟨[], .ok ⟨201, some "/b", []⟩⟩⟩]

def deletedInVain : List Event :=
  [⟨.http ⟨.delete, nextDoor, [("authorization", "Bearer secret")], [], Sdp.maxSize⟩,
    ⟨[], .ok ⟨500, none, []⟩⟩⟩]

/-- The exchange while it keeps the resource. -/
def holding : Exchange := { start atHome (some "secret") with location := some nextDoor }

def held : List Called :=
  [⟨.create, answeredEmpty, .error (.signaling .emptyAnswer)⟩,
    ⟨.create, [], .error (.defect .resourceAlreadyCreated)⟩]

theorem history_keeps_location_refused :
    Lifetime held holding ∧
      Lifetime (held ++ [⟨.delete, deletedInVain, .error (.signaling (.status 500))⟩])
        (start atHome (some "secret")) := by
  have created : Operation.create.act.Runs (start atHome (some "secret")) answeredEmpty
      (.error (.signaling .emptyAnswer)) holding :=
    .call _ _ _ (.call _ _ _ (.call _ _ _ (.call _ _ _ (.done _))))
  have refused : Operation.create.act.Runs holding [] (.error (.defect .resourceAlreadyCreated)) holding :=
    (runs_create_occupied rfl).2 ⟨rfl, rfl, rfl⟩
  have deleted : Operation.delete.act.Runs holding deletedInVain (.error (.signaling (.status 500)))
      (start atHome (some "secret")) := .call _ _ _ (.done _)
  have history : History atHome (some "secret") held holding := (History.start.call created).call refused
  exact ⟨history_keeps_location history, history_keeps_location (history.call deleted)⟩

end WhipWhep.Exchange
