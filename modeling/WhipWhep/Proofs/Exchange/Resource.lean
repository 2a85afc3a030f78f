import WhipWhep.Proofs.Exchange.Redirects

/-!
The resources that an endpoint creates. A response of success to an offer names one by its location,
and from then on the exchange keeps it, whatever becomes of the answer that came with it.
-/

namespace WhipWhep

theorem HttpResponse.isRedirect_of_success {response : HttpResponse} (success : response.isSuccess = true) :
    response.isRedirect = false := by
  cases redirect : response.isRedirect with
  | false => rfl
  | true =>
    simp only [isSuccess, Bool.and_eq_true, decide_eq_true_eq] at success
    simp only [isRedirect, Bool.or_eq_true, beq_iff_eq] at redirect
    omega

/-- The resource that a response names if the offer was taken at a URL. -/
def resourceOf (target : Url) (response : HttpResponse) : Option Url :=
  if response.isSuccess then
    response.location.bind fun location => (Url.join target location).toOption
  else none

/-- The resource that comes of an event. A response to an offer which was abandoned is not received. -/
def Event.resource? : Event → Option Url
  | ⟨.http request, progress⟩ =>
    match request.method, progress.wakes.any id, progress.result with
    | .post, false, .ok response => resourceOf request.url response
    | _, _, _ => none
  | _ => none

/-- The URL at which an event asks for a deletion. -/
def Event.deletion? : Event → Option Url
  | ⟨.http request, _⟩ => if request.method = .delete then some request.url else none
  | _ => none

/-- The resources that were created, in their order. -/
def resources (events : List Event) : List Url := events.filterMap Event.resource?

/-- The URLs at which a deletion was asked for, in their order. -/
def deletions (events : List Event) : List Url := events.filterMap Event.deletion?

@[simp] theorem resources_append (first second : List Event) :
    resources (first ++ second) = resources first ++ resources second :=
  List.filterMap_append

@[simp] theorem deletions_append (first second : List Event) :
    deletions (first ++ second) = deletions first ++ deletions second :=
  List.filterMap_append

theorem resources_single (event : Event) : resources [event] = event.resource?.toList := by
  rw [resources, List.filterMap_cons]
  cases event.resource? <;> rfl

theorem Event.resource?_received {request : HttpRequest} {progress : Progress} {response : HttpResponse}
    (posted : request.method = .post) (steady : progress.wakes.any id = false)
    (received : progress.result = .ok response) :
    Event.resource? ⟨.http request, progress⟩ = resourceOf request.url response := by
  simp only [Event.resource?, posted, steady, received]

/-- The requests that do not go to an endpoint. -/
def Call.isLocal : Call → Bool
  | .http _ => false
  | _ => true

theorem resources_of_local {events : List Event} (stays : AllOf Call.isLocal events) :
    resources events = [] ∧ deletions events = [] := by
  constructor
  · rw [resources, List.filterMap_eq_nil_iff]
    intro event member
    have kind := stays event member
    obtain ⟨call | request | call | call, answer⟩ := event <;> first | rfl | cases kind
  · rw [deletions, List.filterMap_eq_nil_iff]
    intro event member
    have kind := stays event member
    obtain ⟨call | request | call | call, answer⟩ := event <;> first | rfl | cases kind

namespace Exchange

variable {exchange after : Exchange} {offer : Bytes} {target : Url} {events : List Event}

/-- A request is one that was asked for, and then every request with the token can be made. -/
theorem of_request {method : Method} {body : Bytes} {request : HttpRequest}
    (fit : exchange.request method target body = .ok request) :
    request.method = method ∧ request.url = target ∧ request.body = body ∧ exchange.Sendable := by
  unfold Exchange.request at fit
  cases held : exchange.token with
  | none =>
    simp only [held] at fit
    cases fit
    exact ⟨rfl, rfl, rfl, fun _ wrong => by rw [held] at wrong; cases wrong⟩
  | some token =>
    simp only [held] at fit
    by_cases text : isHeaderText token.toList = true
    · rw [if_pos text] at fit
      cases fit
      refine ⟨rfl, rfl, rfl, fun other same => ?_⟩
      rw [held] at same
      cases same
      exact text
    · rw [if_neg text] at fit
      cases fit

/-- Every request that takes an offer to the endpoint carries it whole. -/
theorem Posting.carries {outcome : Except Error HttpResponse}
    (posting : Posting exchange offer target events outcome) {request : HttpRequest} {progress : Progress}
    (made : ⟨.http request, progress⟩ ∈ events) : request.body = offer := by
  cases posting with
  | unsendable unfit => cases made
  | cancelled fit => simp at made
  | abandoned fit woken =>
    obtain ⟨rfl, -⟩ : request = _ ∧ _ := by simpa using made
    exact (of_request fit).2.2.1
  | ended fit steady =>
    obtain ⟨rfl, -⟩ : request = _ ∧ _ := by simpa using made
    exact (of_request fit).2.2.1

theorem Posts.carries {join : Joining} {remaining : Nat} {outcome : Except Error (Url × HttpResponse)}
    (posts : Posts join exchange offer remaining target events outcome) {request : HttpRequest}
    {progress : Progress} (made : ⟨.http request, progress⟩ ∈ events) : request.body = offer := by
  induction posts with
  | failed posted => exact posted.carries made
  | answered posted final => exact posted.carries made
  | endless posted redirect => exact posted.carries made
  | lost posted redirect astray => exact posted.carries made
  | followed posted redirect found rest ih => exact (List.mem_append.1 made).elim posted.carries ih

theorem request_delete (sendable : exchange.Sendable) (location : Url) :
    ∃ request, exchange.request .delete location [] = .ok request := by
  unfold Exchange.request
  cases held : exchange.token with
  | none => exact ⟨_, rfl⟩
  | some token =>
    simp only [sendable token held, if_true]
    exact ⟨_, rfl⟩

/-- What one request comes to as far as resources go. -/
theorem Posting.creates {outcome : Except Error HttpResponse}
    (posting : Posting exchange offer target events outcome) :
    deletions events = [] ∧
      (∀ cause, outcome = .error cause → resources events = []) ∧
      ∀ response, outcome = .ok response →
        resources events = (resourceOf target response).toList ∧ exchange.Sendable := by
  cases posting with
  | unsendable unfit => exact ⟨rfl, fun _ _ => rfl, nofun⟩
  | cancelled fit => exact ⟨rfl, fun _ _ => rfl, nofun⟩
  | abandoned fit woken =>
    obtain ⟨method, -⟩ := of_request fit
    refine ⟨?_, fun _ _ => ?_, nofun⟩
    · simp [deletions, Event.deletion?, method]
    · simp [resources, Event.resource?, woken, method]
  | @ended request fit progress steady =>
    obtain ⟨method, url, -, sendable⟩ := of_request fit
    refine ⟨?_, fun cause failed => ?_, fun response got => ?_⟩
    · simp [deletions, Event.deletion?, method]
    · cases answered : progress.result with
      | error reason => simp [resources, Event.resource?, answered]
      | ok response =>
        rw [answered] at failed
        cases failed
    · cases answered : progress.result with
      | error reason =>
        rw [answered] at got
        cases got
      | ok other =>
        rw [answered] at got
        cases got
        refine ⟨?_, sendable⟩
        rw [← url, ← Event.resource?_received method steady answered]
        exact resources_single _

theorem resourceOf_redirect {response : HttpResponse} (redirect : response.isRedirect = true) :
    resourceOf target response = none := by
  have refused : ¬ response.isSuccess = true := fun success => by
    cases (HttpResponse.isRedirect_of_success success).symm.trans redirect
  rw [resourceOf, if_neg refused]

theorem Posts.creates {remaining : Nat} {outcome : Except Error (Url × HttpResponse)}
    (posts : Posts Url.join exchange offer remaining target events outcome) :
    deletions events = [] ∧
      (∀ cause, outcome = .error cause → resources events = []) ∧
      ∀ final response, outcome = .ok (final, response) →
        resources events = (resourceOf final response).toList ∧ exchange.Sendable := by
  induction posts with
  | failed posted =>
    obtain ⟨deletes, fails, -⟩ := posted.creates
    exact ⟨deletes, fun cause _ => fails _ rfl, nofun⟩
  | answered posted final =>
    obtain ⟨deletes, -, creates⟩ := posted.creates
    refine ⟨deletes, nofun, ?_⟩
    rintro _ _ ⟨⟩
    exact creates _ rfl
  | endless posted redirect =>
    obtain ⟨deletes, -, creates⟩ := posted.creates
    refine ⟨deletes, fun _ _ => ?_, nofun⟩
    rw [(creates _ rfl).1, resourceOf_redirect redirect]
    rfl
  | lost posted redirect astray =>
    obtain ⟨deletes, -, creates⟩ := posted.creates
    refine ⟨deletes, fun _ _ => ?_, nofun⟩
    rw [(creates _ rfl).1, resourceOf_redirect redirect]
    rfl
  | @followed _ target _ early _ response _ posted redirect found rest ih =>
    obtain ⟨deletes, -, creates⟩ := posted.creates
    obtain ⟨deletesLater, failsLater, createsLater⟩ := ih
    have none : resources early = [] := by
      rw [(creates _ rfl).1, resourceOf_redirect redirect]
      rfl
    refine ⟨by rw [deletions_append, deletes, deletesLater]; rfl, fun cause failed => ?_,
      fun final response got => ?_⟩
    · rw [resources_append, none, failsLater cause failed]
      rfl
    · obtain ⟨created, sendable⟩ := createsLater final response got
      exact ⟨by rw [resources_append, none, created]; rfl, sendable⟩

theorem locationOf_ok {response : HttpResponse} {location : Option Url}
    (success : response.isSuccess = true) (located : locationOf Url.join target response = .ok location) :
    resourceOf target response = location := by
  rw [resourceOf, if_pos success]
  unfold locationOf at located
  cases given : response.location with
  | none =>
    rw [given] at located
    cases located
    rfl
  | some text =>
    simp only [given, resolve] at located
    cases joined : Url.join target text with
    | error cause =>
      rw [joined] at located
      cases located
    | ok url =>
      rw [joined] at located
      cases located
      exact congrArg Except.toOption joined

theorem locationOf_error {response : HttpResponse} {cause : SignalingError}
    (astray : locationOf Url.join target response = .error cause) :
    resourceOf target response = none := by
  unfold locationOf at astray
  unfold resourceOf
  cases given : response.location with
  | none =>
    rw [given] at astray
    cases astray
  | some text =>
    simp only [given, resolve] at astray
    cases joined : Url.join target text with
    | error reason => simp [joined, Except.toOption]
    | ok url =>
      rw [joined] at astray
      cases astray

/-- The location that is kept is that of the resource which was created, if one was. -/
theorem Settles.keeps {response : HttpResponse} {outcome : Except Error Unit}
    (vacant : exchange.location = none)
    (settles : Settles Url.join exchange target response events outcome after) :
    resources events = [] ∧ deletions events = [] ∧
      after = { exchange with location := resourceOf target response } := by
  have unchanged : exchange = { exchange with location := none } := by rw [← vacant]
  cases settles with
  | rejected refused =>
    refine ⟨rfl, rfl, ?_⟩
    rw [resourceOf, refused]
    exact unchanged
  | unlocated created astray =>
    refine ⟨rfl, rfl, ?_⟩
    rw [locationOf_error astray]
    exact unchanged
  | unusable created located unfit =>
    rw [locationOf_ok created located]
    exact ⟨rfl, rfl, rfl⟩
  | applied created located fit result =>
    rw [locationOf_ok created located]
    exact ⟨rfl, rfl, rfl⟩

/-- An exchange creates at most one resource, keeps its location, and deletes none. -/
theorem Creates.keeps {outcome : Except Error Unit} (vacant : exchange.location = none)
    (creates : Creates Url.join exchange events outcome after) :
    deletions events = [] ∧ resources events = after.location.toList ∧
      (after.location.isSome = true → after.Sendable) := by
  cases creates with
  | occupied stored => simp [vacant] at stored
  | unoffered _ => exact ⟨rfl, by rw [vacant]; rfl, by simp [vacant]⟩
  | untold _ => exact ⟨rfl, by rw [vacant]; rfl, by simp [vacant]⟩
  | oversized _ large => exact ⟨rfl, by rw [vacant]; rfl, by simp [vacant]⟩
  | unposted _ small posts =>
    obtain ⟨deletes, fails, -⟩ := posts.creates
    refine ⟨by rw [deletions_append, deletes]; rfl, ?_, by simp [vacant]⟩
    rw [resources_append, fails _ rfl, vacant]
    rfl
  | posted _ small posts settles =>
    obtain ⟨deletes, -, creates⟩ := posts.creates
    obtain ⟨created, sendable⟩ := creates _ _ rfl
    obtain ⟨noMore, noLess, rfl⟩ := settles.keeps vacant
    refine ⟨?_, ?_, fun _ => sendable⟩
    · rw [deletions_append, deletions_append, deletes, noLess]
      rfl
    · rw [resources_append, resources_append, created, noMore, List.append_nil]
      rfl

end Exchange
end WhipWhep
