import WhipWhep.Proofs.Exchange.Course

/-!
Where the offer goes. A server can send the offer on to another URL, again and again; what it is told
at each URL does not change. The number of requests is bounded whatever the server does, and the last
answer decides how the exchange fails.
-/

namespace WhipWhep

/-- Whether the caller turns out to be cancelled at an event. -/
def Event.tellsCancel : Event → Bool
  | ⟨.host .isCancelled, cancelled⟩ => cancelled
  | ⟨.http _, progress⟩ => progress.wakes.any id
  | _ => false

/-- The requests over HTTP, in their order, and what came of them. -/
def exchanged (events : List Event) : List (HttpRequest × Except SignalingError HttpResponse) :=
  events.filterMap fun
    | ⟨.http request, progress⟩ => some (request, progress.result)
    | _ => none

@[simp] theorem exchanged_append (first second : List Event) :
    exchanged (first ++ second) = exchanged first ++ exchanged second :=
  List.filterMap_append

namespace Exchange

variable {join : Joining} {exchange after : Exchange} {offer : Bytes} {target : Url}
  {events : List Event}

/-- The request that carries an offer to a URL. -/
def offerTo (exchange : Exchange) (offer : Bytes) (target : Url) : HttpRequest where
  method := .post
  url := target
  headers := (exchange.token.map fun token => ("authorization", "Bearer " ++ token)).toList ++
    [("content-type", "application/sdp")]
  body := offer
  limit := Sdp.maxSize

/-- A bearer token, if there is one, can stand in a header. -/
def Sendable (exchange : Exchange) : Prop :=
  ∀ token, exchange.token = some token → isHeaderText token.toList = true

/-- Where the answer to a request sends the offer on to. -/
def leadsTo (join : Joining) : HttpRequest × Except SignalingError HttpResponse → Option Url
  | (_, .error _) => none
  | (request, .ok response) =>
    if response.isRedirect then (redirection join request.url response).toOption else none

theorem request_post (sendable : exchange.Sendable) (offer : Bytes) (target : Url) :
    exchange.request .post target offer = .ok (exchange.offerTo offer target) := by
  unfold request offerTo
  cases held : exchange.token with
  | none => rfl
  | some token =>
    simp only [sendable token held, if_true]
    rfl

theorem reason_of_resolve {location : String} {cause : SignalingError}
    (astray : resolve join target location = .error cause) :
    ∃ reason, cause = .invalidLocation reason := by
  unfold resolve at astray
  cases joined : join target location with
  | error reason =>
    rw [joined] at astray
    cases astray
    exact ⟨_, rfl⟩
  | ok url =>
    rw [joined] at astray
    cases astray

theorem reason_of_redirection {response : HttpResponse} {cause : SignalingError}
    (astray : redirection join target response = .error cause) :
    ∃ reason, cause = .invalidLocation reason := by
  unfold redirection at astray
  split at astray
  · cases astray
    exact ⟨_, rfl⟩
  · exact reason_of_resolve astray

/-- Unless it is cancelled a request is made, and its result is taken as it is. -/
theorem Posting.uncancelled {outcome : Except Error HttpResponse} (sendable : exchange.Sendable)
    (posting : Posting exchange offer target events outcome)
    (uncancelled : ∀ event ∈ events, event.tellsCancel = false) :
    ∃ result, exchanged events = [(exchange.offerTo offer target, result)] ∧
      outcome = result.mapError Error.signaling := by
  cases posting with
  | unsendable unfit =>
    rw [request_post sendable] at unfit
    cases unfit
  | cancelled fit => cases uncancelled _ (List.mem_singleton_self _)
  | abandoned fit woken =>
    have steady := uncancelled _ (List.mem_cons_of_mem _ (List.mem_singleton_self _))
    simp only [Event.tellsCancel, woken] at steady
    cases steady
  | @ended request fit progress steady =>
    rw [request_post sendable] at fit
    cases fit
    exact ⟨progress.result, rfl, rfl⟩

theorem Posting.answered {response : HttpResponse} (sendable : exchange.Sendable)
    (posting : Posting exchange offer target events (.ok response))
    (uncancelled : ∀ event ∈ events, event.tellsCancel = false) :
    exchanged events = [(exchange.offerTo offer target, .ok response)] := by
  obtain ⟨result, made, came⟩ := posting.uncancelled sendable uncancelled
  cases result with
  | error cause => cases came
  | ok response =>
    cases came
    exact made

theorem Posting.broken {cause : Error} (sendable : exchange.Sendable)
    (posting : Posting exchange offer target events (.error cause))
    (uncancelled : ∀ event ∈ events, event.tellsCancel = false) :
    ∃ reason, cause = .signaling reason ∧
      exchanged events = [(exchange.offerTo offer target, .error reason)] := by
  obtain ⟨result, made, came⟩ := posting.uncancelled sendable uncancelled
  cases result with
  | ok response => cases came
  | error reason =>
    cases came
    exact ⟨reason, rfl, made⟩

/-- The last answer, and what it makes of a chain of requests that may still be sent on. -/
def EndsWith (remaining : Nat) (made : List (HttpRequest × Except SignalingError HttpResponse))
    (outcome : Except Error (Url × HttpResponse)) : Prop :=
  ∃ request result, made.getLast? = some (request, result) ∧
    match result with
    | .error cause => outcome = .error (.signaling cause)
    | .ok response =>
      if response.isRedirect then
        if made.length = remaining + 1 then
          outcome = .error (.signaling (.tooManyRedirects maxRedirects))
        else ∃ reason, outcome = .error (.signaling (.invalidLocation reason))
      else outcome = .ok (request.url, response)

/-- A chain of requests that may be sent on a number of times. -/
structure Chain (join : Joining) (exchange : Exchange) (offer : Bytes) (remaining : Nat) (target : Url)
    (made : List (HttpRequest × Except SignalingError HttpResponse)) : Prop where
  same : ∀ post ∈ made, post.1 = exchange.offerTo offer post.1.url
  starts : made[0]?.map (fun post => post.1.url) = some target
  continues : ∀ j < made.length, made[j + 1]?.map (fun post => post.1.url) =
    if j < remaining then made[j]?.bind (leadsTo join) else none
  bounded : made.length ≤ remaining + 1

theorem Chain.single {remaining : Nat} {result : Except SignalingError HttpResponse}
    (stops : remaining = 0 ∨ leadsTo join (exchange.offerTo offer target, result) = none) :
    Chain join exchange offer remaining target [(exchange.offerTo offer target, result)] where
  same post member := by
    rw [List.mem_singleton.1 member]
    rfl
  starts := rfl
  continues j inside := by
    obtain rfl : j = 0 := by simpa using inside
    rcases stops with rfl | stops
    · rfl
    · simp [stops]
  bounded := by simp

theorem Chain.cons {remaining : Nat} {response : HttpResponse} {next : Url}
    {made : List (HttpRequest × Except SignalingError HttpResponse)}
    (leads : leadsTo join (exchange.offerTo offer target, .ok response) = some next)
    (chain : Chain join exchange offer remaining next made) :
    Chain join exchange offer (remaining + 1) target
      ((exchange.offerTo offer target, .ok response) :: made) where
  same post member := by
    rcases List.mem_cons.1 member with rfl | later
    · rfl
    · exact chain.same post later
  starts := rfl
  continues j inside := by
    cases j with
    | zero => simpa [leads] using chain.starts
    | succ j =>
      have inside : j < made.length := by simpa using inside
      simpa using chain.continues j inside
  bounded := by simpa using chain.bounded

theorem leadsTo_redirect {request : HttpRequest} {response : HttpResponse}
    (redirect : response.isRedirect = true) :
    leadsTo join (request, .ok response) = (redirection join request.url response).toOption :=
  if_pos redirect

theorem redirect_of_leadsTo {made : HttpRequest × Except SignalingError HttpResponse} {url : Url}
    (leads : leadsTo join made = some url) :
    ∃ request response, made = (request, .ok response) ∧ response.isRedirect = true := by
  obtain ⟨request, result⟩ := made
  cases result with
  | error cause => cases leads
  | ok response =>
    cases redirect : response.isRedirect with
    | false => simp [leadsTo, redirect] at leads
    | true => exact ⟨request, response, rfl, redirect⟩

theorem Posts.chain {remaining : Nat} {outcome : Except Error (Url × HttpResponse)}
    (posts : Posts join exchange offer remaining target events outcome) (sendable : exchange.Sendable)
    (uncancelled : ∀ event ∈ events, event.tellsCancel = false) :
    Chain join exchange offer remaining target (exchanged events) ∧
      EndsWith remaining (exchanged events) outcome := by
  induction posts with
  | failed posted =>
    obtain ⟨reason, rfl, made⟩ := posted.broken sendable uncancelled
    rw [made]
    exact ⟨.single (.inr rfl), _, _, rfl, rfl⟩
  | answered posted final =>
    rw [posted.answered sendable uncancelled]
    refine ⟨.single (.inr (by simp [leadsTo, final])), _, _, rfl, ?_⟩
    simp [final, offerTo]
  | endless posted redirect =>
    rw [posted.answered sendable uncancelled]
    refine ⟨.single (.inl rfl), _, _, rfl, ?_⟩
    simp [redirect]
  | lost posted redirect astray =>
    obtain ⟨reason, rfl⟩ := reason_of_redirection astray
    rw [posted.answered sendable uncancelled]
    refine ⟨.single (.inr ?_), _, _, rfl, ?_⟩
    · simp only [leadsTo_redirect redirect, offerTo, astray, Except.toOption]
    · simp [redirect]
  | followed posted redirect found rest ih =>
    have made := posted.answered sendable fun event member => uncancelled event (List.mem_append_left _ member)
    obtain ⟨chain, request, last, ends, settled⟩ :=
      ih fun event member => uncancelled event (List.mem_append_right _ member)
    rw [exchanged_append, made]
    refine ⟨chain.cons ?_, request, last, ?_, ?_⟩
    · simp only [leadsTo_redirect redirect, offerTo, found, Except.toOption]
    · rw [List.getLast?_append, ends]
      rfl
    · simpa using settled

/-- An answer that is not usable is not blamed on redirects. -/
theorem answerOf_ne_tooManyRedirects (body : Bytes) (followed : Nat) :
    answerOf body ≠ .error (.tooManyRedirects followed) := by
  unfold answerOf Sdp.checkSize
  intro same
  split at same
  · cases same
  · split at same
    · cases same
    · cases decoded : Text.ofUtf8? body with
      | none => rw [decoded] at same; cases same
      | some answer => rw [decoded] at same; cases same

theorem Settles.ne_tooManyRedirects {response : HttpResponse} {outcome : Except Error Unit}
    (settles : Settles join exchange target response events outcome after) (followed : Nat) :
    outcome ≠ .error (.signaling (.tooManyRedirects followed)) := by
  intro same
  cases settles with
  | rejected => cases same
  | unlocated created astray =>
    unfold locationOf at astray
    split at astray
    · cases astray
    · next location _ =>
      cases resolved : resolve join target location with
      | ok url =>
        rw [resolved] at astray
        cases astray
      | error cause =>
        obtain ⟨reason, rfl⟩ := reason_of_resolve resolved
        rw [resolved] at astray
        cases astray
        cases same
  | unusable created located unfit =>
    cases same
    exact answerOf_ne_tooManyRedirects _ _ unfit
  | applied created located fit result =>
    cases result with
    | ok _ => cases same
    | error cause => cases same

/-- What the requests of an exchange are and how they decide it. -/
structure FollowsRedirects (join : Joining) (exchange : Exchange) (offer : Bytes)
    (made : List (HttpRequest × Except SignalingError HttpResponse)) (outcome : Except Error Unit) :
    Prop where
  /-- Only the URL differs from request to request. -/
  same : ∀ post ∈ made, post.1 = exchange.offerTo offer post.1.url
  starts : made[0]?.map (fun post => post.1.url) = some exchange.endpoint
  /-- There is a next request exactly if the answer is one of the first eight and leads somewhere. -/
  continues : ∀ j < made.length, made[j + 1]?.map (fun post => post.1.url) =
    if j + 1 ≤ 8 then made[j]?.bind (leadsTo join) else none
  bounded : made.length ≤ 9
  /-- The client's own error may say the same, and is then handed on like any other. -/
  endless : outcome = .error (.signaling (.tooManyRedirects 8)) ↔
    ((∀ j < 9, ∃ request response,
        made[j]? = some (request, .ok response) ∧ response.isRedirect = true) ∧
      ∀ j < 8, (made[j]?.bind (leadsTo join)).isSome = true) ∨
    ∃ request, made.getLast? = some (request, .error (.tooManyRedirects 8))
  astray : ∀ request response, made.getLast? = some (request, .ok response) →
    response.isRedirect = true → made.length ≤ 8 →
    ∃ reason, outcome = .error (.signaling (.invalidLocation reason))
  broken : ∀ request cause, made.getLast? = some (request, .error cause) →
    outcome = .error (.signaling cause)
  refused : ∀ request response, made.getLast? = some (request, .ok response) →
    response.isRedirect = false → response.isSuccess = false →
    outcome = .error (.signaling (.status response.status))

/-- All nine answers were redirects exactly if the ninth was one. -/
theorem Chain.redirects_iff
    {made : List (HttpRequest × Except SignalingError HttpResponse)} {request : HttpRequest}
    {result : Except SignalingError HttpResponse}
    (chain : Chain join exchange offer maxRedirects target made)
    (ends : made.getLast? = some (request, result)) :
    ((∀ j < 9, ∃ request response,
        made[j]? = some (request, .ok response) ∧ response.isRedirect = true) ∧
      ∀ j < 8, (made[j]?.bind (leadsTo join)).isSome = true) ↔
    made.length = 9 ∧ ∃ response, result = .ok response ∧ response.isRedirect = true := by
  have atMost : made.length ≤ 9 := chain.bounded
  rw [List.getLast?_eq_getElem?] at ends
  constructor
  · rintro ⟨redirects, -⟩
    obtain ⟨last, response, found, redirect⟩ := redirects 8 (by omega)
    have inside : 8 < made.length := (List.getElem?_eq_some_iff.1 found).1
    have full : made.length = 9 := by omega
    rw [full, found] at ends
    cases ends
    exact ⟨full, response, rfl, redirect⟩
  · rintro ⟨full, response, rfl, redirect⟩
    rw [full] at ends
    have leads : ∀ j < 8, ∃ answered url, made[j]? = some answered ∧
        leadsTo join answered = some url := by
      intro j early
      have here : j < made.length := by omega
      have after : j + 1 < made.length := by omega
      have next := chain.continues j here
      rw [if_pos (show j < maxRedirects from early), List.getElem?_eq_getElem after,
        List.getElem?_eq_getElem here] at next
      exact ⟨made[j], _, List.getElem?_eq_getElem here, next.symm⟩
    constructor
    · intro j inside
      by_cases early : j < 8
      · obtain ⟨_, url, found, led⟩ := leads j early
        obtain ⟨sent, response, rfl, redirect⟩ := redirect_of_leadsTo led
        exact ⟨sent, response, found, redirect⟩
      · obtain rfl : j = 8 := by omega
        exact ⟨request, response, ends, redirect⟩
    · intro j early
      obtain ⟨answered, url, found, led⟩ := leads j early
      simp [found, led]

/-- What an exchange comes to after its requests: their error, or what their last response leads to. -/
inductive Concludes (join : Joining) (exchange : Exchange) :
    Except Error (Url × HttpResponse) → Except Error Unit → Prop where
  | failed {cause : Error} : Concludes join exchange (.error cause) (.error cause)
  | settled {target : Url} {response : HttpResponse} {later : List Event} {outcome : Except Error Unit}
      {after : Exchange} (settles : Settles join exchange target response later outcome after) :
      Concludes join exchange (.ok (target, response)) outcome

theorem Concludes.error {cause : Error} {outcome : Except Error Unit}
    (concludes : Concludes join exchange (.error cause) outcome) : outcome = .error cause := by
  cases concludes
  rfl

theorem Concludes.ne_tooManyRedirects {response : HttpResponse} {outcome : Except Error Unit}
    (concludes : Concludes join exchange (.ok (target, response)) outcome) (followed : Nat) :
    outcome ≠ .error (.signaling (.tooManyRedirects followed)) := by
  cases concludes with
  | settled settles => exact settles.ne_tooManyRedirects followed

theorem Concludes.refused {response : HttpResponse} {outcome : Except Error Unit}
    (refused : response.isSuccess = false)
    (concludes : Concludes join exchange (.ok (target, response)) outcome) :
    outcome = .error (.signaling (.status response.status)) := by
  cases concludes with
  | settled settles =>
    cases settles with
    | rejected => rfl
    | unlocated created => rw [refused] at created; cases created
    | unusable created => rw [refused] at created; cases created
    | applied created => rw [refused] at created; cases created

section Conclusion

variable {made : List (HttpRequest × Except SignalingError HttpResponse)}
  {ending : Except Error (Url × HttpResponse)} {outcome : Except Error Unit}

/-- An exchange gives up after nine redirects, and otherwise only if the client says so. -/
theorem Chain.tooManyRedirects_iff (chain : Chain join exchange offer maxRedirects target made)
    (ends : EndsWith maxRedirects made ending) (concludes : Concludes join exchange ending outcome) :
    outcome = .error (.signaling (.tooManyRedirects 8)) ↔
      ((∀ j < 9, ∃ request response,
          made[j]? = some (request, .ok response) ∧ response.isRedirect = true) ∧
        ∀ j < 8, (made[j]?.bind (leadsTo join)).isSome = true) ∨
      ∃ request, made.getLast? = some (request, .error (.tooManyRedirects 8)) := by
  obtain ⟨request, result, last, came⟩ := ends
  rw [chain.redirects_iff last]
  cases result with
  | error cause =>
    rw [came] at concludes
    rw [concludes.error, last]
    simp
  | ok response =>
    simp only [last, Option.some.injEq, Prod.mk.injEq, reduceCtorEq, and_false,
      Except.ok.injEq, exists_eq_left']
    cases redirect : response.isRedirect with
    | false =>
      simp only [redirect] at came
      rw [came] at concludes
      simp [concludes.ne_tooManyRedirects 8]
    | true =>
      simp only [redirect, if_true] at came
      by_cases full : made.length = 9
      · rw [if_pos (show made.length = maxRedirects + 1 from full)] at came
        rw [came] at concludes
        simp [concludes.error, maxRedirects, full]
      · rw [if_neg (show made.length ≠ maxRedirects + 1 from full)] at came
        obtain ⟨reason, came⟩ := came
        rw [came] at concludes
        simp [concludes.error, full]

/-- How a chain of requests ends decides how the exchange fails, whatever a usable answer leads to. -/
theorem Chain.followsRedirects (chain : Chain join exchange offer maxRedirects exchange.endpoint made)
    (ends : EndsWith maxRedirects made ending) (concludes : Concludes join exchange ending outcome) :
    FollowsRedirects join exchange offer made outcome := by
  have endless := chain.tooManyRedirects_iff ends concludes
  obtain ⟨request, result, last, came⟩ := ends
  refine
    { same := chain.same
      starts := chain.starts
      continues := chain.continues
      bounded := chain.bounded
      endless := endless
      astray := ?_
      broken := ?_
      refused := ?_ }
  · intro sent response found redirect short
    rw [last] at found
    cases found
    have early : made.length ≠ maxRedirects + 1 := by simp only [maxRedirects]; omega
    simp only [redirect, if_true, if_neg early] at came
    obtain ⟨reason, came⟩ := came
    rw [came] at concludes
    exact ⟨reason, concludes.error⟩
  · intro sent cause found
    rw [last] at found
    cases found
    rw [came] at concludes
    exact concludes.error
  · intro sent response found final refused
    rw [last] at found
    cases found
    simp only [final] at came
    rw [came] at concludes
    exact concludes.refused refused

end Conclusion

/-- Once the engine has made an offer the exchange is as good as its requests. -/
theorem posts_of_offering {description : String} {outcome : Except Error Unit}
    (vacant : exchange.location = none) (small : description.utf8ByteSize ≤ Sdp.maxSize)
    (run : (createWith join).Runs exchange (offering description ++ events) outcome after) :
    ∃ posted later ending, events = posted ++ later ∧ exchanged later = [] ∧
      Posts join exchange (Text.utf8 description) maxRedirects exchange.endpoint posted ending ∧
      Concludes join exchange ending outcome := by
  have fits : Sdp.checkSize description.utf8ByteSize = .ok () := if_neg (Nat.not_lt.2 small)
  have course := creates_of_runs run
  generalize told : offering description ++ events = all at course
  simp only [offering, List.cons_append, List.nil_append] at told
  cases course with
  | occupied stored => simp [vacant] at stored
  | unoffered => simp at told
  | untold => simp at told
  | @oversized offer cause _ large =>
    simp only [offering, List.cons.injEq, Event.mk.injEq, heq_eq_eq, Except.ok.injEq, true_and] at told
    rw [← told.1, fits] at large
    cases large
  | @unposted offer posted cause _ _ posts =>
    simp only [offering, List.cons_append, List.nil_append, List.cons.injEq, Event.mk.injEq, heq_eq_eq,
      Except.ok.injEq, true_and] at told
    obtain ⟨rfl, rfl⟩ := told
    exact ⟨_, [], _, (List.append_nil _).symm, rfl, posts, .failed⟩
  | @posted offer posted later target response _ _ _ _ posts settles =>
    simp only [offering, List.cons_append, List.nil_append, List.cons.injEq, Event.mk.injEq, heq_eq_eq,
      Except.ok.injEq, true_and] at told
    obtain ⟨rfl, rfl⟩ := told
    have quiet : exchanged later = [] := by cases settles <;> rfl
    exact ⟨_, _, _, rfl, quiet, posts, .settled settles⟩

/-- The requests of an exchange that is not cancelled, once the engine has made an offer of a size that
may be sent. -/
theorem createWith_follows_redirects {description : String} {outcome : Except Error Unit}
    (vacant : exchange.location = none)
    (sendable : ∀ token, exchange.token = some token → isHeaderText token.toList = true)
    (small : description.utf8ByteSize ≤ Sdp.maxSize)
    (run : (createWith join).Runs exchange
      (⟨.engine (.setLocal .offer), .ok ()⟩ :: ⟨.engine .localDescription, .ok description⟩ :: events)
      outcome after)
    (uncancelled : ∀ event ∈ events, event.tellsCancel = false) :
    FollowsRedirects join exchange (Text.utf8 description) (exchanged events) outcome := by
  obtain ⟨posted, later, ending, rfl, quiet, posts, concludes⟩ := posts_of_offering vacant small run
  obtain ⟨chain, ends⟩ :=
    posts.chain sendable fun event member => uncancelled event (List.mem_append_left _ member)
  rw [exchanged_append, quiet, List.append_nil]
  exact chain.followsRedirects ends concludes

/-! An offer that is sent on once, from one path of a host to another, and is refused there. -/

def atHome : Url where
  scheme := "https".toList
  authority := some ⟨[], .name "h".toList, none⟩
  path := .segments ["a".toList]
  query := none
  fragment := none

def nextDoor : Url := { atHome with path := .segments ["b".toList] }

def sentOn : List Event :=
  [⟨.host .isCancelled, false⟩,
    ⟨.http ((start atHome (some "secret")).offerTo (Text.utf8 "v=0") atHome),
      ⟨[false], .ok ⟨307, some "/b", []⟩⟩⟩,
    ⟨.host .isCancelled, false⟩,
    ⟨.http ((start atHome (some "secret")).offerTo (Text.utf8 "v=0") nextDoor), ⟨[], .ok ⟨403, none, []⟩⟩⟩]

theorem createWith_follows_redirects_sentOn :
    FollowsRedirects Url.join (start atHome (some "secret")) (Text.utf8 "v=0") (exchanged sentOn)
      (.error (.signaling (.status 403))) := by
  have run : (createWith Url.join).Runs (start atHome (some "secret"))
      (⟨.engine (.setLocal .offer), .ok ()⟩ :: ⟨.engine .localDescription, .ok "v=0"⟩ :: sentOn)
      (.error (.signaling (.status 403))) (start atHome (some "secret")) :=
    .call _ _ _ (.call _ _ _ (.call _ _ _ (.call _ _ _ (.call _ _ _ (.call _ _ _ (.done _))))))
  refine createWith_follows_redirects rfl ?_ (by decide) run (by decide)
  rintro _ ⟨⟩
  decide

end Exchange
end WhipWhep
