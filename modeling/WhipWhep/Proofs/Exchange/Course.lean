import WhipWhep.Exchange
import WhipWhep.Proofs.Run

/-!
The courses that an exchange can take. One request is posted or not, redirects are followed from
answer to answer, and a response that is no redirect decides what becomes of the offer. A deletion takes
one request at most. Every run of the exchange takes one of these courses.
-/

namespace WhipWhep

/-- The requests that take the offer to the endpoint. -/
def Call.isPosting : Call → Bool
  | .host .isCancelled => true
  | .http _ => true
  | _ => false

/-- The requests of an exchange with the endpoint. -/
def Call.isExchanging : Call → Bool
  | .engine (.setLocal _) => true
  | .engine .localDescription => true
  | .engine (.setRemote _ _) => true
  | call => call.isPosting

theorem exchanging_of_posting {call : Call} (posting : call.isPosting = true) :
    call.isExchanging = true := by
  unfold Call.isExchanging
  split <;> first | rfl | exact posting

namespace Exchange

variable {join : Joining} {exchange after : Exchange} {offer : Bytes} {target : Url}
  {events : List Event}

theorem runs_signaling {α : Type} {settled : Except SignalingError α} {outcome : Except Error α} :
    (signaling settled).Runs exchange events outcome after ↔
      events = [] ∧ outcome = settled.mapError Error.signaling ∧ after = exchange :=
  Act.runs_settle

theorem runs_signaling_bind {α β : Type} {settled : Except SignalingError α} {next : α → Act Exchange β}
    {outcome : Except Error β} :
    (signaling settled >>= next).Runs exchange events outcome after ↔
      match settled with
      | .ok result => (next result).Runs exchange events outcome after
      | .error cause => events = [] ∧ outcome = .error (.signaling cause) ∧ after = exchange := by
  unfold signaling
  rw [Act.runs_settle_bind]
  cases settled <;> rfl

/-- One request, as far as it gets. -/
inductive Posting (exchange : Exchange) (offer : Bytes) (target : Url) :
    List Event → Except Error HttpResponse → Prop where
  | unsendable {cause : SignalingError} (unfit : exchange.request .post target offer = .error cause) :
      Posting exchange offer target [] (.error (.signaling cause))
  | cancelled {request : HttpRequest} (fit : exchange.request .post target offer = .ok request) :
      Posting exchange offer target [⟨.host .isCancelled, true⟩] (.error .cancelled)
  | abandoned {request : HttpRequest} (fit : exchange.request .post target offer = .ok request)
      {progress : Progress} (woken : progress.wakes.any id = true) :
      Posting exchange offer target
        [⟨.host .isCancelled, false⟩, ⟨.http request, progress⟩] (.error .cancelled)
  | ended {request : HttpRequest} (fit : exchange.request .post target offer = .ok request)
      {progress : Progress} (steady : progress.wakes.any id = false) :
      Posting exchange offer target
        [⟨.host .isCancelled, false⟩, ⟨.http request, progress⟩]
        (progress.result.mapError Error.signaling)

theorem posting_of_runs {outcome : Except Error HttpResponse}
    (run : (post offer target).Runs exchange events outcome after) :
    after = exchange ∧ Posting exchange offer target events outcome := by
  simp only [post, isCancelled, Act.runs_get_bind, runs_signaling_bind] at run
  cases made : exchange.request .post target offer with
  | error cause =>
    simp only [made] at run
    obtain ⟨rfl, rfl, rfl⟩ := run
    exact ⟨rfl, .unsendable made⟩
  | ok request =>
    simp only [made] at run
    obtain ⟨stopped, _, rfl, started⟩ := Act.runs_ask_bind.1 run
    cases stopped with
    | true =>
      obtain ⟨rfl, rfl, rfl⟩ := Act.runs_fail.1 started
      exact ⟨rfl, .cancelled made⟩
    | false =>
      obtain ⟨progress, _, rfl, ended⟩ := Act.runs_ask_bind.1 started
      cases woken : progress.wakes.any id with
      | true =>
        rw [if_pos woken] at ended
        obtain ⟨rfl, rfl, rfl⟩ := Act.runs_fail.1 ended
        exact ⟨rfl, .abandoned made woken⟩
      | false =>
        rw [if_neg (by simp [woken])] at ended
        obtain ⟨rfl, rfl, rfl⟩ := runs_signaling.1 ended
        exact ⟨rfl, .ended made woken⟩

/-- Requests one after the other, each where the one before was sent on to. -/
inductive Posts (join : Joining) (exchange : Exchange) (offer : Bytes) :
    Nat → Url → List Event → Except Error (Url × HttpResponse) → Prop where
  | failed {remaining : Nat} {target : Url} {events : List Event} {cause : Error}
      (posted : Posting exchange offer target events (.error cause)) :
      Posts join exchange offer remaining target events (.error cause)
  | answered {remaining : Nat} {target : Url} {events : List Event} {response : HttpResponse}
      (posted : Posting exchange offer target events (.ok response))
      (final : response.isRedirect = false) :
      Posts join exchange offer remaining target events (.ok (target, response))
  | endless {target : Url} {events : List Event} {response : HttpResponse}
      (posted : Posting exchange offer target events (.ok response))
      (redirect : response.isRedirect = true) :
      Posts join exchange offer 0 target events (.error (.signaling (.tooManyRedirects maxRedirects)))
  | lost {remaining : Nat} {target : Url} {events : List Event} {response : HttpResponse}
      {cause : SignalingError} (posted : Posting exchange offer target events (.ok response))
      (redirect : response.isRedirect = true)
      (astray : redirection join target response = .error cause) :
      Posts join exchange offer (remaining + 1) target events (.error (.signaling cause))
  | followed {remaining : Nat} {target next : Url} {events later : List Event}
      {response : HttpResponse} {outcome : Except Error (Url × HttpResponse)}
      (posted : Posting exchange offer target events (.ok response))
      (redirect : response.isRedirect = true) (found : redirection join target response = .ok next)
      (rest : Posts join exchange offer remaining next later outcome) :
      Posts join exchange offer (remaining + 1) target (events ++ later) outcome

/-- After a request either that was the last one, or its answer is a redirect and the rest decides. -/
theorem posted_of_runs {redirected : HttpResponse → Act Exchange (Url × HttpResponse)}
    {outcome : Except Error (Url × HttpResponse)} {remaining : Nat}
    (run : (do
      let response ← post offer target
      if !response.isRedirect then return (target, response) else redirected response :
        Act Exchange (Url × HttpResponse)).Runs exchange events outcome after) :
    (after = exchange ∧ Posts join exchange offer remaining target events outcome) ∨
      ∃ response first second, events = first ++ second ∧ response.isRedirect = true ∧
        Posting exchange offer target first (.ok response) ∧
        (redirected response).Runs exchange second outcome after := by
  rcases Act.runs_bind.1 run with ⟨_, rfl, failed⟩ | ⟨_, response, _, _, rfl, got, onward⟩
  · obtain ⟨same, posted⟩ := posting_of_runs failed
    exact .inl ⟨same, .failed posted⟩
  obtain ⟨rfl, posted⟩ := posting_of_runs got
  cases redirect : response.isRedirect with
  | false =>
    rw [if_pos (by simp [redirect])] at onward
    obtain ⟨rfl, rfl, rfl⟩ := Act.runs_pure.1 onward
    rw [List.append_nil]
    exact .inl ⟨rfl, .answered posted redirect⟩
  | true =>
    rw [if_neg (by simp [redirect])] at onward
    exact .inr ⟨response, _, _, rfl, redirect, posted, onward⟩

theorem posts_of_runs {remaining : Nat} {outcome : Except Error (Url × HttpResponse)}
    (run : (postFollowing join offer remaining target).Runs exchange events outcome after) :
    after = exchange ∧ Posts join exchange offer remaining target events outcome := by
  induction remaining generalizing target events with
  | zero =>
    rw [postFollowing] at run
    rcases posted_of_runs run with last | ⟨_, _, _, rfl, redirect, posted, onward⟩
    · exact last
    · obtain ⟨rfl, rfl, rfl⟩ := Act.runs_fail.1 onward
      rw [List.append_nil]
      exact ⟨rfl, .endless posted redirect⟩
  | succ remaining ih =>
    rw [postFollowing] at run
    rcases posted_of_runs run with last | ⟨response, _, _, rfl, redirect, posted, onward⟩
    · exact last
    rw [runs_signaling_bind] at onward
    cases led : redirection join target response with
    | error cause =>
      simp only [led] at onward
      obtain ⟨rfl, rfl, rfl⟩ := onward
      rw [List.append_nil]
      exact ⟨rfl, .lost posted redirect led⟩
    | ok next =>
      simp only [led] at onward
      obtain ⟨same, posts⟩ := ih onward
      exact ⟨same, .followed posted redirect led posts⟩

/-- The location that a response gives, as a URL. -/
def locationOf (join : Joining) (target : Url) (response : HttpResponse) :
    Except SignalingError (Option Url) :=
  match response.location with
  | none => .ok none
  | some location => (resolve join target location).map some

/-- What a response that is no redirect comes to. -/
inductive Settles (join : Joining) (exchange : Exchange) (target : Url) (response : HttpResponse) :
    List Event → Except Error Unit → Exchange → Prop where
  | rejected (refused : response.isSuccess = false) :
      Settles join exchange target response [] (.error (.signaling (.status response.status))) exchange
  | unlocated {cause : SignalingError} (created : response.isSuccess = true)
      (astray : locationOf join target response = .error cause) :
      Settles join exchange target response [] (.error (.signaling cause)) exchange
  | unusable {location : Option Url} {cause : SignalingError} (created : response.isSuccess = true)
      (located : locationOf join target response = .ok location)
      (unfit : answerOf response.body = .error cause) :
      Settles join exchange target response [] (.error (.signaling cause))
        { exchange with location := location }
  | applied {location : Option Url} {answer : String} (created : response.isSuccess = true)
      (located : locationOf join target response = .ok location)
      (fit : answerOf response.body = .ok answer) (result : Except EngineError Unit) :
      Settles join exchange target response [⟨.engine (.setRemote .answer answer), result⟩]
        (result.mapError Error.engine) { exchange with location := location }

/-- The engine makes an offer and tells it. -/
def offering (offer : String) : List Event :=
  [⟨.engine (.setLocal .offer), .ok ()⟩, ⟨.engine .localDescription, .ok offer⟩]

/-- The whole exchange, as far as it gets. -/
inductive Creates (join : Joining) (exchange : Exchange) :
    List Event → Except Error Unit → Exchange → Prop where
  | occupied (stored : exchange.location.isSome = true) :
      Creates join exchange [] (.error (.defect .resourceAlreadyCreated)) exchange
  | unoffered {cause : EngineError} (vacant : exchange.location = none) :
      Creates join exchange [⟨.engine (.setLocal .offer), .error cause⟩] (.error (.engine cause)) exchange
  | untold {cause : EngineError} (vacant : exchange.location = none) :
      Creates join exchange
        [⟨.engine (.setLocal .offer), .ok ()⟩, ⟨.engine .localDescription, .error cause⟩]
        (.error (.engine cause)) exchange
  | oversized {offer : String} {cause : SignalingError} (vacant : exchange.location = none)
      (large : Sdp.checkSize offer.utf8ByteSize = .error cause) :
      Creates join exchange (offering offer) (.error (.signaling cause)) exchange
  | unposted {offer : String} {events : List Event} {cause : Error} (vacant : exchange.location = none)
      (small : Sdp.checkSize offer.utf8ByteSize = .ok ())
      (posts : Posts join exchange (Text.utf8 offer) maxRedirects exchange.endpoint events
        (.error cause)) :
      Creates join exchange (offering offer ++ events) (.error cause) exchange
  | posted {offer : String} {events later : List Event} {target : Url} {response : HttpResponse}
      {outcome : Except Error Unit} {after : Exchange} (vacant : exchange.location = none)
      (small : Sdp.checkSize offer.utf8ByteSize = .ok ())
      (posts : Posts join exchange (Text.utf8 offer) maxRedirects exchange.endpoint events
        (.ok (target, response)))
      (settles : Settles join exchange target response later outcome after) :
      Creates join exchange (offering offer ++ events ++ later) outcome after

/-- Keeping a location changes nothing else, and asks for nothing. -/
theorem runs_keepLocation_bind {β : Type} {response : HttpResponse} {next : Unit → Act Exchange β}
    {outcome : Except Error β} (vacant : exchange.location = none) :
    (keepLocation join target response >>= next).Runs exchange events outcome after ↔
      match locationOf join target response with
      | .ok location => (next ()).Runs { exchange with location := location } events outcome after
      | .error cause => events = [] ∧ outcome = .error (.signaling cause) ∧ after = exchange := by
  unfold keepLocation locationOf
  cases response.location with
  | none =>
    have same : { exchange with location := none } = exchange := by rw [← vacant]
    simp only [same]
    exact Act.runs_pure_bind
  | some text =>
    dsimp only
    cases resolve join target text with
    | error cause => exact Act.runs_fail_bind
    | ok url => exact Iff.rfl

theorem settles_of_runs {response : HttpResponse} {outcome : Except Error Unit}
    (vacant : exchange.location = none)
    (run : (if !response.isSuccess then Act.fail (.signaling (.status response.status))
      else do
        keepLocation join target response
        let answer ← signaling (answerOf response.body)
        Act.granted (← Act.ask (.engine (.setRemote .answer answer))) : Act Exchange Unit).Runs
      exchange events outcome after) :
    Settles join exchange target response events outcome after := by
  cases created : response.isSuccess with
  | false =>
    rw [if_pos (by simp [created])] at run
    obtain ⟨rfl, rfl, rfl⟩ := Act.runs_fail.1 run
    exact .rejected created
  | true =>
    rw [if_neg (by simp [created]), runs_keepLocation_bind vacant] at run
    cases located : locationOf join target response with
    | error cause =>
      simp only [located] at run
      obtain ⟨rfl, rfl, rfl⟩ := run
      exact .unlocated created located
    | ok location =>
      simp only [located, runs_signaling_bind] at run
      cases fit : answerOf response.body with
      | error cause =>
        simp only [fit] at run
        obtain ⟨rfl, rfl, rfl⟩ := run
        exact .unusable created located fit
      | ok answer =>
        simp only [fit] at run
        obtain ⟨result, _, rfl, told⟩ := Act.runs_ask_bind.1 run
        obtain ⟨rfl, rfl, rfl⟩ := Act.runs_granted.1 told
        exact .applied created located fit result

theorem creates_of_runs {outcome : Except Error Unit}
    (run : (createWith join).Runs exchange events outcome after) :
    Creates join exchange events outcome after := by
  unfold createWith at run
  rw [Act.runs_get_bind] at run
  cases vacant : exchange.location with
  | some stored =>
    rw [if_pos (by simp [vacant])] at run
    obtain ⟨rfl, rfl, rfl⟩ := Act.runs_fail.1 run
    exact .occupied (by simp [vacant])
  | none =>
    rw [if_neg (by simp [vacant])] at run
    obtain ⟨made, _, rfl, offered⟩ := Act.runs_ask_bind.1 run
    cases made with
    | error cause =>
      obtain ⟨rfl, rfl, rfl⟩ := Act.runs_granted_bind.1 offered
      exact .unoffered vacant
    | ok _ =>
      obtain ⟨description, _, rfl, told⟩ := Act.runs_ask_bind.1 (Act.runs_granted_bind.1 offered)
      cases description with
      | error cause =>
        obtain ⟨rfl, rfl, rfl⟩ := Act.runs_granted_bind.1 told
        exact .untold vacant
      | ok offer =>
        have checked := runs_signaling_bind.1 (Act.runs_granted_bind.1 told)
        cases small : Sdp.checkSize offer.utf8ByteSize with
        | error cause =>
          simp only [small] at checked
          obtain ⟨rfl, rfl, rfl⟩ := checked
          exact .oversized vacant small
        | ok _ =>
          simp only [small, Act.runs_get_bind] at checked
          rcases Act.runs_bind.1 checked with
            ⟨cause, rfl, failed⟩ | ⟨_, ⟨target, response⟩, _, _, rfl, got, settled⟩
          · obtain ⟨rfl, posts⟩ := posts_of_runs failed
            exact .unposted vacant small posts
          · obtain ⟨rfl, posts⟩ := posts_of_runs got
            exact .posted vacant small posts (settles_of_runs vacant settled)

/-- An exchange whose offer is made, and is not too large, goes on with the requests. -/
theorem runs_offering {description : String} {outcome : Except Error Unit} (vacant : exchange.location = none)
    (small : Sdp.checkSize description.utf8ByteSize = .ok ())
    (run : (do
      let (target, response) ← postFollowing join (Text.utf8 description) maxRedirects exchange.endpoint
      if !response.isSuccess then Act.fail (.signaling (.status response.status))
      else
        keepLocation join target response
        let answer ← signaling (answerOf response.body)
        Act.granted (← Act.ask (.engine (.setRemote .answer answer))) : Act Exchange Unit).Runs exchange events
          outcome after) :
    (createWith join).Runs exchange (offering description ++ events) outcome after := by
  unfold createWith
  rw [Act.runs_get_bind, if_neg (by simp [vacant])]
  refine Act.runs_ask_bind.2 ⟨.ok (), _, rfl, Act.runs_granted_bind.2 ?_⟩
  refine Act.runs_ask_bind.2 ⟨.ok description, _, rfl, Act.runs_granted_bind.2 ?_⟩
  refine runs_signaling_bind.2 ?_
  rw [small]
  exact Act.runs_get_bind.2 run

/-- The request that deletes the remote resource, as far as it gets. -/
inductive Deletes (exchange : Exchange) : List Event → Prop where
  | absent (vacant : exchange.location = none) : Deletes exchange []
  | unsendable {location : Url} {cause : SignalingError} (stored : exchange.location = some location)
      (unfit : exchange.request .delete location [] = .error cause) : Deletes exchange []
  | sent {location : Url} {request : HttpRequest} (stored : exchange.location = some location)
      (fit : exchange.request .delete location [] = .ok request) (progress : Progress) :
      Deletes exchange [⟨.http request, progress⟩]

theorem deletes_of_runs {outcome : Except Error Unit} (run : delete.Runs exchange events outcome after) :
    Deletes exchange events ∧ after = { exchange with location := none } := by
  unfold delete at run
  rw [Act.runs_get_bind] at run
  split at run
  · next vacant =>
    obtain ⟨rfl, -, rfl⟩ := Act.runs_pure.1 run
    refine ⟨.absent vacant, ?_⟩
    rw [← vacant]
  · next location stored =>
    have asks := Act.runs_modify_bind.1 run
    rw [Act.runs_get_bind, runs_signaling_bind] at asks
    have same : Exchange.request { exchange with location := none } .delete location [] =
      exchange.request .delete location [] := rfl
    rw [same] at asks
    cases made : exchange.request .delete location [] with
    | error cause =>
      simp only [made] at asks
      obtain ⟨rfl, -, rfl⟩ := asks
      exact ⟨.unsendable stored made, rfl⟩
    | ok request =>
      simp only [made] at asks
      obtain ⟨progress, _, rfl, answered⟩ := Act.runs_ask_bind.1 asks
      have still : (do
          let response ← signaling progress.result
          if response.isSuccess then pure ()
          else Act.fail (.signaling (.status response.status)) : Act Exchange Unit).Keeps Act.Still
            { exchange with location := none } := by
        refine Act.keeps_bind Act.composes_still (Act.keeps_settle Act.composes_still) fun _ => ?_
        split
        · exact Act.keeps_pure Act.composes_still
        · exact Act.keeps_fail Act.composes_still
      obtain ⟨rfl, rfl⟩ := still _ _ _ answered
      exact ⟨.sent stored made progress, rfl⟩

/-! What a course of the exchange asks for. -/

theorem Posting.posting {outcome : Except Error HttpResponse}
    (posting : Posting exchange offer target events outcome) : AllOf Call.isPosting events := by
  cases posting with
  | unsendable unfit => exact .nil
  | cancelled fit => exact .single rfl _
  | abandoned fit woken => exact (AllOf.single rfl _).append (.single rfl _)
  | ended fit steady => exact (AllOf.single rfl _).append (.single rfl _)

theorem Posts.posting {remaining : Nat} {outcome : Except Error (Url × HttpResponse)}
    (posts : Posts join exchange offer remaining target events outcome) :
    AllOf Call.isPosting events := by
  induction posts with
  | failed posted => exact posted.posting
  | answered posted final => exact posted.posting
  | endless posted redirect => exact posted.posting
  | lost posted redirect astray => exact posted.posting
  | followed posted redirect found rest ih => exact posted.posting.append ih

theorem Settles.exchanging {response : HttpResponse} {outcome : Except Error Unit}
    (settles : Settles join exchange target response events outcome after) :
    AllOf Call.isExchanging events := by
  cases settles with
  | rejected refused => exact .nil
  | unlocated created astray => exact .nil
  | unusable created located unfit => exact .nil
  | applied created located fit result => exact .single rfl _

theorem offering_exchanging (offer : String) : AllOf Call.isExchanging (offering offer) :=
  (AllOf.single rfl _).append (.single rfl _)

theorem Creates.exchanging {outcome : Except Error Unit}
    (creates : Creates join exchange events outcome after) : AllOf Call.isExchanging events := by
  cases creates with
  | occupied stored => exact .nil
  | unoffered vacant => exact .single rfl _
  | untold vacant => exact (AllOf.single rfl _).append (.single rfl _)
  | oversized vacant large => exact offering_exchanging _
  | unposted vacant small posts => exact (offering_exchanging _).append (posts.posting.weaken exchanging_of_posting)
  | posted vacant small posts settles =>
    have posting := posts.posting.weaken exchanging_of_posting
    exact ((offering_exchanging _).append posting).append settles.exchanging

end Exchange
end WhipWhep
