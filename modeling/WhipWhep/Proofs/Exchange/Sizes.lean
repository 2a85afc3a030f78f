import WhipWhep.Proofs.Exchange.Lifetime

/-!
The descriptions of an exchange and how large they are. The offer is measured before it is posted, the answer
before it is read, and what is refused for its size, or for not being a text, ends the exchange right there.
-/

namespace WhipWhep

/-- What is wrong with the body of a response as an answer, where the size is looked at first. -/
inductive Unusable (body : Bytes) : SignalingError → Prop where
  | oversized (large : Sdp.maxSize < body.length) : Unusable body (.descriptionTooLarge Sdp.maxSize)
  | empty (nothing : body = []) : Unusable body .emptyAnswer
  | garbled (small : body.length ≤ Sdp.maxSize) (something : body ≠ [])
      (illegible : ∀ text, Text.utf8 text ≠ body) : Unusable body .invalidEncoding

/-- The location of a response, if it gives one, is a URL where it was found. -/
def HttpResponse.IsLocated (response : HttpResponse) (target : Url) : Prop :=
  ∀ text, response.location = some text → ∃ url, Url.join target text = .ok url

theorem checkSize_ok_iff {size : Nat} {done : Unit} : Sdp.checkSize size = .ok done ↔ size ≤ Sdp.maxSize := by
  unfold Sdp.checkSize
  split <;> simp <;> omega

theorem checkSize_error_iff {size : Nat} {cause : SignalingError} :
    Sdp.checkSize size = .error cause ↔ Sdp.maxSize < size ∧ cause = .descriptionTooLarge Sdp.maxSize := by
  unfold Sdp.checkSize
  split
  · next large => simp [large, eq_comm]
  · next small => simp [small]

namespace Exchange

variable {join : Joining} {exchange after : Exchange} {offer : Bytes} {target : Url} {events : List Event}
  {body : Bytes} {request : HttpRequest} {progress : Progress} {response : HttpResponse}

theorem answerOf_unusable {cause : SignalingError} (unusable : Unusable body cause) :
    answerOf body = .error cause := by
  rw [answerOf_eq]
  cases unusable with
  | oversized large => rw [if_pos large]
  | empty nothing =>
    rw [nothing]
    rfl
  | garbled small something illegible =>
    have undecoded : Text.ofUtf8? body = none := by
      cases decoded : Text.ofUtf8? body with
      | none => rfl
      | some text => exact absurd (Text.utf8_of_ofUtf8? decoded) (illegible text)
    rw [if_neg (Nat.not_lt.2 small), if_neg something, undecoded]
    rfl

/-- What is read as an answer is neither too large nor empty. -/
theorem answerOf_sized {answer : String} (fit : answerOf body = .ok answer) :
    answer ≠ "" ∧ answer.utf8ByteSize ≤ Sdp.maxSize := by
  have same := answerOf_ok fit
  rw [answerOf_eq] at fit
  split at fit
  · cases fit
  next small =>
  split at fit
  · cases fit
  next something =>
  constructor
  · rintro rfl
    exact something same
  · rw [← Text.length_utf8, ← same]
    exact Nat.not_lt.1 small

/-- The response to a request that was not abandoned is what the posting comes to. -/
theorem Posting.received {outcome : Except Error HttpResponse}
    (posting : Posting exchange offer target events outcome) (made : ⟨.http request, progress⟩ ∈ events)
    (steady : progress.wakes.any id = false) (got : progress.result = .ok response) :
    request.url = target ∧ outcome = .ok response := by
  cases posting with
  | unsendable unfit => cases made
  | cancelled fit => simp at made
  | abandoned fit woken =>
    obtain ⟨rfl, same⟩ : request = _ ∧ _ := by simpa using made
    cases same
    cases steady.symm.trans woken
  | ended fit still =>
    obtain ⟨rfl, same⟩ : request = _ ∧ _ := by simpa using made
    cases same
    exact ⟨(of_request fit).2.1, by rw [got]; rfl⟩

/-- A response of success is the last one. -/
theorem Posts.received {remaining : Nat} {outcome : Except Error (Url × HttpResponse)}
    (posts : Posts join exchange offer remaining target events outcome)
    (made : ⟨.http request, progress⟩ ∈ events) (steady : progress.wakes.any id = false)
    (got : progress.result = .ok response) (success : response.isSuccess = true) :
    outcome = .ok (request.url, response) := by
  have last := HttpResponse.isRedirect_of_success success
  induction posts with
  | failed posted =>
    obtain ⟨-, wrong⟩ := posted.received made steady got
    cases wrong
  | answered posted final =>
    obtain ⟨rfl, same⟩ := posted.received made steady got
    cases same
    rfl
  | endless posted redirect =>
    obtain ⟨-, same⟩ := posted.received made steady got
    cases same
    cases last.symm.trans redirect
  | lost posted redirect astray =>
    obtain ⟨-, same⟩ := posted.received made steady got
    cases same
    cases last.symm.trans redirect
  | followed posted redirect found rest ih =>
    rcases List.mem_append.1 made with here | later
    · obtain ⟨-, same⟩ := posted.received here steady got
      cases same
      cases last.symm.trans redirect
    · exact ih later

variable {outcome : Except Error Unit}

/-- What was asked of the endpoint carries an offer that is not too large, and what it was answered decides. -/
theorem Creates.requests (creates : Creates join exchange events outcome after)
    (made : ⟨.http request, progress⟩ ∈ events) :
    ∃ (description : String) (early : List Event) (ending : Except Error (Url × HttpResponse)),
      description.utf8ByteSize ≤ Sdp.maxSize ∧
      Posts join exchange (Text.utf8 description) maxRedirects exchange.endpoint early ending ∧
      ⟨.http request, progress⟩ ∈ early ∧
      (∀ cause, ending = .error cause →
        events = offering description ++ early ∧ outcome = .error cause ∧ after.location = none) ∧
      ∀ final response, ending = .ok (final, response) → ∃ later, events = offering description ++ early ++ later ∧
        Settles join exchange final response later outcome after := by
  have offered : ∀ {description : String}, ⟨.http request, progress⟩ ∉ offering description := by simp [offering]
  cases creates with
  | occupied stored => cases made
  | unoffered vacant => simp at made
  | untold vacant => simp at made
  | oversized vacant large => exact absurd made offered
  | unposted vacant small posts =>
    have posted := (List.mem_append.1 made).resolve_left offered
    refine ⟨_, _, _, checkSize_ok_iff.1 small, posts, posted, fun _ same => ?_, fun _ _ wrong => ?_⟩
    · cases same
      exact ⟨rfl, rfl, vacant⟩
    · cases wrong
  | posted vacant small posts settles =>
    have among := List.mem_append.1 made
    refine ⟨_, _, _, checkSize_ok_iff.1 small, posts, ?_, fun _ wrong => ?_, ?_⟩
    · rcases among with early | late
      · exact (List.mem_append.1 early).resolve_left offered
      · cases settles <;> simp at late
    · cases wrong
    · rintro _ _ ⟨⟩
      exact ⟨_, rfl, settles⟩

/-- A posted body is not too large. -/
theorem Creates.posts_sized (creates : Creates join exchange events outcome after)
    (made : ⟨.http request, progress⟩ ∈ events) : request.body.length ≤ Sdp.maxSize := by
  obtain ⟨description, _, _, small, posts, posted, -, -⟩ := creates.requests made
  rw [posts.carries posted, Text.length_utf8]
  exact small

/-- An answer that the engine is given is neither too large nor empty. -/
theorem Creates.applies_sized {kind : SdpKind} {answer : String} {result : Except EngineError Unit}
    (creates : Creates join exchange events outcome after)
    (applied : ⟨.engine (.setRemote kind answer), result⟩ ∈ events) :
    answer ≠ "" ∧ answer.utf8ByteSize ≤ Sdp.maxSize := by
  have unposted : ∀ {description : String} {remaining : Nat} {early : List Event}
      {ending : Except Error (Url × HttpResponse)},
      Posts join exchange (Text.utf8 description) remaining exchange.endpoint early ending →
      ⟨.engine (.setRemote kind answer), result⟩ ∉ offering description ++ early := by
    intro description remaining early ending posts member
    rcases List.mem_append.1 member with offered | posted
    · simp [offering] at offered
    · cases posts.posting _ posted
  cases creates with
  | occupied stored => cases applied
  | unoffered vacant => simp at applied
  | untold vacant => simp at applied
  | oversized vacant large => simp [offering] at applied
  | unposted vacant small posts => exact absurd applied (unposted posts)
  | posted vacant small posts settles =>
    have last := (List.mem_append.1 applied).resolve_left (unposted posts)
    cases settles with
    | rejected refused => cases last
    | unlocated created astray => cases last
    | unusable created located unfit => cases last
    | applied created located fit told =>
      obtain ⟨⟨-, rfl⟩, -⟩ : (_ ∧ answer = _) ∧ _ := by simpa using last
      exact answerOf_sized fit

/-- An offer that is too large ends the exchange before anything is posted. -/
theorem Creates.refuses_offer {description : String} (creates : Creates join exchange events outcome after)
    (told : ⟨.engine .localDescription, .ok description⟩ ∈ events) (large : Sdp.maxSize < description.utf8ByteSize) :
    outcome = .error (.signaling (.descriptionTooLarge Sdp.maxSize)) ∧ requested events = [] ∧
      after.location = none := by
  have measured : ∀ {offer : String} {remaining : Nat} {early : List Event}
      {ending : Except Error (Url × HttpResponse)}, Sdp.checkSize offer.utf8ByteSize = .ok () →
      Posts join exchange (Text.utf8 offer) remaining exchange.endpoint early ending →
      ⟨.engine .localDescription, .ok description⟩ ∉ offering offer ++ early := by
    intro offer remaining early ending small posts member
    rcases List.mem_append.1 member with offered | posted
    · obtain rfl : description = offer := by simpa [offering] using offered
      exact absurd large (Nat.not_lt.2 (checkSize_ok_iff.1 small))
    · cases posts.posting _ posted
  cases creates with
  | occupied stored => cases told
  | unoffered vacant => simp at told
  | untold vacant => simp at told
  | oversized vacant refused =>
    obtain ⟨-, rfl⟩ := checkSize_error_iff.1 refused
    exact ⟨rfl, rfl, vacant⟩
  | unposted vacant small posts => exact absurd told (measured small posts)
  | posted vacant small posts settles =>
    have last := (List.mem_append.1 told).resolve_left (measured small posts)
    cases settles <;> simp at last

/-- A response of success that cannot be used as an answer ends the exchange, and the engine is given nothing. -/
theorem Creates.refuses_answer {cause : SignalingError}
    (creates : Creates Url.join exchange events outcome after) (made : ⟨.http request, progress⟩ ∈ events)
    (steady : progress.wakes.any id = false) (got : progress.result = .ok response)
    (success : response.isSuccess = true) (located : response.IsLocated request.url)
    (unusable : Unusable response.body cause) :
    outcome = .error (.signaling cause) ∧
      ∀ event ∈ events, ∀ kind text, event.call ≠ .engine (.setRemote kind text) := by
  obtain ⟨description, early, _, -, posts, posted, -, settled⟩ := creates.requests made
  obtain ⟨later, rfl, settles⟩ := settled _ _ (posts.received posted steady got success)
  have unfit := answerOf_unusable unusable
  cases settles with
  | rejected refused => cases refused.symm.trans success
  | unlocated created astray =>
    unfold locationOf at astray
    cases given : response.location with
    | none =>
      rw [given] at astray
      cases astray
    | some text =>
      obtain ⟨url, joined⟩ := located text given
      simp only [given, resolve, joined] at astray
      cases astray
  | applied created found fit result => cases fit.symm.trans unfit
  | unusable created found other =>
    cases other.symm.trans unfit
    refine ⟨rfl, fun event member kind text same => ?_⟩
    rw [List.append_nil] at member
    rcases List.mem_append.1 member with offered | sent
    · rcases List.mem_cons.1 offered with rfl | told
      · cases same
      · rw [List.mem_singleton.1 told] at same
        cases same
    · have kind := posts.posting event sent
      rw [same] at kind
      cases kind

end Exchange
end WhipWhep
