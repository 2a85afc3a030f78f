import WhipWhep.Proofs.Exchange.Sizes
import WhipWhep.Proofs.Track.Refusing

/-!
What a cancellation refuses of an exchange. No request takes the offer to the endpoint any more, one that is
pending is given up when it is looked at next, and either way the exchange ends with the cancellation unless it
has ended before.
-/

namespace WhipWhep

/-- The causes by which an offer does not go on to the endpoint: the cancellation, or what is checked before. -/
inductive Unposted : Error → Prop where
  | cancelled : Unposted .cancelled
  | oversized : Unposted (.signaling (.descriptionTooLarge Sdp.maxSize))
  | unsendable : Unposted (.signaling (.transport "invalid bearer token"))
  | endless : Unposted (.signaling (.tooManyRedirects 8))
  | astray (reason : String) : Unposted (.signaling (.invalidLocation reason))

namespace Exchange

variable {join : Joining} {exchange after : Exchange} {offer : Bytes} {target : Url} {remaining : Nat}
  {events early late rest : List Event} {request : HttpRequest} {progress : Progress} {response : HttpResponse}

theorem request_error {method : Method} {body : Bytes} {cause : SignalingError}
    (unfit : exchange.request method target body = .error cause) : cause = .transport "invalid bearer token" := by
  unfold Exchange.request at unfit
  cases held : exchange.token with
  | none =>
    rw [held] at unfit
    cases unfit
  | some token =>
    simp only [held] at unfit
    split at unfit
    · cases unfit
    · cases unfit
      rfl

/-- A request is not started once the caller is cancelled. -/
theorem Posting.refused {outcome : Except Error HttpResponse} (posting : Posting exchange offer target events outcome)
    (cancelled : AllCancelled events) : ∃ cause, outcome = .error cause ∧ Unposted cause := by
  cases posting with
  | unsendable unfit =>
    obtain rfl := request_error unfit
    exact ⟨_, rfl, .unsendable⟩
  | cancelled fit => exact ⟨_, rfl, .cancelled⟩
  | abandoned fit woken => exact ⟨_, rfl, .cancelled⟩
  | ended fit steady => cases cancelled false (by simp)

theorem Posts.refused {outcome : Except Error (Url × HttpResponse)}
    (posts : Posts join exchange offer remaining target events outcome) (cancelled : AllCancelled events) :
    ∃ cause, outcome = .error cause ∧ Unposted cause := by
  cases posts with
  | failed posted =>
    obtain ⟨_, same, refused⟩ := posted.refused cancelled
    cases same
    exact ⟨_, rfl, refused⟩
  | answered posted final =>
    obtain ⟨_, wrong, -⟩ := posted.refused cancelled
    cases wrong
  | endless posted redirect => exact ⟨_, rfl, .endless⟩
  | lost posted redirect astray =>
    obtain ⟨_, wrong, -⟩ := posted.refused cancelled
    cases wrong
  | followed posted redirect found onward =>
    obtain ⟨_, wrong, -⟩ := posted.refused cancelled.left
    cases wrong

/-- A redirect is not followed once the caller is cancelled. -/
theorem Posts.refused_behind {outcome : Except Error (Url × HttpResponse)}
    (posts : Posts join exchange offer remaining target events outcome)
    (split : events = early ++ ⟨.http request, progress⟩ :: late) (cancelled : AllCancelled late)
    (steady : progress.wakes.any id = false) (got : progress.result = .ok response)
    (redirect : response.isRedirect = true) : ∃ cause, outcome = .error cause ∧ Unposted cause := by
  induction posts generalizing early late with
  | failed posted =>
    obtain ⟨-, wrong⟩ := posted.received (split ▸ List.mem_append_right _ List.mem_cons_self) steady got
    cases wrong
  | answered posted final =>
    obtain ⟨-, same⟩ := posted.received (split ▸ List.mem_append_right _ List.mem_cons_self) steady got
    cases same
    cases final.symm.trans redirect
  | endless posted _ => exact ⟨_, rfl, .endless⟩
  | lost posted _ astray =>
    obtain ⟨reason, rfl⟩ := reason_of_redirection astray
    exact ⟨_, rfl, .astray reason⟩
  | followed posted _ found rest ih =>
    rcases List.append_eq_append_iff.1 split with ⟨before, -, later⟩ | ⟨between, here, later⟩
    · exact ih later cancelled
    rcases between with - | ⟨asked, others⟩
    · exact ih (show _ = [] ++ _ :: _ from later.symm) cancelled
    · obtain ⟨rfl, rfl⟩ := List.cons.inj later
      exact rest.refused cancelled.right

/-- A request that is pending when the caller turns out to be cancelled is the last one. -/
theorem Posts.abandoned {outcome : Except Error (Url × HttpResponse)}
    (posts : Posts join exchange offer remaining target events outcome) (made : ⟨.http request, progress⟩ ∈ events)
    (woken : progress.wakes.any id = true) :
    outcome = .error .cancelled ∧ (requested events).getLast? = some (request, progress) := by
  have one : ∀ {target : Url} {events : List Event} {outcome : Except Error HttpResponse},
      Posting exchange offer target events outcome → ⟨.http request, progress⟩ ∈ events →
      outcome = .error .cancelled ∧ (requested events).getLast? = some (request, progress) := by
    intro target events outcome posting made
    cases posting with
    | unsendable unfit => cases made
    | cancelled fit => simp at made
    | abandoned fit _ =>
      obtain ⟨rfl, same⟩ : request = _ ∧ _ := by simpa using made
      cases same
      exact ⟨rfl, rfl⟩
    | ended fit steady =>
      obtain ⟨rfl, same⟩ : request = _ ∧ _ := by simpa using made
      cases same
      cases steady.symm.trans woken
  induction posts with
  | failed posted =>
    obtain ⟨same, last⟩ := one posted made
    cases same
    exact ⟨rfl, last⟩
  | answered posted final => cases (one posted made).1
  | endless posted redirect => cases (one posted made).1
  | lost posted redirect astray => cases (one posted made).1
  | followed posted redirect found rest ih =>
    rcases List.mem_append.1 made with here | later
    · cases (one posted here).1
    · obtain ⟨same, last⟩ := ih later
      refine ⟨same, ?_⟩
      rw [requested_append, List.getLast?_append, last]
      rfl

variable {outcome : Except Error Unit}

/-- An offer that is told to a caller who is cancelled is not posted. -/
theorem Creates.refused {description : String} (creates : Creates join exchange events outcome after)
    (split : events = early ++ ⟨.engine .localDescription, .ok description⟩ :: late) (cancelled : AllCancelled late) :
    ∃ cause, outcome = .error cause ∧ Unposted cause := by
  have behind : ∀ {offer : String} {rest : List Event}, ⟨.engine .localDescription, .ok description⟩ ∉ rest →
      offering offer ++ rest = early ++ ⟨.engine .localDescription, .ok description⟩ :: late → AllCancelled rest := by
    intro offer rest untold split
    obtain ⟨_, -, rfl⟩ := split_before split untold
    exact cancelled.right
  have unposted : ∀ {offer : Bytes} {posting : List Event} {ending : Except Error (Url × HttpResponse)},
      Posts join exchange offer maxRedirects exchange.endpoint posting ending →
      ⟨.engine .localDescription, .ok description⟩ ∉ posting := fun posts member => by
    cases posts.posting _ member
  have told : ⟨.engine .localDescription, .ok description⟩ ∈ events := by simp [split]
  cases creates with
  | occupied stored => cases told
  | unoffered vacant => simp at told
  | untold vacant => simp at told
  | oversized vacant large =>
    obtain ⟨-, rfl⟩ := checkSize_error_iff.1 large
    exact ⟨_, rfl, .oversized⟩
  | unposted vacant small posts =>
    obtain ⟨_, same, refused⟩ := posts.refused (behind (unposted posts) split)
    cases same
    exact ⟨_, rfl, refused⟩
  | @posted _ _ later _ _ _ _ vacant small posts settles =>
    have last : ⟨.engine .localDescription, .ok description⟩ ∉ later := by cases settles <;> simp
    rw [List.append_assoc] at split
    have free := behind (fun member => (List.mem_append.1 member).elim (unposted posts) last) split
    obtain ⟨_, wrong, -⟩ := posts.refused free.left
    cases wrong

/-- An offer that was sent on by the time at which the caller is cancelled goes no further. -/
theorem Creates.refused_behind (creates : Creates join exchange events outcome after)
    (split : events = early ++ ⟨.http request, progress⟩ :: late) (cancelled : AllCancelled late)
    (steady : progress.wakes.any id = false) (got : progress.result = .ok response)
    (redirect : response.isRedirect = true) : ∃ cause, outcome = .error cause ∧ Unposted cause := by
  have goes : ∀ {offer : String} {posting late : List Event} {ending : Except Error (Url × HttpResponse)},
      Posts join exchange (Text.utf8 offer) maxRedirects exchange.endpoint posting ending →
      offering offer ++ posting = early ++ ⟨.http request, progress⟩ :: late → AllCancelled late →
      ∃ cause, ending = .error cause ∧ Unposted cause := by
    intro offer posting late ending posts split cancelled
    obtain ⟨_, -, behind⟩ := split_behind split (by simp [offering])
    exact posts.refused_behind behind cancelled steady got redirect
  have made : ⟨.http request, progress⟩ ∈ events := by simp [split]
  cases creates with
  | occupied stored => cases made
  | unoffered vacant => simp at made
  | untold vacant => simp at made
  | oversized vacant large => simp [offering] at made
  | unposted vacant small posts =>
    obtain ⟨_, same, refused⟩ := goes posts split cancelled
    cases same
    exact ⟨_, rfl, refused⟩
  | @posted _ _ later _ _ _ _ vacant small posts settles =>
    have unasked : ⟨.http request, progress⟩ ∉ later := by cases settles <;> simp
    obtain ⟨_, here, rfl⟩ := split_before split unasked
    obtain ⟨_, wrong, -⟩ := goes posts here cancelled.left
    cases wrong

/-- A request that is given up ends the exchange, and nothing comes of it. -/
theorem Creates.abandoned (creates : Creates join exchange events outcome after)
    (made : ⟨.http request, progress⟩ ∈ events) (woken : progress.wakes.any id = true) :
    outcome = .error .cancelled ∧ (requested events).getLast? = some (request, progress) ∧ after.location = none ∧
      ∀ event ∈ events, ∀ kind text, event.call ≠ .engine (.setRemote kind text) := by
  obtain ⟨description, early, ending, -, posts, posted, failed, -⟩ := creates.requests made
  obtain ⟨rfl, last⟩ := posts.abandoned posted woken
  obtain ⟨rfl, rfl, vacant⟩ := failed _ rfl
  refine ⟨rfl, ?_, vacant, fun event member kind text same => ?_⟩
  · rw [requested_append, List.getLast?_append, last]
    rfl
  · rcases List.mem_append.1 member with offered | sent
    · rcases List.mem_cons.1 offered with rfl | told
      · cases same
      · rw [List.mem_singleton.1 told] at same
        cases same
    · have kind := posts.posting event sent
      rw [same] at kind
      cases kind

end Exchange
end WhipWhep
