import WhipWhep.Proofs.Exchange.Resource
import WhipWhep.Proofs.Session.Opening

/-!
The order of an opening. What may be asked for is a matter of what has happened before: tracks are added
to a peer connection that is watched, the offer is made of all of them, it is posted as it was told, the
answer is applied as it was received, and only then is the connection waited for and read from.
-/

namespace WhipWhep

/-- The engine agrees to tell its states. -/
def watching : Event := ⟨.engine .watchStates, .ok ()⟩

/-- The engine has made an offer. -/
def offerMade : Event := ⟨.engine (.setLocal .offer), .ok ()⟩

/-- The engine has taken an answer. -/
def Applied (past : List Event) : Prop :=
  ∃ answer, ⟨.engine (.setRemote .answer answer), .ok ()⟩ ∈ past

/-- The local descriptions that the engine has told. -/
def descriptions (events : List Event) : List String :=
  events.filterMap fun
    | ⟨.engine .localDescription, .ok text⟩ => some text
    | _ => none

@[simp] theorem descriptions_append (first second : List Event) :
    descriptions (first ++ second) = descriptions first ++ descriptions second :=
  List.filterMap_append

/-- The requests to the endpoint, and how they went. -/
def requested (events : List Event) : List (HttpRequest × Progress) :=
  events.filterMap fun
    | ⟨.http request, progress⟩ => some (request, progress)
    | _ => none

@[simp] theorem requested_append (first second : List Event) :
    requested (first ++ second) = requested first ++ requested second :=
  List.filterMap_append

theorem requested_of_local {events : List Event} (stays : AllOf Call.isLocal events) : requested events = [] := by
  rw [requested, List.filterMap_eq_nil_iff]
  intro event member
  have kind := stays event member
  obtain ⟨call | request | call | call, answer⟩ := event <;> first | rfl | cases kind

/-- The last request was answered with success, by a response with this body. -/
def LastSucceeded (past : List Event) (body : Bytes) : Prop :=
  ∃ request progress response, (requested past).getLast? = some (request, progress) ∧
    request.method = .post ∧ progress.wakes.any id = false ∧ progress.result = .ok response ∧
    response.isSuccess = true ∧ response.body = body

/-- An event comes in its turn after those of the past. -/
def Event.InTurn (role : Role) (past : List Event) : Event → Prop
  -- No track is added before the states are told.
  | ⟨.engine (.addTrack _), _⟩ => watching ∈ past
  -- There is one offer, of all tracks.
  | ⟨.engine (.setLocal _), _⟩ =>
    added past = Context.mids role.tracks ∧ ∀ event ∈ past, ∀ kind, event.call ≠ .engine (.setLocal kind)
  -- What is posted is the offer, as the engine has told it.
  | ⟨.http request, _⟩ => request.method = .post →
    offerMade ∈ past ∧ ∃ offer, descriptions past = [offer] ∧ request.body = Text.utf8 offer
  -- There is one answer, and it is what came last from the endpoint.
  | ⟨.engine (.setRemote _ answer), _⟩ =>
    LastSucceeded past (Text.utf8 answer) ∧
      ∀ event ∈ past, ∀ kind text, event.call ≠ .engine (.setRemote kind text)
  -- Waiting begins with a look at the clock, which was looked at once before.
  | ⟨.host (.now _), _⟩ => (∀ event ∈ past, ∀ since, event.call ≠ .host (.now since)) ∨ Applied past
  | ⟨.host .connectionState, _⟩ => Applied past
  | ⟨.host (.sleep _ _), _⟩ => Applied past
  -- Nothing is read back before the connection was seen open.
  | ⟨.engine (.trackDescription _), _⟩ => seenOpen ∈ past
  | ⟨.layer (.openReader _ _), _⟩ => seenOpen ∈ past
  | _ => True

theorem inTurn_seenOpen {role : Role} {past : List Event} : seenOpen.InTurn role past ↔ Applied past :=
  Iff.rfl

/-- Each of the events comes in its turn. -/
def Orderly (role : Role) : List Event → List Event → Prop
  | _, [] => True
  | past, event :: rest => event.InTurn role past ∧ Orderly role (past ++ [event]) rest

variable {role : Role} {past events more : List Event}

theorem orderly_append :
    Orderly role past (events ++ more) ↔
      Orderly role past events ∧ Orderly role (past ++ events) more := by
  induction events generalizing past with
  | nil => simp [Orderly]
  | cons event rest ih => simp [Orderly, ih, and_assoc]

theorem Orderly.at_each (orderly : Orderly role past events) {before after : List Event} {event : Event}
    (split : events = before ++ event :: after) : event.InTurn role (past ++ before) := by
  rw [split, orderly_append] at orderly
  exact orderly.2.1

/-- Events of a kind that is in its turn from some point in the past on. -/
theorem orderly_of_kind {kind : Call → Bool} (all : AllOf kind events)
    (free : ∀ {event : Event} {later : List Event}, kind event.call = true →
      event.InTurn role (past ++ later)) : Orderly role past events := by
  have general : ∀ later, Orderly role (past ++ later) events := by
    induction events with
    | nil => exact fun _ => trivial
    | cons event rest ih =>
      intro later
      have others : AllOf kind rest := fun other member => all other (List.mem_cons_of_mem _ member)
      refine ⟨free (all event List.mem_cons_self), ?_⟩
      rw [List.append_assoc]
      exact ih others _
  simpa using general []

/-! Requests that are in their turn. -/

theorem inTurn_of_preparing {event : Event} (watched : watching ∈ past)
    (preparing : event.call.isPreparing = true) : event.InTurn role past := by
  obtain ⟨call | request | call | call, answer⟩ := event
  · cases call <;> first | exact watched | trivial
  · cases preparing
  · cases call <;> trivial
  · cases call <;> trivial

theorem inTurn_of_waiting {event : Event} (applied : Applied past)
    (waiting : event.call.isWaiting = true) : event.InTurn role past := by
  obtain ⟨call | request | call | call, answer⟩ := event
  · cases waiting
  · cases waiting
  · cases waiting
  · cases call <;> first | exact applied | exact .inr applied | trivial

theorem inTurn_of_working {event : Event} (watched : watching ∈ past) (applied : Applied past)
    (seen : seenOpen ∈ past) (working : event.call.isWorking = true) : event.InTurn role past := by
  obtain ⟨call | request | call | call, answer⟩ := event
  · cases call <;> first | exact watched | exact seen | trivial
  · cases working
  · cases call <;> first | exact seen | trivial
  · cases call <;> first | exact applied | exact .inr applied | trivial

theorem inTurn_of_releasing {event : Event} (releasing : event.call.isReleasing = true) :
    event.InTurn role past := by
  obtain ⟨call | request | call | call, answer⟩ := event
  · cases call <;> trivial
  · cases releasing
  · cases call <;> trivial
  · cases call <;> trivial

theorem Applied.later (applied : Applied past) (later : List Event) : Applied (past ++ later) := by
  obtain ⟨answer, member⟩ := applied
  exact ⟨answer, List.mem_append_left _ member⟩

/-! The exchange. -/

namespace Exchange

variable {exchange after : Exchange} {target : Url} {offer : String}

/-- One request carries what the engine has told. -/
theorem Posting.orderly {outcome : Except Error HttpResponse} (made : offerMade ∈ past)
    (told : descriptions past = [offer])
    (posting : Posting exchange (Text.utf8 offer) target events outcome) :
    Orderly role past events ∧ descriptions events = [] := by
  have carries : ∀ {request progress}, exchange.request .post target (Text.utf8 offer) = .ok request →
      Orderly role past [⟨.host .isCancelled, false⟩, ⟨.http request, progress⟩] := by
    intro request progress fit
    obtain ⟨-, -, body, -⟩ := of_request fit
    refine ⟨trivial, fun _ => ⟨List.mem_append_left _ made, offer, ?_, body⟩, trivial⟩
    rw [descriptions_append, told]
    rfl
  cases posting with
  | unsendable unfit => exact ⟨trivial, rfl⟩
  | cancelled fit => exact ⟨⟨trivial, trivial⟩, rfl⟩
  | abandoned fit woken => exact ⟨carries fit, rfl⟩
  | ended fit steady => exact ⟨carries fit, rfl⟩

theorem Posts.orderly {remaining : Nat} {outcome : Except Error (Url × HttpResponse)} {join : Joining}
    (made : offerMade ∈ past) (told : descriptions past = [offer])
    (posts : Posts join exchange (Text.utf8 offer) remaining target events outcome) :
    Orderly role past events ∧ descriptions events = [] := by
  induction posts generalizing past with
  | failed posted => exact posted.orderly made told
  | answered posted final => exact posted.orderly made told
  | endless posted redirect => exact posted.orderly made told
  | lost posted redirect astray => exact posted.orderly made told
  | @followed _ _ _ early _ _ _ posted redirect found rest ih =>
    have ⟨first, quiet⟩ : Orderly role past early ∧ descriptions early = [] :=
      posted.orderly made told
    have still : descriptions (past ++ early) = [offer] := by
      rw [descriptions_append, told, quiet]
      rfl
    obtain ⟨second, silent⟩ := ih (List.mem_append_left _ made) still
    refine ⟨orderly_append.2 ⟨first, second⟩, ?_⟩
    rw [descriptions_append, quiet, silent]
    rfl

/-- The last request of an exchange was answered, and the answer is what the exchange goes by. -/
def EndsIn (events : List Event) (response : HttpResponse) : Prop :=
  ∃ request progress, (requested events).getLast? = some (request, progress) ∧
    request.method = .post ∧ progress.wakes.any id = false ∧ progress.result = .ok response

theorem Posting.endsIn {offer : Bytes} {outcome : Except Error HttpResponse}
    (posting : Posting exchange offer target events outcome) :
    ∀ response, outcome = .ok response → EndsIn events response := by
  intro response got
  cases posting with
  | unsendable unfit => cases got
  | cancelled fit => cases got
  | abandoned fit woken => cases got
  | @ended request fit progress steady =>
    obtain ⟨method, -⟩ := of_request fit
    cases answered : progress.result with
    | error reason =>
      rw [answered] at got
      cases got
    | ok other =>
      rw [answered] at got
      cases got
      exact ⟨request, progress, rfl, method, steady, answered⟩

theorem Posts.endsIn {offer : Bytes} {remaining : Nat} {outcome : Except Error (Url × HttpResponse)}
    {join : Joining} (posts : Posts join exchange offer remaining target events outcome) :
    ∀ final response, outcome = .ok (final, response) → EndsIn events response := by
  induction posts with
  | failed posted => exact nofun
  | answered posted final =>
    rintro _ _ ⟨⟩
    exact posted.endsIn _ rfl
  | endless posted redirect => exact nofun
  | lost posted redirect astray => exact nofun
  | followed posted redirect found rest ih =>
    intro final response got
    obtain ⟨request, progress, last, made⟩ := ih final response got
    refine ⟨request, progress, ?_, made⟩
    rw [requested_append, List.getLast?_append, last]
    rfl

theorem answerOf_ok {body : Bytes} {answer : String} (fit : answerOf body = .ok answer) :
    body = Text.utf8 answer := by
  unfold answerOf at fit
  cases sized : Sdp.checkSize body.length with
  | error cause =>
    rw [sized] at fit
    cases fit
  | ok _ =>
    rw [sized] at fit
    by_cases empty : body.isEmpty = true
    · simp only [empty, if_true] at fit
      cases fit
    · cases decoded : Text.ofUtf8? body with
      | none => simp [empty, decoded, demand, bind, Except.bind] at fit
      | some text =>
        simp only [empty, decoded, demand, bind, Except.bind] at fit
        cases fit
        exact (Text.utf8_of_ofUtf8? decoded).symm

end Exchange

/-- The requests of a session that has not made its offer. -/
def Call.isUnoffered : Call → Bool
  | .engine (.setLocal _) => false
  | .engine .localDescription => false
  | .engine (.setRemote _ _) => false
  | _ => true

theorem descriptions_of_unoffered (unoffered : AllOf Call.isUnoffered events) :
    descriptions events = [] := by
  rw [descriptions, List.filterMap_eq_nil_iff]
  intro event member
  have kind := unoffered event member
  obtain ⟨call | request | call | call, answer⟩ := event
  · cases call <;> first | rfl | cases kind
  · rfl
  · rfl
  · rfl

theorem unoffered_of_preparing {call : Call} (preparing : call.isPreparing = true) :
    call.isUnoffered = true := by
  unfold Call.isUnoffered
  split <;> first | rfl | cases preparing

namespace Exchange

variable {exchange after : Exchange} {join : Joining} {outcome : Except Error Unit}

/-- The answer is applied as it was received, in its turn. -/
theorem Settles.orderly {target : Url} {response : HttpResponse}
    (ends : EndsIn past response)
    (unanswered : ∀ event ∈ past, ∀ kind text, event.call ≠ .engine (.setRemote kind text))
    (settles : Settles join exchange target response events outcome after) :
    Orderly role past events ∧ (outcome = .ok () → Applied (past ++ events)) := by
  cases settles with
  | rejected refused => exact ⟨trivial, nofun⟩
  | unlocated created astray => exact ⟨trivial, nofun⟩
  | unusable created located unfit => exact ⟨trivial, nofun⟩
  | @applied location answer created located fit result =>
    obtain ⟨request, progress, last, method, steady, answered⟩ := ends
    refine ⟨⟨⟨?_, unanswered⟩, trivial⟩, fun fine => ?_⟩
    · exact ⟨request, progress, response, last, method, steady, answered, created, answerOf_ok fit⟩
    · rcases result with cause | ⟨⟩
      · cases fine
      · exact ⟨answer, List.mem_append_right _ (List.mem_singleton_self _)⟩

/-- Until the offer is answered nothing has been applied. -/
theorem Posts.unanswered {offer : String} {target : Url} {remaining : Nat}
    {ending : Except Error (Url × HttpResponse)} (unoffered : AllOf Call.isUnoffered past)
    (posts : Posts join exchange (Text.utf8 offer) remaining target events ending) :
    ∀ event ∈ past ++ (offering offer ++ events), ∀ kind text,
      event.call ≠ .engine (.setRemote kind text) := by
  intro event member kind text same
  rcases List.mem_append.1 member with before | here
  · have known := unoffered event before
    rw [same] at known
    cases known
  rcases List.mem_append.1 here with offered | posted
  · rcases List.mem_cons.1 offered with rfl | next
    · cases same
    · rw [List.mem_singleton.1 next] at same
      cases same
  · have known := posts.posting event posted
    rw [same] at known
    cases known

theorem Creates.orderly (all : added past = Context.mids role.tracks)
    (unoffered : AllOf Call.isUnoffered past)
    (creates : Creates join exchange events outcome after) :
    Orderly role past events ∧ (outcome = .ok () → Applied (past ++ events)) := by
  have first : ∀ {answer}, Event.InTurn role past ⟨.engine (.setLocal .offer), answer⟩ := by
    refine ⟨all, fun event member kind same => ?_⟩
    have before := unoffered event member
    rw [same] at before
    cases before
  have offers : ∀ {offer}, Orderly role past (offering offer) := ⟨first, trivial, trivial⟩
  have told : ∀ {offer}, descriptions (past ++ offering offer) = [offer] := by
    intro offer
    rw [descriptions_append, descriptions_of_unoffered unoffered]
    rfl
  have made : ∀ {offer}, offerMade ∈ past ++ offering offer :=
    List.mem_append_right _ List.mem_cons_self
  cases creates with
  | occupied stored => exact ⟨trivial, nofun⟩
  | unoffered vacant => exact ⟨⟨first, trivial⟩, nofun⟩
  | untold vacant => exact ⟨⟨first, trivial, trivial⟩, nofun⟩
  | oversized vacant large => exact ⟨offers, nofun⟩
  | unposted vacant small posts =>
    exact ⟨orderly_append.2 ⟨offers, (posts.orderly made told).1⟩, nofun⟩
  | @posted offer early later target response _ _ vacant small posts settles =>
    have ends : EndsIn (past ++ (offering offer ++ early)) response := by
      obtain ⟨request, progress, last, others⟩ := posts.endsIn _ _ rfl
      refine ⟨request, progress, ?_, others⟩
      rw [requested_append, requested_append, List.getLast?_append, List.getLast?_append, last]
      rfl
    have last : Orderly role (past ++ (offering offer ++ early)) later ∧
        (outcome = .ok () → Applied (past ++ (offering offer ++ early) ++ later)) :=
      settles.orderly ends (posts.unanswered unoffered)
    refine ⟨orderly_append.2 ⟨orderly_append.2 ⟨offers, (posts.orderly made told).1⟩, last.1⟩, ?_⟩
    rw [← List.append_assoc]
    exact last.2

end Exchange

/-! The stages of an opening. -/

namespace Context

variable {context after : Context}

theorem Begins.orderly (role : Role) {config : ClientConfig} {count : Nat}
    (begins : Begins config count events context) :
    Orderly role [] events ∧ watching ∈ events ∧ added events = [] ∧
      AllOf Call.isUnoffered events := by
  cases begins with
  | begun valid bits started =>
    refine ⟨⟨trivial, trivial, trivial, trivial, .inl ?_, trivial⟩, by simp [watching], rfl, ?_⟩
    · simp
    · simp [AllOf, Call.isUnoffered]

theorem Fails.orderly {config : ClientConfig} {building closing : List Event} {cause : Error}
    (fails : Fails config building closing cause) : Orderly role [] (building ++ closing) := by
  cases fails with
  | invalid refused => exact trivial
  | uncreated valid => exact ⟨trivial, trivial, trivial⟩
  | unwatched valid => exact ⟨trivial, trivial, trivial, trivial, trivial⟩

theorem Finishes.orderly {outcome : Except Error Unit} (watched : watching ∈ past)
    (applied : Applied past) (finishes : Finishes context events outcome after) :
    Orderly role past events ∧ (outcome = .ok () → seenOpen ∈ events) := by
  have waits : ∀ {first middle}, Uses Call.isWaiting context first middle → Orderly role past first :=
    fun waiting => orderly_of_kind waiting.ofKind fun kind => inTurn_of_waiting (applied.later _) kind
  cases finishes with
  | unconnected waiting => exact ⟨waits waiting, nofun⟩
  | @connected first second _ _ _ waiting seen reading =>
    have reads : Orderly role (past ++ first) second := orderly_of_kind reading.ofKind fun kind =>
      inTurn_of_working (List.mem_append_left _ (List.mem_append_left _ watched))
        ((applied.later _).later _) (List.mem_append_left _ (List.mem_append_right _ seen)) kind
    exact ⟨orderly_append.2 ⟨waits waiting, reads⟩, fun _ => List.mem_append_left _ seen⟩

theorem SetUp.orderly {outcome : Except Error Unit} (watched : watching ∈ past)
    (empty : added past = []) (unoffered : AllOf Call.isUnoffered past)
    (sets : SetUp role.tracks context events outcome after) :
    Orderly role past events ∧ (outcome = .ok () → seenOpen ∈ events) := by
  have prepares : ∀ {first middle}, Uses Call.isPreparing context first middle →
      Orderly role past first ∧ AllOf Call.isUnoffered (past ++ first) := by
    intro first middle preparing
    refine ⟨?_, unoffered.append (preparing.ofKind.weaken unoffered_of_preparing)⟩
    exact orderly_of_kind preparing.ofKind fun kind =>
      inTurn_of_preparing (List.mem_append_left _ watched) kind
  have counted : ∀ {first}, added first = mids role.tracks → added (past ++ first) = mids role.tracks := by
    intro first all
    rw [added_append, empty, all]
    rfl
  cases sets with
  | unprepared preparing => exact ⟨(prepares preparing).1, nofun⟩
  | uncreated preparing all creates =>
    obtain ⟨first, still⟩ := prepares preparing
    exact ⟨orderly_append.2 ⟨first, (creates.orderly (counted all) still).1⟩, nofun⟩
  | @created early second third _ _ _ _ preparing all creates finishes =>
    obtain ⟨first, still⟩ := prepares preparing
    obtain ⟨exchanged, applied⟩ := creates.orderly (counted all) still
    have watchedStill : watching ∈ past ++ early ++ second :=
      List.mem_append_left _ (List.mem_append_left _ watched)
    have last : Orderly role (past ++ early ++ second) third ∧ (outcome = .ok () → seenOpen ∈ third) :=
      finishes.orderly watchedStill (applied rfl)
    rw [List.append_assoc past] at last
    refine ⟨orderly_append.2 ⟨orderly_append.2 ⟨first, exchanged⟩, last.1⟩, fun fine => ?_⟩
    exact List.mem_append_right _ (last.2 fine)

theorem Closes.orderly (closes : Closes context events after) : Orderly role past events := by
  obtain ⟨deleting, releasing, rfl, deletes, releases⟩ := closes.course
  rw [orderly_append]
  constructor
  · cases deletes with
    | absent vacant => exact trivial
    | unsendable stored unfit => exact trivial
    | sent stored fit progress =>
      obtain ⟨method, -⟩ := Exchange.of_request fit
      refine ⟨fun posted => ?_, trivial⟩
      rw [method] at posted
      cases posted
  · cases releases with
    | absent closed => exact trivial
    | released up uses bare =>
      exact orderly_append.2 ⟨orderly_of_kind uses.ofKind inTurn_of_releasing, trivial, trivial⟩

end Context

namespace Client

variable {config : ClientConfig} {outcome : Except Error Client}

theorem Opens.orderly (opens : Opens role config events outcome) :
    Orderly role [] events ∧ ∀ client, outcome = .ok client → seenOpen ∈ events := by
  cases opens with
  | unfit refused => exact ⟨trivial, fun _ wrong => by cases wrong⟩
  | unbegun fit fails => exact ⟨fails.orderly, fun _ wrong => by cases wrong⟩
  | unopened fit begins sets closes =>
    obtain ⟨-, up⟩ := begins.accounts
    obtain ⟨beginning, watched, empty, unoffered⟩ := begins.orderly role
    obtain ⟨setting, -⟩ := (sets.setUp up).orderly watched empty unoffered
    refine ⟨orderly_append.2 ⟨orderly_append.2 ⟨beginning, setting⟩, closes.orderly⟩, ?_⟩
    exact fun _ wrong => by cases wrong
  | opened fit begins sets =>
    obtain ⟨-, up⟩ := begins.accounts
    obtain ⟨beginning, watched, empty, unoffered⟩ := begins.orderly role
    obtain ⟨setting, seen⟩ := (sets.setUp up).orderly watched empty unoffered
    exact ⟨orderly_append.2 ⟨beginning, setting⟩, fun _ _ => List.mem_append_right _ (seen rfl)⟩

/-- What is said of the order in which an opening asks for things. -/
structure InOrder (role : Role) (events : List Event) (outcome : Except Error Client) : Prop where
  /-- Everything is asked for in its turn. -/
  inTurn : ∀ before event after, events = before ++ event :: after → event.InTurn role before
  /-- A session that is open was seen connected after the answer had been applied. -/
  connected : ∀ client, outcome = .ok client →
    ∃ before after, events = before ++ seenOpen :: after ∧ Applied before

/-- Whatever is answered, an opening asks for everything in its turn. -/
theorem openSession_in_order (run : (openSession role config).Runs () events outcome ()) :
    InOrder role events outcome := by
  obtain ⟨orderly, seen⟩ := (opens_of_runs run).orderly
  have inTurn : ∀ before event after, events = before ++ event :: after →
      event.InTurn role before := by
    intro before event after split
    have turn := orderly.at_each split
    rwa [List.nil_append] at turn
  refine ⟨inTurn, fun client opened => ?_⟩
  obtain ⟨before, after, split⟩ := List.append_of_mem (seen client opened)
  exact ⟨before, after, split, inTurn_seenOpen.1 (inTurn before _ after split)⟩

theorem openSession_in_order_unanswered :
    InOrder .egress Unanswered.whole (.error (.signaling .emptyAnswer)) :=
  openSession_in_order Unanswered.runs

end Client
end WhipWhep
