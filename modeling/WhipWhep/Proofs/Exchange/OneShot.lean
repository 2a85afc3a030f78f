import Mathlib.Data.List.Induction
import WhipWhep.Proofs.Exchange.Lifetime

/-!
Whether an offer is made only once. After a creation that has succeeded, another one is refused exactly as
long as a location stands for the resource. A response of success need not give one: then the next creation
makes another offer, and what it creates is another resource.
-/

namespace WhipWhep.Exchange

variable {endpoint : Url} {token : Option String} {calls earlier later : List Called} {called : Called}
  {exchange after : Exchange} {events : List Event} {outcome : Except Error Unit}

/-- A creation fails at once: it asks for nothing and leaves everything as it is. -/
def Refuses (exchange : Exchange) : Prop := ∀ events outcome after,
  create.Runs exchange events outcome after ↔
    events = [] ∧ outcome = .error (.defect .resourceAlreadyCreated) ∧ after = exchange

/-- A creation has the engine make an offer, before anything else. -/
def Offers (exchange : Exchange) : Prop := ∀ events outcome after,
  create.Runs exchange events outcome after →
    ∃ made rest, events = ⟨.engine (.setLocal .offer), made⟩ :: rest

theorem Creates.offers {join : Joining} (vacant : exchange.location = none)
    (creates : Creates join exchange events outcome after) :
    ∃ made rest, events = ⟨.engine (.setLocal .offer), made⟩ :: rest := by
  cases creates with
  | occupied stored => simp [vacant] at stored
  | unoffered _ => exact ⟨_, _, rfl⟩
  | untold _ => exact ⟨_, _, rfl⟩
  | oversized _ large => exact ⟨_, _, rfl⟩
  | unposted _ small posts => exact ⟨_, _, rfl⟩
  | posted _ small posts settles => exact ⟨_, _, rfl⟩

/-- Where nothing is stored the engine may always be asked, and may always refuse. -/
theorem runs_create_unoffered (vacant : exchange.location = none) (cause : EngineError) :
    create.Runs exchange [⟨.engine (.setLocal .offer), .error cause⟩] (.error (.engine cause)) exchange := by
  unfold create createWith
  rw [Act.runs_get_bind, if_neg (by simp [vacant])]
  exact Act.runs_ask_bind.2 ⟨.error cause, [], rfl, Act.runs_fail_bind.2 ⟨rfl, rfl, rfl⟩⟩

theorem refuses_iff : exchange.Refuses ↔ exchange.location.isSome = true := by
  constructor
  · intro refuses
    cases vacant : exchange.location with
    | some location => rfl
    | none =>
      obtain ⟨wrong, -⟩ := (refuses _ _ _).1 (runs_create_unoffered vacant .invalid)
      cases wrong
  · intro stored events outcome after
    exact runs_create_occupied stored

theorem offers_iff : exchange.Offers ↔ exchange.location = none := by
  constructor
  · intro offers
    cases stored : exchange.location with
    | none => rfl
    | some location =>
      obtain ⟨_, _, wrong⟩ := offers _ _ _ ((runs_create_occupied (by rw [stored]; rfl)).2 ⟨rfl, rfl, rfl⟩)
      cases wrong
  · intro vacant events outcome after run
    exact (creates_of_runs run).offers vacant

/-! What a creation that succeeds has to do with the response that it received last. -/

/-- The last response was one of success, and a location is kept exactly if that response gave one. -/
structure Fulfilled (events : List Event) (response : HttpResponse) (after : Exchange) : Prop where
  received : EndsIn events response
  success : response.isSuccess = true
  kept : after.location.isSome = response.location.isSome

theorem locationOf_isSome {join : Joining} {target : Url} {response : HttpResponse} {location : Option Url}
    (located : locationOf join target response = .ok location) :
    location.isSome = response.location.isSome := by
  unfold locationOf at located
  cases given : response.location with
  | none =>
    rw [given] at located
    cases located
    rfl
  | some text =>
    rw [given] at located
    obtain ⟨_, -, rfl⟩ := map_eq_ok_iff.1 located
    rfl

theorem Creates.fulfilled {join : Joining} (creates : Creates join exchange events (.ok ()) after) :
    ∃ response, Fulfilled events response after := by
  generalize succeeded : (Except.ok () : Except Error Unit) = outcome at creates
  cases creates with
  | occupied stored => cases succeeded
  | unoffered _ => cases succeeded
  | untold _ => cases succeeded
  | oversized _ large => cases succeeded
  | unposted _ small posts => cases succeeded
  | @posted offer posted settled target response _ _ _ small posts settles =>
    have last : EndsIn (offering offer ++ posted ++ settled) response := by
      obtain ⟨request, progress, last, received⟩ := posts.endsIn _ _ rfl
      have quiet : requested settled = [] := by cases settles <;> rfl
      refine ⟨request, progress, ?_, received⟩
      rw [requested_append, requested_append, quiet, List.append_nil, List.getLast?_append, last]
      rfl
    cases settles with
    | rejected refused => cases succeeded
    | unlocated created astray => cases succeeded
    | unusable created located unfit => cases succeeded
    | applied created located fit result => exact ⟨response, last, created, locationOf_isSome located⟩

/-! Calls that delete nothing. -/

theorem history_concat : History endpoint token (calls ++ [called]) after ↔
    ∃ exchange, History endpoint token calls exchange ∧
      called.operation.act.Runs exchange called.events called.outcome after := by
  constructor
  · intro history
    generalize split : calls ++ [called] = all at history
    cases history with
    | start => simp at split
    | call history run =>
      obtain ⟨rfl, same⟩ := List.append_inj' split rfl
      cases same
      exact ⟨_, history, run⟩
  · rintro ⟨exchange, history, run⟩
    exact history.call run

/-- A call of a history was made of what the calls before it have left. -/
theorem History.until (history : History endpoint token (earlier ++ called :: later) exchange) :
    ∃ after, History endpoint token (earlier ++ [called]) after := by
  induction later using List.reverseRecOn generalizing exchange with
  | nil => exact ⟨_, history⟩
  | append_singleton later last ih =>
    rw [← List.cons_append, ← List.append_assoc] at history
    obtain ⟨before, history, -⟩ := history_concat.1 history
    exact ih history

/-- As long as nothing is deleted, what was captured stays, and every further call may capture. -/
theorem captured_append (undeleted : ∀ other ∈ later, other.operation ≠ .delete) :
    (∃ location, Captured (calls ++ later) location) ↔
      (∃ location, Captured calls location) ∨ ∃ other ∈ later, resources other.events ≠ [] := by
  -- A capture outlives the calls after it, so the calls are taken from the last one back.
  induction later using List.reverseRecOn with
  | nil => simp
  | append_singleton later last ih =>
    have kept : last.operation ≠ .delete := undeleted _ (by simp)
    have creates : last.operation = .create := by
      cases operation : last.operation with
      | create => rfl
      | delete => exact absurd operation kept
    have before := ih fun other member => undeleted other (List.mem_append_left _ member)
    calc (∃ location, Captured (calls ++ (later ++ [last])) location)
      _ ↔ (∃ location, location ∈ resources last.events) ∨ ∃ location, Captured (calls ++ later) location := by
        simp only [← List.append_assoc, captured_concat, creates, true_and, ne_eq, reduceCtorEq,
          not_false_eq_true, exists_or]
      _ ↔ _ := by
        have named : resources last.events ≠ [] ↔ ∃ location, location ∈ resources last.events := by
          simp [List.eq_nil_iff_forall_not_mem]
        rw [before, ← named]
        simp only [List.mem_append, List.mem_singleton, or_and_right, exists_or, exists_eq_left]
        rw [or_comm, or_assoc]

/-- What a creation that has succeeded means for the next one, after some more calls. -/
structure Once (called : Called) (later : List Called) (exchange : Exchange) (response : HttpResponse) :
    Prop where
  received : EndsIn called.events response
  success : response.isSuccess = true
  /-- Nothing more is offered exactly if this response gave a location, or a later one did. -/
  refuses : exchange.Refuses ↔
    response.location.isSome = true ∨ ∃ other ∈ later, resources other.events ≠ []
  offers : exchange.Offers ↔
    response.location = none ∧ ∀ other ∈ later, resources other.events = []

/-- After a creation has succeeded, and as long as nothing is deleted, another one is refused if a location
was given, and makes another offer if none was. -/
theorem creates_once_if_located (history : History endpoint token (earlier ++ called :: later) exchange)
    (creation : called.operation = .create) (succeeded : called.outcome = .ok ())
    (undeleted : ∀ other ∈ later, other.operation ≠ .delete) :
    ∃ response, Once called later exchange response := by
  obtain ⟨after, first⟩ := history.until
  obtain ⟨before, -, run⟩ := history_concat.1 first
  rw [creation, succeeded] at run
  obtain ⟨response, received, success, kept⟩ := (creates_of_runs run).fulfilled
  have stored : exchange.location.isSome = true ↔
      response.location.isSome = true ∨ ∃ other ∈ later, resources other.events ≠ [] :=
    calc exchange.location.isSome = true
      _ ↔ ∃ location, Captured (earlier ++ [called] ++ later) location := by
        rw [List.append_assoc]
        simp only [Option.isSome_iff_exists, (standing_of_history history).captured, List.singleton_append]
      _ ↔ (∃ location, Captured (earlier ++ [called]) location) ∨ ∃ other ∈ later, resources other.events ≠ [] :=
        captured_append undeleted
      _ ↔ _ := by
        rw [← kept]
        simp only [Option.isSome_iff_exists, (standing_of_history first).captured]
  refine ⟨response, received, success, refuses_iff.trans stored, offers_iff.trans ?_⟩
  rw [← Option.not_isSome_iff_eq_none, stored]
  simp

/-! A response of success without a location, and another offer that is taken somewhere. -/

def taken (location : Option String) : List Event :=
  offering "v=0" ++
    [⟨.host .isCancelled, false⟩,
      ⟨.http ((start atHome none).offerTo (Text.utf8 "v=0") atHome),
        ⟨[], .ok ⟨201, location, Text.utf8 "v=0"⟩⟩⟩,
      ⟨.engine (.setRemote .answer "v=0"), .ok ()⟩]

theorem runs_unlocated :
    Operation.create.act.Runs (start atHome none) (taken none) (.ok ()) (start atHome none) :=
  .call _ _ _ (.call _ _ _ (.call _ _ _ (.call _ _ _ (.call _ _ _ (.done _)))))

theorem creates_once_if_located_again :
    ∃ response, Once ⟨.create, taken none, .ok ()⟩ [⟨.create, taken (some "/b"), .ok ()⟩]
      { start atHome none with location := some nextDoor } response := by
  have again : Operation.create.act.Runs (start atHome none) (taken (some "/b")) (.ok ())
      { start atHome none with location := some nextDoor } :=
    .call _ _ _ (.call _ _ _ (.call _ _ _ (.call _ _ _ (.call _ _ _ (.done _)))))
  have history : History atHome none
      ([] ++ ⟨.create, taken none, .ok ()⟩ :: [⟨.create, taken (some "/b"), .ok ()⟩])
      { start atHome none with location := some nextDoor } :=
    (History.start.call runs_unlocated).call again
  exact creates_once_if_located history rfl rfl (by simp)

/-- One creation after the other succeeds, and each has posted an offer. -/
theorem creates_twice :
    History atHome none [⟨.create, taken none, .ok ()⟩] (start atHome none) ∧
      create.Runs (start atHome none) (taken none) (.ok ()) (start atHome none) ∧
      ¬ (start atHome none).Refuses := by
  refine ⟨History.start.call runs_unlocated, runs_unlocated, fun refuses => ?_⟩
  obtain ⟨quiet, -⟩ := (refuses _ _ _).1 runs_unlocated
  cases quiet

end WhipWhep.Exchange
