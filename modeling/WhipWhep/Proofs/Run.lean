import WhipWhep.Capability.Act

/-!
Runs. A run of an act is what it asked, what it was answered, how it came out and what it left behind.
Two runs of one script that were answered alike are the same run, and a run of two acts in a row is a
run of the first, followed by a run of the second unless the first has failed. An act that panics has no
run: what it asked until then is told apart.
-/

namespace WhipWhep

namespace Script

variable {α β : Type}

theorem yields_done_iff {result other : α} {events : List Event} :
    Yields (.done result) events other ↔ events = [] ∧ other = result := by
  constructor
  · intro run
    cases run
    exact ⟨rfl, rfl⟩
  · rintro ⟨rfl, rfl⟩
    exact .done _

theorem yields_call_iff {request : Call} {next : request.Answer → Script α} {events : List Event}
    {result : α} :
    Yields (.call request next) events result ↔
      ∃ answer rest, events = ⟨request, answer⟩ :: rest ∧ Yields (next answer) rest result := by
  constructor
  · intro run
    cases run with
    | call _ _ answer rest => exact ⟨answer, _, rfl, rest⟩
  · rintro ⟨answer, rest, rfl, run⟩
    exact .call _ _ answer run

theorem yields_assert_iff {holds : Bool} {next : Script α} {events : List Event} {result : α} :
    Yields (.assert holds next) events result ↔ holds = true ∧ Yields next events result := by
  constructor
  · intro run
    cases run with
    | assert _ rest => exact ⟨rfl, rest⟩
  · rintro ⟨rfl, run⟩
    exact .assert _ run

theorem yields_bind_iff {script : Script α} {next : α → Script β} {events : List Event}
    {result : β} :
    Yields (script.bind next) events result ↔
      ∃ first middle second, events = first ++ second ∧ Yields script first middle ∧
        Yields (next middle) second result := by
  induction script generalizing events with
  | done value =>
    simp only [bind, yields_done_iff]
    constructor
    · intro run
      exact ⟨[], value, events, rfl, ⟨rfl, rfl⟩, run⟩
    · rintro ⟨_, _, second, rfl, ⟨rfl, rfl⟩, run⟩
      exact run
  | call request answered ih =>
    simp only [bind, yields_call_iff, ih]
    constructor
    · rintro ⟨answer, _, rfl, first, middle, second, rfl, run, rest⟩
      exact ⟨⟨request, answer⟩ :: first, middle, second, rfl, ⟨answer, first, rfl, run⟩, rest⟩
    · rintro ⟨_, middle, second, rfl, ⟨answer, first, rfl, run⟩, rest⟩
      exact ⟨answer, first ++ second, rfl, first, middle, second, rfl, run, rest⟩
  | assert holds onward ih =>
    simp only [bind, yields_assert_iff, ih]
    constructor
    · rintro ⟨rfl, first, middle, second, rfl, run, rest⟩
      exact ⟨first, middle, second, rfl, ⟨rfl, run⟩, rest⟩
    · rintro ⟨first, middle, second, rfl, ⟨rfl, run⟩, rest⟩
      exact ⟨rfl, first, middle, second, rfl, run, rest⟩

/-- Where two runs of a script part, they were answered differently. -/
theorem Yields.unique {script : Script α} {first second : List Event} {result other : α}
    (run : Yields script first result) (again : Yields script second other) {rest more : List Event}
    (alike : first ++ rest = second ++ more) : first = second ∧ result = other := by
  induction run generalizing second with
  | done result =>
    obtain ⟨rfl, rfl⟩ := yields_done_iff.1 again
    exact ⟨rfl, rfl⟩
  | call request next answer _ ih =>
    obtain ⟨answer', tail, rfl, tailRun⟩ := yields_call_iff.1 again
    simp only [List.cons_append, List.cons.injEq, Event.mk.injEq, heq_eq_eq, true_and] at alike
    obtain ⟨rfl, alike⟩ := alike
    obtain ⟨rfl, rfl⟩ := ih tailRun alike
    exact ⟨rfl, rfl⟩
  | assert next _ ih => exact ih (yields_assert_iff.1 again).2 alike

/-! Panics. -/

/-- To whoever catches panics a script gives the results that it gives to anyone. -/
theorem yields_caught_iff {script : Script α} {events : List Event} {result : α} :
    Yields script.caught events (some result) ↔ Yields script events result := by
  induction script generalizing events with
  | done value => simp [caught, yields_done_iff]
  | call request next ih => simp only [caught, yields_call_iff, ih]
  | assert holds next ih =>
    rw [yields_assert_iff]
    cases holds with
    | true => simp only [caught, ih, true_and]
    | false => simp [caught, yields_done_iff]

theorem caught_bind (script : Script α) (next : α → Script β) :
    (script.bind next).caught = script.caught.bind fun
      | some result => (next result).caught
      | none => .done none := by
  induction script with
  | done result => rfl
  | call request answered ih => simp only [bind, caught, ih]
  | assert holds onward ih =>
    cases holds with
    | true => exact ih
    | false => rfl

theorem not_panics_done {result : α} {events : List Event} : ¬ (done result).Panics events := by
  intro panics
  cases (yields_done_iff.1 panics).2

theorem panics_call_iff {request : Call} {next : request.Answer → Script α} {events : List Event} :
    (call request next).Panics events ↔ ∃ answer rest, events = ⟨request, answer⟩ :: rest ∧ (next answer).Panics rest :=
  yields_call_iff

theorem panics_assert_iff {holds : Bool} {next : Script α} {events : List Event} :
    (assert holds next).Panics events ↔ holds = false ∧ events = [] ∨ holds = true ∧ next.Panics events := by
  cases holds with
  | true => simp [Panics, caught]
  | false => simp [Panics, caught, yields_done_iff]

theorem panics_bind_iff {script : Script α} {next : α → Script β} {events : List Event} :
    (script.bind next).Panics events ↔ script.Panics events ∨
      ∃ first middle second, events = first ++ second ∧ Yields script first middle ∧ (next middle).Panics second := by
  rw [Panics, caught_bind, yields_bind_iff]
  constructor
  · rintro ⟨first, middle, second, rfl, run, rest⟩
    cases middle with
    | none =>
      obtain ⟨rfl, -⟩ := yields_done_iff.1 rest
      exact .inl (by rwa [List.append_nil])
    | some result => exact .inr ⟨first, result, second, rfl, yields_caught_iff.1 run, rest⟩
  · rintro (panics | ⟨first, middle, second, rfl, run, rest⟩)
    · exact ⟨events, none, [], (List.append_nil _).symm, panics, .done _⟩
    · exact ⟨first, some middle, second, rfl, yields_caught_iff.2 run, rest⟩

end Script

/-- Every request among events is of a kind, however it is answered. -/
def AllOf (kind : Call → Bool) (events : List Event) : Prop := ∀ event ∈ events, kind event.call = true

namespace AllOf

variable {kind : Call → Bool} {events : List Event}

theorem nil : AllOf kind [] := by
  intro event member
  cases member

theorem single {request : Call} (allowed : kind request = true) (answer : request.Answer) :
    AllOf kind [⟨request, answer⟩] := by
  intro event member
  rw [List.mem_singleton.1 member]
  exact allowed

theorem append {more : List Event} (first : AllOf kind events) (second : AllOf kind more) :
    AllOf kind (events ++ more) := by
  intro event member
  rcases List.mem_append.1 member with early | late
  · exact first event early
  · exact second event late

theorem weaken {wider : Call → Bool} (all : AllOf kind events)
    (wide : ∀ {call : Call}, kind call = true → wider call = true) : AllOf wider events :=
  fun event member => wide (all event member)

/-- Events of no kind at all are no events. -/
theorem eq_nil (never : AllOf (fun _ => false) events) : events = [] := by
  cases events with
  | nil => rfl
  | cons event rest => cases never event List.mem_cons_self

end AllOf

namespace Act

variable {σ τ α β : Type}

/-- An act started in a state can come out in a way through a sequence of answered requests. -/
def Runs (act : Act σ α) (state : σ) (events : List Event) (outcome : Except Error α)
    (after : σ) : Prop :=
  Script.Yields (act state) events (outcome, after)

variable {state after : σ} {events : List Event}

theorem runs_pure {result : α} {outcome : Except Error α} :
    (pure result : Act σ α).Runs state events outcome after ↔
      events = [] ∧ outcome = .ok result ∧ after = state := by
  show Script.Yields (.done (Except.ok result, state)) _ _ ↔ _
  rw [Script.yields_done_iff, Prod.mk.injEq]

theorem runs_fail {cause : Error} {outcome : Except Error α} :
    (fail cause : Act σ α).Runs state events outcome after ↔
      events = [] ∧ outcome = .error cause ∧ after = state := by
  show Script.Yields (.done (Except.error cause, state)) _ _ ↔ _
  rw [Script.yields_done_iff, Prod.mk.injEq]

theorem runs_get {outcome : Except Error σ} :
    (get : Act σ σ).Runs state events outcome after ↔
      events = [] ∧ outcome = .ok state ∧ after = state := by
  show Script.Yields (.done (Except.ok state, state)) _ _ ↔ _
  rw [Script.yields_done_iff, Prod.mk.injEq]

theorem runs_modify {change : σ → σ} {outcome : Except Error Unit} :
    (modify change).Runs state events outcome after ↔
      events = [] ∧ outcome = .ok () ∧ after = change state := by
  show Script.Yields (.done (Except.ok (), change state)) _ _ ↔ _
  rw [Script.yields_done_iff, Prod.mk.injEq]

theorem runs_ask {request : Call} {outcome : Except Error request.Answer} :
    (ask request : Act σ request.Answer).Runs state events outcome after ↔
      ∃ answer, events = [⟨request, answer⟩] ∧ outcome = .ok answer ∧ after = state := by
  show Script.Yields (.call request fun answer => .done (Except.ok answer, state)) _ _ ↔ _
  rw [Script.yields_call_iff]
  constructor
  · rintro ⟨answer, rest, rfl, run⟩
    obtain ⟨rfl, same⟩ := Script.yields_done_iff.1 run
    obtain ⟨rfl, rfl⟩ := Prod.mk.inj same
    exact ⟨answer, rfl, rfl, rfl⟩
  · rintro ⟨answer, rfl, rfl, rfl⟩
    exact ⟨answer, [], rfl, .done _⟩

theorem runs_settle {settled outcome : Except Error α} :
    (settle settled : Act σ α).Runs state events outcome after ↔
      events = [] ∧ outcome = settled ∧ after = state := by
  cases settled with
  | ok result => exact runs_pure
  | error cause => exact runs_fail

theorem runs_granted {answer : Except EngineError α} {outcome : Except Error α} :
    (granted answer : Act σ α).Runs state events outcome after ↔
      events = [] ∧ outcome = answer.mapError Error.engine ∧ after = state := by
  cases answer with
  | ok result => exact runs_pure
  | error cause => exact runs_fail

theorem runs_bind {act : Act σ α} {next : α → Act σ β} {outcome : Except Error β} :
    (act >>= next).Runs state events outcome after ↔
      (∃ cause, outcome = .error cause ∧ act.Runs state events (.error cause) after) ∨
      ∃ first result middle second, events = first ++ second ∧
        act.Runs state first (.ok result) middle ∧ (next result).Runs middle second outcome after := by
  show Script.Yields ((act state).bind _) _ _ ↔ _
  rw [Script.yields_bind_iff]
  constructor
  · rintro ⟨first, ⟨(cause | result), middle⟩, second, rfl, run, rest⟩
    · obtain ⟨rfl, same⟩ := Script.yields_done_iff.1 rest
      obtain ⟨rfl, rfl⟩ := Prod.mk.inj same
      exact .inl ⟨cause, rfl, by rwa [List.append_nil]⟩
    · exact .inr ⟨first, result, middle, second, rfl, run, rest⟩
  · rintro (⟨cause, rfl, run⟩ | ⟨first, result, middle, second, rfl, run, rest⟩)
    · exact ⟨events, (.error cause, after), [], by simp, run, .done _⟩
    · exact ⟨first, (.ok result, middle), second, rfl, run, rest⟩

/-! What is no request, or a single one, at the head of a run. -/

section Head

variable {outcome : Except Error β}

theorem runs_pure_bind {result : α} {next : α → Act σ β} :
    ((pure result : Act σ α) >>= next).Runs state events outcome after ↔
      (next result).Runs state events outcome after :=
  Iff.rfl

theorem runs_get_bind {next : σ → Act σ β} :
    (get >>= next).Runs state events outcome after ↔
      (next state).Runs state events outcome after :=
  Iff.rfl

theorem runs_modify_bind {change : σ → σ} {next : Unit → Act σ β} :
    (modify change >>= next).Runs state events outcome after ↔
      (next ()).Runs (change state) events outcome after :=
  Iff.rfl

theorem runs_fail_bind {cause : Error} {next : α → Act σ β} :
    ((fail cause : Act σ α) >>= next).Runs state events outcome after ↔
      events = [] ∧ outcome = .error cause ∧ after = state :=
  runs_fail

theorem runs_settle_bind {settled : Except Error α} {next : α → Act σ β} :
    (settle settled >>= next).Runs state events outcome after ↔
      match settled with
      | .ok result => (next result).Runs state events outcome after
      | .error cause => events = [] ∧ outcome = .error cause ∧ after = state := by
  cases settled with
  | ok result => exact Iff.rfl
  | error cause => exact runs_fail_bind

theorem runs_granted_bind {answer : Except EngineError α} {next : α → Act σ β} :
    (granted answer >>= next).Runs state events outcome after ↔
      match answer with
      | .ok result => (next result).Runs state events outcome after
      | .error cause => events = [] ∧ outcome = .error (.engine cause) ∧ after = state := by
  cases answer with
  | ok result => exact Iff.rfl
  | error cause => exact runs_fail_bind

theorem runs_assert_bind {condition : Prop} [Decidable condition] {next : Unit → Act σ β} :
    (assert condition >>= next).Runs state events outcome after ↔
      condition ∧ (next ()).Runs state events outcome after := by
  refine Iff.trans Script.yields_assert_iff ?_
  rw [decide_eq_true_iff]
  exact Iff.rfl

theorem runs_ask_bind {request : Call} {next : request.Answer → Act σ β} :
    (ask request >>= next).Runs state events outcome after ↔
      ∃ answer rest, events = ⟨request, answer⟩ :: rest ∧
        (next answer).Runs state rest outcome after :=
  Script.yields_call_iff

end Head

theorem runs_attempt {act : Act σ α} {outcome : Except Error (Except Error α)} :
    act.attempt.Runs state events outcome after ↔
      ∃ inner, outcome = .ok inner ∧ act.Runs state events inner after := by
  show Script.Yields ((act state).bind _) _ _ ↔ _
  rw [Script.yields_bind_iff]
  constructor
  · rintro ⟨first, ⟨inner, middle⟩, second, rfl, run, rest⟩
    obtain ⟨rfl, same⟩ := Script.yields_done_iff.1 rest
    obtain ⟨rfl, rfl⟩ := Prod.mk.inj same
    exact ⟨inner, rfl, by rwa [List.append_nil]⟩
  · rintro ⟨inner, rfl, run⟩
    exact ⟨events, (inner, after), [], by simp, run, .done _⟩

theorem runs_attempt_bind {act : Act σ α} {next : Except Error α → Act σ β}
    {outcome : Except Error β} :
    (act.attempt >>= next).Runs state events outcome after ↔
      ∃ first inner middle second, events = first ++ second ∧ act.Runs state first inner middle ∧
        (next inner).Runs middle second outcome after := by
  rw [runs_bind]
  constructor
  · rintro (⟨_, -, failed⟩ | ⟨first, _, middle, second, rfl, tried, onward⟩)
    · obtain ⟨_, wrong, -⟩ := runs_attempt.1 failed
      cases wrong
    · obtain ⟨inner, same, run⟩ := runs_attempt.1 tried
      cases same
      exact ⟨first, _, middle, second, rfl, run, onward⟩
  · rintro ⟨first, inner, middle, second, rfl, run, onward⟩
    exact .inr ⟨first, inner, middle, second, rfl, runs_attempt.2 ⟨inner, rfl, run⟩, onward⟩

theorem runs_within {part : σ → τ} {put : τ → σ → σ} {act : Act τ α} {outcome : Except Error α} :
    (act.within part put).Runs state events outcome after ↔
      ∃ inner, after = put inner state ∧ act.Runs (part state) events outcome inner := by
  show Script.Yields ((act (part state)).bind _) _ _ ↔ _
  rw [Script.yields_bind_iff]
  constructor
  · rintro ⟨first, ⟨result, inner⟩, second, rfl, run, rest⟩
    obtain ⟨rfl, same⟩ := Script.yields_done_iff.1 rest
    obtain ⟨rfl, rfl⟩ := Prod.mk.inj same
    exact ⟨inner, rfl, by rwa [List.append_nil]⟩
  · rintro ⟨inner, rfl, run⟩
    exact ⟨events, (outcome, inner), [], by simp, run, .done _⟩

/-- What is found in the place of a part is the state that the act has left there. -/
theorem runs_part {part : σ → τ} {put : τ → σ → σ} {act : Act τ α} {outcome : Except Error α}
    (found : ∀ inner, part (put inner state) = inner)
    (run : (act.within part put).Runs state events outcome after) :
    act.Runs (part state) events outcome (part after) := by
  obtain ⟨inner, rfl, inside⟩ := runs_within.1 run
  rw [found]
  exact inside

/-- A relation of the states before and after to the events between that holds of a whole if it holds
of its parts. -/
structure Composes (relation : σ → List Event → σ → Prop) : Prop where
  refl : ∀ state, relation state [] state
  trans : ∀ {state middle after first second}, relation state first middle →
    relation middle second after → relation state (first ++ second) after

/-- The same relation between larger states. -/
theorem Composes.along {relation : σ → List Event → σ → Prop} (composes : Composes relation)
    (part : τ → σ) :
    Composes fun before events after => relation (part before) events (part after) where
  refl _ := composes.refl _
  trans := composes.trans

/-- Every run of an act from a state is in a relation. -/
def Keeps (relation : σ → List Event → σ → Prop) (act : Act σ α) (state : σ) : Prop :=
  ∀ events outcome after, act.Runs state events outcome after → relation state events after

section Keeps

variable {relation : σ → List Event → σ → Prop}

theorem keeps_pure (composes : Composes relation) {result : α} :
    (pure result : Act σ α).Keeps relation state := by
  intro events outcome after run
  obtain ⟨rfl, -, rfl⟩ := runs_pure.1 run
  exact composes.refl _

theorem keeps_fail (composes : Composes relation) {cause : Error} :
    (fail cause : Act σ α).Keeps relation state := by
  intro events outcome after run
  obtain ⟨rfl, -, rfl⟩ := runs_fail.1 run
  exact composes.refl _

theorem keeps_get (composes : Composes relation) : (get : Act σ σ).Keeps relation state := by
  intro events outcome after run
  obtain ⟨rfl, -, rfl⟩ := runs_get.1 run
  exact composes.refl _

theorem keeps_settle (composes : Composes relation) {settled : Except Error α} :
    (settle settled : Act σ α).Keeps relation state := by
  intro events outcome after run
  obtain ⟨rfl, -, rfl⟩ := runs_settle.1 run
  exact composes.refl _

theorem keeps_granted (composes : Composes relation) {answer : Except EngineError α} :
    (granted answer : Act σ α).Keeps relation state := by
  intro events outcome after run
  obtain ⟨rfl, -, rfl⟩ := runs_granted.1 run
  exact composes.refl _

theorem keeps_modify {change : σ → σ} (kept : relation state [] (change state)) :
    (modify change).Keeps relation state := by
  intro events outcome after run
  obtain ⟨rfl, -, rfl⟩ := runs_modify.1 run
  exact kept

theorem keeps_ask {request : Call} (kept : ∀ answer, relation state [⟨request, answer⟩] state) :
    (ask request : Act σ request.Answer).Keeps relation state := by
  intro events outcome after run
  obtain ⟨answer, rfl, -, rfl⟩ := runs_ask.1 run
  exact kept answer

theorem keeps_bind (composes : Composes relation) {act : Act σ α} {next : α → Act σ β}
    (first : act.Keeps relation state)
    (second : ∀ {events result middle}, act.Runs state events (.ok result) middle →
      (next result).Keeps relation middle) :
    (act >>= next).Keeps relation state := by
  intro events outcome after run
  rcases runs_bind.1 run with ⟨_, -, failed⟩ | ⟨_, result, _, _, rfl, passed, onward⟩
  · exact first _ _ _ failed
  · exact composes.trans (first _ _ _ passed) (second passed _ _ _ onward)

theorem keeps_attempt {act : Act σ α} (kept : act.Keeps relation state) :
    act.attempt.Keeps relation state := by
  intro events outcome after run
  obtain ⟨_, -, inside⟩ := runs_attempt.1 run
  exact kept _ _ _ inside

/-- An act on a part of the state keeps of the whole what it keeps of that part. -/
theorem keeps_within {inner : τ → List Event → τ → Prop} {part : σ → τ} {put : τ → σ → σ}
    {act : Act τ α} (found : ∀ inner, part (put inner state) = inner)
    (kept : act.Keeps inner (part state)) :
    (act.within part put).Keeps (fun before events after => inner (part before) events (part after))
      state := by
  intro events outcome after run
  exact kept _ _ _ (runs_part found run)

/-- A change beside a part of the state is none to that part. -/
theorem keeps_beside {inner : τ → List Event → τ → Prop} (composes : Composes inner) {part : σ → τ}
    {change : σ → σ} (same : part (change state) = part state) :
    (modify change).Keeps (fun before events after => inner (part before) events (part after)) state := by
  apply keeps_modify
  rw [same]
  exact composes.refl _

theorem keeps_forM (composes : Composes relation) {items : List β} {act : β → Act σ PUnit}
    (kept : ∀ item ∈ items, ∀ state, (act item).Keeps relation state) :
    (items.forM act).Keeps relation state := by
  induction items generalizing state with
  | nil => exact keeps_pure composes
  | cons item rest ih =>
    refine keeps_bind composes (kept item List.mem_cons_self state) fun _ => ?_
    exact ih fun other member => kept other (List.mem_cons_of_mem _ member)

end Keeps

/-- Every request of a run is of a kind. -/
def OfKind (kind : Call → Bool) : σ → List Event → σ → Prop := fun _ events _ => AllOf kind events

theorem composes_ofKind (kind : Call → Bool) : @Composes σ (OfKind kind) where
  refl _ := AllOf.nil
  trans first second := AllOf.append first second

/-- A part of the state stays as it is, whatever is asked for. -/
theorem composes_same (part : σ → τ) :
    Composes fun (before : σ) (_ : List Event) (after : σ) => part after = part before where
  refl _ := rfl
  trans first second := second.trans first

/-- Nothing is asked for and nothing changes. -/
def Still : σ → List Event → σ → Prop := fun before events after => events = [] ∧ after = before

theorem composes_still : @Composes σ Still where
  refl _ := ⟨rfl, rfl⟩
  trans := by
    rintro _ _ _ _ _ ⟨rfl, rfl⟩ ⟨rfl, rfl⟩
    exact ⟨rfl, rfl⟩

end Act
end WhipWhep
