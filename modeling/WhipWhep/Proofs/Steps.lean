import WhipWhep.Proofs.Run

/-!
Steps. An act that is made of steps fails exactly where one of them fails that comes after steps which
all succeeded, and its error is the error of that step. Where the whole succeeds, each step has succeeded.
-/

namespace WhipWhep

theorem bind_eq_ok_iff {ε α β : Type} {tried : Except ε α} {next : α → Except ε β} {result : β} :
    (tried >>= next) = .ok result ↔ ∃ middle, tried = .ok middle ∧ next middle = .ok result := by
  cases tried with
  | error cause => simp [bind, Except.bind]
  | ok middle => simp [bind, Except.bind]

theorem map_eq_ok_iff {ε α β : Type} {tried : Except ε α} {next : α → β} {result : β} :
    tried.map next = .ok result ↔ ∃ middle, tried = .ok middle ∧ result = next middle := by
  cases tried with
  | error cause => simp [Except.map]
  | ok middle => simp [Except.map, eq_comm]

theorem mapError_eq_ok_iff {ε δ α : Type} {tried : Except ε α} {name : ε → δ} {result : α} :
    tried.mapError name = .ok result ↔ tried = .ok result := by
  cases tried with
  | error cause => exact ⟨nofun, nofun⟩
  | ok middle =>
    constructor
    · rintro ⟨⟩
      rfl
    · rintro ⟨⟩
      rfl

/-- What is done for each item in turn succeeds for each of them. -/
theorem forM_eq_ok {ε α : Type} {items : List α} {act : α → Except ε PUnit} (fine : items.forM act = .ok ()) :
    ∀ item ∈ items, act item = .ok () := by
  induction items with
  | nil => exact nofun
  | cons item items ih =>
    obtain ⟨_, first, rest⟩ := bind_eq_ok_iff.1 fine
    exact List.forall_mem_cons.2 ⟨first, ih rest⟩

/-- A traversal is refused by the first item that is, and does not get beyond it. -/
theorem forM_eq_error_iff {ε α : Type} {items : List α} {act : α → Except ε PUnit} {cause : ε} :
    items.forM act = .error cause ↔ ∃ before item after, items = before ++ item :: after ∧
      (∀ other ∈ before, act other = .ok ()) ∧ act item = .error cause := by
  induction items with
  | nil => simp [pure, Except.pure]
  | cons head rest ih =>
    show (act head >>= fun _ => rest.forM act) = .error cause ↔ _
    cases tried : act head with
    | error given =>
      constructor
      · rintro ⟨⟩
        exact ⟨[], head, rest, rfl, List.forall_mem_nil _, tried⟩
      · rintro ⟨before, item, after, split, passed, failed⟩
        cases before with
        | nil =>
          obtain ⟨rfl, rfl⟩ := List.cons.inj split
          exact tried.symm.trans failed
        | cons other before =>
          obtain ⟨rfl, -⟩ := List.cons.inj split
          cases tried.symm.trans (passed head List.mem_cons_self)
    | ok done =>
      refine Iff.trans ih ⟨?_, ?_⟩
      · rintro ⟨before, item, after, rfl, passed, failed⟩
        exact ⟨head :: before, item, after, rfl, List.forall_mem_cons.2 ⟨tried, passed⟩, failed⟩
      · rintro ⟨before, item, after, split, passed, failed⟩
        cases before with
        | nil =>
          obtain ⟨rfl, rfl⟩ := List.cons.inj split
          cases tried.symm.trans failed
        | cons other before =>
          obtain ⟨rfl, rfl⟩ := List.cons.inj split
          exact ⟨before, item, after, rfl, (List.forall_mem_cons.1 passed).2, failed⟩

theorem demand_eq_ok_iff {ε α : Type} {cause : ε} {value : Option α} {result : α} :
    demand cause value = .ok result ↔ value = some result := by
  cases value <;> simp [demand]

theorem demand_eq_error_iff {ε α : Type} {cause : ε} {value : Option α} :
    demand cause value = .error cause ↔ value = none := by
  cases value <;> simp [demand]

namespace Act

variable {σ α β γ : Type}

theorem bind_assoc (act : Act σ α) (first : α → Act σ β) (second : β → Act σ γ) :
    (act >>= first) >>= second = act >>= fun result => first result >>= second := by
  funext state
  show ((act state).bind _).bind _ = (act state).bind _
  rw [Script.bind_assoc]
  congr 1
  funext answered
  obtain ⟨outcome, after⟩ := answered
  cases outcome <;> rfl

theorem bind_pure (act : Act σ α) : act >>= pure = act := by
  funext state
  show (act state).bind _ = act state
  refine (congrArg (act state).bind (funext fun answered => ?_)).trans (Script.bind_done _)
  obtain ⟨outcome, after⟩ := answered
  cases outcome <;> rfl

/-- A run that succeeds is one of two acts in a row that succeed. -/
theorem runs_bind_ok {act : Act σ α} {next : α → Act σ β} {state after : σ}
    {events : List Event} {result : β} (run : (act >>= next).Runs state events (.ok result) after) :
    ∃ first value middle second, events = first ++ second ∧ act.Runs state first (.ok value) middle ∧
      (next value).Runs middle second (.ok result) after := by
  rcases runs_bind.1 run with ⟨_, wrong, -⟩ | both
  · cases wrong
  · exact both

/-- What an act comes to may be left aside. -/
theorem runs_void {act : Act σ α} {state after : σ} {events : List Event} {outcome : Except Error Unit}
    (run : (do let _ ← act : Act σ Unit).Runs state events outcome after) :
    ∃ inner : Except Error α, outcome = inner.map (fun _ => ()) ∧ act.Runs state events inner after := by
  rcases runs_bind.1 run with ⟨cause, rfl, failed⟩ | ⟨_, result, _, _, rfl, passed, onward⟩
  · exact ⟨.error cause, rfl, failed⟩
  · obtain ⟨rfl, rfl, rfl⟩ := runs_pure.1 onward
    rw [List.append_nil]
    exact ⟨.ok result, rfl, passed⟩

theorem keeps_void {relation : σ → List Event → σ → Prop} {act : Act σ α} {state : σ}
    (kept : act.Keeps relation state) : (do let _ ← act : Act σ Unit).Keeps relation state := by
  intro events outcome after run
  obtain ⟨_, -, inside⟩ := runs_void run
  exact kept _ _ _ inside

/-- What each of several acts keeps if it succeeds is kept by all of them. -/
theorem forM_ok (invariant : σ → Prop) {items : List α} {act : α → Act σ PUnit}
    (kept : ∀ {item state events after}, invariant state → (act item).Runs state events (.ok ()) after →
      invariant after) {state after : σ} {events : List Event} (start : invariant state)
    (run : (items.forM act).Runs state events (.ok ()) after) : invariant after := by
  induction items generalizing state events with
  | nil =>
    obtain ⟨-, -, rfl⟩ := runs_pure.1 run
    exact start
  | cons item rest ih =>
    obtain ⟨_, _, _, _, rfl, first, onward⟩ := runs_bind_ok run
    exact ih (kept start first) onward

instance : LawfulMonad (Act σ) :=
  LawfulMonad.mk' (Act σ) bind_pure (fun _ _ => rfl) bind_assoc

end Act

/-- Steps one after the other. What the earlier ones come to is known to the later ones. -/
inductive Steps (σ : Type) : Type 1 where
  | done
  | step {α : Type} (act : Act σ α) (next : α → Steps σ)

namespace Steps

variable {σ : Type}

/-- The steps as one act. -/
def act : Steps σ → Act σ Unit
  | done => pure ()
  | step first next => do (next (← first)).act

/-- The steps for each of some items, and then others. -/
def each {β : Type} (steps : β → Steps σ → Steps σ) (items : List β) (rest : Steps σ) : Steps σ :=
  items.foldr steps rest

theorem act_each {β : Type} {steps : β → Steps σ → Steps σ} {perform : β → Act σ PUnit}
    (same : ∀ item rest, (steps item rest).act = perform item >>= fun _ => rest.act)
    (items : List β) (rest : Steps σ) :
    (each steps items rest).act = items.forM perform >>= fun _ => rest.act := by
  induction items with
  | nil => rfl
  | cons item items ih =>
    calc (steps item (each steps items rest)).act
      _ = perform item >>= fun _ => (each steps items rest).act := same _ _
      _ = perform item >>= fun _ => items.forM perform >>= fun _ => rest.act := by rw [ih]
      _ = (item :: items).forM perform >>= fun _ => rest.act := (Act.bind_assoc _ _ _).symm

/-- All steps up to one succeed, and that one fails. -/
inductive Stops : Steps σ → σ → List Event → Error → σ → Prop where
  | here {α : Type} {first : Act σ α} {next : α → Steps σ} {state after : σ} {events : List Event}
      {cause : Error} (failed : first.Runs state events (.error cause) after) :
      Stops (step first next) state events cause after
  | later {α : Type} {first : Act σ α} {next : α → Steps σ} {state middle after : σ}
      {early late : List Event} {result : α} {cause : Error}
      (passed : first.Runs state early (.ok result) middle)
      (rest : Stops (next result) middle late cause after) :
      Stops (step first next) state (early ++ late) cause after

/-- Steps fail as the first of them that fails. -/
theorem stops_iff {steps : Steps σ} {state after : σ} {events : List Event} {cause : Error} :
    steps.act.Runs state events (.error cause) after ↔ steps.Stops state events cause after := by
  constructor
  · intro run
    induction steps generalizing state events with
    | done =>
      obtain ⟨-, wrong, -⟩ := Act.runs_pure.1 run
      cases wrong
    | step first next ih =>
      rcases Act.runs_bind.1 run with ⟨_, same, failed⟩ | ⟨_, result, _, _, rfl, passed, onward⟩
      · cases same
        exact .here failed
      · exact .later passed (ih result onward)
  · intro stops
    induction stops with
    | here failed => exact Act.runs_bind.2 (.inl ⟨_, rfl, failed⟩)
    | later passed rest ih => exact Act.runs_bind.2 (.inr ⟨_, _, _, _, rfl, passed, ih⟩)

end Steps
end WhipWhep
