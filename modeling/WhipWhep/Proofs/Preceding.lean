import WhipWhep.Proofs.Run

/-!
What comes directly before what. A request may be made only where the event right before it lets it through.
An act of which every part heeds this heeds it as a whole.
-/

namespace WhipWhep

/-- Each request of a kind comes right after an event that lets it through. -/
def Preceded (guarded : Call → Bool) (lets : Event → Event → Prop) : Option Event → List Event → Prop
  | _, [] => True
  | last, event :: rest =>
    (guarded event.call = true → ∃ before ∈ last, lets before event) ∧ Preceded guarded lets (some event) rest

variable {guarded : Call → Bool} {lets : Event → Event → Prop} {last : Option Event} {events more : List Event}

/-- What needs nothing before it may follow on anything. -/
theorem Preceded.after_any (preceded : Preceded guarded lets none events) : Preceded guarded lets last events := by
  cases events with
  | nil => trivial
  | cons event rest =>
    refine ⟨fun kind => ?_, preceded.2⟩
    obtain ⟨_, nothing, -⟩ := preceded.1 kind
    cases nothing

theorem Preceded.append (first : Preceded guarded lets last events) (second : Preceded guarded lets none more) :
    Preceded guarded lets last (events ++ more) := by
  induction events generalizing last with
  | nil => exact second.after_any
  | cons event rest ih => exact ⟨first.1, ih first.2⟩

theorem preceded_of_free (free : ∀ event ∈ events, guarded event.call = false) :
    Preceded guarded lets last events := by
  induction events generalizing last with
  | nil => trivial
  | cons event rest ih =>
    obtain ⟨here, later⟩ := List.forall_mem_cons.1 free
    refine ⟨fun kind => ?_, ih later⟩
    cases here.symm.trans kind

theorem Preceded.at_each (preceded : Preceded guarded lets last events) {before after : List Event} {event : Event}
    (split : events = before ++ event :: after) (kind : guarded event.call = true) :
    ∃ previous ∈ before.getLast?.or last, lets previous event := by
  subst split
  induction before generalizing last with
  | nil => exact preceded.1 kind
  | cons first rest ih =>
    obtain ⟨previous, member, through⟩ := ih preceded.2
    have same : rest.getLast?.or (some first) = (first :: rest).getLast?.or last := by
      rw [List.getLast?_cons]
      cases rest.getLast? <;> rfl
    exact ⟨previous, same ▸ member, through⟩

/-- Where a list falls apart at an item that is not in its first part. -/
theorem split_behind {α : Type} {first second before after : List α} {item : α}
    (split : first ++ second = before ++ item :: after) (apart : item ∉ first) :
    ∃ between, before = first ++ between ∧ second = between ++ item :: after := by
  rcases List.append_eq_append_iff.1 split with found | ⟨between, rfl, rest⟩
  · exact found
  rcases between with - | ⟨head, others⟩
  · exact ⟨[], by simp, rest.symm⟩
  · obtain ⟨rfl, -⟩ := List.cons.inj rest
    simp at apart

theorem split_before {α : Type} {first second before after : List α} {item : α}
    (split : first ++ second = before ++ item :: after) (apart : item ∉ second) :
    ∃ between, first = before ++ item :: between ∧ after = between ++ second := by
  rcases List.append_eq_append_iff.1 split with ⟨between, -, rfl⟩ | ⟨between, rfl, rest⟩
  · simp at apart
  rcases between with - | ⟨head, others⟩
  · obtain rfl : _ = second := rest
    simp at apart
  · obtain ⟨rfl, rfl⟩ := List.cons.inj rest
    exact ⟨others, rfl, rfl⟩

theorem composes_preceded {σ : Type} :
    @Act.Composes σ fun _ events _ => Preceded guarded lets none events where
  refl _ := trivial
  trans first second := first.append second

end WhipWhep
