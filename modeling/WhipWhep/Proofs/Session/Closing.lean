import WhipWhep.Proofs.Exchange.Course
import WhipWhep.Proofs.Session.Working

/-!
Closing. First the remote resource is deleted, if there is one, and then the tracks and the peer
connection are released, whatever came of the deletion.
-/

namespace WhipWhep

namespace Exchange

variable {exchange : Exchange} {events : List Event}

theorem Deletes.fresh (deletes : Deletes exchange events) : Fresh events := by
  cases deletes with
  | absent vacant => exact fresh_nil
  | unsendable stored unfit => exact fresh_nil
  | sent stored fit progress => exact fresh_cons rfl

theorem Deletes.neutral (deletes : Deletes exchange events) : AllOf Call.isNeutral events := by
  cases deletes with
  | absent vacant => exact .nil
  | unsendable stored unfit => exact .nil
  | sent stored fit progress => exact .single rfl _

end Exchange

namespace Context

variable {context after : Context} {events : List Event}

/-- What is done to a session at its end, once its resource is taken care of. -/
inductive Releases (context : Context) : List Event → Context → Prop where
  | absent (closed : context.hasPeer = false) : Releases context [] context
  | released {events : List Event} {registry : Registry} (up : context.hasPeer = true)
      (uses : Registry.Uses Call.isReleasing context.registry events registry)
      (bare : registry.allocated = 0) :
      Releases context (events ++ [⟨.engine .close, ()⟩])
        { context with registry := registry, hasPeer := false }

theorem releases_of_runs {outcome : Except Error Unit} (run : release.Runs context events outcome after) :
    outcome = .ok () ∧ Releases context events after := by
  unfold release at run
  rw [Act.runs_get_bind] at run
  cases up : context.hasPeer with
  | false =>
    rw [if_neg (by simp [up])] at run
    obtain ⟨rfl, rfl, rfl⟩ := Act.runs_pure.1 run
    exact ⟨rfl, .absent up⟩
  | true =>
    rw [if_pos up] at run
    rcases Act.runs_bind.1 run with ⟨_, -, failed⟩ | ⟨_, _, _, _, rfl, released, onward⟩
    · obtain ⟨_, -, inside⟩ := Act.runs_within.1 failed
      obtain ⟨wrong, -⟩ := Registry.release_lets inside
      cases wrong
    obtain ⟨registry, rfl, inside⟩ := Act.runs_within.1 released
    obtain ⟨-, uses, bare⟩ := Registry.release_lets inside
    obtain ⟨_, _, rfl, last⟩ := Act.runs_ask_bind.1 onward
    obtain ⟨rfl, rfl, rfl⟩ := Act.runs_modify.1 last
    exact ⟨rfl, .released up uses bare⟩

/-- The end of a session: the request that deletes the resource, and then what releases the rest. -/
structure Closes (context : Context) (events : List Event) (after : Context) : Prop where
  course : ∃ deleting releasing, events = deleting ++ releasing ∧
    context.exchange.Deletes deleting ∧
    Releases { context with exchange := { context.exchange with location := none } } releasing after

theorem closes_of_runs {outcome : Except Error Unit} (run : close.Runs context events outcome after) :
    outcome = .ok () ∧ Closes context events after := by
  unfold close at run
  obtain ⟨deleting, inner, middle, releasing, rfl, tried, onward⟩ := Act.runs_attempt_bind.1 run
  obtain ⟨_, rfl, inside⟩ := Act.runs_within.1 tried
  obtain ⟨deletes, rfl⟩ := Exchange.deletes_of_runs inside
  obtain ⟨rfl, releases⟩ := releases_of_runs onward
  exact ⟨rfl, ⟨deleting, releasing, rfl, deletes, releases⟩⟩

theorem debts_of_closed (closed : context.hasPeer = false) (bare : context.registry.allocated = 0) :
    context.debts = [] := by
  rw [debts, Registry.debts_of_unallocated bare, closed]
  rfl

theorem Releases.accounts (releases : Releases context events after) :
    Accounts context.debts events after.debts := by
  cases releases with
  | absent closed => exact accounts_nil _
  | @released events registry up uses bare =>
    have settled : { context with registry := registry, hasPeer := false }.debts = [] :=
      debts_of_closed rfl bare
    rw [settled]
    have tracks : Accounts context.debts events [.engine .close] := by
      refine uses.accounts.beside fun call => ?_
      rw [Registry.debts_of_unallocated bare, debts, if_pos up, List.count_append]
      simp only [List.count_nil]
      omega
    exact tracks.append (accounts_return rfl [])

theorem Closes.accounts (closes : Closes context events after) :
    Accounts context.debts events after.debts := by
  obtain ⟨deleting, releasing, rfl, deletes, releases⟩ := closes.course
  exact (accounts_of_neutral deletes.fresh deletes.neutral _).append releases.accounts

/-- After its end a session has no peer connection, nothing on its tracks and no remote resource. -/
theorem Closes.bare (closes : Closes context events after) :
    after.hasPeer = false ∧ after.exchange.location = none ∧
      (context.hasPeer = true → after.registry.allocated = 0) := by
  obtain ⟨deleting, releasing, rfl, deletes, releases⟩ := closes.course
  cases releases with
  | absent closed =>
    refine ⟨closed, rfl, fun up => ?_⟩
    rw [show context.hasPeer = false from closed] at up
    cases up
  | released up uses bare => exact ⟨rfl, rfl, fun _ => bare⟩

end Context
end WhipWhep
