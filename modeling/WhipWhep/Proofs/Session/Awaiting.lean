import WhipWhep.Proofs.Session.Weaving
import WhipWhep.Proofs.Track.Refusing

/-!
Waiting for the connection while the caller may be cancelled. After each look at the connection that settles
nothing the caller is looked at, so one who is cancelled waits for one more look at most.
-/

namespace WhipWhep

variable {α β σ : Type} {events early late : List Event}

/-- The states that the connection was seen in. -/
def polls (events : List Event) : List ConnectionState :=
  events.filterMap fun
    | ⟨.host .connectionState, reported⟩ => some reported
    | _ => none

@[simp] theorem polls_append (first second : List Event) : polls (first ++ second) = polls first ++ polls second :=
  List.filterMap_append

theorem unseen_of_unpolled (reported : ConnectionState) (unpolled : polls events = []) :
    ⟨.host .connectionState, reported⟩ ∉ events := fun member => by
  cases List.filterMap_eq_nil_iff.1 unpolled _ member

theorem polls_of_unpolled (unpolled : AllOf Call.isUnpolled events) : polls events = [] := by
  refine List.filterMap_eq_nil_iff.2 fun event member => ?_
  have kind := unpolled event member
  obtain ⟨call | request | call | call, answer⟩ := event
  · rfl
  · rfl
  · rfl
  · cases call <;> first | rfl | cases kind

theorem unpolled_of_relayed {call : Call} (relayed : call.isRelayed = true) : call.isUnpolled = true := by
  unfold Call.isUnpolled
  split
  · cases relayed
  · rfl

theorem unpolled_of_releasing {call : Call} (releasing : call.isReleasing = true) : call.isUnpolled = true := by
  unfold Call.isUnpolled
  split
  · cases releasing
  · rfl

theorem unpolled_of_posting {call : Call} (posting : call.isPosting = true) : call.isUnpolled = true := by
  unfold Call.isUnpolled
  split
  · cases posting
  · rfl

theorem Woven.unpolled (woven : Woven Call.isUnpolled events) : polls events = [] := by
  refine polls_of_unpolled ?_
  induction woven with
  | nil => exact .nil
  | single allowed free woven ih => exact List.forall_mem_cons.2 ⟨allowed, ih⟩
  | played plays woven ih => exact (AllOf.weaken (Relay.keeps_play _ _ _ plays) unpolled_of_relayed).append ih
  | posted allowed posting woven ih => exact (posting.posting.weaken unpolled_of_posting).append ih

/-- A look at the connection for a caller who turns out to be cancelled is the last one. Unless it is decisive the
wait is given up. -/
def Awaits (events : List Event) (outcome : Except Error α) : Prop :=
  ∀ before reported after, events = before ++ ⟨.host .connectionState, reported⟩ :: after → AllCancelled after →
    polls after = [] ∧ ∀ cause, (Wait.verdict reported).getD (.error .cancelled) = .error cause →
      outcome = .error cause

theorem awaits_of_unpolled {outcome : Except Error α} (unpolled : polls events = []) : Awaits events outcome := by
  intro before reported after split
  exact absurd (by simp [split]) (unseen_of_unpolled reported unpolled)

theorem Awaits.behind {outcome : Except Error α} (unpolled : polls early = []) (awaits : Awaits late outcome) :
    Awaits (early ++ late) outcome := by
  intro before reported after split
  obtain ⟨between, -, rest⟩ := split_behind split (unseen_of_unpolled reported unpolled)
  exact awaits between reported after rest

theorem Awaits.before {first : Except Error α} {outcome : Except Error β} (awaits : Awaits early first)
    (unpolled : polls late = []) (onward : ∀ cause, first = .error cause → outcome = .error cause) :
    Awaits (early ++ late) outcome := by
  intro before reported after split cancelled
  obtain ⟨between, rest, rfl⟩ := split_before split (unseen_of_unpolled reported unpolled)
  obtain ⟨last, decides⟩ := awaits before reported between rest cancelled.left
  rw [polls_append, last, unpolled]
  exact ⟨rfl, fun cause same => onward cause (decides cause same)⟩

/-- The last look, and what it has come to. -/
theorem awaits_decided {reported : ConnectionState} {outcome : Except Error α} (unpolled : polls late = [])
    (decides : ∀ cause, (Wait.verdict reported).getD (.error .cancelled) = .error cause → outcome = .error cause) :
    Awaits (⟨.host .connectionState, reported⟩ :: late) outcome := by
  intro before found after split cancelled
  rcases before with - | ⟨polled, others⟩
  · cases split
    exact ⟨unpolled, decides⟩
  · obtain ⟨-, rfl⟩ := List.cons.inj split
    exact absurd (by simp) (unseen_of_unpolled found unpolled)

/-- A look that has settled nothing for a caller who was not cancelled. -/
theorem Awaits.again {reported : ConnectionState} {outcome : Except Error α} (awaits : Awaits late outcome) :
    Awaits (⟨.host .connectionState, reported⟩ :: lookedFree :: late) outcome := by
  intro before found after split cancelled
  rcases before with - | ⟨polled, others⟩
  · cases split
    cases cancelled false List.mem_cons_self
  · obtain ⟨-, rest⟩ := List.cons.inj split
    have looked : polls [lookedFree] = [] := rfl
    exact awaits.behind looked others found after rest cancelled

namespace Wait

variable {state after : σ} {outcome : Except Error Unit}

theorem untilDeadline_awaits {timeout deadline clock : Nat}
    (run : (untilDeadline timeout deadline clock).Runs state events outcome after) : Awaits events outcome := by
  induction clock using untilDeadline.induct deadline generalizing events with
  | _ clock ih =>
    rw [untilDeadline] at run
    obtain ⟨reported, _, rfl, looked⟩ := Act.runs_ask_bind.1 run
    cases said : verdict reported with
    | some settled =>
      simp only [said] at looked
      obtain ⟨rfl, rfl, -⟩ := Act.runs_settle.1 looked
      exact awaits_decided rfl fun cause same => by rwa [said] at same
    | none =>
      simp only [said, isCancelled] at looked
      obtain ⟨stopped, _, rfl, onward⟩ := Act.runs_ask_bind.1 looked
      cases stopped with
      | true =>
        obtain ⟨rfl, rfl, -⟩ := Act.runs_fail.1 onward
        exact awaits_decided rfl fun cause same => by rwa [said] at same
      | false =>
        obtain ⟨time, _, rfl, timed⟩ := Act.runs_ask_bind.1 onward
        by_cases past : deadline < time.val
        · rw [dif_pos past] at timed
          obtain ⟨rfl, rfl, -⟩ := Act.runs_fail.1 timed
          exact (awaits_of_unpolled rfl).again
        · rw [dif_neg past] at timed
          obtain ⟨later, rest, rfl, slept⟩ := Act.runs_ask_bind.1 timed
          have paused : polls [⟨.host (.now clock), time⟩, ⟨.host (.sleep time.val pause), later⟩] = [] := rfl
          exact ((ih time past later slept).behind paused).again

theorem connected_awaits {timeout : Nat} (run : (connected timeout).Runs state events outcome after) :
    Awaits events outcome := by
  obtain ⟨start, rest, rfl, -, waits⟩ := runs_connected.1 run
  have read : polls [⟨.host (.now 0), start⟩] = [] := rfl
  exact (untilDeadline_awaits waits).behind read

end Wait

namespace Context

variable {context after : Context}

theorem waitConnected_awaits {outcome : Except Error Unit} (run : waitConnected.Runs context events outcome after) :
    Awaits events outcome := by
  unfold waitConnected at run
  rw [Act.runs_get_bind] at run
  rcases Act.runs_bind.1 run with ⟨cause, rfl, failed⟩ | ⟨_, _, _, _, rfl, waited, onward⟩
  · exact Wait.connected_awaits failed
  · rw [Act.runs_get_bind] at onward
    obtain ⟨now, _, rfl, timed⟩ := Act.runs_ask_bind.1 onward
    obtain ⟨rfl, -, -⟩ := Act.runs_modify.1 timed
    exact (Wait.connected_awaits waited).before rfl nofun

end Context

/-- Nothing but the wait itself looks at the connection. -/
theorem awaits_setup {prepare create wait : Act σ Unit} (finish : Act σ Unit) {state after : σ}
    {outcome : Except Error Unit}
    (prepares : ∀ state, prepare.Keeps (Weaves Call.isUnpolled) state)
    (creates : ∀ state, create.Keeps (Weaves Call.isUnpolled) state)
    (waits : ∀ {state events outcome after}, wait.Runs state events outcome after → Awaits events outcome)
    (finishes : ∀ state, finish.Keeps (Weaves Call.isUnpolled) state)
    (run : (do prepare; create; wait; finish : Act σ Unit).Runs state events outcome after) :
    Awaits events outcome := by
  rcases Act.runs_bind.1 run with ⟨_, -, failed⟩ | ⟨_, _, _, _, rfl, prepared, onward⟩
  · exact awaits_of_unpolled (prepares _ _ _ _ failed).unpolled
  refine Awaits.behind (prepares _ _ _ _ prepared).unpolled ?_
  rcases Act.runs_bind.1 onward with ⟨_, -, failed⟩ | ⟨_, _, _, _, rfl, created, waiting⟩
  · exact awaits_of_unpolled (creates _ _ _ _ failed).unpolled
  refine Awaits.behind (creates _ _ _ _ created).unpolled ?_
  rcases Act.runs_bind.1 waiting with ⟨_, rfl, failed⟩ | ⟨_, _, _, _, rfl, waited, finishing⟩
  · exact waits failed
  · exact (waits waited).before (finishes _ _ _ _ finishing).unpolled nofun

theorem Publisher.setup_awaits {publisher after : Publisher} {outcome : Except Error Unit}
    (run : Publisher.setup.Runs publisher events outcome after) : Awaits events outcome := by
  unfold Publisher.setup at run
  rw [Act.runs_get_bind, ← Act.bind_pure (onContext Context.waitConnected)] at run
  refine awaits_setup (pure ()) (fun state => ?_)
    (fun _ => weaves_onContext fun _ => Context.weaves_createResource)
    (fun waits => Context.waitConnected_awaits (runs_onContext waits)) (fun _ => Act.keeps_pure composes_weaves) run
  exact Act.keeps_forM composes_weaves fun _ _ _ => weaves_addStream

theorem Player.setup_awaits {player after : Player} {outcome : Except Error Unit}
    (run : Player.setup.Runs player events outcome after) : Awaits events outcome := by
  refine awaits_setup _ (fun state => ?_) (fun _ => weaves_onContext fun _ => Context.weaves_createResource)
    (fun waits => Context.waitConnected_awaits (runs_onContext waits)) (fun state => ?_) run
  · exact Act.keeps_forM composes_weaves fun _ _ _ => weaves_offerTrack
  · exact Act.keeps_forM composes_weaves fun _ _ _ => weaves_openReader

/-- A session that is closed does not look at the connection. -/
theorem Context.Closes.unpolled {context after : Context} (closes : Context.Closes context events after) :
    polls events = [] := by
  obtain ⟨deleting, releasing, rfl, deletes, releases⟩ := closes.course
  have quiet : polls deleting = [] := by
    cases deletes with
    | absent vacant => rfl
    | unsendable stored unfit => rfl
    | sent stored fit progress => rfl
  rw [polls_append, quiet]
  cases releases with
  | absent closed => rfl
  | released up uses bare =>
    rw [polls_append, polls_of_unpolled (uses.ofKind.weaken unpolled_of_releasing)]
    rfl

theorem Client.Opens.awaits {role : Role} {config : ClientConfig} {outcome : Except Error Client}
    (opens : Opens role config events outcome) : Awaits events outcome := by
  have sets : ∀ {context events outcome after}, role.SetsUp context events outcome after → Awaits events outcome := by
    intro context events outcome after sets
    cases sets with
    | ingest run => exact Publisher.setup_awaits run
    | egress run => exact Player.setup_awaits run
  have begun : ∀ {events context}, Context.Begins config role.tracks events context → polls events = [] :=
    fun begins => by cases begins; rfl
  cases opens with
  | unfit refused => exact awaits_of_unpolled rfl
  | unbegun fit fails => exact awaits_of_unpolled (by cases fails <;> rfl)
  | unopened fit begins setting closes =>
    rw [List.append_assoc]
    refine Awaits.behind (begun begins) ?_
    exact (sets setting).before closes.unpolled fun _ same => by rw [Except.error.inj same]
  | opened fit begins setting =>
    rw [← List.append_nil (_ ++ _), List.append_assoc]
    exact Awaits.behind (begun begins) ((sets setting).before rfl nofun)

end WhipWhep
