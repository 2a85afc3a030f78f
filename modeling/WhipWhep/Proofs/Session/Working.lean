import WhipWhep.Proofs.Panics
import WhipWhep.Proofs.Track.Release

/-!
A session at work, between its opening and its end. Whatever is done on its tracks, the books of the
whole session stay balanced, the peer connection stays, and the exchange with the endpoint is not
touched.
-/

namespace WhipWhep

/-- The requests of a wait. -/
def Call.isWaiting : Call → Bool
  | .host .connectionState => true
  | .host .isCancelled => true
  | .host (.now _) => true
  | .host (.sleep _ _) => true
  | _ => false

theorem neutral_of_waiting {call : Call} (waiting : call.isWaiting = true) : call.isNeutral = true := by
  unfold Call.isWaiting at waiting
  split at waiting <;> first | rfl | cases waiting

theorem working_of_waiting {call : Call} (waiting : call.isWaiting = true) : call.isWorking = true := by
  unfold Call.isWaiting at waiting
  split at waiting <;> first | rfl | cases waiting

theorem idle_of_waiting {call : Call} (waiting : call.isWaiting = true) : call.isTransfer = false := by
  unfold Call.isTransfer
  split <;> first | rfl | cases waiting

/-- The look that a wait ends with if it succeeds. -/
def seenOpen : Event := ⟨.host .connectionState, .connected⟩

namespace Wait

variable {σ : Type} {state after : σ} {events : List Event} {outcome : Except Error Unit}

theorem verdict_ok {reported : ConnectionState} (fine : verdict reported = some (.ok ())) :
    reported = .connected := by
  cases reported <;> first | rfl | cases fine

/-- A wait changes nothing, and it succeeds only by a look at an open connection. -/
theorem untilDeadline_waits {timeout deadline clock : Nat}
    (run : (untilDeadline timeout deadline clock).Runs state events outcome after) :
    after = state ∧ AllOf Call.isWaiting events ∧ (outcome = .ok () → seenOpen ∈ events) := by
  induction clock using untilDeadline.induct deadline generalizing events with
  | _ clock ih =>
    rw [untilDeadline] at run
    obtain ⟨reported, _, rfl, looked⟩ := Act.runs_ask_bind.1 run
    have look : AllOf Call.isWaiting [⟨.host .connectionState, reported⟩] := .single rfl _
    cases said : verdict reported with
    | some settled =>
      rw [said] at looked
      obtain ⟨rfl, rfl, rfl⟩ := Act.runs_settle.1 looked
      refine ⟨rfl, look, ?_⟩
      rintro rfl
      rw [verdict_ok said]
      exact List.mem_cons_self
    | none =>
      rw [said] at looked
      obtain ⟨stopped, _, rfl, onward⟩ := Act.runs_ask_bind.1 looked
      have asked : AllOf Call.isWaiting [⟨.host .isCancelled, stopped⟩] := .single rfl _
      cases stopped with
      | true =>
        obtain ⟨rfl, rfl, rfl⟩ := Act.runs_fail.1 onward
        exact ⟨rfl, look.append asked, fun fine => by cases fine⟩
      | false =>
        obtain ⟨time, _, rfl, timed⟩ := Act.runs_ask_bind.1 onward
        have read : AllOf Call.isWaiting [⟨.host (.now clock), time⟩] := .single rfl _
        by_cases late : deadline < time.val
        · rw [dif_pos late] at timed
          obtain ⟨rfl, rfl, rfl⟩ := Act.runs_fail.1 timed
          exact ⟨rfl, look.append (asked.append read), fun fine => by cases fine⟩
        · rw [dif_neg late] at timed
          obtain ⟨later, _, rfl, slept⟩ := Act.runs_ask_bind.1 timed
          have paused : AllOf Call.isWaiting [⟨.host (.sleep time.val pause), later⟩] := .single rfl _
          obtain ⟨rfl, waiting, seen⟩ := ih time late later slept
          refine ⟨rfl, look.append (asked.append (read.append (paused.append waiting))), fun fine => ?_⟩
          simp [seen fine]

theorem connected_waits {timeout : Nat} (run : (connected timeout).Runs state events outcome after) :
    after = state ∧ AllOf Call.isWaiting events ∧ (outcome = .ok () → seenOpen ∈ events) := by
  obtain ⟨start, _, rfl, -, started⟩ := runs_connected.1 run
  have read : AllOf Call.isWaiting [⟨.host (.now 0), start⟩] := .single rfl _
  obtain ⟨rfl, waiting, seen⟩ := untilDeadline_waits started
  exact ⟨rfl, read.append waiting, fun fine => List.mem_cons_of_mem _ (seen fine)⟩

end Wait

namespace Context

variable {α : Type} {kind : Call → Bool} {context after : Context} {events : List Event}

/-- What a session holds, as the requests that give it back. -/
def debts (context : Context) : List Call :=
  context.registry.debts ++ if context.hasPeer then [.engine .close] else []

/-- What a session does at work. -/
structure Uses (kind : Call → Bool) (context : Context) (events : List Event) (after : Context) :
    Prop where
  accounts : Accounts context.debts events after.debts
  ofKind : AllOf kind events
  peer : after.hasPeer = context.hasPeer
  exchange : after.exchange = context.exchange

theorem composes_uses : Act.Composes (Uses kind) where
  refl _ := ⟨accounts_nil _, .nil, rfl, rfl⟩
  trans one two :=
    { accounts := one.accounts.append two.accounts
      ofKind := one.ofKind.append two.ofKind
      peer := two.peer.trans one.peer
      exchange := two.exchange.trans one.exchange }

theorem Uses.weaken {wider : Call → Bool} (uses : Uses kind context events after)
    (wide : ∀ {call : Call}, kind call = true → wider call = true) : Uses wider context events after :=
  { uses with ofKind := uses.ofKind.weaken wide }

/-- What a session does once it is open. Without a peer connection it comes to nothing. -/
structure Works (context : Context) (events : List Event) (after : Context) : Prop
    extends Uses Call.isWorking context events after where
  idle : context.hasPeer = false → after.debts = context.debts

theorem composes_works : Act.Composes Works where
  refl _ := ⟨composes_uses.refl _, fun _ => rfl⟩
  trans one two :=
    { toUses := composes_uses.trans one.toUses two.toUses
      idle := fun down => (two.idle (one.peer.trans down)).trans (one.idle down) }

theorem Uses.works (uses : Uses Call.isWorking context events after) (up : context.hasPeer = true) :
    Works context events after where
  toUses := uses
  idle down := by cases up.symm.trans down

theorem uses_neutral (fresh : Fresh events) (neutral : AllOf Call.isNeutral events)
    (ofKind : AllOf kind events) : Uses kind context events context :=
  ⟨accounts_of_neutral fresh neutral _, ofKind, rfl, rfl⟩

theorem keeps_aside {request : Call} (neutral : request.isNeutral = true)
    (idle : request.isTransfer = false) (allowed : kind request = true) :
    (Act.ask request : Act Context request.Answer).Keeps (Uses kind) context :=
  Act.keeps_ask fun answer =>
    uses_neutral (fresh_cons idle) (.single neutral answer) (.single allowed answer)

/-- An operation on a track is one on the session, unless there is no such track. -/
theorem runs_onTrack {index : Nat} {act : Act Track α} {outcome : Except Error α}
    (run : (Context.onTrack index act).Runs context events outcome after) :
    (outcome = .error (.invalidStream index) ∧ events = [] ∧ after = context) ∨
      ∃ track inner, act.Runs track events outcome inner ∧
        ∀ {kind}, Track.Uses kind track events inner → Uses kind context events after := by
  unfold Context.onTrack onRegistry at run
  obtain ⟨_, rfl, inside⟩ := Act.runs_within.1 run
  rcases Registry.runs_onTrack.1 inside with ⟨-, rfl, rfl, rfl⟩ | ⟨track, inner, found, rfl, operated⟩
  · exact .inl ⟨rfl, rfl, rfl⟩
  · refine .inr ⟨track, inner, operated, fun uses => ?_⟩
    have all := Registry.uses_set found uses
    refine ⟨all.accounts.beside fun call => ?_, all.ofKind, rfl, rfl⟩
    simp only [debts, List.count_append]
    omega

theorem keeps_onTrack {index : Nat} {act : Act Track α}
    (kept : ∀ track, act.Keeps (Track.Uses kind) track) :
    (Context.onTrack index act).Keeps (Uses kind) context := by
  intro events outcome after run
  rcases runs_onTrack run with ⟨-, rfl, rfl⟩ | ⟨track, inner, inside, uses⟩
  · exact composes_uses.refl _
  · exact uses (kept track _ _ _ inside)

theorem keeps_idle {index : Nat} {act : Act Track α}
    (kept : ∀ track, act.Keeps (Track.Idle kind) track) :
    (Context.onTrack index act).Keeps (Uses kind) context :=
  keeps_onTrack fun track _ _ _ run => (kept track _ _ _ run).uses

/-- Something is asked for, and nothing changes. -/
def Looks (context : Context) (events : List Event) (after : Context) : Prop :=
  Uses Call.isWorking context events after ∧ after = context

theorem composes_looks : Act.Composes Looks where
  refl _ := ⟨composes_uses.refl _, rfl⟩
  trans one two := ⟨composes_uses.trans one.1 two.1, two.2.trans one.2⟩

theorem requirePeer_up {outcome : Except Error Unit}
    (run : requirePeer.Runs context events outcome after) :
    events = [] ∧ after = context ∧ (outcome = .ok () → context.hasPeer = true) := by
  unfold requirePeer at run
  rw [Act.runs_get_bind] at run
  by_cases up : context.hasPeer = true
  · rw [if_pos up] at run
    obtain ⟨rfl, -, rfl⟩ := Act.runs_pure.1 run
    exact ⟨rfl, rfl, fun _ => up⟩
  · rw [if_neg up] at run
    obtain ⟨rfl, rfl, rfl⟩ := Act.runs_fail.1 run
    exact ⟨rfl, rfl, nofun⟩

theorem keeps_requirePeer : requirePeer.Keeps (Uses kind) context := by
  intro events outcome after run
  obtain ⟨rfl, rfl, -⟩ := requirePeer_up run
  exact composes_uses.refl _

theorem keeps_ensureConnected : ensureConnected.Keeps Looks context := by
  refine Act.keeps_bind composes_looks ?_ fun _ => ?_
  · intro events outcome after run
    obtain ⟨rfl, rfl, -⟩ := requirePeer_up run
    exact composes_looks.refl _
  refine Act.keeps_bind composes_looks (Act.keeps_ask fun reported => ?_) fun {_ reported _} _ => ?_
  · exact ⟨uses_neutral (fresh_cons rfl) (.single rfl _) (.single rfl _), rfl⟩
  · cases reported with
    | connected => exact Act.keeps_pure composes_looks
    | _ => exact Act.keeps_fail composes_looks

/-- Only a session with a peer connection is found connected. -/
theorem ensureConnected_up (run : ensureConnected.Runs context events (.ok ()) after) :
    context.hasPeer = true := by
  rcases Act.runs_bind.1 run with ⟨_, wrong, -⟩ | ⟨_, _, _, _, -, passed, -⟩
  · cases wrong
  · exact (requirePeer_up passed).2.2 rfl

/-- What needs a connected session comes to nothing without a peer connection. -/
theorem works_connected {σ : Type} {part : σ → Context} {check : Act σ Unit} {next : Act σ α} {state : σ}
    (checks : ∀ {events outcome after}, check.Runs state events outcome after →
      ensureConnected.Runs (part state) events outcome (part after))
    (kept : ∀ state, next.Keeps
      (fun before events after => Uses Call.isWorking (part before) events (part after)) state) :
    (check >>= fun _ => next).Keeps
      (fun before events after => Works (part before) events (part after)) state := by
  intro events outcome after run
  rcases Act.runs_bind.1 run with ⟨_, rfl, failed⟩ | ⟨_, _, _, _, rfl, passed, onward⟩
  · obtain ⟨uses, same⟩ := keeps_ensureConnected _ _ _ (checks failed)
    exact ⟨uses, fun _ => by rw [same]⟩
  · obtain ⟨uses, -⟩ := keeps_ensureConnected _ _ _ (checks passed)
    refine ⟨composes_uses.trans uses (kept _ _ _ _ onward), fun down => ?_⟩
    rw [ensureConnected_up (checks passed)] at down
    cases down

theorem works_aside {request : Call} (neutral : request.isNeutral = true)
    (idle : request.isTransfer = false) (allowed : request.isWorking = true) :
    (Act.ask request : Act Context request.Answer).Keeps Works context :=
  Act.keeps_ask fun answer =>
    ⟨uses_neutral (fresh_cons idle) (.single neutral answer) (.single allowed answer), fun _ => rfl⟩

theorem works_state : state.Keeps Works context := works_aside rfl rfl rfl

theorem works_stats : stats.Keeps Works context := by
  refine Act.keeps_bind composes_works (Act.keeps_get composes_works) fun _ => ?_
  refine Act.keeps_bind composes_works (works_aside rfl rfl rfl) fun _ => ?_
  exact Act.keeps_pure composes_works

theorem keeps_bindTrack {index : Nat} : (bindTrack index).Keeps (Uses kind) context := by
  refine Act.keeps_bind composes_uses keeps_requirePeer fun _ => ?_
  refine Act.keeps_bind composes_uses (Act.keeps_get composes_uses) fun _ => ?_
  exact keeps_idle fun _ => Track.keeps_setBinding

theorem addTrack_adds {index : Nat} {init : TrackInit} {outcome : Except Error Handle}
    (run : (addTrack index init).Runs context events outcome after) :
    Uses Call.isPreparing context events after ∧
      ∀ handle, outcome = .ok handle → events = [⟨.engine (.addTrack init), .ok handle⟩] := by
  rcases Act.runs_bind.1 run with ⟨_, rfl, failed⟩ | ⟨_, _, _, _, rfl, passed, onward⟩
  · exact ⟨keeps_requirePeer _ _ _ failed, nofun⟩
  obtain ⟨rfl, rfl, -⟩ := requirePeer_up passed
  rcases runs_onTrack onward with ⟨rfl, rfl, rfl⟩ | ⟨track, inner, inside, lift⟩
  · exact ⟨composes_uses.refl _, nofun⟩
  · obtain ⟨uses, added⟩ := Track.add_adds inside
    exact ⟨lift uses, added⟩

theorem keeps_trackDescription {index : Nat} :
    (trackDescription index).Keeps (Uses Call.isWorking) context := by
  refine Act.keeps_bind composes_uses (Act.keeps_get composes_uses) fun _ => ?_
  refine Act.keeps_bind composes_uses (Act.keeps_settle composes_uses) fun {_ track _} _ => ?_
  cases track.handle with
  | none => exact Act.keeps_fail composes_uses
  | some handle =>
    refine Act.keeps_bind composes_uses keeps_requirePeer fun _ => ?_
    refine Act.keeps_bind composes_uses (keeps_aside rfl rfl rfl) fun _ => ?_
    exact Act.keeps_granted composes_uses

/-- Waiting for the connection is waiting only, and it succeeds only by a look at an open one. -/
theorem waitConnected_waits {outcome : Except Error Unit}
    (run : waitConnected.Runs context events outcome after) :
    Uses Call.isWaiting context events after ∧ (outcome = .ok () → seenOpen ∈ events) := by
  unfold waitConnected at run
  rw [Act.runs_get_bind] at run
  rcases Act.runs_bind.1 run with ⟨_, rfl, failed⟩ | ⟨_, _, _, _, rfl, waited, onward⟩
  · obtain ⟨rfl, waiting, -⟩ := Wait.connected_waits failed
    exact ⟨uses_neutral (fresh_of_kind waiting idle_of_waiting) (waiting.weaken neutral_of_waiting) waiting, nofun⟩
  · obtain ⟨rfl, waiting, seen⟩ := Wait.connected_waits waited
    rw [Act.runs_get_bind] at onward
    obtain ⟨now, _, rfl, timed⟩ := Act.runs_ask_bind.1 onward
    obtain ⟨rfl, rfl, rfl⟩ := Act.runs_modify.1 timed
    have read : AllOf Call.isWaiting [⟨.host (.now _), now⟩] := .single rfl _
    have all := waiting.append read
    have accounts := accounts_of_neutral (fresh_of_kind all idle_of_waiting) (all.weaken neutral_of_waiting)
    exact ⟨⟨accounts _, all, rfl, rfl⟩, fun _ => List.mem_append_left _ (seen rfl)⟩

end Context
end WhipWhep
