import WhipWhep.Proofs.Session.Working
import WhipWhep.Proofs.Steps

/-!
The polls of a wait. Each one reads the state of the connection, then whether the caller is cancelled, then the
time, and no more of them than it takes to decide. The first poll that decides ends the wait. How long the pauses
between the polls take makes no difference to that, but only to how many of them there can be. All this takes a clock
that can tell the end of the time: a wait that is to last longer makes no poll at all.
-/

namespace WhipWhep.Wait

/-- What there is to be read at one poll. -/
structure Poll where
  state : ConnectionState
  cancelled : Bool
  clock : Nat

namespace Poll

variable {timeout deadline clock : Nat} {poll : Poll} {outcome : Except Error Unit}

/-- How a poll ends the wait, if it does. The state comes first, then the cancellation, then the time. -/
def verdict (timeout deadline : Nat) (poll : Poll) : Option (Except Error Unit) :=
  match Wait.verdict poll.state with
  | some outcome => some outcome
  | none =>
    if poll.cancelled then some (.error .cancelled)
    else if deadline < poll.clock then some (.error (.establishment (.timedOut timeout)))
    else none

/-- What a poll asks for and is answered. -/
def reads (clock : Nat) (poll : Poll) (due : clock ≤ poll.clock) : List Event :=
  ⟨.host .connectionState, poll.state⟩ ::
    match Wait.verdict poll.state with
    | some _ => []
    | none =>
      ⟨.host .isCancelled, poll.cancelled⟩ ::
        if poll.cancelled then [] else [⟨.host (.now clock), ⟨poll.clock, due⟩⟩]

/-- What a wait learns from a poll: that it has ended, and how, or the time. -/
def found (timeout deadline : Nat) (poll : Poll) : Except Error (Option Nat) :=
  match poll.verdict timeout deadline with
  | some outcome => outcome.map fun _ => none
  | none => .ok (some poll.clock)

theorem found_ended_iff : poll.found timeout deadline = outcome.map (fun _ => none) ↔
    poll.verdict timeout deadline = some outcome := by
  unfold found
  cases poll.verdict timeout deadline with
  | none =>
    refine iff_of_false (fun same => ?_) nofun
    cases outcome <;> cases same
  | some ending =>
    rw [Option.some.injEq]
    refine ⟨fun same => ?_, fun same => by rw [same]⟩
    cases ending <;> cases outcome <;> cases same <;> rfl

theorem found_goes_iff {time : Nat} : poll.found timeout deadline = .ok (some time) ↔
    poll.verdict timeout deadline = none ∧ poll.clock = time := by
  unfold found
  cases poll.verdict timeout deadline with
  | none => simp
  | some ending => cases ending <;> simp [Except.map]

theorem clock_of_undecided (undecided : poll.verdict timeout deadline = none) : poll.clock ≤ deadline := by
  unfold verdict at undecided
  split at undecided
  · cases undecided
  · split at undecided
    · cases undecided
    · split at undecided
      · cases undecided
      · next early => exact Nat.not_lt.1 early

end Poll

variable {σ : Type} {state after : σ} {timeout deadline clock : Nat} {poll : Poll} {events : List Event}

/-- One poll: it ends the wait, or the wait goes on from a time on. -/
def look (timeout deadline clock : Nat) : Act σ (Option Nat) := do
  let state ← Act.ask (.host .connectionState)
  match verdict state with
  | some outcome => do
    Act.settle outcome
    return none
  | none =>
    if ← isCancelled then Act.fail .cancelled
    else
      let time ← Act.ask (.host (.now clock))
      if deadline < time.val then Act.fail (.establishment (.timedOut timeout))
      else return some time.val

/-- A wait is one poll, and unless that ends it a pause and then the same again. -/
theorem untilDeadline_eq : (untilDeadline timeout deadline clock : Act σ Unit) = (do
    match ← look timeout deadline clock with
    | none => return ()
    | some time => do
      let later ← Act.ask (.host (.sleep time pause))
      untilDeadline timeout deadline later.val) := by
  rw [untilDeadline, look, Act.bind_assoc]
  congr 1
  funext reported
  cases verdict reported with
  | some outcome =>
    rw [Act.bind_assoc]
    exact (Act.bind_pure _).symm
  | none =>
    dsimp only
    rw [Act.bind_assoc]
    congr 1
    funext stopped
    cases stopped with
    | true => rfl
    | false =>
      simp only [Bool.false_eq_true, if_false]
      rw [Act.bind_assoc]
      congr 1
      funext time
      by_cases late : deadline < time.val
      · rw [dif_pos late, if_pos late]
        rfl
      · rw [dif_neg late, if_neg late]
        rfl

theorem look_answers (due : clock ≤ poll.clock) :
    (look timeout deadline clock : Act σ (Option Nat)).Runs state (poll.reads clock due)
      (poll.found timeout deadline) state := by
  refine Act.runs_ask_bind.2 ⟨poll.state, _, rfl, ?_⟩
  unfold Poll.found Poll.verdict
  cases verdict poll.state with
  | some outcome =>
    dsimp only
    cases outcome with
    | ok result => exact .done _
    | error cause => exact .done _
  | none =>
    dsimp only
    refine Act.runs_ask_bind.2 ⟨poll.cancelled, _, rfl, ?_⟩
    cases poll.cancelled with
    | true => exact .done _
    | false =>
      refine Act.runs_ask_bind.2 ⟨⟨poll.clock, due⟩, [], rfl, ?_⟩
      simp only [Bool.false_eq_true, if_false]
      split
      · exact .done _
      · exact .done _

/-- A poll that is answered is what there was to be read, and that decides what comes of it. -/
theorem look_reads_iff (due : clock ≤ poll.clock) {found : Except Error (Option Nat)} :
    (look timeout deadline clock : Act σ (Option Nat)).Runs state (poll.reads clock due) found after ↔
      poll.found timeout deadline = found ∧ after = state := by
  constructor
  · intro run
    have alike : poll.reads clock due ++ [] = poll.reads clock due ++ [] := rfl
    obtain ⟨-, same⟩ := (look_answers due).unique run alike
    exact ⟨(Prod.mk.inj same).1, (Prod.mk.inj same).2.symm⟩
  · rintro ⟨rfl, rfl⟩
    exact look_answers due

/-- Every poll is one of something that there was to be read. What was not read is as it may be. -/
theorem poll_of_runs {found : Except Error (Option Nat)}
    (run : (look timeout deadline clock : Act σ (Option Nat)).Runs state events found after) :
    ∃ (poll : Poll) (due : clock ≤ poll.clock), events = poll.reads clock due := by
  unfold look at run
  obtain ⟨reported, rest, rfl, looked⟩ := Act.runs_ask_bind.1 run
  cases said : verdict reported with
  | some settled =>
    rw [said] at looked
    refine ⟨⟨reported, false, clock⟩, Nat.le_refl _, ?_⟩
    have quiet : rest = [] := by
      cases settled with
      | ok result => exact (Act.runs_pure.1 looked).1
      | error cause => exact (Act.runs_fail_bind.1 looked).1
    rw [quiet, Poll.reads, said]
  | none =>
    rw [said] at looked
    obtain ⟨stopped, _, rfl, onward⟩ := Act.runs_ask_bind.1 looked
    cases stopped with
    | true =>
      obtain ⟨rfl, -, -⟩ := Act.runs_fail.1 onward
      refine ⟨⟨reported, true, clock⟩, Nat.le_refl _, ?_⟩
      rw [Poll.reads, said]
      rfl
    | false =>
      obtain ⟨time, rest, rfl, timed⟩ := Act.runs_ask_bind.1 onward
      refine ⟨⟨reported, false, time.val⟩, time.property, ?_⟩
      have quiet : rest = [] := by
        split at timed
        · exact (Act.runs_fail.1 timed).1
        · exact (Act.runs_pure.1 timed).1
      rw [quiet, Poll.reads, said]
      rfl

/-! Polls one after the other, whatever the pauses between them take. -/

/-- What is between two polls, by the time before and the time after it. -/
abbrev Pausing : Type := Nat → Nat → List Event → Prop

/-- The pause that a wait makes. The host may take longer, but not less. -/
def slept : Pausing := fun time later events =>
  ∃ woken : { woken : Nat // time + pause ≤ woken }, events = [⟨.host (.sleep time pause), woken⟩] ∧ woken.val = later

/-- The polls of a wait up to the one that ends it, with all that was asked for. -/
inductive Polls (state : σ) (pauses : Pausing) (timeout deadline : Nat) :
    Nat → List Poll → List Event → Except Error Unit → Prop where
  | ended {clock : Nat} {poll : Poll} {outcome : Except Error Unit} (due : clock ≤ poll.clock)
      (looks : (look timeout deadline clock).Runs state (poll.reads clock due) (outcome.map fun _ => none) state) :
      Polls state pauses timeout deadline clock [poll] (poll.reads clock due) outcome
  | goes {clock later : Nat} {poll : Poll} {trace : List Poll} {pausing rest : List Event}
      {outcome : Except Error Unit} (due : clock ≤ poll.clock)
      (looks : (look timeout deadline clock).Runs state (poll.reads clock due) (.ok (some poll.clock)) state)
      (rests : pauses poll.clock later pausing)
      (onward : Polls state pauses timeout deadline later trace rest outcome) :
      Polls state pauses timeout deadline clock (poll :: trace) (poll.reads clock due ++ (pausing ++ rest)) outcome

/-- Polls that can follow one another: the time goes on, and there is a pause between each two of them. -/
def Timed (pauses : Pausing) : Nat → List Poll → Prop
  | _, [] => True
  | clock, poll :: rest =>
    clock ≤ poll.clock ∧ (rest ≠ [] → ∃ later pausing, pauses poll.clock later pausing ∧ Timed pauses later rest)

/-- The first of some polls that decides is the last one of them. -/
def Decides (timeout deadline : Nat) (trace : List Poll) (outcome : Except Error Unit) : Prop :=
  ∃ early last, trace = early ++ [last] ∧ (∀ poll ∈ early, poll.verdict timeout deadline = none) ∧
    last.verdict timeout deadline = some outcome

variable {pauses : Pausing} {trace early late : List Poll} {outcome : Except Error Unit}

theorem untilDeadline_polls : (untilDeadline timeout deadline clock : Act σ Unit).Runs state events outcome after ↔
    after = state ∧ ∃ trace, Polls state slept timeout deadline clock trace events outcome := by
  constructor
  · intro run
    -- By the recursion of the wait: a poll that decides nothing is in time, and what comes after its pause is later.
    induction clock using untilDeadline.induct deadline generalizing events with
    | _ clock ih =>
      rw [untilDeadline_eq] at run
      rcases Act.runs_bind.1 run with ⟨cause, rfl, failed⟩ | ⟨first, result, middle, second, rfl, looks, onward⟩
      · obtain ⟨poll, due, rfl⟩ := poll_of_runs failed
        obtain ⟨-, rfl⟩ := (look_reads_iff due).1 failed
        exact ⟨rfl, [poll], .ended due failed⟩
      · obtain ⟨poll, due, rfl⟩ := poll_of_runs looks
        obtain ⟨found, rfl⟩ := (look_reads_iff due).1 looks
        cases result with
        | none =>
          obtain ⟨rfl, rfl, rfl⟩ := Act.runs_pure.1 onward
          rw [List.append_nil]
          exact ⟨rfl, [poll], .ended due looks⟩
        | some time =>
          obtain ⟨undecided, rfl⟩ := Poll.found_goes_iff.1 found
          obtain ⟨woken, rest, rfl, again⟩ := Act.runs_ask_bind.1 onward
          have early : ¬ deadline < poll.clock := Nat.not_lt.2 (Poll.clock_of_undecided undecided)
          obtain ⟨rfl, trace, polls⟩ := ih ⟨poll.clock, due⟩ early woken again
          exact ⟨rfl, poll :: trace, .goes due looks ⟨woken, rfl, rfl⟩ polls⟩
  · rintro ⟨rfl, trace, polls⟩
    -- Here the time plays no part any more: the polls themselves say how long the wait goes on.
    induction polls with
    | @ended clock poll outcome due looks =>
      rw [untilDeadline_eq]
      cases outcome with
      | error cause => exact Act.runs_bind.2 (.inl ⟨cause, rfl, looks⟩)
      | ok result =>
        exact Act.runs_bind.2 (.inr ⟨_, none, _, [], (List.append_nil _).symm, looks, Act.runs_pure.2 ⟨rfl, rfl, rfl⟩⟩)
    | @goes clock later poll trace pausing rest outcome due looks rests onward ih =>
      rw [untilDeadline_eq]
      obtain ⟨woken, rfl, rfl⟩ := rests
      exact Act.runs_bind.2 (.inr ⟨_, _, _, _, rfl, looks, Act.runs_ask_bind.2 ⟨woken, _, rfl, ih⟩⟩)

theorem Polls.timed (polls : Polls state pauses timeout deadline clock trace events outcome) :
    Timed pauses clock trace := by
  induction polls with
  | ended due looks => exact ⟨due, fun more => absurd rfl more⟩
  | goes due looks rests onward ih => exact ⟨due, fun _ => ⟨_, _, rests, ih⟩⟩

theorem Polls.decides (polls : Polls state pauses timeout deadline clock trace events outcome) :
    Decides timeout deadline trace outcome := by
  induction polls with
  | @ended clock poll outcome due looks =>
    obtain ⟨found, -⟩ := (look_reads_iff due).1 looks
    exact ⟨[], poll, rfl, List.forall_mem_nil _, Poll.found_ended_iff.1 found⟩
  | @goes clock later poll trace pausing rest outcome due looks rests onward ih =>
    obtain ⟨early, last, rfl, undecided, decided⟩ := ih
    obtain ⟨found, -⟩ := (look_reads_iff due).1 looks
    obtain ⟨here, -⟩ := Poll.found_goes_iff.1 found
    exact ⟨poll :: early, last, rfl, List.forall_mem_cons.2 ⟨here, undecided⟩, decided⟩

theorem polls_of_decided {last : Poll} (timed : Timed pauses clock (early ++ [last]))
    (undecided : ∀ poll ∈ early, poll.verdict timeout deadline = none)
    (decided : last.verdict timeout deadline = some outcome) :
    ∃ events, Polls state pauses timeout deadline clock (early ++ [last]) events outcome := by
  induction early generalizing clock with
  | nil =>
    exact ⟨_, .ended timed.1 ((look_reads_iff timed.1).2 ⟨Poll.found_ended_iff.2 decided, rfl⟩)⟩
  | cons poll rest ih =>
    obtain ⟨here, others⟩ := List.forall_mem_cons.1 undecided
    obtain ⟨due, goes⟩ := timed
    obtain ⟨later, pausing, rests, onward⟩ := goes (by simp)
    obtain ⟨events, polls⟩ := ih onward others
    exact ⟨_, .goes due ((look_reads_iff due).2 ⟨Poll.found_goes_iff.2 ⟨here, rfl⟩, rfl⟩) rests polls⟩

/-- Polls are those of a wait exactly if they can follow one another and the last one is the first to decide. -/
theorem polls_iff : (∃ events, Polls state pauses timeout deadline clock trace events outcome) ↔
    Timed pauses clock trace ∧ Decides timeout deadline trace outcome := by
  constructor
  · rintro ⟨events, polls⟩
    exact ⟨polls.timed, polls.decides⟩
  · rintro ⟨timed, early, last, rfl, undecided, decided⟩
    exact polls_of_decided timed undecided decided

/-! What the last poll says. -/

/-- A state that decides nothing leaves it to the cancellation, and then to the time. -/
theorem Poll.verdict_pending (pending : Wait.verdict poll.state = none)
    (decided : poll.verdict timeout deadline = some outcome) :
    poll.cancelled = true ∧ outcome = .error .cancelled ∨
      poll.cancelled = false ∧ deadline < poll.clock ∧ outcome = .error (.establishment (.timedOut timeout)) := by
  unfold Poll.verdict at decided
  rw [pending] at decided
  cases stopped : poll.cancelled with
  | true =>
    rw [stopped] at decided
    cases decided
    exact .inl ⟨rfl, rfl⟩
  | false =>
    simp only [stopped, Bool.false_eq_true, if_false] at decided
    split at decided
    · next late =>
      cases decided
      exact .inr ⟨rfl, late, rfl⟩
    · cases decided

theorem Poll.verdict_state {settled : Except Error Unit} (said : Wait.verdict poll.state = some settled) :
    poll.verdict timeout deadline = some settled := by
  rw [Poll.verdict, said]

theorem Poll.verdict_ok_iff : poll.verdict timeout deadline = some (.ok ()) ↔ poll.state = .connected := by
  constructor
  · intro decided
    cases said : Wait.verdict poll.state with
    | some settled =>
      cases (Poll.verdict_state said).symm.trans decided
      exact Wait.verdict_ok said
    | none => rcases Poll.verdict_pending said decided with ⟨-, wrong⟩ | ⟨-, -, wrong⟩ <;> cases wrong
  · intro connected
    exact Poll.verdict_state (by rw [connected]; rfl)

theorem Poll.verdict_timedOut {duration : Nat}
    (decided : poll.verdict timeout deadline = some (.error (.establishment (.timedOut duration)))) :
    duration = timeout ∧ deadline < poll.clock := by
  cases said : Wait.verdict poll.state with
  | some settled =>
    cases (Poll.verdict_state said).symm.trans decided
    generalize poll.state = seen at said
    cases seen <;> cases said
  | none =>
    rcases Poll.verdict_pending said decided with ⟨-, wrong⟩ | ⟨-, late, same⟩
    · cases wrong
    · cases same
      exact ⟨rfl, late⟩

/-- A wait succeeds exactly if one of its polls finds the connection open. -/
theorem Decides.ok_iff (decides : Decides timeout deadline trace outcome) :
    outcome = .ok () ↔ ∃ poll ∈ trace, poll.state = .connected := by
  obtain ⟨early, last, rfl, undecided, decided⟩ := decides
  constructor
  · rintro rfl
    exact ⟨last, by simp, Poll.verdict_ok_iff.1 decided⟩
  · rintro ⟨poll, member, connected⟩
    have opened : poll.verdict timeout deadline = some (.ok ()) := Poll.verdict_ok_iff.2 connected
    rcases List.mem_append.1 member with before | final
    · cases (undecided poll before).symm.trans opened
    · cases List.mem_singleton.1 final
      exact Option.some.inj (decided.symm.trans opened)

/-! How many polls there can be. -/

/-- Each pause takes at least as long as it is to take. -/
def Advancing (pauses : Pausing) : Prop :=
  ∀ {time later : Nat} {pausing : List Event}, pauses time later pausing → time + pause ≤ later

theorem advancing_slept : Advancing slept := by
  rintro time later pausing ⟨woken, -, rfl⟩
  exact woken.property

theorem Timed.left (timed : Timed pauses clock (early ++ late)) : Timed pauses clock early := by
  induction early generalizing clock with
  | nil => trivial
  | cons poll rest ih =>
    obtain ⟨due, goes⟩ := timed
    refine ⟨due, fun more => ?_⟩
    obtain ⟨later, pausing, rests, onward⟩ := goes (by simp [more])
    exact ⟨later, pausing, rests, ih onward⟩

/-- Polls that decide nothing are before the deadline, each at least a pause after the one before. -/
theorem Timed.until_deadline (advances : Advancing pauses) (timed : Timed pauses clock trace)
    (undecided : ∀ poll ∈ trace, poll.verdict timeout deadline = none) (present : trace ≠ []) :
    clock + trace.length * pause ≤ deadline + pause := by
  induction trace generalizing clock with
  | nil => exact absurd rfl present
  | cons poll rest ih =>
    obtain ⟨here, others⟩ := List.forall_mem_cons.1 undecided
    have early := Poll.clock_of_undecided here
    obtain ⟨due, goes⟩ := timed
    rw [List.length_cons, Nat.succ_mul]
    by_cases more : rest = []
    · subst more
      simp only [List.length_nil, Nat.zero_mul]
      omega
    · obtain ⟨later, pausing, rests, onward⟩ := goes more
      have after := advances rests
      have within := ih onward others more
      omega

theorem Timed.undecided_length {start : Nat} (advances : Advancing pauses) (timed : Timed pauses start trace)
    (undecided : ∀ poll ∈ trace, poll.verdict timeout (start + timeout) = none) :
    trace.length ≤ timeout / pause + 1 := by
  by_cases empty : trace = []
  · simp [empty]
  · have within := timed.until_deadline advances undecided empty
    simp only [pause] at within ⊢
    omega

/-- Of some polls none decides, or there is a first one that does. -/
theorem first_decided (timeout deadline : Nat) (trace : List Poll) :
    (∀ poll ∈ trace, poll.verdict timeout deadline = none) ∨
      ∃ early last rest outcome, trace = early ++ last :: rest ∧
        (∀ poll ∈ early, poll.verdict timeout deadline = none) ∧ last.verdict timeout deadline = some outcome := by
  cases found : trace.findSome? (Poll.verdict timeout deadline) with
  | none => exact .inl (List.findSome?_eq_none_iff.1 found)
  | some outcome =>
    obtain ⟨early, last, rest, split, decided, undecided⟩ := List.findSome?_eq_some_iff.1 found
    exact .inr ⟨early, last, rest, outcome, split, undecided, decided⟩

/-- What a session makes of a wait: it notes when it was connected, if it was. -/
inductive Notes (context : Context) (waiting : List Event) :
    List Event → Except Error Unit → Context → Prop where
  | failed (cause : Error) : Notes context waiting waiting (.error cause) context
  | noted (now : { time : Nat // context.startedAt ≤ time }) :
      Notes context waiting (waiting ++ [⟨.host (.now context.startedAt), now⟩]) (.ok ())
        { context with timeToConnect := some (now.val - context.startedAt) }

theorem notes_of_runs {context last : Context} (run : Context.waitConnected.Runs context events outcome last) :
    ∃ waiting, (connected context.config.connectionTimeout).Runs context waiting outcome context ∧
      Notes context waiting events outcome last := by
  unfold Context.waitConnected at run
  rw [Act.runs_get_bind] at run
  rcases Act.runs_bind.1 run with ⟨cause, rfl, failed⟩ | ⟨waiting, _, _, _, rfl, waited, onward⟩
  · obtain ⟨rfl, -⟩ := connected_waits failed
    exact ⟨events, failed, .failed cause⟩
  · obtain ⟨rfl, -⟩ := connected_waits waited
    rw [Act.runs_get_bind] at onward
    obtain ⟨now, _, rfl, timed⟩ := Act.runs_ask_bind.1 onward
    obtain ⟨rfl, rfl, rfl⟩ := Act.runs_modify.1 timed
    exact ⟨waiting, waited, .noted now⟩

theorem connected_polls : (connected timeout : Act σ Unit).Runs state events outcome after ↔ after = state ∧
    ∃ start trace rest, events = ⟨.host (.now 0), start⟩ :: rest ∧ start.val + timeout < clockEnd ∧
      Polls state slept timeout (start.val + timeout) start.val trace rest outcome := by
  constructor
  · intro run
    obtain ⟨start, rest, rfl, told, waits⟩ := runs_connected.1 run
    obtain ⟨rfl, trace, polls⟩ := untilDeadline_polls.1 waits
    exact ⟨rfl, start, trace, rest, rfl, told, polls⟩
  · rintro ⟨rfl, start, trace, rest, rfl, told, polls⟩
    exact runs_connected.2 ⟨start, rest, rfl, told, untilDeadline_polls.2 ⟨rfl, trace, polls⟩⟩

/-- The promise of a wait that begins at some time: whatever there is to be read, it polls until that decides, and comes
to what the last poll says. -/
def Promised (timeout : Nat) (start : { time : Nat // 0 ≤ time }) : Prop :=
  ∀ {σ : Type} {state : σ} {trace : List Poll} {outcome : Except Error Unit}, Timed slept start.val trace →
    Decides timeout (start.val + timeout) trace outcome →
      ∃ rest, Polls state slept timeout (start.val + timeout) start.val trace rest outcome ∧
        (connected timeout).Runs state (⟨.host (.now 0), start⟩ :: rest) outcome state

/-- The first look at a connection that is open decides, for any time. -/
theorem opens_at_once (start timeout : Nat) :
    Timed slept start [⟨.connected, false, start⟩] ∧
      Decides timeout (start + timeout) [⟨.connected, false, start⟩] (.ok ()) :=
  ⟨⟨Nat.le_refl _, fun more => absurd rfl more⟩, [], _, rfl, List.forall_mem_nil _, rfl⟩

theorem promised_iff {start : { time : Nat // 0 ≤ time }} :
    Promised timeout start ↔ start.val + timeout < clockEnd := by
  constructor
  · intro promised
    obtain ⟨timed, decides⟩ := opens_at_once start.val timeout
    obtain ⟨rest, -, run⟩ := @promised Unit () _ _ timed decides
    obtain ⟨_, _, same, told, -⟩ := runs_connected.1 run
    cases same
    exact told
  · intro told σ state trace outcome timed decides
    obtain ⟨rest, polls⟩ := polls_iff.2 ⟨timed, decides⟩
    exact ⟨rest, polls, connected_polls.2 ⟨rfl, start, trace, rest, rfl, told, polls⟩⟩

/-- The wait of a session panics where this one does, and then nothing is noted. -/
theorem waitConnected_panics_iff {context : Context} : Context.waitConnected.Panics context events ↔
    (connected context.config.connectionTimeout).Panics context events := by
  refine Iff.trans Act.panics_get_bind (Iff.trans Act.panics_bind_iff (or_iff_left ?_))
  rintro ⟨_, _, _, _, -, -, noting⟩
  have notes : (do
      let context ← Act.get
      let now ← Act.ask (.host (.now context.startedAt))
      Act.modify fun context =>
        { context with timeToConnect := some (now.val - context.startedAt) } : Act Context Unit).Calm :=
    Act.calm_bind Act.calm_get fun _ => Act.calm_bind Act.calm_ask fun _ => Act.calm_modify
  exact notes _ _ noting

/-- How a wait comes to its end that is to take a given time at most. -/
structure Settles (timeout : Nat) : Prop where
  /-- A wait that comes to something is the polls that it makes, the pauses between them, and nothing else. -/
  runs : ∀ {σ : Type} {state after : σ} {events : List Event} {outcome : Except Error Unit},
    (connected timeout : Act σ Unit).Runs state events outcome after ↔ after = state ∧
      ∃ start trace rest, events = ⟨.host (.now 0), start⟩ :: rest ∧ start.val + timeout < clockEnd ∧
        Polls state slept timeout (start.val + timeout) start.val trace rest outcome
  /-- Any other one panics, before its first poll. -/
  panics : ∀ {σ : Type} {state : σ} {events : List Event}, (connected timeout : Act σ Unit).Panics state events ↔
    ∃ start, events = [⟨.host (.now 0), start⟩] ∧ clockEnd ≤ start.val + timeout
  /-- It ends at the first poll that decides, and as that says, exactly if the clock can tell the end of the time. -/
  promised : ∀ {start : { time : Nat // 0 ≤ time }}, Promised timeout start ↔ start.val + timeout < clockEnd
  /-- However long the pauses take, it ends at the first poll that decides, and as that one says. -/
  first : ∀ {σ : Type} {state : σ} {pauses : Pausing} {start : Nat} {trace : List Poll} {outcome : Except Error Unit},
    (∃ events, Polls state pauses timeout (start + timeout) start trace events outcome) ↔
      Timed pauses start trace ∧ Decides timeout (start + timeout) trace outcome
  opened : ∀ {deadline : Nat} {trace : List Poll} {outcome : Except Error Unit},
    Decides timeout deadline trace outcome → (outcome = .ok () ↔ ∃ poll ∈ trace, poll.state = .connected)
  timedOut : ∀ {deadline duration : Nat} {trace : List Poll},
    Decides timeout deadline trace (.error (.establishment (.timedOut duration))) →
      duration = timeout ∧ ∃ poll ∈ trace, deadline < poll.clock
  /-- A state that is on the way to another one decides nothing by itself. -/
  pending : ∀ {deadline : Nat} {poll : Poll} {outcome : Except Error Unit},
    poll.state = .new ∨ poll.state = .connecting ∨ poll.state = .disconnected →
      poll.verdict timeout deadline = some outcome →
        poll.cancelled = true ∧ outcome = .error .cancelled ∨
          poll.cancelled = false ∧ deadline < poll.clock ∧ outcome = .error (.establishment (.timedOut timeout))
  /-- Among as many polls as there is time for, and two more, there is one that decides. -/
  ends : ∀ {σ : Type} (state : σ) {pauses : Pausing} {start : Nat} {trace : List Poll}, Advancing pauses →
    Timed pauses start trace → timeout / pause + 2 ≤ trace.length →
      ∃ early last rest events outcome, trace = early ++ last :: rest ∧
        (early ++ [last]).length ≤ timeout / pause + 2 ∧
          Polls state pauses timeout (start + timeout) start (early ++ [last]) events outcome
  short : ∀ {σ : Type} {state : σ} {start : Nat} {trace : List Poll} {events : List Event}
    {outcome : Except Error Unit}, Polls state slept timeout (start + timeout) start trace events outcome →
      trace.length ≤ timeout / pause + 2
  /-- The wait of a session comes out as this one does. -/
  session : ∀ {context after : Context} {events : List Event} {outcome : Except Error Unit},
    context.config.connectionTimeout = timeout → Context.waitConnected.Runs context events outcome after →
      ∃ waiting, (connected timeout).Runs context waiting outcome context ∧
        Notes context waiting events outcome after
  breaks : ∀ {context : Context} {events : List Event}, context.config.connectionTimeout = timeout →
    (Context.waitConnected.Panics context events ↔ (connected timeout).Panics context events)

/-- For every timeout, and whatever is to be read at each poll: a wait ends at the first poll whose state, whose
cancellation or whose time decides, and in time, as long as the clock can tell the end of that. -/
theorem connected_settles (timeout : Nat) : Settles timeout where
  runs := connected_polls
  panics := connected_panics_iff
  promised := promised_iff
  first := polls_iff
  opened decides := decides.ok_iff
  timedOut := by
    rintro deadline duration trace ⟨early, last, rfl, -, decided⟩
    obtain ⟨same, late⟩ := Poll.verdict_timedOut decided
    exact ⟨same, last, by simp, late⟩
  pending := by
    intro deadline poll outcome moving
    refine Poll.verdict_pending ?_
    rcases moving with same | same | same <;>
      · rw [same]
        rfl
  ends := by
    intro σ state pauses start trace advances timed many
    rcases first_decided timeout (start + timeout) trace with
      undecided | ⟨early, last, rest, outcome, rfl, undecided, decided⟩
    · have few := timed.undecided_length advances undecided
      omega
    · have few := timed.left.undecided_length advances undecided
      rw [List.append_cons] at timed
      have waits : ∃ events, Polls state pauses timeout (start + timeout) start (early ++ [last]) events outcome :=
        polls_of_decided timed.left undecided decided
      obtain ⟨events, polls⟩ := waits
      refine ⟨early, last, rest, events, outcome, rfl, ?_, polls⟩
      rw [List.length_append, List.length_singleton]
      omega
  short := by
    intro σ state start trace events outcome polls
    obtain ⟨early, last, rfl, undecided, -⟩ := polls.decides
    have few := polls.timed.left.undecided_length advancing_slept undecided
    rw [List.length_append, List.length_singleton]
    omega
  session := by
    rintro context after events outcome rfl run
    exact notes_of_runs run
  breaks := by
    rintro context events rfl
    exact waitConnected_panics_iff

/-- A wait for as long as can be asked for breaks the promise. Its settings are fit and the connection is open, but it
panics before it looks. -/
theorem connected_overflows :
    (∀ {config : ClientConfig} {url : Url}, config.validate = .ok url →
      { config with connectionTimeout := longest, rwTimeout := longest }.validate = .ok url) ∧
    Timed slept 0 [⟨.connected, false, 0⟩] ∧ Decides longest (0 + longest) [⟨.connected, false, 0⟩] (.ok ()) ∧
    (connected longest : Act Unit Unit).Panics () [⟨.host (.now 0), ⟨0, Nat.le_refl 0⟩⟩] ∧
    (∀ events outcome, ¬ (connected longest : Act Unit Unit).Runs () events outcome ()) ∧
    ¬ Promised longest ⟨0, Nat.le_refl 0⟩ := by
  obtain ⟨timed, decides⟩ := opens_at_once 0 longest
  refine ⟨fun {config url} valid => ?_, timed, decides, ?_, fun events outcome run => ?_, fun promised => ?_⟩
  · exact validate_timeouts valid longest_ne_zero longest_ne_zero
  · exact connected_panics_iff.2 ⟨_, rfl, longest_overflows 0⟩
  · obtain ⟨start, _, -, told, -⟩ := runs_connected.1 run
    exact absurd told (Nat.not_lt.2 (longest_overflows start.val))
  · exact absurd (promised_iff.1 promised) (Nat.not_lt.2 (longest_overflows 0))

/-- Success comes before a cancellation, and that before the end of the time. -/
example : (⟨.connected, true, 9⟩ : Poll).verdict 5 8 = some (.ok ()) ∧
    (⟨.connecting, true, 9⟩ : Poll).verdict 5 8 = some (.error .cancelled) ∧
    (⟨.connecting, false, 9⟩ : Poll).verdict 5 8 = some (.error (.establishment (.timedOut 5))) ∧
    (⟨.connecting, false, 8⟩ : Poll).verdict 5 8 = none :=
  ⟨rfl, rfl, rfl, rfl⟩

end WhipWhep.Wait
