import WhipWhep.Proofs.InMemory.Delivery
import WhipWhep.Proofs.Session.Polling
import WhipWhep.Proofs.Session.Takings

/-!
A read that waits. It is a row of polls, each of which is a round of the streams and, where that has blocked, a look at
the cancellation and then at the time. The first poll that decides ends the read, and no packet that a reader has given
is lost on the way. All this takes a clock that can tell the end of the time: a read that may take longer makes no poll
at all.
-/

namespace WhipWhep.Player

open Wait (Pausing Advancing slept pause advancing_slept clockEnd)

variable {player after : Player} {events : List Event} {outcome : Except Error Packet} {deadline clock : Nat}

/-- What there is to be had at one poll of a read: a round, and what is to be read behind it. -/
structure Poll where
  round : Round
  cancelled : Bool
  clock : Nat

namespace Poll

variable {poll : Poll}

/-- How a poll ends the read, if it does. The streams come first, then the cancellation, then the time. -/
def verdict (deadline : Nat) (poll : Poll) : Option (Except Error Packet) :=
  if blocks poll.round.outcome then
    if poll.cancelled then some (.error .cancelled)
    else if deadline ≤ poll.clock then some (.error .wouldBlock)
    else none
  else some poll.round.outcome

/-- What a poll asks for and is answered. -/
def reads (clock : Nat) (poll : Poll) (due : clock ≤ poll.clock) : List Event :=
  poll.round.events ++
    if blocks poll.round.outcome then
      ⟨.host .isCancelled, poll.cancelled⟩ ::
        if poll.cancelled then [] else [⟨.host (.now clock), ⟨poll.clock, due⟩⟩]
    else []

/-- What a read learns from a poll: that it has ended, and how, or the time. -/
def found (deadline : Nat) (poll : Poll) : Except Error (Packet ⊕ Nat) :=
  match poll.verdict deadline with
  | some outcome => outcome.map .inl
  | none => .ok (.inr poll.clock)

theorem found_ended_iff : poll.found deadline = outcome.map .inl ↔ poll.verdict deadline = some outcome := by
  unfold found
  cases poll.verdict deadline with
  | none =>
    refine iff_of_false (fun same => ?_) nofun
    cases outcome <;> cases same
  | some ending =>
    rw [Option.some.injEq]
    refine ⟨fun same => ?_, fun same => by rw [same]⟩
    cases ending <;> cases outcome <;> cases same <;> rfl

theorem found_goes_iff {time : Nat} : poll.found deadline = .ok (.inr time) ↔
    poll.verdict deadline = none ∧ poll.clock = time := by
  unfold found
  cases poll.verdict deadline with
  | none => simp
  | some ending => cases ending <;> simp [Except.map]

theorem verdict_ended (ended : poll.round.outcome ≠ .error .wouldBlock) :
    poll.verdict deadline = some poll.round.outcome :=
  if_neg (by rwa [blocks_iff])

theorem verdict_blocked (blocked : poll.round.outcome = .error .wouldBlock) :
    poll.verdict deadline =
      if poll.cancelled then some (.error .cancelled)
      else if deadline ≤ poll.clock then some (.error .wouldBlock)
      else none :=
  if_pos (blocks_iff.2 blocked)

/-- A poll that decides nothing has found nothing, and neither a cancellation nor the end of the time. -/
theorem verdict_none_iff : poll.verdict deadline = none ↔
    poll.round.outcome = .error .wouldBlock ∧ poll.cancelled = false ∧ poll.clock < deadline := by
  by_cases blocked : poll.round.outcome = .error .wouldBlock
  · rw [verdict_blocked blocked]
    cases poll.cancelled with
    | true => simp
    | false => simp [blocked]
  · rw [verdict_ended blocked]
    simp [blocked]

/-- That there is nothing yet is told only at the end of the time. -/
theorem late_of_wouldBlock (told : poll.verdict deadline = some (.error .wouldBlock)) :
    poll.round.outcome = .error .wouldBlock ∧ poll.cancelled = false ∧ deadline ≤ poll.clock := by
  by_cases blocked : poll.round.outcome = .error .wouldBlock
  · rw [verdict_blocked blocked] at told
    cases stopped : poll.cancelled with
    | true => simp [stopped] at told
    | false => simpa [stopped, blocked] using told
  · rw [verdict_ended blocked] at told
    exact absurd (Option.some.inj told) blocked

end Poll

/-- One poll of a read: it ends the read, or the read goes on from a time on. -/
def glance (deadline clock : Nat) : Act Player (Packet ⊕ Nat) := do
  match ← tryRead.attempt with
  | .ok packet => return .inl packet
  | .error .wouldBlock =>
    if ← isCancelled then Act.fail .cancelled
    else
      let time ← Act.ask (.host (.now clock))
      if deadline ≤ time.val then Act.fail .wouldBlock
      else return .inr time.val
  | .error cause => Act.fail cause

/-- A read is one poll, and unless that ends it a pause and then the same again. -/
theorem readUntil_eq : readUntil deadline clock = (do
    match ← glance deadline clock with
    | .inl packet => return packet
    | .inr time => do
      let later ← Act.ask (.host (.sleep time pause))
      readUntil deadline later.val) := by
  rw [readUntil, glance, Act.bind_assoc]
  congr 1
  funext tried
  cases tried with
  | ok packet => rfl
  | error cause =>
    cases cause with
    | wouldBlock =>
      dsimp only
      rw [Act.bind_assoc]
      congr 1
      funext stopped
      cases stopped with
      | true => rfl
      | false =>
        simp only [Bool.false_eq_true, if_false]
        rw [Act.bind_assoc]
        congr 1
        funext time
        by_cases late : deadline ≤ time.val
        · rw [dif_pos late, if_pos late]
          rfl
        · rw [dif_neg late, if_neg late]
          rfl
    | _ => rfl

variable {poll : Poll}

theorem glance_answers (due : clock ≤ poll.clock) :
    (glance deadline clock).Runs poll.round.before (poll.reads clock due) (poll.found deadline) poll.round.after := by
  refine Act.runs_attempt_bind.2 ⟨_, _, _, _, rfl, poll.round.run, ?_⟩
  unfold Poll.found Poll.verdict
  cases told : poll.round.outcome with
  | ok packet => exact .done _
  | error cause =>
    cases cause with
    | wouldBlock =>
      simp only [blocks, if_true]
      refine Act.runs_ask_bind.2 ⟨poll.cancelled, _, rfl, ?_⟩
      cases poll.cancelled with
      | true => exact .done _
      | false =>
        refine Act.runs_ask_bind.2 ⟨⟨poll.clock, due⟩, [], rfl, ?_⟩
        simp only [Bool.false_eq_true, if_false]
        split
        · exact .done _
        · exact .done _
    | _ => exact .done _

/-- A poll that is answered is what there was to be had, and that decides what comes of it. -/
theorem glance_reads_iff (due : clock ≤ poll.clock) {found : Except Error (Packet ⊕ Nat)} :
    (glance deadline clock).Runs poll.round.before (poll.reads clock due) found after ↔
      poll.found deadline = found ∧ after = poll.round.after := by
  constructor
  · intro run
    have alike : poll.reads clock due ++ [] = poll.reads clock due ++ [] := rfl
    obtain ⟨-, same⟩ := (glance_answers due).unique run alike
    exact ⟨(Prod.mk.inj same).1, (Prod.mk.inj same).2.symm⟩
  · rintro ⟨rfl, rfl⟩
    exact glance_answers due

/-- Every poll is one of something that there was to be had. What was not read is as it may be. -/
theorem poll_of_glance {found : Except Error (Packet ⊕ Nat)}
    (run : (glance deadline clock).Runs player events found after) :
    ∃ (poll : Poll) (due : clock ≤ poll.clock), events = poll.reads clock due ∧ player = poll.round.before := by
  obtain ⟨first, given, middle, second, rfl, reading, onward⟩ := Act.runs_attempt_bind.1 run
  let round : Round := ⟨player, first, given, middle, reading⟩
  by_cases blocked : given = .error .wouldBlock
  · subst blocked
    obtain ⟨stopped, _, rfl, asked⟩ := Act.runs_ask_bind.1 onward
    cases stopped with
    | true =>
      obtain ⟨rfl, -, -⟩ := Act.runs_fail.1 asked
      exact ⟨⟨round, true, clock⟩, Nat.le_refl _, rfl, rfl⟩
    | false =>
      obtain ⟨time, rest, rfl, timed⟩ := Act.runs_ask_bind.1 asked
      have quiet : rest = [] := by
        split at timed
        · exact (Act.runs_fail.1 timed).1
        · exact (Act.runs_pure.1 timed).1
      exact ⟨⟨round, false, time.val⟩, time.property, by rw [quiet]; rfl, rfl⟩
  · have quiet : second = [] := by
      split at onward
      · exact (Act.runs_pure.1 onward).1
      · exact absurd rfl blocked
      · exact (Act.runs_fail.1 onward).1
    have silent : blocks given = false := by rwa [← Bool.not_eq_true, blocks_iff]
    exact ⟨⟨round, false, clock⟩, Nat.le_refl _, by simp [Poll.reads, round, quiet, silent], rfl⟩

/-! Polls one after the other, whatever the pauses between them take. -/

/-- The polls of a read up to the one that ends it, with all that was asked for. -/
inductive Polls (pauses : Pausing) (deadline : Nat) :
    Player → Nat → List Poll → List Event → Except Error Packet → Player → Prop where
  | ended {clock : Nat} {poll : Poll} {outcome : Except Error Packet} (due : clock ≤ poll.clock)
      (glances : (glance deadline clock).Runs poll.round.before (poll.reads clock due) (outcome.map .inl)
        poll.round.after) :
      Polls pauses deadline poll.round.before clock [poll] (poll.reads clock due) outcome poll.round.after
  | goes {clock later : Nat} {poll : Poll} {trace : List Poll} {pausing rest : List Event}
      {outcome : Except Error Packet} {after : Player} (due : clock ≤ poll.clock)
      (glances : (glance deadline clock).Runs poll.round.before (poll.reads clock due) (.ok (.inr poll.clock))
        poll.round.after)
      (rests : pauses poll.clock later pausing)
      (onward : Polls pauses deadline poll.round.after later trace rest outcome after) :
      Polls pauses deadline poll.round.before clock (poll :: trace) (poll.reads clock due ++ (pausing ++ rest)) outcome
        after

/-- Polls that can follow one another: each finds the player as the one before has left it, the time goes on, and there
is a pause between each two of them. -/
def Linked (pauses : Pausing) : Player → Nat → List Poll → Prop
  | _, _, [] => True
  | player, clock, poll :: rest =>
    player = poll.round.before ∧ clock ≤ poll.clock ∧
      (rest ≠ [] → ∃ later pausing, pauses poll.clock later pausing ∧ Linked pauses poll.round.after later rest)

/-- The first of some polls that decides is the last one of them. -/
def Decides (deadline : Nat) (trace : List Poll) (outcome : Except Error Packet) (after : Player) : Prop :=
  ∃ early last, trace = early ++ [last] ∧ (∀ poll ∈ early, poll.verdict deadline = none) ∧
    last.verdict deadline = some outcome ∧ after = last.round.after

variable {pauses : Pausing} {trace early late : List Poll}

theorem readUntil_polls : (readUntil deadline clock).Runs player events outcome after ↔
    ∃ trace, Polls slept deadline player clock trace events outcome after := by
  constructor
  · intro run
    -- By the recursion of the read: a poll that decides nothing is in time, and what comes after its pause is later.
    induction clock using readUntil.induct deadline generalizing player events with
    | _ clock ih =>
      rw [readUntil_eq] at run
      rcases Act.runs_bind.1 run with ⟨cause, rfl, failed⟩ | ⟨first, result, middle, second, rfl, glances, onward⟩
      · obtain ⟨poll, due, rfl, rfl⟩ := poll_of_glance failed
        obtain ⟨-, rfl⟩ := (glance_reads_iff due).1 failed
        exact ⟨[poll], .ended due failed⟩
      · obtain ⟨poll, due, rfl, rfl⟩ := poll_of_glance glances
        obtain ⟨found, rfl⟩ := (glance_reads_iff due).1 glances
        cases result with
        | inl packet =>
          obtain ⟨rfl, rfl, rfl⟩ := Act.runs_pure.1 onward
          rw [List.append_nil]
          exact ⟨[poll], .ended due glances⟩
        | inr time =>
          obtain ⟨undecided, rfl⟩ := Poll.found_goes_iff.1 found
          obtain ⟨woken, rest, rfl, again⟩ := Act.runs_ask_bind.1 onward
          have early : ¬ deadline ≤ poll.clock := Nat.not_le.2 (Poll.verdict_none_iff.1 undecided).2.2
          obtain ⟨trace, polls⟩ := ih ⟨poll.clock, due⟩ early woken again
          exact ⟨poll :: trace, .goes due glances ⟨woken, rfl, rfl⟩ polls⟩
  · rintro ⟨trace, polls⟩
    induction polls with
    | @ended clock poll outcome due glances =>
      rw [readUntil_eq]
      cases outcome with
      | error cause => exact Act.runs_bind.2 (.inl ⟨cause, rfl, glances⟩)
      | ok packet =>
        exact Act.runs_bind.2 (.inr ⟨_, _, _, [], (List.append_nil _).symm, glances, Act.runs_pure.2 ⟨rfl, rfl, rfl⟩⟩)
    | goes due glances rests onward ih =>
      rw [readUntil_eq]
      obtain ⟨woken, rfl, rfl⟩ := rests
      exact Act.runs_bind.2 (.inr ⟨_, _, _, _, rfl, glances, Act.runs_ask_bind.2 ⟨woken, _, rfl, ih⟩⟩)

theorem Polls.linked (polls : Polls pauses deadline player clock trace events outcome after) :
    Linked pauses player clock trace := by
  induction polls with
  | ended due glances => exact ⟨rfl, due, fun more => absurd rfl more⟩
  | goes due glances rests onward ih => exact ⟨rfl, due, fun _ => ⟨_, _, rests, ih⟩⟩

theorem Polls.decides (polls : Polls pauses deadline player clock trace events outcome after) :
    Decides deadline trace outcome after := by
  induction polls with
  | @ended clock poll outcome due glances =>
    obtain ⟨found, -⟩ := (glance_reads_iff due).1 glances
    exact ⟨[], poll, rfl, List.forall_mem_nil _, Poll.found_ended_iff.1 found, rfl⟩
  | @goes clock later poll trace pausing rest outcome after due glances rests onward ih =>
    obtain ⟨early, last, rfl, undecided, decided, rfl⟩ := ih
    obtain ⟨found, -⟩ := (glance_reads_iff due).1 glances
    obtain ⟨here, -⟩ := Poll.found_goes_iff.1 found
    exact ⟨poll :: early, last, rfl, List.forall_mem_cons.2 ⟨here, undecided⟩, decided, rfl⟩

theorem polls_of_decided {last : Poll} (linked : Linked pauses player clock (early ++ [last]))
    (undecided : ∀ poll ∈ early, poll.verdict deadline = none) (decided : last.verdict deadline = some outcome) :
    ∃ events, Polls pauses deadline player clock (early ++ [last]) events outcome last.round.after := by
  induction early generalizing player clock with
  | nil =>
    obtain ⟨rfl, due, -⟩ := linked
    exact ⟨_, .ended due ((glance_reads_iff due).2 ⟨Poll.found_ended_iff.2 decided, rfl⟩)⟩
  | cons poll rest ih =>
    obtain ⟨here, others⟩ := List.forall_mem_cons.1 undecided
    obtain ⟨rfl, due, goes⟩ := linked
    obtain ⟨later, pausing, rests, onward⟩ := goes (by simp)
    obtain ⟨events, polls⟩ := ih onward others
    exact ⟨_, .goes due ((glance_reads_iff due).2 ⟨Poll.found_goes_iff.2 ⟨here, rfl⟩, rfl⟩) rests polls⟩

/-- Polls are those of a read exactly if they can follow one another and the last one is the first to decide. -/
theorem polls_iff : (∃ events, Polls pauses deadline player clock trace events outcome after) ↔
    Linked pauses player clock trace ∧ Decides deadline trace outcome after := by
  constructor
  · rintro ⟨events, polls⟩
    exact ⟨polls.linked, polls.decides⟩
  · rintro ⟨linked, early, last, rfl, undecided, decided, rfl⟩
    exact polls_of_decided linked undecided decided

/-! How many polls there can be. -/

theorem Linked.left (linked : Linked pauses player clock (early ++ late)) : Linked pauses player clock early := by
  induction early generalizing player clock with
  | nil => trivial
  | cons poll rest ih =>
    obtain ⟨same, due, goes⟩ := linked
    refine ⟨same, due, fun more => ?_⟩
    obtain ⟨later, pausing, rests, onward⟩ := goes (by simp [more])
    exact ⟨later, pausing, rests, ih onward⟩

/-- The same poll as one of a wait, for a state that decides nothing. -/
def Poll.pending (poll : Poll) : Wait.Poll := ⟨.new, poll.cancelled, poll.clock⟩

theorem Linked.timed (linked : Linked pauses player clock trace) :
    Wait.Timed pauses clock (trace.map Poll.pending) := by
  induction trace generalizing player clock with
  | nil => trivial
  | cons poll rest ih =>
    obtain ⟨-, due, goes⟩ := linked
    refine ⟨due, fun more => ?_⟩
    obtain ⟨later, pausing, rests, onward⟩ := goes (by rintro rfl; exact more rfl)
    exact ⟨later, pausing, rests, ih onward⟩

/-- The number of pauses after which a time is over. -/
def pausesIn (timeout : Nat) : Nat := (timeout + pause - 1) / pause

/-- A pause that is not over in time counts like the others. -/
example : pausesIn 0 = 0 ∧ pausesIn 1_000_000 = 1 ∧ pausesIn 1_000_001 = 2 := by
  decide

/-- Here the end of the time belongs to the time no more, so that there is a moment less than for a wait. -/
theorem Linked.undecided_length {start timeout : Nat} (advances : Advancing pauses)
    (linked : Linked pauses player start trace)
    (undecided : ∀ poll ∈ trace, poll.verdict (start + timeout) = none) : trace.length ≤ pausesIn timeout := by
  have early : ∀ poll ∈ trace, poll.cancelled = false ∧ poll.clock < start + timeout := fun poll member =>
    (Poll.verdict_none_iff.1 (undecided poll member)).2
  cases timeout with
  | zero =>
    cases trace with
    | nil => exact Nat.zero_le _
    | cons poll rest =>
      have due := linked.2.1
      have soon := (early poll List.mem_cons_self).2
      omega
  | succ moment =>
    have pending : ∀ poll ∈ trace.map Poll.pending, poll.verdict moment (start + moment) = none := by
      refine List.forall_mem_map.2 fun poll member => ?_
      obtain ⟨steady, soon⟩ := early poll member
      have within : ¬ start + moment < poll.clock := by omega
      simp [Wait.Poll.verdict, Wait.verdict, Poll.pending, steady, within]
    have few := linked.timed.undecided_length advances pending
    rw [List.length_map] at few
    simp only [pausesIn, pause] at few ⊢
    omega

/-- The promise of a read that begins at some time: whatever there is to be had, it polls until that decides, and comes
to what the last poll tells. -/
def Perseveres (player : Player) (start : { time : Nat // 0 ≤ time }) : Prop :=
  ∀ {trace : List Poll} {outcome : Except Error Packet} {after : Player}, Linked slept player start.val trace →
    Decides (start.val + player.context.config.rwTimeout) trace outcome after →
      ∃ rest, Polls slept (start.val + player.context.config.rwTimeout) player start.val trace rest outcome after ∧
        Player.read.Runs player (⟨.host (.now 0), start⟩ :: rest) outcome after

/-- How a read of a player comes to its end. -/
structure Lingers (player : Player) : Prop where
  /-- A read that comes to something is the polls that it makes, the pauses between them, and nothing else. -/
  runs : ∀ {events : List Event} {outcome : Except Error Packet} {after : Player},
    Player.read.Runs player events outcome after ↔
      ∃ start trace rest, events = ⟨.host (.now 0), start⟩ :: rest ∧
        start.val + player.context.config.rwTimeout < clockEnd ∧
          Polls slept (start.val + player.context.config.rwTimeout) player start.val trace rest outcome after
  /-- Any other one panics, before its first poll. -/
  panics : ∀ {events : List Event}, Player.read.Panics player events ↔
    ∃ start, events = [⟨.host (.now 0), start⟩] ∧ clockEnd ≤ start.val + player.context.config.rwTimeout
  /-- It ends at the first poll that decides, and as that tells, exactly if the clock can tell the end of the time. -/
  perseveres : ∀ {start : { time : Nat // 0 ≤ time }},
    Perseveres player start ↔ start.val + player.context.config.rwTimeout < clockEnd
  /-- However long the pauses take, it ends at the first poll that decides, and as that one tells. -/
  first : ∀ {pauses : Pausing} {start : Nat} {trace : List Poll} {outcome : Except Error Packet} {after : Player},
    (∃ events, Polls pauses (start + player.context.config.rwTimeout) player start trace events outcome after) ↔
      Linked pauses player start trace ∧ Decides (start + player.context.config.rwTimeout) trace outcome after
  /-- The first round that does not block is the last one, and what it gives is the outcome. -/
  given : ∀ {deadline : Nat} {trace before behind : List Poll} {poll : Poll} {outcome : Except Error Packet}
    {after : Player}, Decides deadline trace outcome after → trace = before ++ poll :: behind →
      poll.round.outcome ≠ .error .wouldBlock → behind = [] ∧ outcome = poll.round.outcome
  /-- There is one round, however short the time. -/
  once : ∀ {events : List Event} {outcome : Except Error Packet} {after : Player},
    Player.read.Runs player events outcome after → ∃ start, ∃ round : Round, ∃ rest,
      round.before = player ∧ events = ⟨.host (.now 0), start⟩ :: (round.events ++ rest)
  packets : ∀ {events : List Event} {outcome : Except Error Packet} {after : Player},
    Player.read.Runs player events outcome after → Returned (takings events) outcome
  /-- That there is no packet is told once the time is over, and not before. -/
  patient : ∀ {deadline : Nat} {trace : List Poll} {after : Player},
    Decides deadline trace (.error .wouldBlock) after → ∃ last ∈ trace.getLast?,
      last.round.outcome = .error .wouldBlock ∧ last.cancelled = false ∧ deadline ≤ last.clock
  /-- Among as many polls as there are pauses in the time, and one more, there is one that decides. -/
  ends : ∀ {pauses : Pausing} {start : Nat} {trace : List Poll},
    Advancing pauses → Linked pauses player start trace → pausesIn player.context.config.rwTimeout + 1 ≤ trace.length →
      ∃ early last rest events outcome, trace = early ++ last :: rest ∧
        (early ++ [last]).length ≤ pausesIn player.context.config.rwTimeout + 1 ∧
          Polls pauses (start + player.context.config.rwTimeout) player start (early ++ [last]) events outcome
            last.round.after
  short : ∀ {start : Nat} {trace : List Poll} {events : List Event} {outcome : Except Error Packet} {after : Player},
    Polls slept (start + player.context.config.rwTimeout) player start trace events outcome after →
      trace.length ≤ pausesIn player.context.config.rwTimeout + 1

theorem read_polls : Player.read.Runs player events outcome after ↔
    ∃ start trace rest, events = ⟨.host (.now 0), start⟩ :: rest ∧
      start.val + player.context.config.rwTimeout < clockEnd ∧
        Polls slept (start.val + player.context.config.rwTimeout) player start.val trace rest outcome after := by
  constructor
  · intro run
    obtain ⟨start, rest, rfl, told, reads⟩ := runs_read.1 run
    obtain ⟨trace, polls⟩ := readUntil_polls.1 reads
    exact ⟨start, trace, rest, rfl, told, polls⟩
  · rintro ⟨start, trace, rest, rfl, told, polls⟩
    exact runs_read.2 ⟨start, rest, rfl, told, readUntil_polls.2 ⟨trace, polls⟩⟩

/-- A round decides if it does not block, and a cancellation behind it does if it blocks. -/
theorem decides_at_once (round : Round) (start timeout : Nat) : Linked slept round.before start [⟨round, true, start⟩] ∧
    ∃ outcome, Decides (start + timeout) [⟨round, true, start⟩] outcome round.after := by
  refine ⟨⟨rfl, Nat.le_refl _, fun more => absurd rfl more⟩, ?_⟩
  by_cases blocked : round.outcome = .error .wouldBlock
  · exact ⟨.error .cancelled, [], _, rfl, List.forall_mem_nil _, Poll.verdict_blocked blocked, rfl⟩
  · exact ⟨round.outcome, [], _, rfl, List.forall_mem_nil _, Poll.verdict_ended blocked, rfl⟩

theorem perseveres_iff {start : { time : Nat // 0 ≤ time }} :
    Perseveres player start ↔ start.val + player.context.config.rwTimeout < clockEnd := by
  constructor
  · intro promised
    obtain ⟨events, given, after, run⟩ := calm_tryRead.runs player
    obtain ⟨linked, outcome, decides⟩ :=
      decides_at_once ⟨player, events, given, after, run⟩ start.val player.context.config.rwTimeout
    obtain ⟨rest, -, read⟩ := promised linked decides
    obtain ⟨_, _, same, told, -⟩ := runs_read.1 read
    cases same
    exact told
  · intro told trace outcome after linked decides
    obtain ⟨rest, polls⟩ := polls_iff.2 ⟨linked, decides⟩
    exact ⟨rest, polls, read_polls.2 ⟨start, trace, rest, rfl, told, polls⟩⟩

theorem Polls.begins (polls : Polls pauses deadline player clock trace events outcome after) :
    ∃ (round : Round) (rest : List Event), round.before = player ∧ events = round.events ++ rest := by
  cases polls with
  | ended due glances => exact ⟨_, _, rfl, rfl⟩
  | goes due glances rests onward => exact ⟨_, _, rfl, List.append_assoc _ _ _⟩

theorem Decides.given {before behind : List Poll} (decides : Decides deadline trace outcome after)
    (split : trace = before ++ poll :: behind) (ended : poll.round.outcome ≠ .error .wouldBlock) :
    behind = [] ∧ outcome = poll.round.outcome := by
  obtain ⟨early, last, rfl, undecided, decided, -⟩ := decides
  have outside : poll ∉ early := fun member => ended (Poll.verdict_none_iff.1 (undecided poll member)).1
  obtain ⟨between, -, final⟩ := split_behind split outside
  rcases between with - | ⟨_, others⟩
  · obtain ⟨rfl, rfl⟩ := List.cons.inj final
    rw [Poll.verdict_ended ended] at decided
    exact ⟨rfl, (Option.some.inj decided).symm⟩
  · simp at final

theorem read_lingers (player : Player) : Lingers player where
  runs := read_polls
  panics := read_panics_iff
  perseveres := perseveres_iff
  first := polls_iff
  given := Decides.given
  once run := by
    obtain ⟨start, trace, rest, rfl, -, polls⟩ := read_polls.1 run
    obtain ⟨round, later, same, rfl⟩ := polls.begins
    exact ⟨start, round, later, same, rfl⟩
  packets run := by
    obtain ⟨packets, gathers, returned⟩ := read_returns run
    rwa [gathers.total]
  patient := by
    rintro deadline trace after ⟨early, last, rfl, -, told, -⟩
    exact ⟨last, by simp, Poll.late_of_wouldBlock told⟩
  ends := by
    intro pauses start trace advances linked many
    cases found : trace.findSome? (Poll.verdict (start + player.context.config.rwTimeout)) with
    | none =>
      have few := linked.undecided_length advances (List.findSome?_eq_none_iff.1 found)
      omega
    | some outcome =>
      obtain ⟨early, last, rest, rfl, decided, undecided⟩ := List.findSome?_eq_some_iff.1 found
      have few := linked.left.undecided_length advances undecided
      rw [List.append_cons] at linked
      obtain ⟨events, polls⟩ := polls_of_decided linked.left undecided decided
      refine ⟨early, last, rest, events, outcome, rfl, ?_, polls⟩
      rw [List.length_append, List.length_singleton]
      omega
  short polls := by
    obtain ⟨early, last, rfl, undecided, -, -⟩ := polls.decides
    have few := polls.linked.left.undecided_length advancing_slept undecided
    rw [List.length_append, List.length_singleton]
    omega

/-- A player that may read for as long as can be asked for breaks the promise. It has opened, and a keyframe comes in
that a round would read, but the read panics before it looks. -/
theorem read_overflows :
    (openSession (Revised.Lasting.setting Wait.longest)).Runs () (Revised.Lasting.opening Wait.longest)
      (.ok (Revised.Lasting.session Wait.longest)) () ∧
    (⟨Revised.engine, .empty⟩ : InMemory.Backend).Serves (Revised.Lasting.opening Wait.longest) Revised.left ∧
    Revised.left.Feeds Revised.reading.events Revised.reading.pushed Revised.second.before ∧
    (∃ after, tryRead.Runs (Revised.Lasting.session Wait.longest) Revised.reading.events (.ok Revised.packet) after) ∧
    Player.read.Panics (Revised.Lasting.session Wait.longest) [⟨.host (.now 0), Client.Unanswered.outset⟩] ∧
    (∀ events outcome after, ¬ Player.read.Runs (Revised.Lasting.session Wait.longest) events outcome after) ∧
    ¬ Perseveres (Revised.Lasting.session Wait.longest) Client.Unanswered.outset := by
  have reads : ∃ after, tryRead.Runs (Revised.Lasting.session Wait.longest) Revised.reading.events
      (.ok Revised.packet) after :=
    ⟨_, .call _ _ _ (.call _ _ _ (.call _ _ _ (.call _ _ _ (.done _))))⟩
  refine ⟨Revised.Lasting.runs Wait.longest_ne_zero, Revised.Lasting.serves _, Revised.feeds_reading, reads, ?_, ?_,
    fun promised => ?_⟩
  · exact read_panics_iff.2 ⟨_, rfl, Wait.longest_overflows 0⟩
  · intro events outcome after run
    obtain ⟨start, _, -, told, -⟩ := runs_read.1 run
    exact absurd told (Nat.not_lt.2 (Wait.longest_overflows start.val))
  · exact absurd (perseveres_iff.1 promised) (Nat.not_lt.2 (Wait.longest_overflows 0))

end WhipWhep.Player
