import WhipWhep.Player
import WhipWhep.Proofs.Run

/-!
Where a program panics. An act that relies on no condition is calm: however it is answered, it comes to a result. All
that a session does on its tracks is calm, so that what remains is the end of a span of time.
-/

namespace WhipWhep

/-- There is an answer to every request. -/
theorem Call.answered (request : Call) : Nonempty request.Answer := by
  cases request with
  | engine call => cases call <;> first | exact ⟨()⟩ | exact ⟨.error .invalid⟩
  | http request => exact ⟨⟨[], .error .emptyAnswer⟩⟩
  | layer call => cases call <;> first | exact ⟨()⟩ | exact ⟨.done ()⟩ | exact ⟨.done (.error .endOfStream)⟩
  | host call =>
    cases call with
    | isCancelled => exact ⟨true⟩
    | connectionState => exact ⟨.new⟩
    | now since => exact ⟨⟨since, Nat.le_refl _⟩⟩
    | sleep since duration => exact ⟨⟨since + duration, Nat.le_refl _⟩⟩
    | random bits => exact ⟨0⟩
    | bridgeLog => exact ⟨()⟩

/-- A script can come to a result or to a panic. -/
theorem Script.comes {α : Type} (script : Script α) :
    ∃ events, (∃ result, Yields script events result) ∨ script.Panics events := by
  induction script with
  | done result => exact ⟨[], .inl ⟨result, .done result⟩⟩
  | call request next ih =>
    obtain ⟨answer⟩ := request.answered
    obtain ⟨events, ⟨result, run⟩ | panics⟩ := ih answer
    · exact ⟨_, .inl ⟨result, .call request next answer run⟩⟩
    · exact ⟨_, .inr (panics_call_iff.2 ⟨answer, events, rfl, panics⟩)⟩
  | assert holds next ih =>
    cases holds with
    | false => exact ⟨[], .inr (panics_assert_iff.2 (.inl ⟨rfl, rfl⟩))⟩
    | true =>
      obtain ⟨events, ⟨result, run⟩ | panics⟩ := ih
      · exact ⟨events, .inl ⟨result, .assert next run⟩⟩
      · exact ⟨events, .inr (panics_assert_iff.2 (.inr ⟨rfl, panics⟩))⟩

namespace Act

variable {σ τ α β : Type} {state : σ} {events : List Event}

/-- An act started in a state can come to a panic through a sequence of answered requests. -/
def Panics (act : Act σ α) (state : σ) (events : List Event) : Prop := (act state).Panics events

def Calm (act : Act σ α) : Prop := ∀ state events, ¬ act.Panics state events

theorem Calm.runs {act : Act σ α} (calm : act.Calm) (state : σ) :
    ∃ events outcome after, act.Runs state events outcome after := by
  obtain ⟨events, ⟨⟨outcome, after⟩, run⟩ | panics⟩ := (act state).comes
  · exact ⟨events, outcome, after, run⟩
  · exact absurd panics (calm state events)

theorem panics_bind_iff {act : Act σ α} {next : α → Act σ β} : (act >>= next).Panics state events ↔
    act.Panics state events ∨ ∃ first result middle second, events = first ++ second ∧
      act.Runs state first (.ok result) middle ∧ (next result).Panics middle second := by
  refine Iff.trans Script.panics_bind_iff (or_congr_right ?_)
  constructor
  · rintro ⟨first, ⟨cause | result, middle⟩, second, rfl, run, onward⟩
    · exact absurd onward Script.not_panics_done
    · exact ⟨first, result, middle, second, rfl, run, onward⟩
  · rintro ⟨first, result, middle, second, rfl, run, onward⟩
    exact ⟨first, (.ok result, middle), second, rfl, run, onward⟩

theorem panics_ask_bind {request : Call} {next : request.Answer → Act σ β} :
    (ask request >>= next).Panics state events ↔
      ∃ answer rest, events = ⟨request, answer⟩ :: rest ∧ (next answer).Panics state rest :=
  Script.panics_call_iff

theorem panics_get_bind {next : σ → Act σ β} : (get >>= next).Panics state events ↔ (next state).Panics state events :=
  Iff.rfl

theorem panics_assert_bind {condition : Prop} [Decidable condition] {next : Unit → Act σ β} :
    (assert condition >>= next).Panics state events ↔
      ¬ condition ∧ events = [] ∨ condition ∧ (next ()).Panics state events := by
  refine Iff.trans Script.panics_assert_iff ?_
  rw [decide_eq_false_iff_not, decide_eq_true_iff]
  exact Iff.rfl

theorem calm_pure {result : α} : (pure result : Act σ α).Calm := fun _ _ => Script.not_panics_done

theorem calm_fail {cause : Error} : (fail cause : Act σ α).Calm := fun _ _ => Script.not_panics_done

theorem calm_get : (get : Act σ σ).Calm := fun _ _ => Script.not_panics_done

theorem calm_modify {change : σ → σ} : (modify change).Calm := fun _ _ => Script.not_panics_done

theorem calm_settle {settled : Except Error α} : (settle settled : Act σ α).Calm := by
  cases settled with
  | ok result => exact calm_pure
  | error cause => exact calm_fail

theorem calm_ask {request : Call} : (ask request : Act σ request.Answer).Calm := by
  intro state events panics
  obtain ⟨_, _, -, onward⟩ := Script.panics_call_iff.1 panics
  exact Script.not_panics_done onward

theorem calm_bind {act : Act σ α} {next : α → Act σ β} (first : act.Calm) (second : ∀ result, (next result).Calm) :
    (act >>= next).Calm := by
  intro state events panics
  rcases panics_bind_iff.1 panics with here | ⟨_, _, _, _, -, -, onward⟩
  · exact first _ _ here
  · exact second _ _ _ onward

/-- What is done with the outcome of a calm script panics as little as that. -/
theorem calm_then {act : Act σ α} (calm : act.Calm) {next : Except Error α × σ → Script β}
    (onward : ∀ outcome events, ¬ (next outcome).Panics events) : ¬ ((act state).bind next).Panics events := by
  intro panics
  rcases Script.panics_bind_iff.1 panics with here | ⟨_, _, _, -, -, there⟩
  · exact calm _ _ here
  · exact onward _ _ there

theorem calm_attempt {act : Act σ α} (calm : act.Calm) : act.attempt.Calm := fun _ _ =>
  calm_then calm fun _ _ => Script.not_panics_done

theorem calm_within {part : σ → τ} {put : τ → σ → σ} {act : Act τ α} (calm : act.Calm) :
    (act.within part put).Calm := fun _ _ =>
  calm_then calm fun _ _ => Script.not_panics_done

end Act

open Act

theorem Transport.calm_receive {target : Option Handle} {capacity : Nat} : (receive target capacity).Calm := by
  refine calm_bind calm_ask fun cancelled => ?_
  cases cancelled with
  | true => exact calm_fail
  | false =>
    cases target with
    | none => exact calm_fail
    | some handle =>
      refine calm_bind calm_ask fun answer => ?_
      split
      · exact calm_bind calm_modify fun _ => calm_pure
      · exact calm_bind calm_modify fun _ => calm_fail
      · exact calm_fail
      · exact calm_fail

theorem Transport.calm_send {target : Option Handle} {message : Bytes} : (send target message).Calm := by
  refine calm_bind calm_ask fun cancelled => ?_
  cases cancelled with
  | true => exact calm_fail
  | false =>
    cases target with
    | none => exact calm_fail
    | some handle =>
      refine calm_bind calm_ask fun answer => ?_
      split
      · exact calm_bind calm_modify fun _ => calm_pure
      · exact calm_fail

theorem Relay.calm_play {α : Type} (relay : Relay α) (target : Option Handle) : (relay.play target).Calm := by
  induction relay with
  | done result => exact calm_pure
  | send message next ih => exact calm_bind (calm_attempt Transport.calm_send) ih
  | receive capacity next ih => exact calm_bind (calm_attempt Transport.calm_receive) ih
  | note writer packet next ih => exact calm_bind calm_ask fun _ => ih

theorem Track.calm_relay {α : Type} {call : Option Handle → Act Counters α} (calm : ∀ target, (call target).Calm) :
    (relay call).Calm := fun track =>
  (calm_within (calm track.target) : (counting (call track.target)).Calm) track

theorem Track.calm_read : Track.read.Calm := by
  refine calm_bind calm_get fun track => ?_
  split
  · exact calm_fail
  · refine calm_bind calm_ask fun relay => calm_bind (calm_relay relay.calm_play) fun given => ?_
    exact calm_bind calm_settle fun packet => calm_bind (calm_within calm_modify) fun _ => calm_pure

theorem Registry.calm_onTrack {α : Type} {index : Nat} {act : Act Track α} (calm : act.Calm) :
    (onTrack index act).Calm := by
  intro registry events panics
  unfold Act.Panics onTrack at panics
  cases found : registry.tracks[index]? with
  | none =>
    rw [found] at panics
    exact Script.not_panics_done panics
  | some track =>
    rw [found] at panics
    exact calm_then calm (fun _ _ => Script.not_panics_done) panics

theorem Context.calm_ensureConnected : ensureConnected.Calm := by
  have peer : requirePeer.Calm := by
    refine calm_bind calm_get fun context => ?_
    split
    · exact calm_pure
    · exact calm_fail
  refine calm_bind peer fun _ => calm_bind calm_ask fun state => ?_
  cases state with
  | connected => exact calm_pure
  | _ => exact calm_fail

namespace Player

theorem calm_tryReadStream {index : Nat} : (tryReadStream index).Calm := by
  refine calm_bind (calm_within Context.calm_ensureConnected) fun _ => calm_within ?_
  unfold Context.onTrack Context.onRegistry
  exact calm_within (Registry.calm_onTrack Track.calm_read)

theorem calm_tryEach {count : Nat} {indices : List Nat} : (tryEach count indices).Calm := by
  induction indices with
  | nil => exact calm_fail
  | cons index rest ih =>
    refine calm_bind (calm_attempt calm_tryReadStream) fun outcome => ?_
    split
    · exact calm_bind calm_modify fun _ => calm_pure
    · exact ih
    · exact calm_fail

theorem calm_tryRead : tryRead.Calm := calm_bind calm_get fun _ => calm_tryEach

theorem calm_readUntil {deadline clock : Nat} : (readUntil deadline clock).Calm := by
  induction clock using readUntil.induct deadline with
  | _ clock ih =>
    rw [readUntil]
    refine calm_bind (calm_attempt calm_tryRead) fun outcome => ?_
    split
    · exact calm_pure
    · refine calm_bind calm_ask fun stopped => ?_
      cases stopped with
      | true => exact calm_fail
      | false =>
        refine calm_bind calm_ask fun time => ?_
        by_cases late : deadline ≤ time.val
        · rw [dif_pos late]
          exact calm_fail
        · rw [dif_neg late]
          exact calm_bind calm_ask fun later => ih time late later
    · exact calm_fail

end Player

namespace Wait

variable {σ α : Type} {state after : σ} {start timeout : Nat} {events : List Event}

theorem calm_untilDeadline {deadline clock : Nat} : (untilDeadline timeout deadline clock : Act σ Unit).Calm := by
  induction clock using untilDeadline.induct deadline with
  | _ clock ih =>
    rw [untilDeadline]
    refine calm_bind calm_ask fun reported => ?_
    cases verdict reported with
    | some settled => exact calm_settle
    | none =>
      refine calm_bind calm_ask fun stopped => ?_
      cases stopped with
      | true => exact calm_fail
      | false =>
        refine calm_bind calm_ask fun time => ?_
        by_cases late : deadline < time.val
        · rw [dif_pos late]
          exact calm_fail
        · rw [dif_neg late]
          exact calm_bind calm_ask fun later => ih time late later

/-! The end of a span of time, which is all that can panic. -/

/-- The longest time that can be asked for. Its seconds are a number of 64 bits. -/
def longest : Nat := Nat.pow 2 64 * 1_000_000_000 - 1

theorem longest_ne_zero : longest ≠ 0 := by decide

theorem longest_overflows (start : Nat) : clockEnd ≤ start + longest :=
  Nat.le_trans (by decide) (Nat.le_add_left longest start)

/-- No time is refused for being too long. -/
theorem validate_timeouts {config : ClientConfig} {url : Url} {connecting passing : Nat}
    (valid : config.validate = .ok url) (waits : connecting ≠ 0) (lasts : passing ≠ 0) :
    { config with connectionTimeout := connecting, rwTimeout := passing }.validate = .ok url := by
  unfold ClientConfig.validate at valid ⊢
  split at valid
  · cases valid
  · split at valid
    · cases valid
    · rw [if_neg waits, if_neg lasts]
      exact valid

theorem deadline_bind {next : Nat → Act σ α} :
    deadline start timeout >>= next = Act.assert (start + timeout < clockEnd) >>= fun _ => next (start + timeout) :=
  rfl

/-- An act that has a given time for what it does, from the time at which it begins. -/
def timed (timeout : Nat) (act : Nat → Nat → Act σ α) : Act σ α := do
  let start ← Act.ask (.host (.now 0))
  let deadline ← deadline start.val timeout
  act deadline start.val

/-- It looks at the clock, and goes on if that can tell when the time will be over. -/
theorem runs_timed {act : Nat → Nat → Act σ α} {outcome : Except Error α} :
    (timed timeout act).Runs state events outcome after ↔
      ∃ start rest, events = ⟨.host (.now 0), start⟩ :: rest ∧ start.val + timeout < clockEnd ∧
        (act (start.val + timeout) start.val).Runs state rest outcome after := by
  refine Iff.trans Act.runs_ask_bind (exists₂_congr fun _ _ => and_congr_right fun _ => ?_)
  rw [deadline_bind]
  exact Act.runs_assert_bind

theorem timed_panics_iff {act : Nat → Nat → Act σ α} (calm : ∀ deadline start, (act deadline start).Calm) :
    (timed timeout act).Panics state events ↔
      ∃ start, events = [⟨.host (.now 0), start⟩] ∧ clockEnd ≤ start.val + timeout := by
  have told : ∀ {start : Nat} {rest : List Event},
      (deadline start timeout >>= fun deadline => act deadline start).Panics state rest ↔
        clockEnd ≤ start + timeout ∧ rest = [] := by
    intro start rest
    rw [deadline_bind, Act.panics_assert_bind, Nat.not_lt]
    exact or_iff_left fun onward => calm _ _ _ _ onward.2
  constructor
  · intro panics
    obtain ⟨start, _, rfl, onward⟩ := Act.panics_ask_bind.1 panics
    obtain ⟨late, rfl⟩ := told.1 onward
    exact ⟨start, rfl, late⟩
  · rintro ⟨start, rfl, late⟩
    exact Act.panics_ask_bind.2 ⟨start, [], rfl, told.2 ⟨late, rfl⟩⟩

theorem runs_connected {outcome : Except Error Unit} : (connected timeout).Runs state events outcome after ↔
    ∃ start rest, events = ⟨.host (.now 0), start⟩ :: rest ∧ start.val + timeout < clockEnd ∧
      (untilDeadline timeout (start.val + timeout) start.val).Runs state rest outcome after :=
  runs_timed

theorem connected_panics_iff : (connected timeout : Act σ Unit).Panics state events ↔
    ∃ start, events = [⟨.host (.now 0), start⟩] ∧ clockEnd ≤ start.val + timeout :=
  timed_panics_iff fun _ _ => calm_untilDeadline

end Wait

namespace Player

variable {player after : Player} {events : List Event}

theorem read_eq : Player.read player = Wait.timed player.context.config.rwTimeout readUntil player := rfl

theorem runs_read {outcome : Except Error Packet} : Player.read.Runs player events outcome after ↔
    ∃ start rest, events = ⟨.host (.now 0), start⟩ :: rest ∧
      start.val + player.context.config.rwTimeout < Wait.clockEnd ∧
        (readUntil (start.val + player.context.config.rwTimeout) start.val).Runs player rest outcome after := by
  rw [Act.Runs, read_eq]
  exact Wait.runs_timed

theorem read_panics_iff : Player.read.Panics player events ↔
    ∃ start, events = [⟨.host (.now 0), start⟩] ∧ Wait.clockEnd ≤ start.val + player.context.config.rwTimeout := by
  rw [Act.Panics, read_eq]
  exact Wait.timed_panics_iff fun _ _ => calm_readUntil

end Player
end WhipWhep
