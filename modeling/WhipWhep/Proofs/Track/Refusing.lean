import WhipWhep.Proofs.Preceding
import WhipWhep.Proofs.Track.Counting

/-!
What a cancellation refuses on a transport. A caller can be cancelled at any moment; from then on each look at the
flag finds it set. Whatever is let through by a look must have one right before it, so nothing of the kind
passes any more, and a layer that goes on trying is refused each time.
-/

namespace WhipWhep

/-- The look that lets a step through. -/
def lookedFree : Event := ⟨.host .isCancelled, false⟩

/-- Each look among the events finds the caller cancelled. -/
def AllCancelled (events : List Event) : Prop :=
  ∀ cancelled, ⟨.host .isCancelled, cancelled⟩ ∈ events → cancelled = true

/-- The caller is cancelled between these events, or inside the last one before. A look that lets a step through
is part of that step. -/
structure CancelledBetween (before after : List Event) : Prop where
  looks : AllCancelled after
  apart : before.getLast? ≠ some lookedFree

variable {events more before after : List Event}

theorem AllCancelled.left (cancelled : AllCancelled (events ++ more)) : AllCancelled events :=
  fun found member => cancelled found (List.mem_append_left _ member)

theorem AllCancelled.right (cancelled : AllCancelled (events ++ more)) : AllCancelled more :=
  fun found member => cancelled found (List.mem_append_right _ member)

theorem AllCancelled.tail {event : Event} (cancelled : AllCancelled (event :: events)) : AllCancelled events :=
  fun found member => cancelled found (List.mem_cons_of_mem _ member)

/-- What only a look can let through does not happen once the caller is cancelled. -/
theorem CancelledBetween.stops {guarded : Call → Bool} (cancelled : CancelledBetween before after)
    (preceded : Preceded guarded (fun previous _ => previous = lookedFree) none (before ++ after)) :
    ∀ event ∈ after, guarded event.call = false := by
  intro event member
  cases kind : guarded event.call with
  | false => rfl
  | true =>
    obtain ⟨early, late, rfl⟩ := List.append_of_mem member
    obtain ⟨_, last, rfl⟩ := preceded.at_each (List.append_assoc before early _).symm kind
    rw [Option.or_none, List.getLast?_append] at last
    cases ends : early.getLast? with
    | none =>
      rw [ends] at last
      exact absurd last cancelled.apart
    | some previous =>
      rw [ends] at last
      cases last
      cases cancelled.looks.left false (List.mem_of_getLast? ends)

/-- What the layer comes to if its transport refuses whatever it tries. -/
def Relay.refused {α : Type} : Relay α → α
  | .done result => result
  | .send _ next => (next (.error .cancelled)).refused
  | .receive _ next => (next (.error .cancelled)).refused
  | .note _ _ next => next.refused

namespace Transport

variable {target : Option Handle} {counters after : Counters}

/-- Once the caller is cancelled a message that is to be sent is refused, and not counted. -/
theorem send_refused {message : Bytes} {outcome : Except Error Nat}
    (run : (send target message).Runs counters events outcome after) (cancelled : AllCancelled events) :
    outcome = .error .cancelled ∧ after = counters := by
  cases sends_of_runs run with
  | cancelled => exact ⟨rfl, rfl⟩
  | unattached loose => cases cancelled false (by simp)
  | answered attached answer => cases cancelled false (by simp)

theorem receive_refused {capacity : Nat} {outcome : Except Error Bytes}
    (run : (receive target capacity).Runs counters events outcome after) (cancelled : AllCancelled events) :
    outcome = .error .cancelled ∧ after = counters := by
  cases receives_of_runs run with
  | cancelled => exact ⟨rfl, rfl⟩
  | unattached loose => cases cancelled false (by simp)
  | answered attached answer => cases cancelled false (by simp)

end Transport

namespace Relay

variable {α : Type}

theorem sending?_refused {message : Bytes} {reply : Except Error Nat} {rest : List Event}
    (told : sending? message events = some (reply, rest)) (cancelled : AllCancelled events) :
    reply = .error .cancelled ∧ AllCancelled rest := by
  unfold sending? at told
  split at told
  · next looked later =>
    obtain rfl := cancelled looked List.mem_cons_self
    cases told
    exact ⟨rfl, cancelled.tail⟩
  · cases told

theorem receiving?_refused {reply : Except Error Bytes} {rest : List Event}
    (told : receiving? events = some (reply, rest)) (cancelled : AllCancelled events) :
    reply = .error .cancelled ∧ AllCancelled rest := by
  unfold receiving? at told
  split at told
  · next looked later =>
    obtain rfl := cancelled looked List.mem_cons_self
    cases told
    exact ⟨rfl, cancelled.tail⟩
  · cases told

/-- Once the caller is cancelled the layer comes to what it makes of being refused. -/
theorem outcome?_refused {relay : Relay α} {result : α} (told : relay.outcome? events = some result)
    (cancelled : AllCancelled events) : result = relay.refused := by
  induction relay generalizing events with
  | done value =>
    cases told
    rfl
  | send message next ih =>
    obtain ⟨⟨reply, rest⟩, sent, onward⟩ := Option.bind_eq_some_iff.1 told
    obtain ⟨rfl, later⟩ := sending?_refused sent cancelled
    exact ih _ onward later
  | receive capacity next ih =>
    obtain ⟨⟨reply, rest⟩, received, onward⟩ := Option.bind_eq_some_iff.1 told
    obtain ⟨rfl, later⟩ := receiving?_refused received cancelled
    exact ih _ onward later
  | note writer packet next ih =>
    rcases events with - | ⟨⟨call | request | call | call, answer⟩, rest⟩
    · cases told
    · cases told
    · cases told
    · cases call <;> first | exact ih told cancelled.tail | cases told
    · cases told

/-- The layer sends and receives only right after a look that has let it. -/
theorem preceded_of_play {guarded : Call → Bool} {relay : Relay α} {target : Option Handle} {counters : Counters}
    (free : ∀ {call : Call}, call.isRelayed = true → call.isTransfer = false → guarded call = false) :
    (relay.play target).Keeps
      (fun _ events _ => Preceded guarded (fun previous _ => previous = lookedFree) none events) counters := by
  have looks : ∀ {cancelled : Bool} {last : Option Event},
      Preceded guarded (fun previous _ => previous = lookedFree) last [⟨.host .isCancelled, cancelled⟩] := fun {_ _} =>
    ⟨fun kind => (by cases (free rfl rfl).symm.trans kind), trivial⟩
  induction relay generalizing counters with
  | done result => exact Act.keeps_pure composes_preceded
  | send message next ih =>
    refine Act.keeps_bind composes_preceded (Act.keeps_attempt fun events outcome after run => ?_) fun _ => ih _
    cases Transport.sends_of_runs run with
    | cancelled => exact looks
    | unattached loose => exact looks
    | answered attached answer => exact ⟨looks.1, fun _ => ⟨_, rfl, rfl⟩, trivial⟩
  | receive capacity next ih =>
    refine Act.keeps_bind composes_preceded (Act.keeps_attempt fun events outcome after run => ?_) fun _ => ih _
    cases Transport.receives_of_runs run with
    | cancelled => exact looks
    | unattached loose => exact looks
    | answered attached answer => exact ⟨looks.1, fun _ => ⟨_, rfl, rfl⟩, trivial⟩
  | note writer packet next ih =>
    refine Act.keeps_bind composes_preceded (Act.keeps_ask fun _ => ?_) fun _ => ih
    exact preceded_of_free fun event member => by
      rw [List.mem_singleton.1 member]
      exact free rfl rfl

end Relay

/-- What is counted does not depend on events of which none has passed a transport. -/
theorem tally_stopped {packets : List Packet} (idle : ∀ event ∈ more, event.call.isTransfer = false) :
    tally (events ++ more) packets = tally events packets := by
  have all : tally (events ++ more) (packets ++ []) = (tally events packets).plus (tally more []) := tally_append
  rwa [tally_idle idle, Counters.plus_zero, List.append_nil] at all

end WhipWhep
