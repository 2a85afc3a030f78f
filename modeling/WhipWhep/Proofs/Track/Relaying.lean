import WhipWhep.Proofs.Run
import WhipWhep.Track.Transport

/-!
What passes between the layer and the transport of a track while the layer has control, and how the
outcome of a call to the layer is read off the requests that it leads to.
-/

namespace WhipWhep

/-- The requests that a call to the layer can lead to. -/
def Call.isRelayed : Call → Bool
  | .host .isCancelled => true
  | .engine (.send _ _) => true
  | .engine (.receive _ _) => true
  | .layer (.note _ _) => true
  | _ => false

/-- The requests that a call to the layer can lead to when the transport is attached to one track. -/
def Call.isRelayedOn (target : Option Handle) : Call → Bool
  | .engine (.send track _) => target == some track
  | .engine (.receive track _) => target == some track
  | call => call.isRelayed

theorem relayed_of_relayedOn {target : Option Handle} {call : Call} (on : call.isRelayedOn target = true) :
    call.isRelayed = true := by
  unfold Call.isRelayedOn at on
  split at on <;> first | rfl | exact on

def Call.isTransfer : Call → Bool
  | .engine (.send _ _) => true
  | .engine (.receive _ _) => true
  | _ => false

/-- No transfer is under way where these events begin. -/
def Fresh (events : List Event) : Prop := ∀ event ∈ events.head?, event.call.isTransfer = false

theorem fresh_nil : Fresh [] := by
  intro event member
  cases member

theorem fresh_cons {event : Event} {events : List Event} (idle : event.call.isTransfer = false) :
    Fresh (event :: events) := by
  intro first member
  cases member
  exact idle

theorem Fresh.append {first second : List Event} (fresh : Fresh first) (more : Fresh second) :
    Fresh (first ++ second) := by
  cases first with
  | nil => exact more
  | cons event events => exact fresh_cons (fresh event rfl)

theorem fresh_of_kind {kind : Call → Bool} {events : List Event} (all : AllOf kind events)
    (idle : ∀ {call : Call}, kind call = true → call.isTransfer = false) : Fresh events := by
  cases events with
  | nil => exact fresh_nil
  | cons event rest => exact fresh_cons (idle (all event List.mem_cons_self))

namespace Transport

/-- What the layer learns about a message that it sends. -/
def sentAs (message : Bytes) : Except EngineError Unit → Except Error Nat
  | .ok () => .ok message.length
  | .error cause => .error (.engine cause)

/-- What the layer learns about a message that it waits for. -/
def receivedAs : Except EngineError Bytes → Except Error Bytes
  | .ok message => .ok message
  | .error .notAvailable => .error .wouldBlock
  | .error .tooSmall => .error .bufferTooSmall
  | .error _ => .error .endOfStream

def countSent (message : Bytes) (counters : Counters) : Except EngineError Unit → Counters
  | .ok () => counters.sent message.length
  | .error _ => counters

def countReceived (counters : Counters) : Except EngineError Bytes → Counters
  | .ok message => counters.received message.length
  | .error .notAvailable => counters.blocked
  | .error _ => counters

/-- Sending one message, as far as it gets. -/
inductive Sends (target : Option Handle) (counters : Counters) (message : Bytes) :
    List Event → Except Error Nat → Counters → Prop where
  | cancelled : Sends target counters message
      [⟨.host .isCancelled, true⟩] (.error .cancelled) counters
  | unattached (loose : target = none) : Sends target counters message
      [⟨.host .isCancelled, false⟩] (.error (.engine .invalid)) counters
  | answered {track : Handle} (attached : target = some track) (answer : Except EngineError Unit) :
      Sends target counters message
        [⟨.host .isCancelled, false⟩, ⟨.engine (.send track message), answer⟩]
        (sentAs message answer) (countSent message counters answer)

/-- Taking one message, as far as it gets. -/
inductive Receives (target : Option Handle) (counters : Counters) (capacity : Nat) :
    List Event → Except Error Bytes → Counters → Prop where
  | cancelled : Receives target counters capacity
      [⟨.host .isCancelled, true⟩] (.error .cancelled) counters
  | unattached (loose : target = none) : Receives target counters capacity
      [⟨.host .isCancelled, false⟩] (.error (.engine .invalid)) counters
  | answered {track : Handle} (attached : target = some track) (answer : Except EngineError Bytes) :
      Receives target counters capacity
        [⟨.host .isCancelled, false⟩, ⟨.engine (.receive track capacity), answer⟩]
        (receivedAs answer) (countReceived counters answer)

variable {target : Option Handle} {counters after : Counters} {events : List Event}

theorem sends_of_runs {message : Bytes} {outcome : Except Error Nat}
    (run : (send target message).Runs counters events outcome after) :
    Sends target counters message events outcome after := by
  unfold send isCancelled at run
  obtain ⟨stopped, _, rfl, started⟩ := Act.runs_ask_bind.1 run
  cases stopped with
  | true =>
    obtain ⟨rfl, rfl, rfl⟩ := Act.runs_fail.1 started
    exact .cancelled
  | false =>
    cases target with
    | none =>
      obtain ⟨rfl, rfl, rfl⟩ := Act.runs_fail.1 started
      exact .unattached rfl
    | some track =>
      obtain ⟨answer, _, rfl, told⟩ := Act.runs_ask_bind.1 started
      rcases answer with cause | ⟨⟩
      · obtain ⟨rfl, rfl, rfl⟩ := Act.runs_fail.1 told
        exact .answered rfl _
      · have counted := Act.runs_modify_bind.1 told
        obtain ⟨rfl, rfl, rfl⟩ := Act.runs_pure.1 counted
        exact .answered rfl _

theorem receives_of_runs {capacity : Nat} {outcome : Except Error Bytes}
    (run : (receive target capacity).Runs counters events outcome after) :
    Receives target counters capacity events outcome after := by
  unfold receive isCancelled at run
  obtain ⟨stopped, _, rfl, started⟩ := Act.runs_ask_bind.1 run
  cases stopped with
  | true =>
    obtain ⟨rfl, rfl, rfl⟩ := Act.runs_fail.1 started
    exact .cancelled
  | false =>
    cases target with
    | none =>
      obtain ⟨rfl, rfl, rfl⟩ := Act.runs_fail.1 started
      exact .unattached rfl
    | some track =>
      obtain ⟨answer, _, rfl, told⟩ := Act.runs_ask_bind.1 started
      rcases answer with (_ | _ | _ | reason) | message
      · obtain ⟨rfl, rfl, rfl⟩ := Act.runs_fail.1 (Act.runs_modify_bind.1 told)
        exact .answered rfl _
      · obtain ⟨rfl, rfl, rfl⟩ := Act.runs_fail.1 told
        exact .answered rfl _
      · obtain ⟨rfl, rfl, rfl⟩ := Act.runs_fail.1 told
        exact .answered rfl _
      · obtain ⟨rfl, rfl, rfl⟩ := Act.runs_fail.1 told
        exact .answered rfl _
      · have counted := Act.runs_modify_bind.1 told
        obtain ⟨rfl, rfl, rfl⟩ := Act.runs_pure.1 counted
        exact .answered rfl _

theorem Sends.fresh {message : Bytes} {outcome : Except Error Nat}
    (sends : Sends target counters message events outcome after) : Fresh events := by
  cases sends <;> exact fresh_cons rfl

theorem Receives.fresh {capacity : Nat} {outcome : Except Error Bytes}
    (receives : Receives target counters capacity events outcome after) : Fresh events := by
  cases receives <;> exact fresh_cons rfl

theorem Sends.relayed {message : Bytes} {outcome : Except Error Nat}
    (sends : Sends target counters message events outcome after) : AllOf (Call.isRelayedOn target) events := by
  cases sends with
  | cancelled => exact .single rfl _
  | unattached loose => exact .single rfl _
  | answered attached answer => simp [AllOf, Call.isRelayedOn, Call.isRelayed, attached]

theorem Receives.relayed {capacity : Nat} {outcome : Except Error Bytes}
    (receives : Receives target counters capacity events outcome after) :
    AllOf (Call.isRelayedOn target) events := by
  cases receives with
  | cancelled => exact .single rfl _
  | unattached loose => exact .single rfl _
  | answered attached answer => simp [AllOf, Call.isRelayedOn, Call.isRelayed, attached]

end Transport

namespace Relay

/-- What sending came to, and the events after it. -/
def sending? (message : Bytes) : List Event → Option (Except Error Nat × List Event)
  | ⟨.host .isCancelled, cancelled⟩ :: rest =>
    if cancelled then some (.error .cancelled, rest)
    else
      match rest with
      | ⟨.engine (.send _ _), answer⟩ :: rest => some (Transport.sentAs message answer, rest)
      | _ => some (.error (.engine .invalid), rest)
  | _ => none

/-- What waiting for a message came to, and the events after it. -/
def receiving? : List Event → Option (Except Error Bytes × List Event)
  | ⟨.host .isCancelled, cancelled⟩ :: rest =>
    if cancelled then some (.error .cancelled, rest)
    else
      match rest with
      | ⟨.engine (.receive _ _), answer⟩ :: rest => some (Transport.receivedAs answer, rest)
      | _ => some (.error (.engine .invalid), rest)
  | _ => none

/-- What the layer came to, read off the events that followed the call to it. -/
def outcome? {α : Type} : Relay α → List Event → Option α
  | .done result, _ => some result
  | .send message next, events =>
    (sending? message events).bind fun (reply, rest) => (next reply).outcome? rest
  | .receive _ next, events =>
    (receiving? events).bind fun (reply, rest) => (next reply).outcome? rest
  | .note _ _ next, ⟨.layer (.note _ _), _⟩ :: rest => next.outcome? rest
  | .note _ _ _, _ => none

variable {α : Type} {target : Option Handle} {counters after : Counters} {events : List Event}

theorem sending?_of_sends {message : Bytes} {reply : Except Error Nat}
    (sends : Transport.Sends target counters message events reply after) {rest : List Event}
    (fresh : Fresh rest) : sending? message (events ++ rest) = some (reply, rest) := by
  cases sends with
  | cancelled => rfl
  | answered attached answer => rfl
  | unattached loose =>
    rcases rest with - | ⟨⟨(call | request | call | call), answer⟩, rest⟩
    · rfl
    · cases call <;> first | rfl | cases fresh _ rfl
    · rfl
    · rfl
    · rfl

theorem receiving?_of_receives {capacity : Nat} {reply : Except Error Bytes}
    (receives : Transport.Receives target counters capacity events reply after) {rest : List Event}
    (fresh : Fresh rest) : receiving? (events ++ rest) = some (reply, rest) := by
  cases receives with
  | cancelled => rfl
  | answered attached answer => rfl
  | unattached loose =>
    rcases rest with - | ⟨⟨(call | request | call | call), answer⟩, rest⟩
    · rfl
    · cases call <;> first | rfl | cases fresh _ rfl
    · rfl
    · rfl
    · rfl

/-- The layer's share of a call comes to a result, and the result can be told from the events. -/
theorem outcome?_of_play {relay : Relay α} {outcome : Except Error α}
    (run : (relay.play target).Runs counters events outcome after) :
    Fresh events ∧ ∃ result, outcome = .ok result ∧
      ∀ {rest}, Fresh rest → relay.outcome? (events ++ rest) = some result := by
  induction relay generalizing counters events with
  | done result =>
    obtain ⟨rfl, rfl, rfl⟩ := Act.runs_pure.1 run
    exact ⟨fresh_nil, result, rfl, fun _ => rfl⟩
  | send message next ih =>
    rw [play] at run
    obtain ⟨first, reply, _, second, rfl, sent, onward⟩ := Act.runs_attempt_bind.1 run
    have sends := Transport.sends_of_runs sent
    obtain ⟨fresh, result, rfl, told⟩ := ih reply onward
    refine ⟨sends.fresh.append fresh, result, rfl, ?_⟩
    intro rest freshRest
    rw [List.append_assoc, outcome?, sending?_of_sends sends (fresh.append freshRest)]
    exact told freshRest
  | receive capacity next ih =>
    rw [play] at run
    obtain ⟨first, reply, _, second, rfl, received, onward⟩ := Act.runs_attempt_bind.1 run
    have receives := Transport.receives_of_runs received
    obtain ⟨fresh, result, rfl, told⟩ := ih reply onward
    refine ⟨receives.fresh.append fresh, result, rfl, ?_⟩
    intro rest freshRest
    rw [List.append_assoc, outcome?, receiving?_of_receives receives (fresh.append freshRest)]
    exact told freshRest
  | note writer packet next ih =>
    rw [play] at run
    obtain ⟨noted, _, rfl, onward⟩ := Act.runs_ask_bind.1 run
    obtain ⟨fresh, result, rfl, told⟩ := ih onward
    exact ⟨fresh_cons rfl, result, rfl, told⟩

/-- What the layer comes to is read off what it did before it returned. -/
theorem outcome?_played {relay : Relay α} {played rest : List Event} {result : α}
    (plays : (relay.play target).Runs counters played (.ok result) after) (fresh : Fresh rest) :
    relay.outcome? (played ++ rest) = some result := by
  obtain ⟨-, _, told, reads⟩ := outcome?_of_play plays
  cases told
  exact reads fresh

/-- Whatever the layer does stays on the track that the transport is attached to. -/
theorem keeps_target {relay : Relay α} :
    (relay.play target).Keeps (Act.OfKind (Call.isRelayedOn target)) counters := by
  have composes : @Act.Composes Counters (Act.OfKind (Call.isRelayedOn target)) := Act.composes_ofKind _
  induction relay generalizing counters with
  | done result => exact Act.keeps_pure composes
  | send message next ih =>
    refine Act.keeps_bind composes (Act.keeps_attempt ?_) fun _ => ih _
    intro _ _ _ run
    exact (Transport.sends_of_runs run).relayed
  | receive capacity next ih =>
    refine Act.keeps_bind composes (Act.keeps_attempt ?_) fun _ => ih _
    intro _ _ _ run
    exact (Transport.receives_of_runs run).relayed
  | note writer packet next ih =>
    exact Act.keeps_bind composes (Act.keeps_ask (AllOf.single rfl)) fun _ => ih

theorem keeps_play {relay : Relay α} : (relay.play target).Keeps (Act.OfKind Call.isRelayed) counters :=
  fun _ _ _ run => AllOf.weaken (keeps_target _ _ _ run) relayed_of_relayedOn

end Relay
end WhipWhep
