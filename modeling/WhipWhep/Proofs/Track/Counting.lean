import WhipWhep.Proofs.Track.Passing
import WhipWhep.Proofs.Track.Release

/-!
What the counters of a track count. Each message that the engine has taken or handed out is counted where it
passes, and each packet where it reaches the caller or comes from there, so the counters add up along a run.
-/

namespace WhipWhep

/-- A message that the engine has taken, and the track that it went to. -/
def Event.sent? : Event → Option (Handle × Bytes)
  | ⟨.engine (.send track message), .ok ()⟩ => some (track, message)
  | _ => none

/-- The messages that were put on tracks, in order. -/
def sentOff (events : List Event) : List (Handle × Bytes) := events.filterMap Event.sent?

/-- A message that the engine has handed out, and the track that it came from. -/
def Event.taken? : Event → Option (Handle × Bytes)
  | ⟨.engine (.receive track _), .ok message⟩ => some (track, message)
  | _ => none

/-- The messages that were taken off tracks, in order. -/
def takenOff (events : List Event) : List (Handle × Bytes) := events.filterMap Event.taken?

/-- A receive that has found nothing. -/
def Event.isBlocked : Event → Bool
  | ⟨.engine (.receive _ _), .error .notAvailable⟩ => true
  | _ => false

theorem sentOff_append (first second : List Event) : sentOff (first ++ second) = sentOff first ++ sentOff second :=
  List.filterMap_append

theorem sentOff_cons (event : Event) (events : List Event) :
    sentOff (event :: events) = event.sent?.toList ++ sentOff events := by
  rw [sentOff, List.filterMap_cons]
  cases event.sent? <;> rfl

theorem takenOff_append (first second : List Event) :
    takenOff (first ++ second) = takenOff first ++ takenOff second :=
  List.filterMap_append

theorem takenOff_cons (event : Event) (events : List Event) :
    takenOff (event :: events) = event.taken?.toList ++ takenOff events := by
  rw [takenOff, List.filterMap_cons]
  cases event.taken? <;> rfl

/-- How many bytes messages have together. -/
def volume (messages : List (Handle × Bytes)) : Nat :=
  messages.foldr (fun (_, message) total => message.length + total) 0

theorem volume_append (first second : List (Handle × Bytes)) :
    volume (first ++ second) = volume first + volume second := by
  induction first with
  | nil => exact (Nat.zero_add _).symm
  | cons message rest ih => exact (congrArg (message.2.length + ·) ih).trans (Nat.add_assoc ..).symm

namespace Counters

/-- Counters that go on from others. -/
def plus (first second : Counters) : Counters where
  packetsSent := first.packetsSent + second.packetsSent
  bytesSent := first.bytesSent + second.bytesSent
  packetsReceived := first.packetsReceived + second.packetsReceived
  bytesReceived := first.bytesReceived + second.bytesReceived
  frames := first.frames + second.frames
  keyframes := first.keyframes + second.keyframes
  wouldBlock := first.wouldBlock + second.wouldBlock

variable (first second third : Counters)

@[simp] theorem plus_zero : first.plus .zero = first := by
  simp [plus, zero]

@[simp] theorem zero_plus : zero.plus first = first := by
  simp [plus, zero]

theorem plus_assoc : (first.plus second).plus third = first.plus (second.plus third) := by
  simp only [plus, UInt64.add_assoc]

theorem sent_eq (size : Nat) : first.sent size = first.plus ⟨1, .ofNat size, 0, 0, 0, 0, 0⟩ := by
  simp [sent, plus]

theorem received_eq (size : Nat) : first.received size = first.plus ⟨0, 0, 1, .ofNat size, 0, 0, 0⟩ := by
  simp [received, plus]

theorem blocked_eq : first.blocked = first.plus ⟨0, 0, 0, 0, 0, 0, 1⟩ := by
  simp [blocked, plus]

theorem frame_eq (isKeyframe : Bool) :
    first.frame isKeyframe = first.plus ⟨0, 0, 0, 0, 1, if isKeyframe then 1 else 0, 0⟩ := by
  simp [frame, plus]

end Counters

/-- What counters say of a track on which these events have passed, and these packets. The words wrap. -/
def tally (events : List Event) (packets : List Packet) : Counters where
  packetsSent := .ofNat (sentOff events).length
  bytesSent := .ofNat (volume (sentOff events))
  packetsReceived := .ofNat (takenOff events).length
  bytesReceived := .ofNat (volume (takenOff events))
  frames := .ofNat packets.length
  keyframes := .ofNat (packets.countP Packet.isKeyframe)
  wouldBlock := .ofNat (events.countP Event.isBlocked)

section Tally

variable {events more : List Event} {packets others : List Packet}

@[simp] theorem tally_nil : tally [] [] = .zero := rfl

theorem tally_append : tally (events ++ more) (packets ++ others) = (tally events packets).plus (tally more others) := by
  simp only [tally, Counters.plus, sentOff_append, takenOff_append, volume_append, List.length_append,
    List.countP_append, UInt64.ofNat_add]

/-- What is counted in one part of a run after the other is what is counted in the whole. -/
theorem counts_append {before middle after : Counters} (first : middle = before.plus (tally events packets))
    (second : after = middle.plus (tally more others)) :
    after = before.plus (tally (events ++ more) (packets ++ others)) := by
  rw [second, first, Counters.plus_assoc, tally_append]

theorem counts_next {before middle after : Counters} (first : middle = before.plus (tally events []))
    (second : after = middle.plus (tally more others)) : after = before.plus (tally (events ++ more) others) :=
  counts_append first second

theorem quiet_of_idle {event : Event} (idle : event.call.isTransfer = false) :
    event.sent? = none ∧ event.taken? = none ∧ event.isBlocked = false := by
  obtain ⟨call | request | call | call, answer⟩ := event
  · cases call <;> first | exact ⟨rfl, rfl, rfl⟩ | cases idle
  · exact ⟨rfl, rfl, rfl⟩
  · exact ⟨rfl, rfl, rfl⟩
  · exact ⟨rfl, rfl, rfl⟩

theorem tally_cons {event : Event} (idle : event.call.isTransfer = false) :
    tally (event :: events) packets = tally events packets := by
  obtain ⟨sent, taken, blocked⟩ := quiet_of_idle idle
  simp [tally, sentOff_cons, takenOff_cons, sent, taken, blocked]

/-- Where nothing passes there is nothing to count. -/
theorem tally_idle (idle : ∀ event ∈ events, event.call.isTransfer = false) : tally events [] = .zero := by
  induction events with
  | nil => rfl
  | cons event events ih =>
    obtain ⟨here, later⟩ := List.forall_mem_cons.1 idle
    exact (tally_cons here).trans (ih later)

theorem moving_eq (counters : Counters) (moved : Option Packet) :
    Track.moving counters moved = counters.plus (tally [] moved.toList) := by
  cases moved with
  | none => exact counters.plus_zero.symm
  | some packet =>
    have counted : tally [] [packet] = ⟨0, 0, 0, 0, 1, if packet.isKeyframe then 1 else 0, 0⟩ := by
      cases key : packet.isKeyframe <;> simp [tally, sentOff, takenOff, volume, key]
    exact (counters.frame_eq _).trans (congrArg _ counted.symm)

end Tally

namespace Transport

variable {target : Option Handle} {counters after : Counters} {events : List Event}

theorem Sends.tally {message : Bytes} {outcome : Except Error Nat}
    (sends : Sends target counters message events outcome after) : after = counters.plus (tally events []) := by
  cases sends with
  | cancelled => exact counters.plus_zero.symm
  | unattached loose => exact counters.plus_zero.symm
  | answered attached answer =>
    rcases answer with cause | ⟨⟩
    · exact counters.plus_zero.symm
    · exact counters.sent_eq _

theorem Receives.tally {capacity : Nat} {outcome : Except Error Bytes}
    (receives : Receives target counters capacity events outcome after) :
    after = counters.plus (tally events []) := by
  cases receives with
  | cancelled => exact counters.plus_zero.symm
  | unattached loose => exact counters.plus_zero.symm
  | answered attached answer =>
    rcases answer with (_ | _ | _ | reason) | message
    · exact counters.blocked_eq
    · exact counters.plus_zero.symm
    · exact counters.plus_zero.symm
    · exact counters.plus_zero.symm
    · exact counters.received_eq _

end Transport

/-- Whatever the layer does with a transport is counted as it passes. -/
theorem Relay.tally_of_play {α : Type} {relay : Relay α} {target : Option Handle} {counters after : Counters}
    {events : List Event} {outcome : Except Error α}
    (run : (relay.play target).Runs counters events outcome after) :
    after = counters.plus (tally events []) := by
  induction relay generalizing counters events with
  | done result =>
    obtain ⟨rfl, -, rfl⟩ := Act.runs_pure.1 run
    exact after.plus_zero.symm
  | send message next ih =>
    obtain ⟨early, reply, middle, late, rfl, sent, onward⟩ := Act.runs_attempt_bind.1 run
    exact counts_next (Transport.sends_of_runs sent).tally (ih reply onward)
  | receive capacity next ih =>
    obtain ⟨early, reply, middle, late, rfl, received, onward⟩ := Act.runs_attempt_bind.1 run
    exact counts_next (Transport.receives_of_runs received).tally (ih reply onward)
  | note writer packet next ih =>
    obtain ⟨noted, late, rfl, onward⟩ := Act.runs_ask_bind.1 run
    rw [tally_cons rfl]
    exact ih onward

/-- What the layer does with a transport and the packet that comes of it are counted together. -/
theorem Relay.tally_of_moving {α : Type} {relay : Relay α} {target : Option Handle} {counters after : Counters}
    {events : List Event} {outcome : Except Error α} (moved : Option Packet)
    (run : (relay.play target).Runs counters events outcome after) :
    Track.moving after moved = counters.plus (tally events moved.toList) := by
  have all := counts_append (Relay.tally_of_play run) (moving_eq after moved)
  rwa [List.append_nil] at all

/-- The calls that lend the transport of a track to the layer. -/
def Call.lends : Call → Bool
  | .layer (.openWriter _ _ _) => true
  | .layer (.openReader _ _) => true
  | .layer (.write _ _) => true
  | .layer (.read _) => true
  | .layer (.closeWriter _) => true
  | .layer (.closeReader _) => true
  | _ => false

/-- The requests that neither lend a transport nor use one. -/
def Call.isAside (call : Call) : Bool := !call.lends && !call.isTransfer

namespace Track

variable {track after : Track} {events : List Event} {outcome : Except Error Unit}

theorem closeCodec_counts {codec : CodecSession} (opened : track.codec = some codec)
    (run : closeCodec.Runs track events outcome after) :
    outcome = .ok () ∧ ∃ answer played, events = ⟨codec.closing, answer⟩ :: played ∧
      AllOf (Call.isRelayedOn track.target) played ∧
      after.counters = track.counters.plus (tally played []) := by
  unfold closeCodec at run
  rw [Act.runs_get_bind, opened] at run
  rcases Act.runs_bind.1 run with ⟨_, -, failed⟩ | ⟨_, _, _, _, rfl, closing, onward⟩
  · obtain ⟨_, -, inside⟩ := runs_relay.1 failed
    obtain ⟨wrong, -⟩ := runs_close inside
    cases wrong
  · obtain ⟨_, rfl, inside⟩ := runs_relay.1 closing
    obtain ⟨answer, played, relay, rfl, plays⟩ := close_plays inside
    obtain ⟨rfl, rfl, rfl⟩ := Act.runs_modify.1 onward
    exact ⟨rfl, answer, played, List.append_nil _, Relay.keeps_target _ _ _ plays, Relay.tally_of_play plays⟩

theorem releaseBinding_counts (run : releaseBinding.Runs track events outcome after) :
    AllOf Call.isAside events ∧ after.counters = track.counters := by
  unfold releaseBinding at run
  rw [Act.runs_get_bind] at run
  split at run
  · obtain ⟨rfl, -, rfl⟩ := Act.runs_pure.1 run
    exact ⟨.nil, rfl⟩
  · obtain ⟨answer, _, rfl, onward⟩ := Act.runs_ask_bind.1 run
    obtain ⟨rfl, -, rfl⟩ := Act.runs_modify.1 onward
    exact ⟨.single rfl _, rfl⟩

theorem releaseHandle_counts (run : (releaseHandle true).Runs track events outcome after) :
    AllOf Call.isAside events ∧ after.counters = track.counters := by
  unfold releaseHandle at run
  rw [Act.runs_get_bind] at run
  split at run
  · obtain ⟨rfl, -, rfl⟩ := Act.runs_pure.1 run
    exact ⟨.nil, rfl⟩
  · rw [if_pos rfl] at run
    obtain ⟨answer, _, rfl, onward⟩ := Act.runs_ask_bind.1 run
    obtain ⟨rfl, -, rfl⟩ := Act.runs_modify.1 onward
    exact ⟨.single rfl _, rfl⟩

/-- When a track is released, all that can still pass is what the layer has left to send or to receive. -/
theorem release_counts {codec : CodecSession} (opened : track.codec = some codec)
    (run : (release true).Runs track events outcome after) :
    ∃ answer played rest, events = (⟨codec.closing, answer⟩ :: played) ++ rest ∧
      AllOf (Call.isRelayedOn track.target) played ∧ AllOf Call.isAside rest ∧
      after.counters = track.counters.plus (tally played []) := by
  rcases Act.runs_bind.1 run with ⟨_, -, failed⟩ | ⟨_, _, _, _, rfl, closes, onward⟩
  · cases (closeCodec_counts opened failed).1
  obtain ⟨-, answer, played, rfl, stays, counted⟩ := closeCodec_counts opened closes
  rcases Act.runs_bind.1 onward with ⟨_, -, failed⟩ | ⟨_, _, _, _, rfl, unbinds, deletes⟩
  · cases (releaseBinding_lets failed).1.done
  obtain ⟨first, still⟩ := releaseBinding_counts unbinds
  obtain ⟨second, last⟩ := releaseHandle_counts deletes
  exact ⟨answer, played, _, rfl, stays, first.append second, last.trans (still.trans counted)⟩

end Track
end WhipWhep
