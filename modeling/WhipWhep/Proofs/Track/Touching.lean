import WhipWhep.Proofs.Track.Counting
import WhipWhep.Proofs.Track.Wiring

/-!
Operations on a track while it is put together. A track whose transport leads to its handle stays so, in whichever
order the two have come, and an operation that fails leaves the track as it was.
-/

namespace WhipWhep

/-- What can be done with a track. A transport that is bound is a new one. -/
inductive Touch where
  | bind (owner rwTimeout : Nat)
  | setCodec (codec : CodecSession)
  | setParams (params : StreamParams)
  | add (init : TrackInit)
  deriving DecidableEq

def Touch.act : Touch → Act Track Unit
  | bind owner rwTimeout => do let _ ← Track.setBinding (.fresh owner rwTimeout)
  | setCodec codec => Track.setCodec codec
  | setParams params => Track.setParams params
  | add init => do let _ ← Track.add init

/-- A session of the layer that is not taken over is closed, with a transport that leads nowhere. -/
def CodecSession.Lapses (codec : CodecSession) (events : List Event) : Prop :=
  ∃ answer played, events = ⟨codec.closing, answer⟩ :: played ∧ AllOf (Call.isRelayedOn none) played

theorem idle_of_nowhere {call : Call} (on : call.isRelayedOn none = true) : call.isTransfer = false := by
  unfold Call.isRelayedOn at on
  split at on
  · cases on
  · cases on
  · next notSend notReceive =>
    unfold Call.isTransfer
    split
    · exact absurd rfl (notSend _ _)
    · exact absurd rfl (notReceive _ _)
    · rfl

theorem CodecSession.close_lapses {codec : CodecSession} {counters after : Counters} {events : List Event}
    {outcome : Except Error Unit} (run : (codec.close none).Runs counters events outcome after) :
    outcome = .ok () ∧ codec.Lapses events ∧ after = counters := by
  obtain ⟨answer, played, relay, rfl, plays⟩ := Track.close_plays run
  have stays : AllOf (Call.isRelayedOn none) played := Relay.keeps_target _ _ _ plays
  refine ⟨(Track.runs_close run).1, ⟨answer, played, rfl, stays⟩, ?_⟩
  rw [Relay.tally_of_play plays, tally_idle fun event member => idle_of_nowhere (stays event member),
    Counters.plus_zero]

/-- An operation that does not take over a session leaves everything as it was. -/
theorem CodecSession.lapses_of_refused {σ : Type} {codec : CodecSession} {part : σ → Counters}
    {put : Counters → σ → σ} {state after : σ} {cause : Error} {events : List Event} {outcome : Except Error Unit}
    (same : put (part state) state = state)
    (run : (do
      Act.within part put (codec.close none)
      Act.fail cause : Act σ Unit).Runs state events outcome after) :
    codec.Lapses events ∧ outcome = .error cause ∧ after = state := by
  rcases Act.runs_bind.1 run with ⟨_, -, failed⟩ | ⟨_, _, _, _, rfl, closed, onward⟩
  · obtain ⟨_, -, inside⟩ := Act.runs_within.1 failed
    cases (close_lapses inside).1
  obtain ⟨_, rfl, inside⟩ := Act.runs_within.1 closed
  obtain ⟨-, lapses, rfl⟩ := close_lapses inside
  obtain ⟨rfl, rfl, rfl⟩ := Act.runs_fail.1 onward
  rw [List.append_nil]
  exact ⟨lapses, rfl, same⟩

namespace Track

variable {track after : Track} {touch : Touch} {events : List Event} {outcome : Except Error Unit}

/-- The transport of a track leads to its handle, and nowhere while there is none. -/
def Wired (track : Track) : Prop := ∀ binding ∈ track.binding, binding.attached = track.handle

/-- What an operation on a track asks for, how it comes out and what it leaves behind. -/
inductive Does (track : Track) : Touch → List Event → Except Error Unit → Track → Prop where
  | bound {owner rwTimeout : Nat} (free : track.binding = none) :
      track.Does (.bind owner rwTimeout) [] (.ok ())
        { track with binding := some ⟨owner, rwTimeout, track.handle⟩ }
  | boundTwice {owner rwTimeout : Nat} (taken : track.binding ≠ none) :
      track.Does (.bind owner rwTimeout) [] (.error (.defect .bindingOpenedTwice)) track
  | voiced {codec : CodecSession} (free : track.codec = none) :
      track.Does (.setCodec codec) [] (.ok ()) { track with codec := some codec }
  | voicedTwice {codec : CodecSession} {events : List Event} (taken : track.codec ≠ none)
      (lapses : codec.Lapses events) :
      track.Does (.setCodec codec) events (.error (.defect .codecOpenedTwice)) track
  | told {params : StreamParams} :
      track.Does (.setParams params) [] (.ok ()) { track with params := some params }
  | added {init : TrackInit} {handle : Handle} (free : track.handle = none) :
      track.Does (.add init) [⟨.engine (.addTrack init), .ok handle⟩] (.ok ())
        { track with
          handle := some handle
          binding := track.binding.map fun binding => { binding with attached := some handle } }
  | refused {init : TrackInit} {cause : EngineError} (free : track.handle = none) :
      track.Does (.add init) [⟨.engine (.addTrack init), .error cause⟩] (.error (.engine cause)) track
  | addedTwice {init : TrackInit} (taken : track.handle ≠ none) :
      track.Does (.add init) [] (.error (.defect .trackAddedTwice)) track

theorem attach_loose {handle : Handle} (loose : ∀ binding ∈ track.binding, binding.attached = none)
    (run : (attach handle).Runs track events outcome after) : events = [] ∧ outcome = .ok () ∧
      after = { track with
        binding := track.binding.map fun binding => { binding with attached := some handle } } := by
  unfold attach at run
  rw [Act.runs_get_bind] at run
  split at run
  · next free =>
    obtain ⟨rfl, rfl, rfl⟩ := Act.runs_pure.1 run
    exact ⟨rfl, rfl, by rw [free, Option.map_none, ← free]⟩
  · next binding held =>
    have attached : binding.attach handle = .ok { binding with attached := some handle } := by
      rw [Binding.attach, loose binding held]
    rw [Act.runs_settle_bind, attached] at run
    obtain ⟨rfl, rfl, rfl⟩ := Act.runs_modify.1 run
    exact ⟨rfl, rfl, by rw [held, Option.map_some]⟩

theorem setBinding_does {owner rwTimeout : Nat}
    (run : (Touch.bind owner rwTimeout).act.Runs track events outcome after) :
    track.Does (.bind owner rwTimeout) events outcome after := by
  obtain ⟨inner, rfl, inside⟩ := Act.runs_void run
  unfold setBinding at inside
  rw [Act.runs_get_bind] at inside
  split at inside
  · next taken =>
    obtain ⟨rfl, rfl, rfl⟩ := Act.runs_fail.1 inside
    exact .boundTwice (Option.isSome_iff_ne_none.1 taken)
  next free =>
  have none : track.binding = none := by simpa using free
  have installed : ∀ {binding : Binding}, (do
      Act.modify fun track => { track with binding := some binding }
      return binding : Act Track Binding).Runs track events inner after →
      events = [] ∧ inner = .ok binding ∧ after = { track with binding := some binding } := fun run =>
    Act.runs_pure.1 (Act.runs_modify_bind.1 run)
  have same : ∀ {handle : Option Handle}, track.handle = handle →
      track.Does (.bind owner rwTimeout) [] (.ok ()) { track with binding := some ⟨owner, rwTimeout, handle⟩ } := by
    rintro _ rfl
    exact .bound none
  dsimp only at inside
  split at inside
  · next loose =>
    obtain ⟨rfl, rfl, rfl⟩ := installed (Act.runs_pure_bind.1 inside)
    exact same loose
  · next handle held =>
    obtain ⟨rfl, rfl, rfl⟩ := installed (Act.runs_settle_bind.1 inside)
    exact same held

theorem setCodec_does {codec : CodecSession}
    (run : (Touch.setCodec codec).act.Runs track events outcome after) :
    track.Does (.setCodec codec) events outcome after := by
  unfold Touch.act setCodec at run
  rw [Act.runs_get_bind] at run
  split at run
  · next taken =>
    obtain ⟨lapses, rfl, rfl⟩ := CodecSession.lapses_of_refused rfl run
    exact .voicedTwice (Option.isSome_iff_ne_none.1 taken) lapses
  · next free =>
    obtain ⟨rfl, rfl, rfl⟩ := Act.runs_modify.1 run
    exact .voiced (by simpa using free)

theorem add_does {init : TrackInit} (wired : track.Wired)
    (run : (Touch.add init).act.Runs track events outcome after) : track.Does (.add init) events outcome after := by
  obtain ⟨inner, rfl, inside⟩ := Act.runs_void run
  unfold add at inside
  rw [Act.runs_get_bind] at inside
  split at inside
  · next taken =>
    obtain ⟨rfl, rfl, rfl⟩ := Act.runs_fail.1 inside
    exact .addedTwice (Option.isSome_iff_ne_none.1 taken)
  next unheld =>
  have free : track.handle = none := by simpa using unheld
  obtain ⟨answer, _, rfl, told⟩ := Act.runs_ask_bind.1 inside
  rw [Act.runs_granted_bind] at told
  cases answer with
  | error cause =>
    obtain ⟨rfl, rfl, rfl⟩ := told
    exact .refused free
  | ok handle =>
    have loose : ∀ binding ∈ ({ track with handle := some handle } : Track).binding, binding.attached = none :=
      fun binding held => (wired binding held).trans free
    -- The handle is held before the transport is attached, which would go wrong only where it is attached already.
    have onward := Act.runs_modify_bind.1 told
    rcases Act.runs_bind.1 onward with ⟨_, rfl, failed⟩ | ⟨_, _, _, _, rfl, attaching, returned⟩
    · cases (attach_loose loose failed).2.1
    · obtain ⟨rfl, rfl, rfl⟩ := Act.runs_pure.1 returned
      obtain ⟨rfl, -, rfl⟩ := attach_loose loose attaching
      exact .added free

/-- What an operation does to a track whose transport leads to its handle. -/
theorem does_of_runs (wired : track.Wired) (run : touch.act.Runs track events outcome after) :
    track.Does touch events outcome after := by
  cases touch with
  | bind owner rwTimeout => exact setBinding_does run
  | setCodec codec => exact setCodec_does run
  | setParams params =>
    obtain ⟨rfl, rfl, rfl⟩ := Act.runs_modify.1 run
    exact .told
  | add init => exact add_does wired run

/-- An operation that fails changes nothing. -/
theorem Does.succeeds_or_keeps (does : track.Does touch events outcome after) : outcome = .ok () ∨ after = track := by
  cases does <;> simp

end Track
end WhipWhep
