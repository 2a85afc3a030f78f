import WhipWhep.Proofs.Steps
import WhipWhep.Proofs.Track.Passing

/-!
How a track is put together. What the layer opens on it is the track's end of the layer, and the handle
that the engine gives for it is where its transport leads, whether the transport was there before the
handle or after it.
-/

namespace WhipWhep

namespace Track

variable {α : Type} {track after : Track} {events : List Event}

theorem setBinding_ok {binding bound : Binding}
    (run : (setBinding binding).Runs track events (.ok bound) after) :
    events = [] ∧ after = { track with binding := some bound } := by
  unfold setBinding at run
  rw [Act.runs_get_bind] at run
  split at run
  · obtain ⟨-, wrong, -⟩ := Act.runs_fail.1 run
    cases wrong
  dsimp only at run
  split at run
  · have installed := Act.runs_modify_bind.1 (Act.runs_pure_bind.1 run)
    obtain ⟨rfl, same, rfl⟩ := Act.runs_pure.1 installed
    cases same
    exact ⟨rfl, rfl⟩
  · obtain ⟨_, _, _, _, rfl, attached, onward⟩ := Act.runs_bind_ok run
    obtain ⟨rfl, -, rfl⟩ := Act.runs_settle.1 attached
    have installed := Act.runs_modify_bind.1 onward
    obtain ⟨rfl, same, rfl⟩ := Act.runs_pure.1 installed
    cases same
    exact ⟨rfl, rfl⟩

/-- A transport that the track takes over before it is on the peer connection leads nowhere yet. -/
theorem setBinding_loose {binding bound : Binding} (free : track.handle = none)
    (run : (setBinding binding).Runs track events (.ok bound) after) : bound = binding := by
  unfold setBinding at run
  rw [Act.runs_get_bind] at run
  split at run
  · obtain ⟨-, wrong, -⟩ := Act.runs_fail.1 run
    cases wrong
  simp only [free] at run
  have installed := Act.runs_modify_bind.1 (Act.runs_pure_bind.1 run)
  obtain ⟨-, same, -⟩ := Act.runs_pure.1 installed
  cases same
  rfl

/-- A transport that the track takes over while it is on the peer connection leads to its handle. -/
theorem setBinding_attaches {binding bound : Binding} {handle : Handle} (held : track.handle = some handle)
    (run : (setBinding binding).Runs track events (.ok bound) after) : bound.attached = some handle := by
  unfold setBinding at run
  rw [Act.runs_get_bind] at run
  split at run
  · obtain ⟨-, wrong, -⟩ := Act.runs_fail.1 run
    cases wrong
  simp only [held] at run
  obtain ⟨_, attached, _, _, rfl, settles, onward⟩ := Act.runs_bind_ok run
  obtain ⟨-, attaches, -⟩ := Act.runs_settle.1 settles
  have installed := Act.runs_modify_bind.1 onward
  obtain ⟨-, same, -⟩ := Act.runs_pure.1 installed
  cases same
  unfold Binding.attach at attaches
  split at attaches
  · cases attaches
    rfl
  · cases attaches

/-- A session of the layer is taken over only by a track that has none. -/
theorem setCodec_ok {codec : CodecSession} (run : (setCodec codec).Runs track events (.ok ()) after) :
    events = [] ∧ after = { track with codec := some codec } := by
  unfold setCodec at run
  rw [Act.runs_get_bind] at run
  split at run
  · obtain ⟨_, _, _, _, rfl, -, failed⟩ := Act.runs_bind_ok run
    obtain ⟨-, wrong, -⟩ := Act.runs_fail.1 failed
    cases wrong
  · obtain ⟨rfl, -, rfl⟩ := Act.runs_modify.1 run
    exact ⟨rfl, rfl⟩

/-- What the layer has opened on a track, with all that it did on the transport meanwhile. -/
theorem opening_plays {request : Call} {relay : request.Answer → Relay (Except Error α)}
    {session : α → CodecSession} {opened : α}
    (run : (do
      let opened ← Track.relay fun target => do
        let answer ← Act.ask request
        Act.settle (← (relay answer).play target)
      setCodec (session opened)
      return opened : Act Track α).Runs track events (.ok opened) after) :
    ∃ answer played counters, events = ⟨request, answer⟩ :: played ∧
      after = { track with counters := counters, codec := some (session opened) } ∧
      ((relay answer).play track.target).Runs track.counters played (.ok (.ok opened)) counters := by
  obtain ⟨_, value, _, _, rfl, opening, onward⟩ := Act.runs_bind_ok run
  obtain ⟨_, _, _, _, rfl, taken, returned⟩ := Act.runs_bind_ok onward
  obtain ⟨rfl, same, rfl⟩ := Act.runs_pure.1 returned
  cases same
  obtain ⟨rfl, rfl⟩ := setCodec_ok taken
  obtain ⟨counters, rfl, called⟩ := runs_relay.1 opening
  obtain ⟨answer, played, rfl, relayed⟩ := Relay.runs_called called
  exact ⟨answer, played, counters, by simp, rfl, relayed⟩

theorem attach_ok {handle : Handle} (run : (attach handle).Runs track events (.ok ()) after) :
    after = { track with
      binding := track.binding.map fun binding => { binding with attached := some handle } } := by
  unfold attach at run
  rw [Act.runs_get_bind] at run
  split at run
  · next free =>
    obtain ⟨-, -, rfl⟩ := Act.runs_pure.1 run
    rw [free, Option.map_none, ← free]
  · next binding held =>
    rw [Act.runs_settle_bind] at run
    cases loose : binding.attached with
    | none =>
      have attached : binding.attach handle = .ok { binding with attached := some handle } := by
        rw [Binding.attach, loose]
      rw [attached] at run
      obtain ⟨-, -, rfl⟩ := Act.runs_modify.1 run
      rw [held, Option.map_some]
    | some other =>
      have refused : binding.attach handle = .error (.defect .bindingAttachedTwice) := by
        rw [Binding.attach, loose]
      rw [refused] at run
      obtain ⟨-, wrong, -⟩ := run
      cases wrong

/-- A track is added by one request, and its transport then leads to the handle that was given for it. -/
theorem add_ok {init : TrackInit} {handle : Handle} (run : (add init).Runs track events (.ok handle) after) :
    events = [⟨.engine (.addTrack init), .ok handle⟩] ∧
      after = { track with
        handle := some handle
        binding := track.binding.map fun binding => { binding with attached := some handle } } := by
  refine ⟨(add_adds run).2 handle rfl, ?_⟩
  unfold add at run
  rw [Act.runs_get_bind] at run
  split at run
  · obtain ⟨-, wrong, -⟩ := Act.runs_fail.1 run
    cases wrong
  obtain ⟨answer, _, -, told⟩ := Act.runs_ask_bind.1 run
  rw [Act.runs_granted_bind] at told
  cases answer with
  | error cause =>
    obtain ⟨-, wrong, -⟩ := told
    cases wrong
  | ok given =>
    obtain ⟨_, _, _, _, -, attached, returned⟩ := Act.runs_bind_ok (Act.runs_modify_bind.1 told)
    obtain ⟨-, same, rfl⟩ := Act.runs_pure.1 returned
    cases same
    exact attach_ok attached

end Track
end WhipWhep
