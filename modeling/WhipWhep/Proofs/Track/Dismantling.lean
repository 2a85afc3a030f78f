import WhipWhep.Proofs.Track.Release

/-!
Taking tracks down. What a track holds rests on one another: the end of the layer on the transport, and the
transport on the handle. It is taken down from the top, and one track is done before the next one is begun.
-/

namespace WhipWhep

namespace Track

variable {track after : Track} {events : List Event} {outcome : Except Error Unit}

/-- The end of the layer is closed, if there is one. Until it is done the layer may use the transport. -/
inductive ClosesCodec (track : Track) : List Event → Prop where
  | absent (unvoiced : track.codec = none) : track.ClosesCodec []
  | closed {codec : CodecSession} {answer : codec.closing.Answer} {played : List Event}
      (voiced : track.codec = some codec) (stays : AllOf (Call.isRelayedOn track.target) played) :
      track.ClosesCodec (⟨codec.closing, answer⟩ :: played)

/-- The transport of a track is let go, if there is one. -/
def unbinding (track : Track) : List Event :=
  (track.binding.map fun _ => (⟨.layer (.releaseTransport track.index), ()⟩ : Event)).toList

/-- The handle of a track is given back, if there is one. -/
def deleting (track : Track) : List Event :=
  (track.handle.map fun handle => (⟨.engine (.deleteTrack handle), ()⟩ : Event)).toList

/-- A track is taken down from the top. -/
inductive TakesDown (track : Track) : List Event → Prop where
  | fromTop {closing : List Event} (closes : track.ClosesCodec closing) :
      track.TakesDown (closing ++ track.unbinding ++ track.deleting)

theorem closeCodec_closes (run : closeCodec.Runs track events outcome after) :
    track.ClosesCodec events ∧
      ∃ counters, after = { track with codec := none, counters := counters } := by
  unfold closeCodec at run
  rw [Act.runs_get_bind] at run
  cases voiced : track.codec with
  | none =>
    rw [voiced] at run
    obtain ⟨rfl, -, rfl⟩ := Act.runs_pure.1 run
    exact ⟨.absent voiced, after.counters, by rw [← voiced]⟩
  | some codec =>
    rw [voiced] at run
    rcases Act.runs_bind.1 run with ⟨_, -, failed⟩ | ⟨_, _, _, _, rfl, closing, onward⟩
    · obtain ⟨_, -, inside⟩ := runs_relay.1 failed
      cases (runs_close inside).1
    obtain ⟨counters, rfl, inside⟩ := runs_relay.1 closing
    obtain ⟨answer, played, relay, rfl, plays⟩ := close_plays inside
    obtain ⟨rfl, -, rfl⟩ := Act.runs_modify.1 onward
    rw [List.append_nil]
    exact ⟨.closed voiced (Relay.keeps_target _ _ _ plays), counters, rfl⟩

theorem releaseBinding_unbinds (run : releaseBinding.Runs track events outcome after) :
    events = track.unbinding ∧ after = { track with binding := none } := by
  unfold releaseBinding at run
  rw [Act.runs_get_bind] at run
  unfold unbinding
  cases bound : track.binding with
  | none =>
    rw [bound] at run
    obtain ⟨rfl, -, rfl⟩ := Act.runs_pure.1 run
    exact ⟨rfl, by rw [← bound]⟩
  | some binding =>
    rw [bound] at run
    obtain ⟨_, _, rfl, onward⟩ := Act.runs_ask_bind.1 run
    obtain ⟨rfl, -, rfl⟩ := Act.runs_modify.1 onward
    exact ⟨rfl, rfl⟩

theorem releaseHandle_deletes (run : (releaseHandle true).Runs track events outcome after) :
    events = track.deleting := by
  unfold releaseHandle at run
  rw [Act.runs_get_bind] at run
  unfold deleting
  cases held : track.handle with
  | none =>
    rw [held] at run
    exact (Act.runs_pure.1 run).1
  | some handle =>
    rw [held] at run
    obtain ⟨_, _, rfl, onward⟩ := Act.runs_ask_bind.1 run
    obtain ⟨rfl, -, -⟩ := Act.runs_modify.1 onward
    rfl

theorem release_takesDown (run : (release true).Runs track events outcome after) : track.TakesDown events := by
  rcases Act.runs_bind.1 run with ⟨_, -, failed⟩ | ⟨closing, _, _, _, rfl, closed, onward⟩
  · cases (closeCodec_lets failed).1.done
  obtain ⟨closes, counters, rfl⟩ := closeCodec_closes closed
  rcases Act.runs_bind.1 onward with ⟨_, -, failed⟩ | ⟨_, _, _, _, rfl, unbound, last⟩
  · cases (releaseBinding_lets failed).1.done
  obtain ⟨rfl, rfl⟩ := releaseBinding_unbinds unbound
  obtain rfl := releaseHandle_deletes last
  rw [← List.append_assoc]
  exact .fromTop closes

/-! A track stays the track of its place. -/

/-- A track is still the one at its place, whatever was asked for. -/
def Stays : Track → List Event → Track → Prop := fun before _ after => after.index = before.index

theorem composes_stays : Act.Composes Stays := Act.composes_same Track.index

theorem stays_setBinding {binding : Binding} : (setBinding binding).Keeps Stays track := by
  intro events outcome after run
  unfold setBinding at run
  rw [Act.runs_get_bind] at run
  split at run
  · exact Act.keeps_fail composes_stays _ _ _ run
  · have install : ∀ installed : Binding, ∀ track : Track,
        (do
          Act.modify fun track => { track with binding := some installed }
          return installed : Act Track Binding).Keeps Stays track := fun _ _ =>
      Act.keeps_bind composes_stays (Act.keeps_modify rfl) fun _ => Act.keeps_pure composes_stays
    dsimp only at run
    split at run
    · exact install _ _ _ _ _ (Act.runs_pure_bind.1 run)
    · exact Act.keeps_bind composes_stays (Act.keeps_settle composes_stays) (fun _ => install _ _) _ _ _ run

theorem stays_attach {handle : Handle} : (attach handle).Keeps Stays track := by
  intro events outcome after run
  unfold attach at run
  rw [Act.runs_get_bind] at run
  split at run
  · exact Act.keeps_pure composes_stays _ _ _ run
  · refine Act.keeps_bind composes_stays (Act.keeps_settle composes_stays) (fun _ => ?_) _ _ _ run
    exact Act.keeps_modify rfl

theorem stays_add {init : TrackInit} : (add init).Keeps Stays track := by
  intro events outcome after run
  unfold add at run
  rw [Act.runs_get_bind] at run
  split at run
  · exact Act.keeps_fail composes_stays _ _ _ run
  · refine Act.keeps_bind composes_stays (Act.keeps_ask fun _ => rfl) (fun _ => ?_) _ _ _ run
    refine Act.keeps_bind composes_stays (Act.keeps_granted composes_stays) fun _ => ?_
    refine Act.keeps_bind composes_stays (Act.keeps_modify rfl) fun _ => ?_
    exact Act.keeps_bind composes_stays stays_attach fun _ => Act.keeps_pure composes_stays

theorem stays_setCodec {codec : CodecSession} : (setCodec codec).Keeps Stays track := by
  intro events outcome after run
  unfold setCodec at run
  rw [Act.runs_get_bind] at run
  split at run
  · refine Act.keeps_bind composes_stays ?_ (fun _ => Act.keeps_fail composes_stays) _ _ _ run
    intro _ _ _ closing
    obtain ⟨_, rfl, -⟩ := Act.runs_within.1 closing
    rfl
  · obtain ⟨-, -, rfl⟩ := Act.runs_modify.1 run
    rfl

end Track

namespace Registry

variable {registry after : Registry} {events : List Event} {outcome : Except Error Unit}

/-- Tracks are taken down one after the other. -/
inductive TakesDown : List Track → List Event → Prop where
  | nil : TakesDown [] []
  | cons {track : Track} {tracks : List Track} {early late : List Event} (first : track.TakesDown early)
      (rest : TakesDown tracks late) : TakesDown (track :: tracks) (early ++ late)

/-- What is left to take down from a place on is untouched by what was taken down before it. -/
theorem releases_takeDown {start left : Nat} (size : start + left = registry.tracks.length)
    (run : ((List.range' start left).forM fun index => Registry.onTrack index (Track.release true)).Runs registry
      events outcome after) : TakesDown (registry.tracks.drop start) events := by
  induction left generalizing start registry events with
  | zero =>
    obtain ⟨rfl, -, -⟩ := Act.runs_pure.1 run
    have none : registry.tracks.drop start = [] := List.drop_of_length_le (Nat.le_of_eq size.symm)
    rw [none]
    exact .nil
  | succ left ih =>
    have present : start < registry.tracks.length := by omega
    rcases Act.runs_bind.1 run with ⟨_, rfl, failed⟩ | ⟨_, _, middle, _, rfl, releases, onward⟩
    · cases (releases_at present failed).1
    rcases runs_onTrack.1 releases with ⟨missing, -⟩ | ⟨track, inner, found, rfl, letting⟩
    · rw [List.getElem?_eq_none_iff] at missing
      omega
    have rest := ih (by rw [List.length_set]; omega) onward
    rw [List.drop_set_of_lt (Nat.lt_succ_self start)] at rest
    obtain ⟨_, rfl⟩ := List.getElem?_eq_some_iff.1 found
    rw [List.drop_eq_getElem_cons present]
    exact .cons (Track.release_takesDown letting) rest

theorem release_takesDown (run : (release true).Runs registry events outcome after) :
    TakesDown registry.tracks events := by
  unfold release at run
  rw [Act.runs_get_bind, List.range_eq_range'] at run
  exact releases_takeDown (Nat.zero_add _) run

end Registry
end WhipWhep
