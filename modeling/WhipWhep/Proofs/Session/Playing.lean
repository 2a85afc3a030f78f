import WhipWhep.Proofs.Session.Wiring

/-!
How a player comes to play. Its tracks are offered one after the other, and once the connection stands the
engine describes each of them and the layer opens a reader for what was described.
-/

namespace WhipWhep

variable {events : List Event}

/-- The engine is asked about a track by the handle that the track holds. -/
theorem Context.trackDescription_ok {context after : Context} {index : Nat} {description : String}
    (run : (trackDescription index).Runs context events (.ok description) after) :
    ∃ track handle, context.registry.tracks[index]? = some track ∧ track.handle = some handle ∧
      events = [⟨.engine (.trackDescription handle), .ok description⟩] ∧ after = context := by
  unfold trackDescription at run
  rw [Act.runs_get_bind] at run
  obtain ⟨_, track, _, _, rfl, finds, found⟩ := Act.runs_bind_ok run
  obtain ⟨rfl, there, rfl⟩ := Act.runs_settle.1 finds
  split at found
  · obtain ⟨-, wrong, -⟩ := Act.runs_fail.1 found
    cases wrong
  · next handle held =>
    obtain ⟨answer, _, rfl, asked⟩ := Act.runs_ask_bind.1 (requirePeer_ok found)
    obtain ⟨rfl, told, rfl⟩ := Act.runs_granted.1 asked
    obtain rfl := mapError_eq_ok_iff.1 told.symm
    exact ⟨track, handle, demand_eq_ok_iff.1 there.symm, held, rfl, rfl⟩

theorem Context.map_setTrack {α : Type} (part : Track → α) {context : Context} {index : Nat} {track changed : Track}
    (found : context.registry.tracks[index]? = some track) (same : part changed = part track) :
    (context.setTrack index changed).registry.tracks.map part = context.registry.tracks.map part :=
  Registry.map_set_same part found same

/-- A track that keeps its handle leaves all handles as they are. -/
theorem Context.handles_setTrack {context : Context} {index : Nat} {track changed : Track}
    (found : context.registry.tracks[index]? = some track) (same : changed.handle = track.handle) :
    (context.setTrack index changed).registry.handles = context.registry.handles :=
  map_setTrack Track.handle found same

namespace Player

variable {player after : Player} {index count : Nat}

/-- A track that is offered is held by the track at its index. -/
theorem offerTrack_ok {track : OfferedTrack}
    (run : (offerTrack track index).Runs player events (.ok ()) after) :
    ∃ (bits : BitVec 32) (handle : Handle) (other : Track),
      events = [⟨.host (.random 32), bits⟩,
        ⟨.engine (.addTrack (trackInit player.context.msid track index (UInt32.ofBitVec bits))), .ok handle⟩] ∧
      player.context.registry.tracks[index]? = some other ∧
      after =
        { player with
          context := player.context.setTrack index
            { other with
              handle := some handle
              binding := other.binding.map fun binding => { binding with attached := some handle } } } := by
  obtain ⟨bits, _, rfl, asked⟩ := Act.runs_ask_bind.1 run
  obtain ⟨_, handle, _, _, rfl, adds, added⟩ := Act.runs_bind_ok (Act.runs_get_bind.1 asked)
  obtain ⟨rfl, -, rfl⟩ := Act.runs_pure.1 added
  obtain ⟨_, rfl, adding⟩ := Act.runs_within.1 adds
  obtain ⟨other, changed, found, rfl, act⟩ := Context.onTrack_ok (Context.addTrack_ok adding)
  obtain ⟨rfl, rfl⟩ := Track.add_ok act
  exact ⟨bits, handle, other, by simp, found, rfl⟩

theorem offerTrack_length {track : OfferedTrack}
    (run : (offerTrack track index).Runs player events (.ok ()) after) :
    after.context.registry.tracks.length = player.context.registry.tracks.length := by
  obtain ⟨_, _, _, -, -, rfl⟩ := offerTrack_ok run
  exact Context.length_setTrack

/-- The course of opening the reader of a stream: the engine describes the track, and the layer opens a
reader for the description. -/
inductive Hears (player : Player) (index : Nat) : List Event → Player → Prop where
  | opened {track changed : Track} {handle : Handle} {description : String} {media : Sdp.MediaDescription}
      {transport : TransportInfo} {relay : Relay (Except Error Reader)} {played : List Event} {reader : Reader}
      {after : Player} (found : player.context.registry.tracks[index]? = some track)
      (held : track.handle = some handle) (read : Sdp.MediaDescription.parse description.toList = .ok media)
      (relayed : AllOf Call.isRelayed played)
      (told : ∀ {rest}, Fresh rest → relay.opened? (played ++ rest) = some reader)
      (stays : changed.handle = track.handle) (voiced : changed.codec = some (.reader reader))
      (context : after.context = player.context.setTrack index changed)
      (streams : after.streams = player.streams ++ [reader.params]) :
      Hears player index
        (⟨.engine (.trackDescription handle), .ok description⟩ ::
          ⟨.layer (.openReader media transport), relay⟩ :: played) after

/-- All that the opening of a reader does to its track, with what the layer did on the transport meanwhile. -/
theorem openReader_plays (run : (openReader index).Runs player events (.ok ()) after) :
    ∃ (track : Track) (handle : Handle) (description : String) (media : Sdp.MediaDescription)
        (transport : TransportInfo) (relay : Relay (Except Error Reader)) (played : List Event) (reader : Reader)
        (binding : Binding) (counters : Counters),
      events = ⟨.engine (.trackDescription handle), .ok description⟩ ::
        ⟨.layer (.openReader media transport), relay⟩ :: played ∧
      player.context.registry.tracks[index]? = some track ∧ track.handle = some handle ∧
      Sdp.MediaDescription.parse description.toList = .ok media ∧ binding.attached = some handle ∧
      (relay.play (some handle)).Runs track.counters played (.ok (.ok reader)) counters ∧
      after =
        { player with
          context := player.context.setTrack index
            { track with
              binding := some binding
              codec := some (.reader reader)
              params := some reader.params
              counters := counters }
          streams := player.streams ++ [reader.params] } := by
  obtain ⟨_, description, _, _, rfl, describes, described⟩ := Act.runs_bind_ok run
  obtain ⟨context, rfl, describing⟩ := Act.runs_within.1 describes
  obtain ⟨track, handle, there, held, rfl, rfl⟩ := Context.trackDescription_ok describing
  obtain ⟨_, _, _, _, rfl, sizes, sized⟩ := Act.runs_bind_ok described
  obtain ⟨rfl, -, rfl⟩ := Act.runs_settle.1 sizes
  obtain ⟨_, media, _, _, rfl, parses, parsed⟩ := Act.runs_bind_ok sized
  obtain ⟨rfl, read, rfl⟩ := Act.runs_settle.1 parses
  obtain ⟨_, binding, _, _, rfl, binds, bound⟩ := Act.runs_bind_ok parsed
  obtain ⟨_, rfl, tied⟩ := Act.runs_within.1 binds
  obtain ⟨other, tied, found, rfl, tying⟩ := Context.onTrack_ok (Context.bindTrack_ok tied)
  cases there.symm.trans found
  have attached := Track.setBinding_attaches held tying
  obtain ⟨rfl, rfl⟩ := Track.setBinding_ok tying
  obtain ⟨_, reader, _, _, rfl, opens, opened⟩ := Act.runs_bind_ok bound
  obtain ⟨_, rfl, voicing⟩ := Act.runs_within.1 opens
  obtain ⟨voiced, opening, rfl⟩ := Context.onTrack_again found voicing
  obtain ⟨relay, played, counters, rfl, rfl, plays⟩ := Track.opening_plays opening
  obtain ⟨_, _, _, _, rfl, sets, noted⟩ := Act.runs_bind_ok opened
  obtain ⟨_, rfl, setting⟩ := Act.runs_within.1 sets
  obtain ⟨last, act, rfl⟩ := Context.onTrack_again found setting
  obtain ⟨rfl, -, rfl⟩ := Act.runs_modify.1 act
  obtain ⟨rfl, -, rfl⟩ := Act.runs_modify.1 noted
  have target : ({ track with binding := some binding } : Track).target = some handle := attached
  rw [target] at plays
  exact ⟨track, handle, description, media, binding.info, relay, played, reader, binding, counters, by simp,
    found, held, mapError_eq_ok_iff.1 read.symm, attached, plays, rfl⟩

theorem openReader_ok (run : (openReader index).Runs player events (.ok ()) after) :
    Hears player index events after := by
  obtain ⟨track, handle, _, _, _, relay, played, reader, _, counters, rfl, found, held, read, -, plays, rfl⟩ :=
    openReader_plays run
  refine .opened found held read (Relay.keeps_play _ _ _ plays) (Relay.opened?_played plays) ?_ ?_ rfl rfl
  · rfl
  · rfl

/-- A player of which the first tracks have their readers. -/
structure Furnished (count : Nat) (player : Player) : Prop where
  tracks : player.context.registry.tracks.length = offeredTracks.length
  readers : ∀ index < count, ∃ (track : Track) (reader : Reader),
    player.context.registry.tracks[index]? = some track ∧ track.codec = some (.reader reader)

theorem Furnished.next (furnished : Furnished count player)
    (run : (openReader count).Runs player events (.ok ()) after) : Furnished (count + 1) after := by
  cases openReader_ok run with
  | @opened _ last _ _ _ _ _ _ reader _ found held read relayed told stays voiced context streams =>
    refine ⟨?_, fun index within => ?_⟩
    · rw [context, Context.length_setTrack, furnished.tracks]
    · rw [context]
      by_cases here : index = count
      · subst here
        exact ⟨last, reader, Context.getElem?_setTrack found, voiced⟩
      · rw [Context.getElem?_setTrack_ne (Ne.symm here)]
        exact furnished.readers index (by omega)

theorem openReaders_ok {more : Nat} (furnished : Furnished count player)
    (run : ((List.range' count more).forM openReader).Runs player events (.ok ()) after) :
    Furnished (count + more) after := by
  induction more generalizing count player events with
  | zero =>
    obtain ⟨-, -, rfl⟩ := Act.runs_pure.1 run
    exact furnished
  | succ more ih =>
    obtain ⟨_, _, _, _, rfl, opens, onward⟩ := Act.runs_bind_ok run
    have last := ih (furnished.next opens) onward
    rwa [Nat.add_right_comm, Nat.add_assoc] at last

theorem Furnished.ready (furnished : Furnished offeredTracks.length player) : player.Ready where
  tracks := furnished.tracks
  readers _ codec member := by
    obtain ⟨index, track, within, found, rfl⟩ := Context.track_of_codec member
    obtain ⟨other, reader, same, opened⟩ := furnished.readers index (furnished.tracks ▸ within)
    cases found.symm.trans same
    exact ⟨reader, opened⟩

theorem setup_ready (tracks : player.context.registry.tracks.length = offeredTracks.length)
    (run : setup.Runs player events (.ok ()) after) : after.Ready := by
  obtain ⟨_, _, _, _, rfl, offers, offered⟩ := Act.runs_bind_ok run
  obtain ⟨_, _, _, _, rfl, creates, created⟩ := Act.runs_bind_ok offered
  obtain ⟨_, _, _, _, rfl, waits, opens⟩ := Act.runs_bind_ok created
  have all := Act.forM_ok (fun player => player.context.registry.tracks.length = offeredTracks.length)
    (fun size offering => (offerTrack_length offering).trans size) tracks offers
  obtain ⟨exchange, exchanged, -⟩ := Context.createResource_ok (runs_onContext creates)
  obtain ⟨time, connected⟩ := Context.waitConnected_ok (runs_onContext waits)
  have none : Furnished 0 _ := ⟨by rw [connected, exchanged]; exact all, nofun⟩
  rw [List.range_eq_range'] at opens
  have ready := openReaders_ok none opens
  rw [Nat.zero_add] at ready
  exact ready.ready

end Player
end WhipWhep
