import WhipWhep.Proofs.Session.Playing

/-!
The handles of an open session. Each of its tracks was granted one handle, and the transport of the track
leads there and nowhere else.
-/

namespace WhipWhep

variable {events more : List Event} {handles others : List Handle}

/-- Every track that was asked for was granted, under these handles in order. -/
def Grants (events : List Event) (handles : List Handle) : Prop :=
  (additions events).map Prod.snd = handles.map Except.ok

theorem Grants.append (first : Grants events handles) (second : Grants more others) :
    Grants (events ++ more) (handles ++ others) := by
  rw [Grants, additions, List.filterMap_append, List.map_append, List.map_append, ← first, ← second]
  rfl

theorem grants_plain (plain : AllOf Call.isPlain events) : Grants events [] := by
  rw [Grants, additions_plain plain]
  rfl

namespace Context

variable {context after : Context}

/-- A session of which each track has its index and its handle, and its transport leads to that handle. -/
structure Holds (handles : List Handle) (context : Context) : Prop where
  size : context.registry.tracks.length = handles.length
  tracks : ∀ {index : Nat} {handle : Handle}, handles[index]? = some handle →
    ∃ track, context.registry.tracks[index]? = some track ∧ track.index = index ∧
      track.handle = some handle ∧ track.target = some handle

theorem size_of_settings (same : after.settings = context.settings) :
    after.registry.tracks.length = context.registry.tracks.length :=
  (lasts_of_settings same).size

theorem Holds.of_settings (holds : context.Holds handles) (same : after.settings = context.settings) :
    after.Holds handles where
  size := (size_of_settings same).trans holds.size
  tracks {index handle} given := by
    obtain ⟨track, found, indexed, held, target⟩ := holds.tracks given
    have within := (List.getElem?_eq_some_iff.1 found).1
    rw [← size_of_settings same] at within
    have there := List.getElem?_eq_getElem within
    obtain ⟨before, stood, counted⟩ := counted_of_settings same there
    cases found.symm.trans stood
    have index := congrArg Track.index counted
    have handle := congrArg Track.handle counted
    exact ⟨_, there, index.trans indexed, handle.trans held, counted.target.trans target⟩

/-- The track at an index is the one that holds the handle of the index. -/
theorem Holds.of_track (holds : context.Holds handles) {index : Nat} {track : Track}
    (found : context.registry.tracks[index]? = some track) :
    ∃ handle, handles[index]? = some handle ∧ track.index = index ∧ track.handle = some handle ∧
      track.target = some handle := by
  have within := holds.size ▸ (List.getElem?_eq_some_iff.1 found).1
  have given := List.getElem?_eq_getElem within
  obtain ⟨other, there, facts⟩ := holds.tracks given
  cases found.symm.trans there
  exact ⟨_, given, facts⟩

theorem Holds.handles_eq (holds : context.Holds handles) : context.registry.handles = handles.map some := by
  refine List.ext_getElem? fun index => ?_
  rw [Registry.handles, List.getElem?_map, List.getElem?_map]
  cases given : handles[index]? with
  | none =>
    rw [List.getElem?_eq_none_iff, ← holds.size] at given
    rw [List.getElem?_eq_none_iff.2 given]
    rfl
  | some handle =>
    obtain ⟨track, found, -, held, -⟩ := holds.tracks given
    rw [found, Option.map_some, Option.map_some, held]

end Context

namespace Publisher

variable {publisher : Publisher} {lines : List Line}

theorem Strung.holds (strung : Strung lines [] publisher) : publisher.context.Holds (lines.map Line.handle) where
  size := by rw [strung.tracks, List.length_map, List.length_nil, Nat.add_zero]
  tracks {index handle} given := by
    rw [List.getElem?_map, Option.map_eq_some_iff] at given
    obtain ⟨line, listed, rfl⟩ := given
    obtain ⟨track, found, leads⟩ := strung.leads listed
    exact ⟨track, found, leads.index, leads.handle, leads.target⟩

theorem granted_places (msid : String) (start : Nat) :
    (places msid lines start).map Prod.snd = (lines.map Line.handle).map Except.ok := by
  induction lines generalizing start with
  | nil => rfl
  | cons line rest ih => exact congrArg (Except.ok line.handle :: ·) (ih (start + 1))

end Publisher

namespace Player

variable {player after : Player} {index count : Nat}

/-- A player that has put its first tracks on the peer connection, and has opened the first readers. -/
structure Tuned (handles : List Handle) (count : Nat) (player : Player) : Prop where
  size : player.context.registry.tracks.length = offeredTracks.length
  indexed : ∀ {index : Nat} {track : Track}, player.context.registry.tracks[index]? = some track →
    track.index = index
  held : ∀ {index : Nat} {handle : Handle}, handles[index]? = some handle →
    ∃ track, player.context.registry.tracks[index]? = some track ∧ track.handle = some handle
  leads : ∀ {index : Nat} {track : Track}, index < count →
    player.context.registry.tracks[index]? = some track → track.target = track.handle

/-- Where one track becomes another one with the same index, that may be a first step with it. -/
theorem Tuned.set {track : Track} (tuned : Tuned handles count player)
    (found : player.context.registry.tracks[index]? = some track) (changed : Track)
    (same : changed.index = track.index) :
    (player.context.setTrack index changed).registry.tracks.length = offeredTracks.length ∧
      ∀ {other : Nat} {track : Track},
        (player.context.setTrack index changed).registry.tracks[other]? = some track → track.index = other := by
  refine ⟨Context.length_setTrack.trans tuned.size, fun {other track} there => ?_⟩
  by_cases self : other = index
  · subst self
    cases (Context.getElem?_setTrack found).symm.trans there
    exact same.trans (tuned.indexed found)
  · rw [Context.getElem?_setTrack_ne (Ne.symm self)] at there
    exact tuned.indexed there

theorem Tuned.offered {offered : OfferedTrack} (tuned : Tuned handles 0 player)
    (run : (offerTrack offered handles.length).Runs player events (.ok ()) after) :
    ∃ handle, Grants events [handle] ∧ Tuned (handles ++ [handle]) 0 after := by
  obtain ⟨bits, handle, other, rfl, found, rfl⟩ := offerTrack_ok run
  obtain ⟨size, indexed⟩ := tuned.set found { other with
    handle := some handle
    binding := other.binding.map fun binding => { binding with attached := some handle } } rfl
  refine ⟨handle, rfl, size, indexed, fun {index given} listed => ?_, nofun⟩
  by_cases last : index = handles.length
  · subst last
    rw [List.getElem?_concat_length] at listed
    cases listed
    exact ⟨_, Context.getElem?_setTrack found, rfl⟩
  · have within := (List.getElem?_eq_some_iff.1 listed).1
    rw [List.length_append, List.length_singleton] at within
    rw [List.getElem?_append_left (by omega)] at listed
    obtain ⟨track, there, held⟩ := tuned.held listed
    exact ⟨track, (Context.getElem?_setTrack_ne (Ne.symm last)).trans there, held⟩

theorem Tuned.offers {left : List OfferedTrack} (tuned : Tuned handles 0 player)
    (run : ((left.zipIdx handles.length).forM fun (track, index) => offerTrack track index).Runs player events
      (.ok ()) after) :
    ∃ others : List Handle, others.length = left.length ∧ Grants events others ∧
      Tuned (handles ++ others) 0 after := by
  induction left generalizing handles player events with
  | nil =>
    obtain ⟨rfl, -, rfl⟩ := Act.runs_pure.1 run
    exact ⟨[], rfl, rfl, by rwa [List.append_nil]⟩
  | cons offered left ih =>
    obtain ⟨_, _, middle, _, rfl, offers, onward⟩ := Act.runs_bind_ok run
    obtain ⟨handle, grants, next⟩ := tuned.offered offers
    have grown : (handles ++ [handle]).length = handles.length + 1 := List.length_append
    replace onward : Act.Runs ((left.zipIdx (handles.length + 1)).forM fun (track, index) =>
      offerTrack track index) middle _ (.ok ()) after := onward
    rw [← grown] at onward
    obtain ⟨others, size, more, all⟩ := ih next onward
    refine ⟨handle :: others, by rw [List.length_cons, size, List.length_cons], grants.append more, ?_⟩
    rwa [← List.append_cons] at all

theorem Tuned.next (tuned : Tuned handles count player)
    (run : (openReader count).Runs player events (.ok ()) after) : Tuned handles (count + 1) after := by
  obtain ⟨track, handle, _, _, _, relay, played, reader, binding, counters, rfl, found, held, -, attached, plays,
    rfl⟩ := openReader_plays run
  obtain ⟨size, indexed⟩ := tuned.set found { track with
    binding := some binding
    codec := some (.reader reader)
    params := some reader.params
    counters := counters } rfl
  refine ⟨size, indexed, fun {index given} listed => ?_, fun {index other} within there => ?_⟩
  · obtain ⟨other, there, holds⟩ := tuned.held listed
    by_cases self : index = count
    · subst self
      cases found.symm.trans there
      exact ⟨_, Context.getElem?_setTrack found, holds⟩
    · exact ⟨other, (Context.getElem?_setTrack_ne (Ne.symm self)).trans there, holds⟩
  · by_cases self : index = count
    · subst self
      cases (Context.getElem?_setTrack found).symm.trans there
      exact attached.trans held.symm
    · rw [Context.getElem?_setTrack_ne (Ne.symm self)] at there
      exact tuned.leads (by omega) there

/-- A reader that is opened asks for no track. -/
theorem Hears.grants (hears : Hears player index events after) : Grants events [] := by
  cases hears with
  | opened found held read relayed =>
    refine grants_plain ?_
    exact (AllOf.single rfl _).append ((AllOf.single rfl _).append (relayed.weaken plain_of_relayed))

theorem Tuned.opens {left : Nat} (tuned : Tuned handles count player)
    (run : ((List.range' count left).forM openReader).Runs player events (.ok ()) after) :
    Grants events [] ∧ Tuned handles (count + left) after := by
  induction left generalizing count player events with
  | zero =>
    obtain ⟨rfl, -, rfl⟩ := Act.runs_pure.1 run
    exact ⟨rfl, tuned⟩
  | succ left ih =>
    obtain ⟨_, _, _, _, rfl, opens, onward⟩ := Act.runs_bind_ok run
    obtain ⟨still, all⟩ := ih (tuned.next opens) onward
    rw [Nat.add_right_comm, Nat.add_assoc] at all
    exact ⟨(openReader_ok opens).grants.append still, all⟩

theorem Tuned.holds (tuned : Tuned handles offeredTracks.length player)
    (size : handles.length = offeredTracks.length) : player.context.Holds handles where
  size := tuned.size.trans size.symm
  tracks {index handle} given := by
    obtain ⟨track, found, held⟩ := tuned.held given
    have within := size ▸ (List.getElem?_eq_some_iff.1 given).1
    exact ⟨track, found, tuned.indexed found, held, (tuned.leads within found).trans held⟩

/-- The stages of a setup that succeeds: tracks are offered, the offer is exchanged, the connection is waited
for, and readers are opened. -/
theorem setup_stages (run : setup.Runs player events (.ok ()) after) :
    ∃ half connected first second third last, events = first ++ (second ++ (third ++ last)) ∧
      (offeredTracks.zipIdx.forM fun (track, index) => offerTrack track index).Runs player first (.ok ()) half ∧
      AllOf Call.isExchanging second ∧ AllOf Call.isWaiting third ∧
      connected.context.registry = half.context.registry ∧
      ((List.range' 0 offeredTracks.length).forM openReader).Runs connected last (.ok ()) after := by
  obtain ⟨_, _, half, _, rfl, offers, offered⟩ := Act.runs_bind_ok run
  obtain ⟨_, _, created, _, rfl, creates, onward⟩ := Act.runs_bind_ok offered
  obtain ⟨_, _, connected, _, rfl, waits, opens⟩ := Act.runs_bind_ok onward
  obtain ⟨exchange, exchanged, course⟩ := Context.createResource_ok (runs_onContext creates)
  obtain ⟨time, timed⟩ := Context.waitConnected_ok (runs_onContext waits)
  rw [List.range_eq_range'] at opens
  have polled := (Context.waitConnected_waits (runs_onContext waits)).1.ofKind
  exact ⟨half, connected, _, _, _, _, rfl, offers, course.exchanging, polled, by rw [timed, exchanged], opens⟩

/-- A player of which all tracks are offered. -/
theorem tuned_of_offers {context : Context} (bare : context.registry = .allocate offeredTracks.length)
    (run : (offeredTracks.zipIdx.forM fun (track, index) => offerTrack track index).Runs ⟨context, [], 0⟩ events
      (.ok ()) player) (same : after.context.registry = player.context.registry) :
    ∃ handles : List Handle, handles.length = offeredTracks.length ∧ Grants events handles ∧
      Tuned handles 0 after := by
  have start : Tuned [] 0 ⟨context, [], 0⟩ := by
    refine ⟨by simp [bare, Registry.allocate], fun {index track} found => ?_, (fun given => by cases given),
      fun earlier => absurd earlier (Nat.not_lt_zero _)⟩
    rw [bare, Registry.allocate, List.getElem?_map, Option.map_eq_some_iff] at found
    obtain ⟨place, listed, rfl⟩ := found
    obtain ⟨within, rfl⟩ := List.getElem?_eq_some_iff.1 listed
    exact List.getElem_range _
  obtain ⟨handles, size, grants, tuned⟩ := start.offers run
  rw [List.nil_append] at tuned
  refine ⟨handles, size, grants, ?_, ?_, ?_, fun earlier => absurd earlier (Nat.not_lt_zero _)⟩ <;> rw [same]
  · exact tuned.size
  · exact tuned.indexed
  · exact tuned.held

theorem setup_holds {context : Context} (bare : context.registry = .allocate offeredTracks.length)
    (run : setup.Runs ⟨context, [], 0⟩ events (.ok ()) player) :
    ∃ handles : List Handle, handles.length = offeredTracks.length ∧ Grants events handles ∧
      player.context.Holds handles := by
  obtain ⟨half, connected, _, _, _, _, rfl, offers, exchanging, waiting, same, opens⟩ := setup_stages run
  obtain ⟨handles, size, grants, ready⟩ := tuned_of_offers bare offers same
  obtain ⟨none, all⟩ := ready.opens opens
  rw [Nat.zero_add] at all
  have posted := grants_plain (exchanging.weaken plain_of_exchanging)
  have polled := grants_plain (waiting.weaken plain_of_waiting)
  refine ⟨handles, size, ?_, all.holds size⟩
  have whole := grants.append (posted.append (polled.append none))
  rwa [List.append_nil, List.append_nil, List.append_nil] at whole

end Player

namespace Client

variable {role : Role} {config : ClientConfig} {client : Client}

/-- An open session has begun and was set up, and it holds the handles that were granted meanwhile. -/
theorem Opens.holds (opens : Opens role config events (.ok client)) :
    ∃ beginning setting context handles, events = beginning ++ setting ∧
      Context.Begins config role.tracks beginning context ∧ role.SetsUp context setting (.ok ()) client ∧
      handles.length = role.tracks ∧ Grants setting handles ∧ client.context.Holds handles := by
  cases opens with
  | opened fit begins sets =>
    cases sets with
    | ingest run =>
      obtain ⟨lines, rfl, -, strung, logs⟩ := Publisher.setup_ok (Publisher.strung_of_begins begins) rfl run
      have grants := (congrArg (List.map Prod.snd) logs.tracks).trans (Publisher.granted_places _ 0)
      exact ⟨_, _, _, lines.map Line.handle, rfl, begins, .ingest run, by simp [Role.tracks], grants, strung.holds⟩
    | egress run =>
      obtain ⟨handles, size, grants, holds⟩ := Player.setup_holds begins.bare.2 run
      exact ⟨_, _, _, handles, rfl, begins, .egress run, size, grants, holds⟩

end Client
end WhipWhep
