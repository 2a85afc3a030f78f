import WhipWhep.Proofs.InMemory.Serving
import WhipWhep.Proofs.Sdp.Offer
import WhipWhep.Proofs.Session.Playing

/-!
What a player hears, over the engine and the RTP layer in memory. A stream is read as its track was
answered, or as it was offered where nothing was answered, and the engine keeps the tracks as they were
offered.
-/

namespace WhipWhep

open InMemory

/-- In a list where no key stands twice, a key is looked up where it stands. -/
theorem lookup_of_distinct {α β : Type} [BEq α] [LawfulBEq α] {pairs : List (α × β)} {key : α} {value : β}
    (distinct : (pairs.map Prod.fst).Nodup) (member : (key, value) ∈ pairs) :
    pairs.lookup key = some value := by
  obtain ⟨before, after, rfl⟩ := List.append_of_mem member
  rw [List.lookup_eq_some_iff]
  refine ⟨before, after, rfl, fun pair among => ?_⟩
  rw [List.map_append, List.map_cons] at distinct
  have apart := (List.nodup_append.1 distinct).2.2 _ (List.mem_map_of_mem among) key List.mem_cons_self
  simpa using Ne.symm apart

/-- An element of a list with one more at its end. -/
theorem eq_of_getElem?_concat {α : Type} {items : List α} {place : Nat} {newest item : α}
    (found : (items ++ [newest])[place]? = some item) :
    items[place]? = some item ∨ place = items.length ∧ item = newest := by
  rcases Nat.lt_or_ge place items.length with early | late
  · rw [List.getElem?_append_left early] at found
    exact .inl found
  · rw [List.getElem?_append_right late, List.getElem?_singleton] at found
    split at found
    · next first => exact .inr ⟨by omega, (Option.some.inj found).symm⟩
    · cases found

/-- Numbers that are counted from the same one differ until they begin again. -/
theorem add_ofNat_ne {small large : Nat} (less : small < large) (fits : large < UInt32.size) (before : UInt32) :
    before + UInt32.ofNat small ≠ before + UInt32.ofNat large := by
  rw [Ne, UInt32.add_right_inj, ← UInt32.toNat_inj, UInt32.toNat_ofNat_of_lt' (less.trans fits),
    UInt32.toNat_ofNat_of_lt' fits]
  exact less.ne

namespace Player

variable {player after : Player} {backend last : Backend} {events : List Event} {index count : Nat}
  {offered : OfferedTrack} {answers : List (String × Answered)}

/-- What the track of a stream comes to: what it is answered with, or else what was offered. -/
def agreed (answers : List (String × Answered)) (offered : OfferedTrack) (index : Nat) : Answered :=
  (answers.lookup (numeral index)).getD ⟨offered.codec, offered.payloadType, some offered.profile⟩

/-- Answers that can be written into a description. -/
def Answerable (answers : List (String × Answered)) : Prop :=
  ∀ answered ∈ answers, ∀ fmtp ∈ answered.2.fmtp, Sdp.IsFormat fmtp.toList

theorem isFormat_profile : ∀ offered ∈ offeredTracks, Sdp.IsFormat offered.profile.toList := by
  decide +kernel

theorem isFormat_agreed (fit : Answerable answers) (among : offered ∈ offeredTracks) :
    ∀ fmtp ∈ (agreed answers offered index).fmtp, Sdp.IsFormat fmtp.toList := by
  unfold agreed
  cases found : answers.lookup (numeral index) with
  | none =>
    rintro _ ⟨⟩
    exact isFormat_profile offered among
  | some answered =>
    obtain ⟨before, later, rfl, -⟩ := List.lookup_eq_some_iff.1 found
    exact fit (numeral index, answered) (by simp)

/-- What a description tells of the stream at an index. -/
structure Tells (agreed : Answered) (index : Nat) (media : Sdp.MediaDescription) : Prop where
  codec : media.codec = agreed.codec.codec
  payloadType : media.payloadType = agreed.payloadType
  fmtp : media.fmtp = agreed.fmtp
  mid : media.mid = some (numeral index)

/-- The engine changes of a track what was answered, and only when it is asked. -/
theorem negotiated_trackInit (engine : Engine) (msid : String) (offered : OfferedTrack) (index : Nat)
    (source : UInt32) : engine.negotiated (trackInit msid offered index source) =
      { trackInit msid offered index source with
        codec := (agreed engine.answers offered index).codec
        payloadType := (agreed engine.answers offered index).payloadType
        profile := (agreed engine.answers offered index).fmtp } := by
  unfold Engine.negotiated agreed
  dsimp only [trackInit]
  cases engine.answers.lookup (numeral index) <;> rfl

/-- A player whose first tracks are those of the newest peer connection, as they were offered. -/
structure Matched (count : Nat) (player : Player) (backend : Backend) : Prop where
  present : backend.engine.peers ≠ []
  size : backend.engine.tracks.length = count
  distinct : (backend.engine.tracks.map Prod.fst).Nodup
  held : ∀ {index : Nat} {handle : Handle} {init : TrackInit},
    backend.engine.tracks[index]? = some (handle, init) →
      player.context.registry.handles[index]? = some (some handle)
  recorded : ∀ {index : Nat} {offered : OfferedTrack}, index < count → offeredTracks[index]? = some offered →
    ∃ handle source, backend.engine.tracks[index]? =
      some (handle, trackInit player.context.msid offered index source)

/-- A player that has offered its first tracks, over an engine that had numbered others before. -/
structure Offering (before : UInt32) (count : Nat) (player : Player) (backend : Backend) : Prop
    extends Matched count player backend where
  numbered : backend.engine.lastTrack = before + UInt32.ofNat count
  numbers : ∀ {index : Nat} {handle : Handle} {init : TrackInit},
    backend.engine.tracks[index]? = some (handle, init) → handle.raw = before + UInt32.ofNat (index + 1)
  silent : player.streams = []

/-- A track that is added last is held by the next track of the player. -/
theorem Matched.grown {handle : Handle} {source : UInt32} {track changed : Track}
    (matched : Matched count player backend) (known : offeredTracks[count]? = some offered)
    (present : last.engine.peers ≠ [])
    (tracks : last.engine.tracks =
      backend.engine.tracks ++ [(handle, trackInit player.context.msid offered count source)])
    (new : handle ∉ backend.engine.tracks.map Prod.fst)
    (found : player.context.registry.tracks[count]? = some track) (holds : changed.handle = some handle) :
    Matched (count + 1) { player with context := player.context.setTrack count changed } last where
  present := present
  size := by
    rw [tracks, List.length_append, matched.size]
    rfl
  distinct := by
    rw [tracks, List.map_append, List.map_singleton]
    exact (List.perm_append_singleton _ _).nodup_iff.2 (List.nodup_cons.2 ⟨new, matched.distinct⟩)
  held := by
    intro index other init place
    rw [tracks] at place
    rw [Registry.handles, List.getElem?_map]
    rcases eq_of_getElem?_concat place with earlier | ⟨rfl, same⟩
    · have within : index < count := matched.size ▸ (List.getElem?_eq_some_iff.1 earlier).1
      rw [Context.getElem?_setTrack_ne within.ne', ← List.getElem?_map]
      exact matched.held earlier
    · cases same
      rw [matched.size, Context.getElem?_setTrack found, Option.map_some, holds]
  recorded := by
    intro index other within given
    rcases Nat.lt_succ_iff_lt_or_eq.1 within with earlier | rfl
    · obtain ⟨other, source, recorded⟩ := matched.recorded earlier given
      rw [tracks, List.getElem?_append_left (matched.size ▸ earlier)]
      exact ⟨other, source, recorded⟩
    · cases known.symm.trans given
      rw [tracks, ← matched.size, List.getElem?_concat_length]
      exact ⟨handle, source, rfl⟩

/-- No track that was offered before has the next number. -/
theorem Offering.new {before : UInt32} {handle : Handle} (offering : Offering before count player backend)
    (few : count + 1 < UInt32.size) (raw : handle.raw = before + UInt32.ofNat (count + 1)) :
    handle ∉ backend.engine.tracks.map Prod.fst := by
  intro member
  obtain ⟨⟨earlier, init⟩, among, rfl⟩ := List.mem_map.1 member
  obtain ⟨index, place⟩ := List.mem_iff_getElem?.1 among
  have within := offering.size ▸ (List.getElem?_eq_some_iff.1 place).1
  exact add_ofNat_ne (Nat.succ_lt_succ within) few before ((offering.numbers place).symm.trans raw)

/-- The next track that is offered is held under the next number. -/
theorem Offering.next {before : UInt32} (offering : Offering before count player backend)
    (known : offeredTracks[count]? = some offered)
    (run : (offerTrack offered count).Runs player events (.ok ()) after) (served : backend.Serves events last) :
    Offering before (count + 1) after last := by
  obtain ⟨bits, handle, track, rfl, found, rfl⟩ := offerTrack_ok run
  cases served with
  | cons rolled served =>
    cases rolled
    cases served with
    | cons added served =>
      cases served
      obtain ⟨present, tracks⟩ := added.tracks rfl offering.present
      obtain ⟨taken, rfl⟩ := added.of_engine
      obtain ⟨raw, numbered⟩ := Engine.addTrack_ok taken.symm
      have next : backend.engine.lastTrack + 1 = before + UInt32.ofNat (count + 1) := by
        rw [offering.numbered, UInt32.add_assoc, UInt32.ofNat_add, UInt32.ofNat_one]
      -- Tracks are numbered in one word, and far fewer are offered than it can count.
      have few : count + 1 < UInt32.size :=
        (Nat.succ_le_of_lt (List.getElem?_eq_some_iff.1 known).1).trans_lt (by decide)
      have new := offering.new few (raw.trans next)
      refine ⟨offering.toMatched.grown known present tracks new found rfl, numbered.trans next, ?_, offering.silent⟩
      intro index other init place
      rw [tracks] at place
      rcases eq_of_getElem?_concat place with earlier | ⟨rfl, same⟩
      · exact offering.numbers earlier
      · cases same
        rw [offering.size]
        exact raw.trans next

/-- All tracks that are left are offered one after the other. -/
theorem offering_of_offers {before : UInt32} {left : List OfferedTrack}
    (offering : Offering before count player backend) (known : offeredTracks.drop count = left)
    (run : ((left.zipIdx count).forM fun (track, index) => offerTrack track index).Runs player events (.ok ())
      after) (served : backend.Serves events last) : Offering before (count + left.length) after last := by
  induction left generalizing count player backend events with
  | nil =>
    obtain ⟨rfl, -, rfl⟩ := Act.runs_pure.1 run
    cases served
    exact offering
  | cons offered left ih =>
    obtain ⟨_, _, _, _, rfl, offers, onward⟩ := Act.runs_bind_ok run
    obtain ⟨_, early, late⟩ := Backend.serves_append.1 served
    have given : offeredTracks[count]? = some offered := by
      rw [← List.head?_drop, known, List.head?_cons]
    have rest : offeredTracks.drop (count + 1) = left := by
      rw [← List.drop_drop, known]
      rfl
    have all := ih (offering.next given offers early) rest onward late
    rwa [Nat.add_right_comm, Nat.add_assoc] at all

/-- A stream that is played as was agreed: the engine keeps the track as it was offered and describes it as
was agreed, and the reader was opened for that. -/
structure Plays (player : Player) (backend : Backend) (agreed : Answered) (index : Nat)
    (offered : OfferedTrack) (media : Sdp.MediaDescription) (reader : Reader) : Prop where
  recorded : ∃ handle source description,
    backend.engine.tracks[index]? = some (handle, trackInit player.context.msid offered index source) ∧
    backend.engine.trackDescription backend.engine.newest handle = .ok description ∧
    Sdp.MediaDescription.parse description.toList = .ok media
  tells : Tells agreed index media
  opened : player.context.registry.tracks[index]?.bind Track.reader? = some reader
  record : backend.rtp.readers[reader.key]? = some ⟨agreed.payloadType, agreed.codec.codec, agreed.fmtp⟩
  stream : player.streams[index]? = some media.streamParams

/-- Nothing that leaves the tracks and asks for none disturbs the match. -/
theorem Matched.beside (matched : Matched count player backend)
    (handles : after.context.registry.handles = player.context.registry.handles)
    (msid : after.context.msid = player.context.msid) (served : backend.Serves events last)
    (leaves : AllOf Call.leavesTracks events) (plain : AllOf Call.isPlain events) :
    Matched count after last ∧ last.engine.tracks = backend.engine.tracks := by
  obtain ⟨present, tracks⟩ := served.tracks leaves matched.present
  rw [placed_plain plain, List.append_nil] at tracks
  refine ⟨⟨present, tracks ▸ matched.size, tracks ▸ matched.distinct, ?_, ?_⟩, tracks⟩
  · rw [handles, tracks]
    exact matched.held
  · rw [msid, tracks]
    exact matched.recorded

/-- What a track is described as can be written, and tells what was agreed. -/
theorem describe_trackInit {engine : Engine} (fit : Answerable engine.answers)
    (among : offered ∈ offeredTracks) (msid : String) (index : Nat) (source : UInt32) :
    ∃ media, (engine.negotiated (trackInit msid offered index source)).describe = media ∧ Sdp.Writable media ∧
      Tells (agreed engine.answers offered index) index media := by
  refine ⟨_, rfl, ?_⟩
  rw [negotiated_trackInit]
  exact ⟨Sdp.writable_describe (isFormat_agreed fit among) (Sdp.isLine_numeral index), rfl, rfl, rfl, rfl⟩

/-- A player of which the first streams play as was agreed. -/
structure Listening (count : Nat) (player : Player) (backend : Backend) : Prop
    extends Matched offeredTracks.length player backend where
  streams : player.streams.length = count
  plays : ∀ {index : Nat} {offered : OfferedTrack}, index < count → offeredTracks[index]? = some offered →
    ∃ media reader, Plays player backend (agreed backend.engine.answers offered index) index offered media reader

/-- What was played stays so while further readers are opened. -/
theorem Plays.later {agreed : Answered} {media : Sdp.MediaDescription} {reader : Reader}
    (plays : Plays player backend agreed index offered media reader)
    (msid : after.context.msid = player.context.msid)
    (track : after.context.registry.tracks[index]? = player.context.registry.tracks[index]?)
    (streams : player.streams <+: after.streams) (tracks : last.engine.tracks = backend.engine.tracks)
    (answers : last.engine.answers = backend.engine.answers)
    (readers : backend.rtp.readers <+: last.rtp.readers) :
    Plays after last agreed index offered media reader where
  recorded := by
    obtain ⟨handle, source, description, recorded, described, read⟩ := plays.recorded
    refine ⟨handle, source, description, ?_, ?_, read⟩
    · rw [msid, tracks]
      exact recorded
    · rw [Engine.trackDescription_congr tracks answers]
      exact described
  tells := plays.tells
  opened := by rw [track]; exact plays.opened
  record := by
    obtain ⟨more, same⟩ := readers
    rw [← same, List.getElem?_append_left (List.getElem?_eq_some_iff.1 plays.record).1]
    exact plays.record
  stream := by
    obtain ⟨more, same⟩ := streams
    rw [← same, List.getElem?_append_left (List.getElem?_eq_some_iff.1 plays.stream).1]
    exact plays.stream

/-- A track holds the handle of the one that the engine has for it. -/
theorem Matched.lookup (matched : Matched count player backend) {track : Track} {handle : Handle}
    (found : player.context.registry.tracks[index]? = some track) (held : track.handle = some handle)
    (within : index < count) (known : offeredTracks[index]? = some offered) :
    ∃ source, backend.engine.tracks[index]? = some (handle, trackInit player.context.msid offered index source) ∧
      backend.engine.tracks.lookup handle = some (trackInit player.context.msid offered index source) := by
  obtain ⟨other, source, recorded⟩ := matched.recorded within known
  have place := matched.held recorded
  rw [Registry.handles, List.getElem?_map, found, Option.map_some, held, Option.some.injEq, Option.some.injEq]
    at place
  subst place
  exact ⟨source, recorded, lookup_of_distinct matched.distinct (List.mem_of_getElem? recorded)⟩

/-- The calls that open a reader leave the tracks and ask for none. -/
theorem Hears.aside (hears : Hears player index events after) :
    AllOf Call.leavesTracks events ∧ AllOf Call.isPlain events := by
  cases hears with
  | opened found held read relayed =>
    constructor
    · exact (AllOf.single rfl _).append ((AllOf.single rfl _).append (relayed.weaken leavesTracks_of_relayed))
    · exact (AllOf.single rfl _).append ((AllOf.single rfl _).append (relayed.weaken plain_of_relayed))

/-- A reader that is opened adds a stream and changes its own track, which keeps its handle. -/
theorem Hears.keeps (hears : Hears player index events after) :
    after.context.msid = player.context.msid ∧
      after.context.registry.handles = player.context.registry.handles ∧
      (∃ params, after.streams = player.streams ++ [params]) ∧
      ∀ other, other ≠ index →
        after.context.registry.tracks[other]? = player.context.registry.tracks[other]? := by
  cases hears with
  | opened found held read relayed told stays voiced context streams =>
    rw [context]
    exact ⟨rfl, Context.handles_setTrack found stays, ⟨_, streams⟩,
      fun other apart => Context.getElem?_setTrack_ne apart.symm⟩

/-- The reader of the next stream is opened for what was agreed. -/
theorem Hears.plays (hears : Hears player index events after)
    (matched : Matched offeredTracks.length player backend) (fit : Answerable backend.engine.answers)
    (known : offeredTracks[index]? = some offered) (streamed : player.streams.length = index)
    (served : backend.Serves events last) :
    ∃ media reader, Plays after last (agreed backend.engine.answers offered index) index offered media reader := by
  obtain ⟨leaves, plain⟩ := hears.aside
  obtain ⟨msid, handles, -, -⟩ := hears.keeps
  obtain ⟨-, tracks⟩ := matched.beside handles msid served leaves plain
  have answers := served.answers
  cases hears with
  | @opened track changed handle description media transport relay played reader _ found held read relayed
      told stays voiced context streams =>
    have within := (List.getElem?_eq_some_iff.1 known).1
    obtain ⟨source, recorded, listed⟩ := matched.lookup found held within known
    obtain ⟨spoken, described, writable, tells⟩ :=
      describe_trackInit fit (List.mem_of_getElem? known) player.context.msid index source
    cases served with
    | cons asked served =>
      obtain ⟨rfl, answered⟩ := asked.described
      cases served with
      | cons opening rest =>
        obtain ⟨other, rfl, params, record⟩ := opening.reader
        -- In memory the layer opens its reader at once, and the engine tells what was negotiated.
        obtain rfl : other = reader := Option.some.inj (told fresh_nil)
        obtain ⟨init, same, rfl⟩ := Engine.trackDescription_ok.1 answered
        cases listed.symm.trans same
        have text := read
        rw [described, String.toList_ofList, Sdp.MediaDescription.parse_render writable] at text
        obtain rfl := Except.ok.inj text
        refine ⟨spoken, other, ⟨⟨handle, source, _, ?_, ?_, read⟩, tells, ?_, ?_, ?_⟩⟩
        · rw [msid, tracks]
          exact recorded
        · rw [Engine.trackDescription_congr tracks answers]
          exact answered
        · rw [context, Context.getElem?_setTrack found]
          simp [Track.reader?, voiced]
        · obtain ⟨more, whole⟩ := rest.readers
          rw [← whole, List.getElem?_append_left (List.getElem?_eq_some_iff.1 record).1, record,
            tells.payloadType, tells.codec, tells.fmtp]
        · rw [streams, ← streamed, List.getElem?_concat_length, params]

theorem Listening.next (listening : Listening count player backend) (fit : Answerable backend.engine.answers)
    (known : offeredTracks[count]? = some offered) (hears : Hears player count events after)
    (served : backend.Serves events last) : Listening (count + 1) after last := by
  obtain ⟨leaves, plain⟩ := hears.aside
  obtain ⟨msid, handles, ⟨params, streams⟩, apart⟩ := hears.keeps
  obtain ⟨matched, tracks⟩ := listening.toMatched.beside handles msid served leaves plain
  refine { matched with streams := ?_, plays := fun {index offer} within given => ?_ }
  · rw [streams, List.length_append, listening.streams]
    rfl
  · rw [served.answers]
    by_cases newest : index = count
    · subst newest
      exact hears.plays listening.toMatched fit given listening.streams served
    · obtain ⟨media, earlier, plays⟩ := listening.plays (by omega) given
      exact ⟨media, earlier, plays.later msid (apart index newest) ⟨_, streams.symm⟩ tracks served.answers
        served.readers⟩

/-- Readers are opened for one stream after the other. -/
theorem listening_of_opens {more : Nat} (listening : Listening count player backend)
    (fit : Answerable backend.engine.answers) (within : count + more ≤ offeredTracks.length)
    (run : ((List.range' count more).forM openReader).Runs player events (.ok ()) after)
    (served : backend.Serves events last) : Listening (count + more) after last := by
  induction more generalizing count player backend events with
  | zero =>
    obtain ⟨rfl, -, rfl⟩ := Act.runs_pure.1 run
    cases served
    exact listening
  | succ more ih =>
    obtain ⟨_, _, _, _, rfl, opens, onward⟩ := Act.runs_bind_ok run
    obtain ⟨_, early, late⟩ := Backend.serves_append.1 served
    have known : offeredTracks[count]? = some offeredTracks[count] := List.getElem?_eq_getElem (by omega)
    have next := listening.next fit known (openReader_ok opens) early
    have all := ih next (early.answers ▸ fit) (by omega) onward late
    rwa [Nat.add_right_comm, Nat.add_assoc] at all

theorem streams_onContext {α : Type} {act : Act Context α} {outcome : Except Error α}
    (run : (onContext act).Runs player events outcome after) : after.streams = player.streams := by
  obtain ⟨_, rfl, -⟩ := Act.runs_within.1 run
  rfl

/-- A setup that succeeds over the engine and the layer in memory. -/
theorem listening_of_setup {config : ClientConfig} {beginning : List Event} {context : Context}
    (begins : Context.Begins config offeredTracks.length beginning context)
    (run : setup.Runs ⟨context, [], 0⟩ events (.ok ()) player)
    (served : backend.Serves (beginning ++ events) last) (fit : Answerable backend.engine.answers) :
    Listening offeredTracks.length player last := by
  obtain ⟨start, begun, setting⟩ := Backend.serves_append.1 served
  obtain ⟨present, none⟩ := begun.bare begins
  obtain ⟨_, _, half, _, rfl, offers, offered⟩ := Act.runs_bind_ok run
  obtain ⟨_, _, created, _, rfl, creates, onward⟩ := Act.runs_bind_ok offered
  obtain ⟨_, _, connected, _, rfl, waits, opens⟩ := Act.runs_bind_ok onward
  obtain ⟨_, offering, setting⟩ := Backend.serves_append.1 setting
  obtain ⟨_, exchanging, setting⟩ := Backend.serves_append.1 setting
  obtain ⟨_, waiting, opening⟩ := Backend.serves_append.1 setting
  have bare : Offering start.engine.lastTrack 0 ⟨context, [], 0⟩ start :=
    ⟨⟨present, by rw [none]; rfl, by simp [none], by simp [none], nofun⟩, (UInt32.add_zero _).symm,
      by simp [none], rfl⟩
  have all := offering_of_offers bare rfl offers offering
  rw [Nat.zero_add] at all
  obtain ⟨exchange, exchanged, course⟩ := Context.createResource_ok (runs_onContext creates)
  obtain ⟨time, timed⟩ := Context.waitConnected_ok (runs_onContext waits)
  have posting := course.exchanging
  have polling := (Context.waitConnected_waits (runs_onContext waits)).1.ofKind
  have matched := (all.toMatched.beside (by rw [exchanged]) (by rw [exchanged]) exchanging
    (posting.weaken leavesTracks_of_exchanging) (posting.weaken plain_of_exchanging)).1
  have matched := (matched.beside (by rw [timed]) (by rw [timed]) waiting
    (polling.weaken leavesTracks_of_waiting) (polling.weaken plain_of_waiting)).1
  have silent : connected.streams = [] :=
    (streams_onContext waits).trans ((streams_onContext creates).trans all.silent)
  -- From here on only readers are opened, one after the other, under the answers there were before.
  have kept := waiting.answers.trans (exchanging.answers.trans (offering.answers.trans begun.answers))
  rw [List.range_eq_range'] at opens
  have listening : Listening 0 connected _ := ⟨matched, by rw [silent]; rfl, nofun⟩
  have whole := listening_of_opens listening (kept ▸ fit) (Nat.zero_add _).le opens opening
  rwa [Nat.zero_add] at whole

/-- A description that can be written, and is not too large, is read. -/
theorem runs_described {α : Type} {outcome : Except Error α} {next : Sdp.MediaDescription → Act Player α}
    {media : Sdp.MediaDescription} (writable : Sdp.Writable media)
    (small : Sdp.checkSize (String.ofList media.render).utf8ByteSize = .ok ())
    (run : (next media).Runs player events outcome after) :
    (do
      Act.settle ((Sdp.checkSize (String.ofList media.render).utf8ByteSize).mapError Error.signaling)
      let media ← Act.settle ((Sdp.MediaDescription.parse (String.ofList media.render).toList).mapError fun cause =>
        .signaling (.malformed cause.message))
      next media : Act Player α).Runs player events outcome after := by
  rw [small, String.toList_ofList, Sdp.MediaDescription.parse_render writable]
  exact run

/-! An opening over the engine and the layer in memory that succeeds: the video is answered with another codec,
and the audio is not answered. -/

namespace Revised

def engine : Engine := Engine.empty.answerTrack "0" ⟨.vp8, 100, none⟩

def videoTrack : OfferedTrack := offeredTracks.get ⟨0, Nat.two_pos⟩

def audioTrack : OfferedTrack := offeredTracks.get ⟨1, Nat.one_lt_two⟩

def videoInit : TrackInit := trackInit (Text.uuid 0) videoTrack 0 0

def audioInit : TrackInit := trackInit (Text.uuid 0) audioTrack 1 0

def video : Sdp.MediaDescription := (engine.negotiated videoInit).describe

def audio : Sdp.MediaDescription := (engine.negotiated audioInit).describe

def offer : String := Rehearsal.offer [videoInit, audioInit]

def adding : List Event :=
  Client.Unanswered.added 0 videoTrack Client.Unanswered.video ++
    Client.Unanswered.added 1 audioTrack Client.Unanswered.audio

def posting (offer : String) : List Event :=
  [⟨.host .isCancelled, false⟩,
    ⟨.http ((Exchange.start Exchange.atHome none).offerTo (Text.utf8 offer) Exchange.atHome),
      ⟨[], .ok ⟨201, none, Text.utf8 "v=0"⟩⟩⟩,
    ⟨.engine (.setRemote .answer "v=0"), .ok ()⟩]

def held (index : Nat) (handle : Handle) : Track := { Track.fresh index with handle := some handle }

theorem offer_small : Sdp.checkSize offer.utf8ByteSize = .ok () := by
  rw [offer, Rehearsal.offer, Text.utf8ByteSize_ofList]
  decide +kernel

theorem answerable : Answerable engine.answers := by
  intro answered member fmtp stated
  obtain rfl := List.mem_singleton.1 member
  cases stated

theorem descriptions_small : ∀ media ∈ [video, audio],
    Sdp.checkSize (String.ofList media.render).utf8ByteSize = .ok () := by
  simp only [Text.utf8ByteSize_ofList]
  decide +kernel

theorem known_video : offeredTracks[0]? = some videoTrack := rfl

theorem known_audio : offeredTracks[1]? = some audioTrack := rfl

/-- What is in memory once the player has opened. -/
def left : Backend where
  engine := { engine with
    peers := [⟨true, [(Client.Unanswered.video, videoInit), (Client.Unanswered.audio, audioInit)], [], [],
      some offer, false⟩]
    lastTrack := 2
    tracksAdded := 2 }
  rtp := ⟨[], [⟨100, .vp8, none⟩, ⟨97, .opus, some audioTrack.profile⟩], 2⟩

/-! However long a read may take, the opening is the same. -/

namespace Lasting

section

variable (rwTimeout : Nat)

def setting : ClientConfig := { Client.Unanswered.setting with rwTimeout := rwTimeout }

def hearing (index : Nat) (handle : Handle) (media : Sdp.MediaDescription) : List Event :=
  [⟨.engine (.trackDescription handle), .ok (String.ofList media.render)⟩,
    ⟨.layer (.openReader media ⟨rwTimeout, maxPacketSize⟩), .done (.ok ⟨index, media.streamParams⟩)⟩]

def opening : List Event :=
  Client.Unanswered.beginning ++ (adding ++ ((Exchange.offering offer ++ posting offer) ++
    (Publisher.Broadcast.waiting ++
      (hearing rwTimeout 0 Client.Unanswered.video video ++ hearing rwTimeout 1 Client.Unanswered.audio audio))))

def heard (index : Nat) (handle : Handle) (media : Sdp.MediaDescription) : Track where
  index := index
  handle := some handle
  binding := some ⟨index, rwTimeout, some handle⟩
  codec := some (.reader ⟨index, media.streamParams⟩)
  params := some media.streamParams
  counters := .zero

def start : Player := ⟨{ Publisher.Broadcast.start.context with config := setting rwTimeout }, [], 0⟩

/-- A player with these tracks that has opened readers for these streams. -/
def stage (tracks : List Track) (time : Option Nat) (streams : List StreamParams) : Player where
  context := { (start rwTimeout).context with registry := ⟨tracks⟩, timeToConnect := time }
  streams := streams
  next := 0

def half (time : Option Nat) : Player :=
  stage rwTimeout [held 0 Client.Unanswered.video, held 1 Client.Unanswered.audio] time []

def watching : Player :=
  stage rwTimeout [heard rwTimeout 0 Client.Unanswered.video video, held 1 Client.Unanswered.audio] (some 0)
    [video.streamParams]

def session : Player :=
  stage rwTimeout [heard rwTimeout 0 Client.Unanswered.video video, heard rwTimeout 1 Client.Unanswered.audio audio]
    (some 0) [video.streamParams, audio.streamParams]

theorem serves : (⟨engine, .empty⟩ : Backend).Serves (opening rwTimeout) left :=
  .cons (.host _ _) (.cons (.engine _) (.cons (.engine _) (.cons (.host _ _) (.cons (.host _ _)
    (.cons (.host _ _) (.cons (.engine _) (.cons (.host _ _) (.cons (.engine _)
      (.cons (.engine _) (.cons (.engine _) (.cons (.host _ _) (.cons (.http _ _) (.cons (.engine _)
        (.cons (.host _ _) (.cons (.host _ _) (.cons (.host _ _)
          (.cons (.engine _) (.cons (.layer _) (.cons (.engine _)
            (.cons (.layer _) (.nil _)))))))))))))))))))))

end

variable {rwTimeout : Nat}

theorem adds : (offeredTracks.zipIdx.forM fun (track, index) => offerTrack track index).Runs (start rwTimeout) adding
    (.ok ()) (half rwTimeout none) :=
  .call _ _ _ (.call _ _ _ (.call _ _ _ (.call _ _ _ (.done _))))

theorem creates : (onContext Context.createResource).Runs (half rwTimeout none)
    (Exchange.offering offer ++ posting offer) (.ok ()) (half rwTimeout none) := by
  refine Act.runs_within.2 ⟨(half rwTimeout none).context, rfl, ?_⟩
  refine Act.runs_bind.2 (.inr ⟨[], (), (half rwTimeout none).context, _, rfl, .done _, ?_⟩)
  refine Act.runs_within.2 ⟨(half rwTimeout none).context.exchange, rfl, Exchange.runs_offering rfl offer_small ?_⟩
  exact .call _ _ _ (.call _ _ _ (.call _ _ _ (.done _)))

theorem connects : (onContext Context.waitConnected).Runs (half rwTimeout none) Publisher.Broadcast.waiting (.ok ())
    (half rwTimeout (some 0)) := by
  have told : 1 < Wait.clockEnd := by decide
  refine Act.runs_within.2 ⟨(half rwTimeout (some 0)).context, rfl, ?_⟩
  refine Act.runs_get_bind.2 (Act.runs_bind.2 (.inr ⟨_, (), _, _, rfl, Publisher.Broadcast.waits told, ?_⟩))
  exact .call _ _ _ (.done _)

theorem hears_video : (openReader 0).Runs (half rwTimeout (some 0))
    (hearing rwTimeout 0 Client.Unanswered.video video) (.ok ()) (watching rwTimeout) := by
  obtain ⟨_, rfl, writable, -⟩ :=
    describe_trackInit answerable (List.mem_of_getElem? known_video) (Text.uuid 0) 0 0
  refine Act.runs_bind.2 (.inr ⟨[_], _, half rwTimeout (some 0), [_], rfl, .call _ _ _ (.done _), ?_⟩)
  refine runs_described writable (descriptions_small video (by simp)) ?_
  exact .call _ _ _ (.done _)

theorem hears_audio : (openReader 1).Runs (watching rwTimeout) (hearing rwTimeout 1 Client.Unanswered.audio audio)
    (.ok ()) (session rwTimeout) := by
  obtain ⟨_, rfl, writable, -⟩ :=
    describe_trackInit answerable (List.mem_of_getElem? known_audio) (Text.uuid 0) 1 0
  refine Act.runs_bind.2 (.inr ⟨[_], _, watching rwTimeout, [_], rfl, .call _ _ _ (.done _), ?_⟩)
  refine runs_described writable (descriptions_small audio (by simp)) ?_
  exact .call _ _ _ (.done _)

/-- Whatever is described, the setup comes to it in the same way. -/
theorem sets_hearing {first second : List Event} {middle last : Player}
    (one : (openReader 0).Runs (half rwTimeout (some 0)) first (.ok ()) middle)
    (two : (openReader 1).Runs middle second (.ok ()) last) :
    setup.Runs (start rwTimeout) (adding ++ ((Exchange.offering offer ++ posting offer) ++
      (Publisher.Broadcast.waiting ++ (first ++ second)))) (.ok ()) last := by
  refine Act.runs_bind.2 (.inr ⟨_, (), half rwTimeout none, _, rfl, adds, ?_⟩)
  refine Act.runs_bind.2 (.inr ⟨_, (), half rwTimeout none, _, rfl, creates, ?_⟩)
  refine Act.runs_bind.2 (.inr ⟨_, (), half rwTimeout (some 0), _, rfl, connects, ?_⟩)
  refine Act.runs_bind.2 (.inr ⟨_, (), middle, _, rfl, one, ?_⟩)
  exact Act.runs_bind.2 (.inr ⟨_, (), last, [], (List.append_nil _).symm, two, .done _⟩)

theorem runs_sets {events : List Event} {last : Player} (lasts : rwTimeout ≠ 0)
    (sets : setup.Runs (start rwTimeout) events (.ok ()) last) :
    (openSession (setting rwTimeout)).Runs () (Client.Unanswered.beginning ++ events) (.ok last) () := by
  have fit : (setting rwTimeout).validate = .ok Exchange.atHome :=
    Wait.validate_timeouts Client.Unanswered.validate_setting Nat.one_ne_zero lasts
  refine Act.runs_bind.2 (.inr ⟨Client.Unanswered.beginning, _, (), _, rfl,
    (Context.Begins.begun fit 0 Client.Unanswered.outset).runs, ?_⟩)
  exact Script.yields_bind_iff.2 ⟨_, _, [], (List.append_nil _).symm, sets, .done _⟩

theorem runs (lasts : rwTimeout ≠ 0) :
    (openSession (setting rwTimeout)).Runs () (opening rwTimeout) (.ok (session rwTimeout)) () :=
  runs_sets lasts (sets_hearing hears_video hears_audio)

end Lasting

def hearing (index : Nat) (handle : Handle) (media : Sdp.MediaDescription) : List Event :=
  Lasting.hearing 1 index handle media

def opening : List Event := Lasting.opening 1

theorem serves : (⟨engine, .empty⟩ : Backend).Serves opening left := Lasting.serves 1

def heard (index : Nat) (handle : Handle) (media : Sdp.MediaDescription) : Track := Lasting.heard 1 index handle media

def stage (tracks : List Track) (time : Option Nat) (streams : List StreamParams) : Player :=
  Lasting.stage 1 tracks time streams

def half (time : Option Nat) : Player := Lasting.half 1 time

def session : Player := Lasting.session 1

theorem runs : (openSession Client.Unanswered.setting).Runs () opening (.ok session) () :=
  Lasting.runs Nat.one_ne_zero

end Revised

/-- A player that has opened over the engine and the layer in memory plays each stream as it was answered, or
as it was offered where nothing was answered. -/
theorem openSession_reads_negotiated {config : ClientConfig}
    (run : (openSession config).Runs () events (.ok player) ()) (served : backend.Serves events last)
    (fit : Answerable backend.engine.answers) :
    player.streams.length = offeredTracks.length ∧
      ∀ {index : Nat} {offered : OfferedTrack}, offeredTracks[index]? = some offered →
        ∃ media reader,
          Plays player last (agreed backend.engine.answers offered index) index offered media reader := by
  have opens := Client.opens_of_player run
  generalize same : (Except.ok player).map Client.player = outcome at opens
  cases opens with
  | unfit | unbegun | unopened => cases same
  | opened checked begins sets =>
    cases same
    cases sets with
    | egress setting =>
      have listening := listening_of_setup begins setting served fit
      refine ⟨listening.streams, fun {index offered} known => ?_⟩
      have plays := listening.plays (List.getElem?_eq_some_iff.1 known).1 known
      rwa [served.answers] at plays

theorem openSession_reads_negotiated_revised :
    ∃ last, (⟨Revised.engine, .empty⟩ : Backend).Serves Revised.opening last ∧
      (∃ media reader, Plays Revised.session last ⟨.vp8, 100, none⟩ 0 Revised.videoTrack media reader) ∧
        ∃ media reader,
          Plays Revised.session last ⟨.opus, 97, some Revised.audioTrack.profile⟩ 1 Revised.audioTrack media reader := by
  obtain ⟨-, plays⟩ := openSession_reads_negotiated Revised.runs Revised.serves Revised.answerable
  have video : agreed Revised.engine.answers Revised.videoTrack 0 = ⟨.vp8, 100, none⟩ := by decide +kernel
  have audio : agreed Revised.engine.answers Revised.audioTrack 1 =
      ⟨.opus, 97, some Revised.audioTrack.profile⟩ := by decide +kernel
  exact ⟨_, Revised.serves, video ▸ plays Revised.known_video, audio ▸ plays Revised.known_audio⟩

end Player
end WhipWhep
