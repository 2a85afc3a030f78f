import WhipWhep.Proofs.InMemory.Playing
import WhipWhep.Proofs.Session.Sizes

/-!
The kinds of the streams that a player opens. It offers video first and then audio, but what it plays is what the
engine describes of the two tracks, of whatever kind that is: nothing holds the one against the other.
-/

namespace WhipWhep

open InMemory

variable {events more : List Event}

/-- What is told of a track, if it can be read. -/
def Event.told? : Event → Option Sdp.MediaDescription
  | ⟨.engine (.trackDescription _), .ok description⟩ => (Sdp.MediaDescription.parse description.toList).toOption
  | _ => none

/-- What is told of the tracks, in order. -/
def told (events : List Event) : List Sdp.MediaDescription := events.filterMap Event.told?

theorem told_append : told (events ++ more) = told events ++ told more := List.filterMap_append

theorem told_of_unread (unread : AllOf Call.isUnread events) : told events = [] := by
  refine List.filterMap_eq_nil_iff.2 fun event member => ?_
  have kind := unread event member
  unfold Event.told?
  split
  · cases kind
  · rfl

/-- A stream of one kind, by what it is declared and by its codec. -/
structure StreamParams.IsOf (kind : MediaKind) (params : StreamParams) : Prop where
  declared : params.kind = kind
  carried : params.codec.kind = kind

structure Sdp.MediaDescription.IsOf (kind : MediaKind) (media : Sdp.MediaDescription) : Prop where
  declared : media.kind = kind
  carried : media.codec.kind = kind

theorem Sdp.MediaDescription.isOf_streamParams {kind : MediaKind} {media : Sdp.MediaDescription} :
    media.streamParams.IsOf kind ↔ media.IsOf kind := by
  have same : media.streamParams.kind = media.kind ∧ media.streamParams.codec = media.codec := by
    unfold streamParams
    cases declared : media.kind <;> exact ⟨rfl, rfl⟩
  constructor
  · rintro ⟨declared, carried⟩
    exact ⟨same.1 ▸ declared, same.2 ▸ carried⟩
  · rintro ⟨declared, carried⟩
    exact ⟨same.1.trans declared, same.2 ▸ carried⟩

namespace Player

variable {player after : Player} {index count : Nat}

/-- What a player promises of its streams. -/
structure Promised (streams : List StreamParams) : Prop where
  two : streams.length = 2
  video : ∀ params, streams[videoStream]? = some params → params.IsOf .video
  audio : ∀ params, streams[audioStream]? = some params → params.IsOf .audio

theorem promised_pair {first second : StreamParams} :
    Promised [first, second] ↔ first.IsOf .video ∧ second.IsOf .audio := by
  constructor
  · exact fun promised => ⟨promised.video first rfl, promised.audio second rfl⟩
  · rintro ⟨video, audio⟩
    refine ⟨rfl, fun params found => ?_, fun params found => ?_⟩
    · cases found
      exact video
    · cases found
      exact audio

/-- The layer in memory opens a reader for what is told, whatever that is. -/
theorem openReader_told (run : (openReader index).Runs player events (.ok ()) after)
    (layered : ∀ event ∈ events, event.IsLayered) :
    ∃ media, told events = [media] ∧ after.streams = player.streams ++ [media.streamParams] := by
  cases openReader_ok run with
  | @opened _ _ handle description media transport relay played reader _ found held read relayed opens stays voiced
      context streams =>
    refine ⟨media, ?_, ?_⟩
    · have quiet := told_of_unread (relayed.weaken unread_of_relayed)
      have here : Event.told? ⟨.engine (.trackDescription handle), .ok description⟩ = some media := by
        rw [Event.told?, read]
        rfl
      rw [told, List.filterMap_cons, here, List.filterMap_cons]
      exact congrArg (media :: ·) quiet
    · obtain ⟨rtp, rfl⟩ : ∃ rtp : Rtp, relay = (rtp.respond (.openReader media transport)).1 :=
        layered ⟨.layer (.openReader media transport), relay⟩ (by simp)
      obtain rfl := Option.some.inj (opens fresh_nil)
      exact streams

theorem openReaders_told {left : Nat}
    (run : ((List.range' count left).forM openReader).Runs player events (.ok ()) after)
    (layered : ∀ event ∈ events, event.IsLayered) :
    (told events).length = left ∧
      after.streams = player.streams ++ (told events).map Sdp.MediaDescription.streamParams := by
  induction left generalizing count player events with
  | zero =>
    obtain ⟨rfl, -, rfl⟩ := Act.runs_pure.1 run
    exact ⟨rfl, (List.append_nil _).symm⟩
  | succ left ih =>
    obtain ⟨_, _, _, _, rfl, opens, onward⟩ := Act.runs_bind_ok run
    obtain ⟨here, later⟩ := List.forall_mem_append.1 layered
    obtain ⟨media, one, grown⟩ := openReader_told opens here
    obtain ⟨size, all⟩ := ih onward later
    rw [told_append, one, all, grown]
    exact ⟨by simp [size], by simp⟩

/-- Nothing is told before the connection stands, and then one description of each track. -/
theorem setup_told (silent : player.streams = []) (run : setup.Runs player events (.ok ()) after)
    (layered : ∀ event ∈ events, event.IsLayered) :
    (told events).length = offeredTracks.length ∧
      after.streams = (told events).map Sdp.MediaDescription.streamParams := by
  obtain ⟨_, _, _, _, rfl, offers, offered⟩ := Act.runs_bind_ok run
  obtain ⟨_, _, _, _, rfl, creates, created⟩ := Act.runs_bind_ok offered
  obtain ⟨_, _, _, _, rfl, waits, opens⟩ := Act.runs_bind_ok created
  have offering : told _ = [] := told_of_unread <|
    Act.keeps_forM (Act.composes_ofKind _)
      (fun _ _ _ _ _ _ run => AllOf.weaken (offerTrack_adds run).1.ofKind unread_of_preparing) _ _ _ offers
  have creating : told _ = [] := told_of_unread (Context.unread_createResource _ _ _ (runs_onContext creates))
  have waiting : told _ = [] := told_of_unread (Context.unread_waitConnected _ _ _ (runs_onContext waits))
  have unheard := Act.forM_ok (fun player => player.streams = [])
    (fun none offering => by
      obtain ⟨_, _, _, -, -, rfl⟩ := offerTrack_ok offering
      exact none) silent offers
  have still : _ = [] := (streams_onContext waits).trans ((streams_onContext creates).trans unheard)
  rw [List.range_eq_range'] at opens
  have reading := (List.forall_mem_append.1 (List.forall_mem_append.1 (List.forall_mem_append.1 layered).2).2).2
  obtain ⟨size, all⟩ := openReaders_told opens reading
  rw [told_append, told_append, told_append, offering, creating, waiting]
  rw [still] at all
  exact ⟨size, all⟩

/-- A player that has opened over the RTP layer in memory has two streams, those that the engine has described.
They are what is promised exactly if the first description is of video and the second one of audio. -/
theorem openSession_kinds {config : ClientConfig} (run : (openSession config).Runs () events (.ok player) ())
    (layered : ∀ event ∈ events, event.IsLayered) :
    ∃ first second, told events = [first, second] ∧ player.streams = [first.streamParams, second.streamParams] ∧
      (Promised player.streams ↔ first.IsOf .video ∧ second.IsOf .audio) := by
  have opens := Client.opens_of_player run
  generalize same : (Except.ok player).map Client.player = outcome at opens
  cases opens with
  | unfit | unbegun | unopened => cases same
  | opened checked begins sets =>
    cases same
    cases sets with
    | egress setting =>
      have beginning : told _ = [] := told_of_unread begins.plain.2.2
      obtain ⟨size, streams⟩ := setup_told rfl setting (List.forall_mem_append.1 layered).2
      obtain ⟨first, second, pair⟩ := List.length_eq_two.1 size
      rw [pair, List.map_cons, List.map_cons, List.map_nil] at streams
      refine ⟨first, second, ?_, streams, ?_⟩
      · rw [told_append, beginning, pair]
        rfl
      · rw [streams, promised_pair, Sdp.MediaDescription.isOf_streamParams, Sdp.MediaDescription.isOf_streamParams]

/-! An opening in memory where the tracks are answered crosswise: the video with a codec of audio, and the audio with
one of video. -/

namespace Crossed

def engine : Engine := (Engine.empty.answerTrack "0" ⟨.opus, 97, none⟩).answerTrack "1" ⟨.h264, 96, none⟩

def first : Sdp.MediaDescription := (engine.negotiated Revised.videoInit).describe

def second : Sdp.MediaDescription := (engine.negotiated Revised.audioInit).describe

def opening : List Event :=
  Client.Unanswered.beginning ++ (Revised.adding ++
    ((Exchange.offering Revised.offer ++ Revised.posting Revised.offer) ++
      (Publisher.Broadcast.waiting ++ (Revised.hearing 0 Client.Unanswered.video first ++
        Revised.hearing 1 Client.Unanswered.audio second))))

def half : Player :=
  Revised.stage [Revised.heard 0 Client.Unanswered.video first, Revised.held 1 Client.Unanswered.audio] (some 0)
    [first.streamParams]

def session : Player :=
  Revised.stage [Revised.heard 0 Client.Unanswered.video first, Revised.heard 1 Client.Unanswered.audio second] (some 0)
    [first.streamParams, second.streamParams]

theorem served : ∃ last, (⟨engine, .empty⟩ : Backend).Serves opening last :=
  ⟨_, .cons (.host _ _) (.cons (.engine _) (.cons (.engine _) (.cons (.host _ _) (.cons (.host _ _)
    (.cons (.host _ _) (.cons (.engine _) (.cons (.host _ _) (.cons (.engine _)
      (.cons (.engine _) (.cons (.engine _) (.cons (.host _ _) (.cons (.http _ _) (.cons (.engine _)
        (.cons (.host _ _) (.cons (.host _ _) (.cons (.host _ _)
          (.cons (.engine _) (.cons (.layer _) (.cons (.engine _)
            (.cons (.layer _) (.nil _)))))))))))))))))))))⟩

theorem answerable : Answerable engine.answers := by
  intro answered member fmtp stated
  rcases List.mem_cons.1 member with rfl | member
  · cases stated
  · obtain rfl := List.mem_singleton.1 member
    cases stated

theorem descriptions_small : ∀ media ∈ [first, second],
    Sdp.checkSize (String.ofList media.render).utf8ByteSize = .ok () := by
  simp only [Text.utf8ByteSize_ofList]
  decide +kernel

theorem hears_first : (openReader 0).Runs (Revised.half (some 0)) (Revised.hearing 0 Client.Unanswered.video first)
    (.ok ()) half := by
  obtain ⟨_, rfl, writable, -⟩ :=
    describe_trackInit answerable (List.mem_of_getElem? Revised.known_video) (Text.uuid 0) 0 0
  refine Act.runs_bind.2 (.inr ⟨[_], _, Revised.half (some 0), [_], rfl, .call _ _ _ (.done _), ?_⟩)
  refine runs_described writable (descriptions_small first (by simp)) ?_
  exact .call _ _ _ (.done _)

theorem hears_second : (openReader 1).Runs half (Revised.hearing 1 Client.Unanswered.audio second) (.ok ())
    session := by
  obtain ⟨_, rfl, writable, -⟩ :=
    describe_trackInit answerable (List.mem_of_getElem? Revised.known_audio) (Text.uuid 0) 1 0
  refine Act.runs_bind.2 (.inr ⟨[_], _, half, [_], rfl, .call _ _ _ (.done _), ?_⟩)
  refine runs_described writable (descriptions_small second (by simp)) ?_
  exact .call _ _ _ (.done _)

theorem runs : (openSession Client.Unanswered.setting).Runs () opening (.ok session) () :=
  Revised.Lasting.runs_sets Nat.one_ne_zero (Revised.Lasting.sets_hearing hears_first hears_second)

theorem unpromised : ¬ Promised session.streams := fun promised => by
  have declared : first.streamParams.kind = .audio := by decide +kernel
  cases declared.symm.trans (promised.video first.streamParams rfl).declared

end Crossed

theorem openSession_kinds_crossed : ∃ first second,
    told Crossed.opening = [first, second] ∧
      Crossed.session.streams = [first.streamParams, second.streamParams] ∧
      (Promised Crossed.session.streams ↔ first.IsOf .video ∧ second.IsOf .audio) := by
  obtain ⟨_, served⟩ := Crossed.served
  exact openSession_kinds Crossed.runs served.layered

/-- What is promised does not always hold: the first stream is one of audio. -/
theorem openSession_breaks_promise : ∃ last, (⟨Crossed.engine, .empty⟩ : Backend).Serves Crossed.opening last ∧
    (openSession Client.Unanswered.setting).Runs () Crossed.opening (.ok Crossed.session) () ∧
    ¬ Promised Crossed.session.streams := by
  obtain ⟨last, served⟩ := Crossed.served
  exact ⟨last, served, Crossed.runs, Crossed.unpromised⟩

end Player
end WhipWhep
