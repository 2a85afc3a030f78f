import WhipWhep.Proofs.Exchange.Resource
import WhipWhep.Proofs.InMemory.Serving
import WhipWhep.Proofs.Sdp.Offer

/-!
What a publisher posts, over the engine and the RTP layer in memory. The offer has a section for each
stream, in order, and what is read back from a section is what the stream is sent as.
-/

namespace WhipWhep

variable {events : List Event} {request : HttpRequest} {progress : Progress}

/-- Events of a kind that excludes requests to the endpoint. -/
theorem not_requested_of_kind {kind : Call → Bool} (all : AllOf kind events)
    (never : kind (.http request) = false) : ⟨.http request, progress⟩ ∉ events := by
  intro made
  rw [all _ made] at never
  cases never

/-- A session that is closed posts nothing any more. -/
theorem not_posted_of_closes {context after : Context} (closes : context.Closes events after)
    (posted : request.method = .post) : ⟨.http request, progress⟩ ∉ events := by
  obtain ⟨deleting, releasing, rfl, deletes, releases⟩ := closes.course
  intro made
  rcases List.mem_append.1 made with early | late
  · cases deletes with
    | absent vacant => cases early
    | unsendable stored unfit => cases early
    | sent stored fit progress =>
      obtain ⟨rfl, -⟩ : request = _ ∧ _ := by simpa using early
      rw [(Exchange.of_request fit).1] at posted
      cases posted
  · cases releases with
    | absent closed => cases late
    | released up uses bare =>
      have releasing := (List.mem_append.1 late).resolve_right (by simp)
      exact not_requested_of_kind uses.ofKind rfl releasing

namespace InMemory.Backend

variable {backend last : Backend}

/-- The offer that the engine tells is made of the tracks that are there. -/
theorem Serves.offer {offer : String} {more : List Event}
    (served : backend.Serves (Exchange.offering offer ++ more) last) (present : backend.engine.peers ≠ []) :
    offer = Rehearsal.offer (backend.engine.tracks.map Prod.snd) := by
  cases served with
  | cons made served =>
    cases served with
    | cons told served =>
      obtain ⟨-, rfl⟩ := made.of_engine
      have same := told.of_engine.1.trans (Engine.localDescription_offer present rfl)
      exact Except.ok.inj same

/-- All that an exchange takes to the endpoint is the offer of the tracks that there were before it. -/
theorem Serves.posted {join : Exchange.Joining} {exchange after : Exchange} {outcome : Except Error Unit}
    (served : backend.Serves events last) (present : backend.engine.peers ≠ [])
    (creates : Exchange.Creates join exchange events outcome after) (made : ⟨.http request, progress⟩ ∈ events) :
    request.body = Text.utf8 (Rehearsal.offer (backend.engine.tracks.map Prod.snd)) := by
  have quiet : ∀ offer, (⟨.http request, progress⟩ : Event) ∉ Exchange.offering offer := by
    simp [Exchange.offering]
  cases creates with
  | occupied stored => cases made
  | unoffered vacant => simp at made
  | untold vacant => simp at made
  | oversized vacant large => exact absurd made (quiet _)
  | unposted vacant small posts =>
    rw [← served.offer present]
    exact (List.mem_append.1 made).elim (fun offered => absurd offered (quiet _)) posts.carries
  | posted vacant small posts settles =>
    rw [List.append_assoc] at served made
    rw [← served.offer present]
    rcases List.mem_append.1 made with offered | later
    · exact absurd offered (quiet _)
    rcases List.mem_append.1 later with posting | settled
    · exact posts.carries posting
    · cases settles <;> simp at settled

end InMemory.Backend

namespace Publisher

open InMemory

variable {config : ClientConfig} {streams : List StreamParams} {backend last : Backend}

/-- A stream that can be published is of the kind of its codec. -/
theorem kind_of_checkStreams (fit : checkStreams streams = .ok ()) :
    ∀ params ∈ streams, params.codec.kind = params.kind := by
  intro params member
  obtain ⟨index, found⟩ := List.mem_iff_getElem?.1 member
  unfold checkStreams at fit
  split at fit
  · cases fit
  have placed : (params, index) ∈ streams.zipIdx := List.mk_mem_zipIdx_iff_getElem?.2 found
  have checked : checkStream index params = .ok () := forM_eq_ok fit _ placed
  unfold checkStream at checked
  split at checked
  · cases checked
  · next same => exact not_not.1 same

/-- The stages of a setup that takes a request to the endpoint: all streams have their tracks by then. -/
theorem posts_of_setup {start after : Publisher} {outcome : Except Error Unit}
    (up : start.context.hasPeer = true) (run : setup.Runs start events outcome after)
    (made : ⟨.http request, progress⟩ ∈ events) :
    ∃ first second rest ready exchange result, events = first ++ (second ++ rest) ∧
      (start.streams.zipIdx.forM fun (params, index) => addStream params index).Runs start first (.ok ()) ready ∧
      Exchange.Creates Url.join ready.context.exchange second result exchange ∧
      ⟨.http request, progress⟩ ∈ second := by
  have adds : ∀ {events outcome after},
      (start.streams.zipIdx.forM fun (params, index) => addStream params index).Runs start events outcome after →
        Uses Call.isPreparing start events after := fun adding =>
    (added_of_each composes_uses (fun _ _ _ _ _ each => addStream_adds _ _ _ each) adding).1
  unfold setup at run
  rw [Act.runs_get_bind] at run
  rcases Act.runs_bind.1 run with ⟨_, -, failed⟩ | ⟨first, _, ready, _, rfl, added, onward⟩
  · exact absurd made (not_requested_of_kind (adds failed).ofKind rfl)
  have preparing := adds added
  have still : ready.context.hasPeer = true := preparing.peer.trans up
  have later := (List.mem_append.1 made).resolve_left (not_requested_of_kind preparing.ofKind rfl)
  rcases Act.runs_bind.1 onward with ⟨_, -, failed⟩ | ⟨second, _, _, third, rfl, created, waits⟩
  · obtain ⟨exchange, -, creates⟩ := Context.createResource_creates still (runs_onContext failed)
    exact ⟨first, _, [], ready, exchange, _, by rw [List.append_nil], added, creates, later⟩
  · obtain ⟨exchange, -, creates⟩ := Context.createResource_creates still (runs_onContext created)
    have waiting := (Context.waitConnected_waits (runs_onContext waits)).1
    have posted := (List.mem_append.1 later).resolve_right (not_requested_of_kind waiting.ofKind rfl)
    exact ⟨first, second, third, ready, exchange, _, rfl, added, creates, posted⟩

/-- What a description says of the stream at an index. -/
structure Offers (params : StreamParams) (index : Nat) (media : Sdp.MediaDescription) : Prop where
  kind : media.kind = params.kind
  codec : media.codec = params.codec
  payloadType : media.payloadType = params.codec.payloadType index
  mid : media.mid = some (numeral index)
  direction : media.direction = some .sendOnly
  format : ∃ format, Sdp.advertisedFormat params media.payloadType = .ok format ∧
    media.fmtp = format.map String.ofList

/-- A text that offers the streams, each in a section of its own. -/
structure OffersAll (streams : List StreamParams) (offer : List Char) : Prop where
  sections : (Sdp.mediaSections offer).length = streams.length
  each : ∀ {index : Nat} {params : StreamParams}, streams[index]? = some params →
    ∃ part media, (Sdp.mediaSections offer)[index]? = some part ∧ Sdp.MediaDescription.parse part = .ok media ∧
      Offers params index media

theorem codec_of_ofCodec? {codec : Codec} {carried : EngineCodec}
    (known : EngineCodec.ofCodec? codec = some carried) : carried.codec = codec := by
  cases codec <;> cases known <;> rfl

/-- Only the time base of a stream changes when it is published, and the offer does not tell it. -/
theorem advertisedFormat_published (line : Line) (payloadType : UInt8) :
    Sdp.advertisedFormat line.published payloadType = Sdp.advertisedFormat line.params payloadType := rfl

/-- The track of a line is described as the stream is. -/
theorem offers_announced {line : Line} {index : Nat} (msid : String) (suits : line.Suits)
    (kind : line.params.codec.kind = line.params.kind)
    (payloadType : line.writer.payloadType = line.params.codec.payloadType index) :
    Sdp.Writable (line.announced msid index).describe ∧
      Offers line.params index (line.announced msid index).describe := by
  have codec := codec_of_ofCodec? suits.codec
  obtain ⟨format, told, profile⟩ := suits.profile
  rw [advertisedFormat_published] at told
  constructor
  · refine Sdp.writable_describe (fun stated given => ?_) (Sdp.isLine_numeral index)
    obtain ⟨text, rfl, rfl⟩ := Option.map_eq_some_iff.1 (profile.symm.trans given)
    rw [String.toList_ofList]
    exact Sdp.isFormat_of_advertised told
  · exact ⟨(congrArg Codec.kind codec).trans kind, codec, payloadType, rfl, rfl, format, told, profile⟩

/-- Tracks that are described as the streams are make an offer of the streams. -/
theorem offersAll_of_tracks {tracks : List TrackInit} (size : tracks.length = streams.length)
    (describes : ∀ {index : Nat} {params : StreamParams}, streams[index]? = some params →
      ∃ init, tracks[index]? = some init ∧ Sdp.Writable init.describe ∧ Offers params index init.describe) :
    OffersAll streams (Rehearsal.offer tracks).toList := by
  have writable : ∀ init ∈ tracks, Sdp.Writable init.describe := by
    intro init member
    obtain ⟨index, found⟩ := List.mem_iff_getElem?.1 member
    obtain ⟨within, -⟩ := List.getElem?_eq_some_iff.1 found
    obtain ⟨other, same, writes, -⟩ := describes (List.getElem?_eq_getElem (size ▸ within))
    cases found.symm.trans same
    exact writes
  have parts := Sdp.mediaSections_offer writable
  refine ⟨by rw [parts, List.length_map, size], fun {index params} given => ?_⟩
  obtain ⟨init, found, writes, offers⟩ := describes given
  exact ⟨init.describe.render, init.describe, by rw [parts, List.getElem?_map, found]; rfl,
    Sdp.MediaDescription.parse_render writes, offers⟩

/-- The tracks that are there when all streams have theirs. -/
theorem offersAll_of_added {start ready : Publisher} (strung : Strung [] streams start)
    (kinds : ∀ params ∈ streams, params.codec.kind = params.kind)
    (added : (streams.zipIdx.forM fun (params, index) => addStream params index).Runs start events (.ok ()) ready)
    (served : backend.Serves events last) (present : backend.engine.peers ≠ [])
    (none : backend.engine.tracks = []) :
    last.engine.peers ≠ [] ∧ OffersAll streams (Rehearsal.offer (last.engine.tracks.map Prod.snd)).toList := by
  have preparing : Uses Call.isPreparing start events ready :=
    (added_of_each composes_uses (fun _ _ _ _ _ each => addStream_adds _ _ _ each) added).1
  obtain ⟨still, tracks⟩ := served.tracks (preparing.ofKind.weaken leavesTracks_of_preparing) present
  obtain ⟨lines, params, suit, -, -, logs⟩ := addStreams_ok strung added
  have named : last.engine.tracks.map Prod.snd =
      lines.zipIdx.map fun place => place.1.announced start.context.msid place.2 := by
    rw [tracks, none, List.nil_append, placed_eq, logs.tracks, places, List.filterMap_map]
    simp [Function.comp_def, Except.toOption]
  have voiced : ∀ {index : Nat} {line : Line}, lines[index]? = some line →
      line.writer.payloadType = line.params.codec.payloadType index := by
    intro index line found
    refine served.payloadTypes (line.published, index, line.writer) ?_
    rw [logs.total]
    exact List.mem_map.2 ⟨(line, index), List.mk_mem_zipIdx_iff_getElem?.2 found, rfl⟩
  refine ⟨still, offersAll_of_tracks ?_ fun {index stream} given => ?_⟩
  · rw [named, List.length_map, List.length_zipIdx, ← params, List.length_map]
  · rw [← params, List.getElem?_map] at given
    obtain ⟨line, found, rfl⟩ := Option.map_eq_some_iff.1 given
    have member := List.mem_of_getElem? found
    have kind := kinds line.params (params ▸ List.mem_map_of_mem member)
    refine ⟨_, ?_, offers_announced start.context.msid (suit line member) kind (voiced found)⟩
    simp [named, found]

/-- A setup that takes a request to the endpoint takes the offer of all streams there. -/
theorem offers_of_setup {beginning rest : List Event} {context : Context} {outcome : Except Error Unit}
    {after : Publisher} (fit : checkStreams streams = .ok ())
    (begins : Context.Begins config streams.length beginning context)
    (run : setup.Runs ⟨context, streams, streams.map fun _ => none⟩ events outcome after)
    (served : backend.Serves (beginning ++ (events ++ rest)) last)
    (made : ⟨.http request, progress⟩ ∈ events) :
    ∃ offer : String, request.body = Text.utf8 offer ∧ OffersAll streams offer.toList := by
  obtain ⟨_, begun, onward⟩ := Backend.serves_append.1 served
  obtain ⟨first, second, third, ready, exchange, result, rfl, added, creates, posted⟩ :=
    posts_of_setup begins.accounts.2 run made
  obtain ⟨_, setting, -⟩ := Backend.serves_append.1 onward
  obtain ⟨_, adding, creating⟩ := Backend.serves_append.1 setting
  obtain ⟨_, exchanging, -⟩ := Backend.serves_append.1 creating
  obtain ⟨present, none⟩ := begun.bare begins
  obtain ⟨still, offers⟩ :=
    offersAll_of_added (strung_of_begins begins) (kind_of_checkStreams fit) added adding present none
  exact ⟨_, exchanging.posted still creates posted, offers⟩

/-! An opening of two streams over the engine and the layer in memory that fails: the endpoint cannot be reached. -/

namespace Refused

def setting : ClientConfig := { Client.Unanswered.setting with bearerToken := some "secret" }

def video : Line := ⟨Broadcast.video, .vp9, ⟨0, 96, 0x10000⟩, none, Client.Unanswered.video⟩

def audio : Line := ⟨Broadcast.audio, .opus, ⟨1, 97, 0x10001⟩, some "sprop-stereo=1", Client.Unanswered.audio⟩

def offer : String := Rehearsal.offer [video.announced (Text.uuid 0) 0, audio.announced (Text.uuid 0) 1]

def post (offer : String) : HttpRequest :=
  (Exchange.start Exchange.atHome setting.bearerToken).offerTo (Text.utf8 offer) Exchange.atHome

def adding : List Event := Broadcast.wiring video 0 ++ Broadcast.wiring audio 1

def posting (offer : String) : List Event :=
  [⟨.host .isCancelled, false⟩, ⟨.http (post offer), ⟨[], .error (.transport "refused")⟩⟩]

def closing : List Event :=
  [⟨.layer (.closeWriter 0), .done ()⟩, ⟨.layer (.releaseTransport 0), ()⟩,
    ⟨.engine (.deleteTrack video.handle), ()⟩, ⟨.layer (.closeWriter 1), .done ()⟩,
    ⟨.layer (.releaseTransport 1), ()⟩, ⟨.engine (.deleteTrack audio.handle), ()⟩, ⟨.engine .close, ()⟩]

def opening : List Event :=
  Client.Unanswered.beginning ++ (adding ++ (Exchange.offering offer ++ posting offer) ++ closing)

def start : Publisher where
  context :=
    { hasPeer := true
      registry := .allocate 2
      exchange := .start Exchange.atHome setting.bearerToken
      config := setting
      msid := Text.uuid 0
      startedAt := 0
      timeToConnect := none }
  streams := [Broadcast.video, Broadcast.audio]
  framing := [none, none]

def half : Publisher where
  context := { start.context with registry := ⟨[Broadcast.track 0 video, Broadcast.track 1 audio]⟩ }
  streams := [video.published, audio.published]
  framing := [none, none]

theorem validate_setting : setting.validate = .ok Exchange.atHome := Client.Unanswered.validate_setting

theorem offer_small : Sdp.checkSize offer.utf8ByteSize = .ok () := by
  rw [offer, Rehearsal.offer, Text.utf8ByteSize_ofList]
  decide +kernel

theorem adds : ([Broadcast.video, Broadcast.audio].zipIdx.forM fun (params, index) => addStream params index).Runs start
    adding (.ok ()) half :=
  .call _ _ _ (.call _ _ _ (.call _ _ _ (.call _ _ _ (.done _))))

theorem served : ∃ last, (⟨.empty, .empty⟩ : Backend).Serves opening last :=
  ⟨_, .cons (.host _ _) (.cons (.engine _) (.cons (.engine _) (.cons (.host _ _) (.cons (.host _ _)
    (.cons (.layer _) (.cons (.engine _) (.cons (.layer _) (.cons (.engine _) (.cons (.engine _) (.cons (.engine _)
      (.cons (.host _ _) (.cons (.http _ _) (.cons (.layer _) (.cons (.layer _) (.cons (.engine _)
        (.cons (.layer _) (.cons (.layer _) (.cons (.engine _) (.cons (.engine _) (.nil _))))))))))))))))))))⟩

theorem creates {offer : String} (small : Sdp.checkSize offer.utf8ByteSize = .ok ()) :
    (onContext Context.createResource).Runs half (Exchange.offering offer ++ posting offer)
      (.error (.signaling (.transport "refused"))) half := by
  refine Act.runs_within.2 ⟨half.context, rfl, ?_⟩
  refine Act.runs_bind.2 (.inr ⟨[], (), half.context, _, rfl, .done _, ?_⟩)
  refine Act.runs_within.2 ⟨half.context.exchange, rfl, Exchange.runs_offering rfl small ?_⟩
  exact .call _ _ _ (.call _ _ _ (.done _))

theorem closes : ∃ after, Publisher.close.Runs half closing (.ok ()) after :=
  ⟨_, .call _ _ _ (.call _ _ _ (.call _ _ _ (.call _ _ _ (.call _ _ _ (.call _ _ _ (.call _ _ _ (.done _)))))))⟩

theorem sets : setup.Runs start (adding ++ (Exchange.offering offer ++ posting offer))
    (.error (.signaling (.transport "refused"))) half :=
  Act.runs_get_bind.2 (Act.runs_bind.2 (.inr ⟨_, (), half, _, rfl, adds,
    Act.runs_bind.2 (.inl ⟨_, rfl, creates offer_small⟩)⟩))

theorem runs : (openSession setting [Broadcast.video, Broadcast.audio]).Runs () opening
    (.error (.signaling (.transport "refused"))) () := by
  refine Act.runs_bind.2 (.inr ⟨[], (), (), _, rfl, Act.runs_settle.2 ⟨rfl, rfl, rfl⟩, ?_⟩)
  refine Act.runs_bind.2 (.inr ⟨Client.Unanswered.beginning, _, (), _, rfl,
    (Context.Begins.begun validate_setting 0 Client.Unanswered.outset).runs, ?_⟩)
  obtain ⟨after, closed⟩ := closes
  refine Script.yields_bind_iff.2 ⟨_, _, closing, rfl, sets, ?_⟩
  exact Script.yields_bind_iff.2 ⟨_, _, [], (List.append_nil _).symm, closed, .done _⟩

end Refused

/-- Whatever a publisher posts as it opens, over the engine and the layer in memory, is an offer of its
streams. -/
theorem openSession_offers_streams {outcome : Except Error Publisher}
    (run : (openSession config streams).Runs () events outcome ()) (served : backend.Serves events last)
    (made : ⟨.http request, progress⟩ ∈ events) (posted : request.method = .post) :
    ∃ offer : String, request.body = Text.utf8 offer ∧ OffersAll streams offer.toList := by
  have opens := Client.opens_of_publisher run
  generalize outcome.map Client.publisher = result at opens
  have begun : ∀ {beginning context}, Context.Begins config streams.length beginning context →
      ⟨.http request, progress⟩ ∉ beginning := by
    rintro _ _ ⟨⟩
    simp
  cases opens with
  | unfit refused => cases made
  | unbegun fit fails => cases fails <;> simp at made
  | unopened fit begins sets closes =>
    cases sets with
    | ingest setting =>
      have closed : (⟨.http request, progress⟩ : Event) ∉ _ := not_posted_of_closes closes posted
      rw [List.append_assoc] at served made
      have later := (List.mem_append.1 made).resolve_left (begun begins)
      exact offers_of_setup fit begins setting served ((List.mem_append.1 later).resolve_right closed)
  | opened fit begins sets =>
    cases sets with
    | ingest setting =>
      rw [← List.append_nil (_ ++ _), List.append_assoc] at served
      exact offers_of_setup fit begins setting served ((List.mem_append.1 made).resolve_left (begun begins))

theorem openSession_offers_streams_refused :
    ∃ offer : String, (Refused.post Refused.offer).body = Text.utf8 offer ∧
      OffersAll [Broadcast.video, Broadcast.audio] offer.toList := by
  obtain ⟨last, served⟩ := Refused.served
  have made : (⟨.http (Refused.post Refused.offer), ⟨[], .error (.transport "refused")⟩⟩ : Event) ∈
      Refused.opening := by simp [Refused.opening, Refused.posting]
  exact openSession_offers_streams Refused.runs served made rfl

end Publisher
end WhipWhep
