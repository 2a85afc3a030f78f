import WhipWhep.Proofs.Media.AudioConfig
import WhipWhep.Proofs.Sdp.Streams
import WhipWhep.Proofs.Session.Wiring

/-!
How the tracks of a publisher are announced. Every track that the engine is asked to add, also by an opening that
fails, stands for one stream and carries the format parameters of that stream. Those of an audio stream with a
decoder configuration state that configuration byte for byte.
-/

namespace WhipWhep

theorem additions_append (first second : List Event) :
    additions (first ++ second) = additions first ++ additions second :=
  List.filterMap_append

theorem additions_of_opening {events : List Event} (opening : AllOf Call.isOpening events) :
    additions events = [] := by
  rw [additions, List.filterMap_eq_nil_iff]
  intro event member
  have kind := opening event member
  obtain ⟨call | request | call | call, answer⟩ := event <;>
    first | rfl | (cases call <;> first | rfl | cases kind)

theorem plain_of_releasing {call : Call} (releasing : call.isReleasing = true) : call.isPlain = true := by
  unfold Call.isPlain
  split <;> first | rfl | cases releasing

variable {events more : List Event} {good : TrackInit → Prop}

/-- Every track that is to be added is one of some kind. -/
def Adding (good : TrackInit → Prop) (events : List Event) : Prop :=
  ∀ addition ∈ additions events, good addition.1

theorem adding_nothing (none : additions events = []) : Adding good events := by
  unfold Adding
  rw [none]
  exact List.forall_mem_nil _

theorem adding_plain (plain : AllOf Call.isPlain events) : Adding good events :=
  adding_nothing (additions_plain plain)

theorem Adding.append (first : Adding good events) (second : Adding good more) : Adding good (events ++ more) := by
  unfold Adding
  rw [additions_append]
  exact List.forall_mem_append.2 ⟨first, second⟩

/-- The same of a run. -/
def AddsOnly {σ : Type} (good : TrackInit → Prop) : σ → List Event → σ → Prop :=
  fun _ events _ => Adding good events

theorem composes_addsOnly {σ : Type} : @Act.Composes σ (AddsOnly good) where
  refl _ := adding_nothing rfl
  trans := Adding.append

/-- A track stands for the stream at an index, with the format parameters that its section has. -/
structure Announced (params : StreamParams) (index : Nat) (init : TrackInit) : Prop where
  mid : init.mid = numeral index
  format : ∃ format, Sdp.advertisedFormat params init.payloadType = .ok format ∧
    init.profile = format.map String.ofList

theorem Track.adds_add {track : Track} {init : TrackInit} (fine : good init) :
    (Track.add init).Keeps (AddsOnly good) track := by
  have composes : @Act.Composes Track (AddsOnly good) := composes_addsOnly
  refine Act.keeps_bind composes (Act.keeps_get composes) fun {_ held _} _ => ?_
  split
  · exact Act.keeps_fail composes
  · refine Act.keeps_bind composes (Act.keeps_ask fun answer => List.forall_mem_singleton.2 fine) fun _ => ?_
    refine Act.keeps_bind composes (Act.keeps_granted composes) fun _ => ?_
    refine Act.keeps_bind composes (Act.keeps_modify (adding_nothing rfl)) fun _ => ?_
    refine Act.keeps_bind composes (fun _ _ _ run => ?_) fun _ => Act.keeps_pure composes
    have idle : Idle (fun _ => false) _ _ _ := keeps_attach _ _ _ run
    rw [idle.ofKind.eq_nil]
    exact adding_nothing rfl

namespace Context

variable {context after : Context}

theorem adds_requirePeer : requirePeer.Keeps (AddsOnly good) context := by
  intro events outcome after run
  have uses : Uses (fun _ => false) context events after := keeps_requirePeer _ _ _ run
  rw [uses.ofKind.eq_nil]
  exact adding_nothing rfl

theorem adds_addTrack {index : Nat} {init : TrackInit} (fine : good init) :
    (addTrack index init).Keeps (AddsOnly good) context := by
  refine Act.keeps_bind composes_addsOnly adds_requirePeer fun _ _ _ _ run => ?_
  rcases onTrack_runs_iff.1 run with ⟨-, rfl, -, -⟩ | ⟨track, inner, -, -, adding⟩
  · exact adding_nothing rfl
  · exact Track.adds_add fine _ _ _ adding

theorem adds_createResource : createResource.Keeps (AddsOnly good) context := by
  refine Act.keeps_bind composes_addsOnly adds_requirePeer fun _ _ _ _ run => ?_
  obtain ⟨_, -, inside⟩ := Act.runs_within.1 run
  exact adding_plain ((Exchange.creates_of_runs inside).exchanging.weaken plain_of_exchanging)

theorem Begins.adding {config : ClientConfig} {count : Nat} (begins : Begins config count events context) :
    Adding good events :=
  adding_nothing begins.bare.1.tracks

theorem Fails.adding {config : ClientConfig} {building closing : List Event} {cause : Error}
    (fails : Fails config building closing cause) : Adding good (building ++ closing) := by
  cases fails <;> exact adding_plain (by simp [AllOf, Call.isPlain])

theorem Closes.adding (closes : Closes context events after) : Adding good events := by
  obtain ⟨deleting, releasing, rfl, deletes, releases⟩ := closes.course
  refine adding_plain (.append ?_ ?_)
  · cases deletes with
    | absent vacant => exact .nil
    | unsendable stored unfit => exact .nil
    | sent stored fit progress => exact .single rfl _
  · cases releases with
    | absent closed => exact .nil
    | released up uses bare => exact (uses.ofKind.weaken plain_of_releasing).append (.single rfl _)

end Context

namespace Publisher

variable {publisher after : Publisher} {params : StreamParams} {index : Nat}

/-- The time base of a stream is not part of its format. -/
theorem advertisedFormat_timed (params : StreamParams) (payloadType : UInt8) :
    Sdp.advertisedFormat (timed params) payloadType = Sdp.advertisedFormat params payloadType := by
  rw [timed_eq]
  rfl

theorem adds_context {α : Type} {act : Act Context α} (kept : ∀ context, act.Keeps (AddsOnly good) context) :
    (onContext act).Keeps (AddsOnly good) publisher :=
  fun _ _ _ run => kept _ _ _ _ (runs_onContext run)

/-- The format parameters are settled before the track is added, and they go into it. -/
theorem addStream_announces : (addStream params index).Keeps (AddsOnly (Announced params index)) publisher := by
  have composes : @Act.Composes Publisher (AddsOnly (Announced params index)) := composes_addsOnly
  have opens : ∀ {α : Type} {act : Act Context α} {publisher : Publisher},
      (∀ context, act.Keeps (Context.Uses Call.isOpening) context) →
        (onContext act).Keeps (AddsOnly (Announced params index)) publisher := fun kept =>
    adds_context fun _ _ _ _ run => adding_nothing (additions_of_opening (kept _ _ _ _ run).ofKind)
  refine Act.keeps_bind composes (Act.keeps_modify (adding_nothing rfl)) fun _ => ?_
  refine Act.keeps_bind composes (opens fun _ => Context.keeps_bindTrack) fun {_ binding _} _ => ?_
  refine Act.keeps_bind composes (opens fun _ => Context.keeps_onTrack fun _ => Track.keeps_openWriter)
    fun {_ writer _} _ => ?_
  refine Act.keeps_bind composes (Act.keeps_settle composes) fun {_ format _} formats => ?_
  refine Act.keeps_bind composes (Act.keeps_settle composes) fun _ => ?_
  refine Act.keeps_bind composes (Act.keeps_modify (adding_nothing rfl)) fun _ => ?_
  refine Act.keeps_bind composes (Act.keeps_settle composes) fun _ => ?_
  refine Act.keeps_bind composes (Act.keeps_get composes) fun _ => ?_
  obtain ⟨-, advertised, -⟩ := Act.runs_settle.1 formats
  have stated := mapError_eq_ok_iff.1 advertised.symm
  rw [advertisedFormat_timed] at stated
  refine Act.keeps_bind composes (adds_context fun _ => Context.adds_addTrack ⟨rfl, format, stated, rfl⟩)
    fun _ => ?_
  exact opens fun _ => Context.keeps_idle fun _ => Track.keeps_setParams

/-- A track stands for one of some streams. -/
def Lists (streams : List StreamParams) (init : TrackInit) : Prop :=
  ∃ index params, streams[index]? = some params ∧ Announced params index init

theorem setup_announces : setup.Keeps (AddsOnly (Lists publisher.streams)) publisher := by
  have composes : @Act.Composes Publisher (AddsOnly (Lists publisher.streams)) := composes_addsOnly
  refine Act.keeps_bind composes (Act.keeps_get composes) fun got => ?_
  obtain ⟨-, same, -⟩ := Act.runs_get.1 got
  cases same
  refine Act.keeps_bind composes (Act.keeps_forM composes fun (params, index) member _ _ _ _ run => ?_) fun _ => ?_
  · intro addition added
    exact ⟨index, params, List.mem_zipIdx_iff_getElem?.1 member, addStream_announces _ _ _ run addition added⟩
  · refine Act.keeps_bind composes (adds_context fun _ => Context.adds_createResource) fun _ => ?_
    refine adds_context fun _ _ _ _ run => ?_
    exact adding_plain ((Context.waitConnected_waits run).1.ofKind.weaken plain_of_waiting)

/-- Whatever becomes of an opening, the tracks that it asks for are announced as their streams are. -/
theorem openSession_announces {config : ClientConfig} {streams : List StreamParams} {outcome : Except Error Publisher}
    (run : (openSession config streams).Runs () events outcome ()) :
    Adding (Lists streams) events := by
  have opens := Client.opens_of_publisher run
  generalize outcome.map Client.publisher = made at opens
  cases opens with
  | unfit refused => exact List.forall_mem_nil _
  | unbegun fit fails => exact fails.adding
  | unopened fit begins sets closes =>
    cases sets with
    | ingest setting =>
      exact (begins.adding.append (setup_announces _ _ _ setting)).append closes.adding
  | opened fit begins sets =>
    cases sets with
    | ingest setting => exact begins.adding.append (setup_announces _ _ _ setting)

end Publisher

namespace AudioConfig

variable {data : Bytes} {config : AudioConfig} {params : StreamParams}

/-- A stream is advertised with the format parameters of its decoder configuration. -/
theorem advertised_fmtp (codec : params.codec = .aac) (read : parse? params.extradata = some config)
    (payloadType : UInt8) : Sdp.advertisedFormat params payloadType = .ok (some config.fmtp) := by
  have filled : params.extradata.isEmpty = false := by
    cases held : params.extradata with
    | nil =>
      rw [held] at read
      cases read
    | cons byte rest => rfl
  have format : Sdp.formatOf params = .ok (some config.fmtp) := by
    simp [Sdp.formatOf, codec, filled, read, demand, Except.map]
  have stated : Sdp.MediaDescription.ofStream params payloadType = .ok _ := map_eq_ok_iff.2 ⟨_, format, rfl⟩
  have plain := (Sdp.described_of_ofStream stated).plain (by simp [codec])
  simpa using plain

/-- What becomes of a record, from where it is read to where it is advertised. -/
structure Carried (data : Bytes) : Prop where
  accepted : (∃ config, parse? data = some config) ↔ Whole data
  /-- What is read is what the bits spell. -/
  fields : ∀ config, parse? data = some config ↔ Whole data ∧ Spells data config
  written : ∀ config, parse? data = some config → States config.fmtp data
  /-- A stream with the record is advertised with it, under any payload type. -/
  advertised : ∀ params : StreamParams, params.codec = .aac → params.extradata = data → Whole data →
    ∀ payloadType, ∃ format, Sdp.advertisedFormat params payloadType = .ok (some format) ∧ States format data
  /-- So is its track, whenever a publisher asks the engine to add it. -/
  announced : ∀ config streams events outcome, (Publisher.openSession config streams).Runs () events outcome () →
    ∀ addition ∈ additions events, ∃ index params, streams[index]? = some params ∧
      addition.1.mid = numeral index ∧ (params.codec = .aac → params.extradata = data → Whole data →
        ∃ format, addition.1.profile = some (String.ofList format) ∧ States format data)

theorem carried_advertised (codec : params.codec = .aac) (held : params.extradata = data) (whole : Whole data)
    (payloadType : UInt8) :
    ∃ format, Sdp.advertisedFormat params payloadType = .ok (some format) ∧ States format data := by
  obtain ⟨config, read⟩ := parse?_of_whole whole
  have raw := (spells_of_parse? read).2.raw
  rw [← held] at read
  exact ⟨config.fmtp, advertised_fmtp codec read payloadType, raw ▸ states_fmtp config⟩

/-- A record is accepted exactly if it is whole, it is read bit by bit, and it reaches the other side as it is. -/
theorem record_carried (data : Bytes) : Carried data where
  accepted := ⟨fun ⟨_, read⟩ => (spells_of_parse? read).1, parse?_of_whole⟩
  fields _ := parse?_eq_some_iff
  written config read := (spells_of_parse? read).2.raw ▸ states_fmtp config
  advertised _ codec held whole payloadType := carried_advertised codec held whole payloadType
  announced _ _ _ _ run addition added := by
    obtain ⟨index, params, found, mid, format, advertised, profile⟩ :=
      Publisher.openSession_announces run addition added
    refine ⟨index, params, found, mid, fun codec held whole => ?_⟩
    obtain ⟨stated, given, states⟩ := carried_advertised codec held whole addition.1.payloadType
    cases given.symm.trans advertised
    exact ⟨stated, profile, states⟩

end AudioConfig
end WhipWhep
