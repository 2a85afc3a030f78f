import WhipWhep.Proofs.Session.Blaming

/-!
Which streams are admitted. Every one of them has to pass the same checks, and a list is refused by the first check
that its first unfit stream fails, before anything is asked for. Where a list is admitted, the rest of the opening
finds nothing more to say against it or against the configuration.
-/

namespace WhipWhep.Publisher

variable {params : StreamParams} {index : Nat} {cause : ConfigError} {streams : List StreamParams}

/-- Streams that can be published: of their codec's kind, with a codec that can be published, and audio as it is
published. -/
structure Publishable (params : StreamParams) : Prop where
  kind : params.codec.kind = params.kind
  codec : params.codec.isPublishable = true
  audio : params.kind = .audio → params.sampleRate = 48000 ∧ params.channels = 2

/-- The first check that a stream at an index fails, with what it tells of the stream. -/
inductive Objects (index : Nat) (params : StreamParams) : ConfigError → Prop where
  | kind (other : params.codec.kind ≠ params.kind) :
      Objects index params (.kindMismatch index params.kind params.codec.name)
  | codec (kind : params.codec.kind = params.kind) (unsupported : params.codec.isPublishable = false) :
      Objects index params (.unsupportedCodec params.codec.name)
  | rate (kind : params.codec.kind = params.kind) (supported : params.codec.isPublishable = true)
      (audio : params.kind = .audio) (other : params.sampleRate ≠ 48000) :
      Objects index params (.unsupportedSampleRate params.sampleRate)
  | channels (kind : params.codec.kind = params.kind) (supported : params.codec.isPublishable = true)
      (audio : params.kind = .audio) (rate : params.sampleRate = 48000) (other : params.channels ≠ 2) :
      Objects index params (.unsupportedChannelLayout params.channels)

theorem checkStream_eq_error_iff : checkStream index params = .error cause ↔ Objects index params cause := by
  unfold checkStream audioSampleRate audioChannels
  constructor
  · intro failed
    split at failed
    · next other =>
      cases failed
      exact .kind other
    split at failed
    · next kind unsupported =>
      cases failed
      exact .codec (by simpa using kind) (by simpa using unsupported)
    split at failed
    · next kind supported rate =>
      cases failed
      exact .rate (by simpa using kind) (by simpa using supported) rate.1 rate.2
    split at failed
    · next kind supported rate channels =>
      cases failed
      have fine : params.sampleRate = 48000 := by simpa [channels.1] using rate
      exact .channels (by simpa using kind) (by simpa using supported) channels.1 fine channels.2
    · cases failed
  · intro objects
    cases objects with
    | kind other => rw [if_pos other]
    | codec kind unsupported => simp [kind, unsupported]
    | rate kind supported audio other => simp [kind, supported, audio, other]
    | channels kind supported audio rate other => simp [kind, supported, audio, rate, other]

theorem checkStream_eq_ok_iff : checkStream index params = .ok () ↔ Publishable params := by
  unfold checkStream audioSampleRate audioChannels
  constructor
  · intro fine
    split at fine
    · cases fine
    split at fine
    · cases fine
    split at fine
    · cases fine
    split at fine
    · cases fine
    · next kind supported rate channels =>
      refine ⟨by simpa using kind, by simpa using supported, fun audio => ⟨?_, ?_⟩⟩
      · simpa [audio] using rate
      · simpa [audio] using channels
  · rintro ⟨kind, codec, audio⟩
    by_cases sound : params.kind = .audio
    · simp [kind, codec, audio sound]
    · simp [kind, codec, sound]

/-- A list is refused if it is empty, or else by its first stream that cannot be published. -/
inductive Refuses : List StreamParams → ConfigError → Prop where
  | empty : Refuses [] .noStreams
  | stream {before after : List StreamParams} {params : StreamParams} {cause : ConfigError}
      (fine : ∀ other ∈ before, Publishable other) (objects : Objects before.length params cause) :
      Refuses (before ++ params :: after) cause

/-- The index of a stream does not matter to its passing. -/
theorem checks_pass_iff :
    (∀ placed ∈ streams.zipIdx, checkStream placed.2 placed.1 = .ok ()) ↔ ∀ params ∈ streams, Publishable params := by
  constructor
  · intro passed params member
    obtain ⟨index, found⟩ := List.getElem?_of_mem member
    exact checkStream_eq_ok_iff.1 (passed (params, index) (List.mem_zipIdx_iff_getElem?.2 found))
  · intro fine placed member
    exact checkStream_eq_ok_iff.2 (fine placed.1 (List.fst_mem_of_mem_zipIdx member))

/-- What refuses some streams is the first of them that is unfit, at its place in the list. -/
theorem checks_eq_error_iff :
    (streams.zipIdx.forM fun (params, index) => checkStream index params) = .error cause ↔
      ∃ before params after, streams = before ++ params :: after ∧ (∀ other ∈ before, Publishable other) ∧
        Objects before.length params cause := by
  rw [forM_eq_error_iff]
  constructor
  · rintro ⟨earlier, ⟨params, index⟩, later, split, passed, failed⟩
    obtain ⟨before, rest, rfl, rfl, behind⟩ := List.zipIdx_eq_append_iff.1 split
    obtain ⟨_, after, rfl, same, -⟩ := List.zipIdx_eq_cons_iff.1 behind.symm
    cases same
    rw [Nat.zero_add] at failed
    exact ⟨before, params, after, rfl, checks_pass_iff.1 passed, checkStream_eq_error_iff.1 failed⟩
  · rintro ⟨before, params, after, rfl, fine, objects⟩
    refine ⟨before.zipIdx, (params, before.length), after.zipIdx (before.length + 1), ?_, checks_pass_iff.2 fine,
      checkStream_eq_error_iff.2 objects⟩
    rw [List.zipIdx_append, Nat.zero_add, List.zipIdx_cons]

theorem checkStreams_eq_error_iff : checkStreams streams = .error cause ↔ Refuses streams cause := by
  cases streams with
  | nil =>
    constructor
    · rintro ⟨⟩
      exact .empty
    · intro refuses
      generalize listed : ([] : List StreamParams) = streams at refuses
      cases refuses with
      | empty => rfl
      | stream fine objects => simp at listed
  | cons params rest =>
    refine Iff.trans checks_eq_error_iff ⟨?_, ?_⟩
    · rintro ⟨before, other, after, split, fine, objects⟩
      rw [split]
      exact .stream fine objects
    · intro refuses
      generalize listed : params :: rest = streams at refuses
      cases refuses with
      | empty => cases listed
      | @stream before after other cause fine objects =>
        exact ⟨before, other, after, rfl, fine, objects⟩

/-- A list that is not refused has streams, and all of them can be published. -/
theorem checkStreams_eq_ok_iff :
    checkStreams streams = .ok () ↔ streams ≠ [] ∧ ∀ params ∈ streams, Publishable params := by
  constructor
  · intro fine
    cases streams with
    | nil => cases fine
    | cons head rest =>
      exact ⟨List.cons_ne_nil _ _, checks_pass_iff.1 (forM_eq_ok fine)⟩
  · rintro ⟨filled, fine⟩
    cases checked : checkStreams streams with
    | ok passed => rfl
    | error cause =>
      cases checkStreams_eq_error_iff.1 checked with
      | empty => exact absurd rfl filled
      | @stream before after params cause _ objects =>
        have refused := checkStream_eq_error_iff.2 objects
        rw [checkStream_eq_ok_iff.2 (fine params (by simp))] at refused
        cases refused

/-- The first of two unfit streams is the one that is told of. -/
example : checkStreams [.video .h264 640 480, .audio .aac 44100 2, .video .vp8 640 480] =
    .error (.unsupportedSampleRate 44100) := by
  rfl

/-- The engine carries every codec that can be published, under its own name for it. -/
theorem engineCodec_of_publishable {codec : Codec} (publishable : codec.isPublishable = true) :
    ∃ engine, EngineCodec.ofCodec? codec = some engine ∧ engine.codec = codec := by
  cases codec <;> first | exact ⟨_, rfl, rfl⟩ | cases publishable

/-- An opening with a list that is refused is over before it has begun. -/
theorem openSession_refused_iff {config : ClientConfig} {events : List Event} {outcome : Except Error Publisher}
    (refuses : Refuses streams cause) :
    (openSession config streams).Runs () events outcome () ↔ events = [] ∧ outcome = .error (.config cause) := by
  unfold openSession
  rw [Act.runs_settle_bind, checkStreams_eq_error_iff.2 refuses]
  exact ⟨fun ⟨quiet, failed, _⟩ => ⟨quiet, failed⟩, fun ⟨quiet, failed⟩ => ⟨quiet, failed, rfl⟩⟩

/-- How the streams of a publisher are screened. -/
structure Screens (streams : List StreamParams) : Prop where
  admitted : checkStreams streams = .ok () ↔ streams ≠ [] ∧ ∀ params ∈ streams, Publishable params
  refused : ∀ cause, checkStreams streams = .error cause ↔ Refuses streams cause
  /-- A refusal is what the opening comes to, and nothing was asked of the engine, of the endpoint or of the layer. -/
  untouched : ∀ cause, Refuses streams cause → ∀ config events outcome,
    (openSession config streams).Runs () events outcome () ↔ events = [] ∧ outcome = .error (.config cause)
  carried : checkStreams streams = .ok () → ∀ params ∈ streams,
    ∃ engine, EngineCodec.ofCodec? params.codec = some engine ∧ engine.codec = params.codec
  /-- Once streams and configuration are taken, a configuration error can only have been handed back by the layer. -/
  settled : checkStreams streams = .ok () → ∀ config url, config.validate = .ok url → ∀ events cause,
    (openSession config streams).Runs () events (.error (.config cause)) () → Handed cause events

theorem openSession_screens (streams : List StreamParams) : Screens streams where
  admitted := checkStreams_eq_ok_iff
  refused _ := checkStreams_eq_error_iff
  untouched _ refuses _ _ _ := openSession_refused_iff refuses
  carried fit params member := engineCodec_of_publishable ((checkStreams_eq_ok_iff.1 fit).2 params member).codec
  settled fit _ _ valid _ _ run := by
    refine openSession_blames fit valid (fun params member => ?_) run
    obtain ⟨engine, found, -⟩ := engineCodec_of_publishable ((checkStreams_eq_ok_iff.1 fit).2 params member).codec
    exact ⟨engine, found⟩

end WhipWhep.Publisher
