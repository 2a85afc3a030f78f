import WhipWhep.Proofs.Avc.Config
import WhipWhep.Proofs.Avc.LengthPrefixed
import WhipWhep.Proofs.Steps
import WhipWhep.Publisher

/-!
Publishing H.264 from a container file and from a byte stream. A record and the byte stream of its
parameter sets describe the same stream: the access units that are published are the same, whether
their units come behind lengths or behind start codes, and so is what the offer says of the stream.
-/

namespace WhipWhep

open Avc AvcConfig

section AccessUnits

variable {size : UInt8} {sets : Bytes} {units : List Bytes} {packet : Packet}

/-- The units of an access unit are written behind start codes, whatever they contain. -/
theorem Avc.toByteStream?_prefixed (least : 1 ≤ size) (most : size ≤ 4)
    (fits : ∀ unit ∈ units, Fits size.toNat unit) :
    toByteStream? (prefixed size.toNat units) size = some (write units) := by
  rw [toByteStream?, if_pos ⟨least, most⟩, splitUnits?_prefixed fits, Option.map_some]

/-- Framing anew the units of a packet comes to the same for both ways to frame them before. -/
theorem Avc.Framing.apply_prefixed (least : 1 ≤ size) (most : size ≤ 4)
    (fits : ∀ unit ∈ units, Fits size.toNat unit) :
    Framing.apply ⟨sets, some size⟩ { packet with payload := prefixed size.toNat units } =
      Framing.apply ⟨sets, none⟩ { packet with payload := write units } := by
  have stream := toByteStream?_prefixed least most fits
  simp only [Framing.apply, Framing.accessUnit, stream, demand]

/-- An access unit that is a byte stream already is published. -/
theorem Avc.Framing.apply_byteStream (sets : Bytes) (packet : Packet) :
    ∃ framed, Framing.apply ⟨sets, none⟩ packet = .ok framed :=
  ⟨_, rfl⟩

end AccessUnits

section Extradata

variable {params : StreamParams} {extradata other : Bytes} {config plain : AvcConfig}

theorem AvcConfig.extradata_isEmpty (read : ofExtradata? extradata = some config) :
    extradata.isEmpty = false := by
  cases extradata with
  | nil => simp [ofExtradata?, ofByteStream?, unitsOf, units, cut] at read
  | cons => rfl

/-- The framing of a stream is that of the configuration in its extradata. -/
theorem Publisher.framingOf_h264 (codec : params.codec = .h264)
    (read : ofExtradata? extradata = some config) :
    framingOf (params.withExtradata extradata) = .ok (some (.ofConfig config)) := by
  have used : (params.withExtradata extradata).codec = .h264 ∧
      !(params.withExtradata extradata).extradata.isEmpty := by
    simp [StreamParams.withExtradata, codec, extradata_isEmpty read]
  rw [framingOf, if_pos used]
  simp [StreamParams.withExtradata, read, demand, Except.map]

/-- The format parameters of a stream tell the profile and the level in its extradata. -/
theorem Sdp.formatOf_h264 (codec : params.codec = .h264)
    (read : ofExtradata? extradata = some config) :
    formatOf (params.withExtradata extradata) = .ok (some
      ("packetization-mode=1".toList ++ ";profile-level-id=".toList ++ config.profileLevelId)) := by
  simp [formatOf, StreamParams.withExtradata, codec, extradata_isEmpty read, read, demand, Except.map]

/-- The track of a stream is advertised by what its format parameters and its codec say. -/
theorem Sdp.advertisedFormat_withExtradata (payloadType : UInt8)
    (same : formatOf (params.withExtradata extradata) = formatOf (params.withExtradata other)) :
    advertisedFormat (params.withExtradata extradata) payloadType =
      advertisedFormat (params.withExtradata other) payloadType := by
  have described : describe (params.withExtradata extradata) payloadType =
      describe (params.withExtradata other) payloadType := by
    rw [describe, describe, MediaDescription.ofStream, MediaDescription.ofStream, same]
    rfl
  rw [advertisedFormat, advertisedFormat, described]
  rfl

end Extradata

/-- A stream of length-prefixed access units with a record, and the stream of the same units in byte
streams with the parameter sets of the record: the access units that are published are the same, on
keyframes and between them, and where the record tells the profile and the level of its first
parameter set, the format parameters are the same. -/
theorem AvcConfig.publishes_alike {record : Bytes} {config : AvcConfig}
    (read : ofRecord? record = some config) (written : config.Streamable)
    {params : StreamParams} (codec : params.codec = .h264) :
    ∃ size fromRecord fromStream, config.lengthSize = some size ∧
      Publisher.framingOf (params.withExtradata record) = .ok (some fromRecord) ∧
      Publisher.framingOf (params.withExtradata config.parameterSets) = .ok (some fromStream) ∧
      (∀ (packet : Packet) (units : List Bytes), (∀ unit ∈ units, Fits size.toNat unit) →
        ∃ framed,
          fromRecord.apply { packet with payload := prefixed size.toNat units } = .ok framed ∧
          fromStream.apply { packet with payload := write units } = .ok framed) ∧
      (config.Agrees → ∃ format,
        Sdp.formatOf (params.withExtradata record) = .ok (some format) ∧
        Sdp.formatOf (params.withExtradata config.parameterSets) = .ok (some format) ∧
        ∀ payloadType, Sdp.advertisedFormat (params.withExtradata record) payloadType =
          Sdp.advertisedFormat (params.withExtradata config.parameterSets) payloadType) := by
  have recorded := ofExtradata?_record read
  obtain ⟨plain, streamed, sps, pps, unprefixed, agrees⟩ := written.ofExtradata?_parameterSets
  obtain ⟨size, prefixes, least, most⟩ := lengthSize_of_ofRecord? read
  have ofRecord : Framing.ofConfig config = ⟨config.parameterSets, some size⟩ := by
    rw [Framing.ofConfig, prefixes]
  have ofStream : Framing.ofConfig plain = ⟨config.parameterSets, none⟩ := by
    rw [Framing.ofConfig, unprefixed, parameterSets, parameterSets, sps, pps]
  refine ⟨size, .ofConfig config, .ofConfig plain, prefixes, Publisher.framingOf_h264 codec recorded,
    Publisher.framingOf_h264 codec streamed, ?_, ?_⟩
  · intro packet units fits
    obtain ⟨framed, done⟩ :=
      Framing.apply_byteStream config.parameterSets { packet with payload := write units }
    refine ⟨framed, ?_, ofStream ▸ done⟩
    rw [ofRecord, Framing.apply_prefixed least most fits]
    exact done
  · intro same
    have level := same.profileLevelId agrees written.listed sps
    have stream := Sdp.formatOf_h264 codec streamed
    rw [level] at stream
    have alike := (Sdp.formatOf_h264 codec recorded).trans stream.symm
    exact ⟨_, Sdp.formatOf_h264 codec recorded, stream, fun payloadType =>
      Sdp.advertisedFormat_withExtradata payloadType alike⟩

namespace AvcConfig.Baseline

/-- A record of the baseline profile, with one parameter set of each kind. -/
def record : Bytes :=
  [0x01, 0x42, 0xE0, 0x1F, 0xFF, 0xE1, 0x00, 0x04, 0x67, 0x42, 0xE0, 0x1F, 0x01, 0x00, 0x02, 0x68, 0xCE]

def config : AvcConfig :=
  ⟨0x42, 0xE0, 0x1F, [[0x67, 0x42, 0xE0, 0x1F]], [[0x68, 0xCE]], some 4⟩

def camera : StreamParams := .video .h264 1280 720

/-- Two units of which the first ends in a zero, where the start code of the second one follows. -/
def units : List Bytes := [[0x06, 0x05, 0], [0x65, 0x88, 0]]

theorem units_fit : ∀ unit ∈ units, Avc.Fits (4 : UInt8).toNat unit := by
  intro unit within
  rcases List.mem_pair.1 within with rfl | rfl
  · exact ⟨by decide, by decide⟩
  · exact ⟨by decide, by decide⟩

theorem streamable : config.Streamable where
  listed := by decide
  sps := by decide
  pps := by decide
  clean := by decide
  long := by decide

theorem agrees : config.Agrees := by
  rintro _ ⟨⟩
  rfl

end AvcConfig.Baseline

open AvcConfig.Baseline in
/-- A keyframe of two units. -/
theorem AvcConfig.publishes_alike_baseline : ∃ fromRecord fromStream framed format,
    Publisher.framingOf (camera.withExtradata record) = .ok (some fromRecord) ∧
    Publisher.framingOf (camera.withExtradata config.parameterSets) = .ok (some fromStream) ∧
    fromRecord.apply (Packet.make 0 3000
      [0, 0, 0, 3, 0x06, 0x05, 0, 0, 0, 0, 3, 0x65, 0x88, 0]).keyframe = .ok framed ∧
    fromStream.apply (Packet.make 0 3000
      [0, 0, 0, 1, 0x06, 0x05, 0, 0, 0, 0, 1, 0x65, 0x88, 0]).keyframe = .ok framed ∧
    Sdp.formatOf (camera.withExtradata record) = .ok (some format) ∧
    Sdp.formatOf (camera.withExtradata config.parameterSets) = .ok (some format) := by
  have read : ofRecord? record = some config := by decide
  have codec : camera.codec = .h264 := rfl
  obtain ⟨size, fromRecord, fromStream, prefixes, framed, plain, alike, formats⟩ :=
    publishes_alike read streamable codec
  cases (Option.some.inj prefixes : (4 : UInt8) = size)
  obtain ⟨packet, first, second⟩ := alike (Packet.make 0 3000 []).keyframe units units_fit
  obtain ⟨format, told, same, -⟩ := formats agrees
  exact ⟨fromRecord, fromStream, packet, format, framed, plain, first, second, told, same⟩

end WhipWhep
