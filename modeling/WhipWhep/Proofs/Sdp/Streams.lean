import WhipWhep.Proofs.Sdp.Offer

/-!
How the streams of a caller are described. A stream has no description exactly if it has a codec header that its codec
cannot read. Otherwise its media section is read back as what was to be described by both readers, the one of
descriptions and the one that only looks for format parameters.
-/

namespace WhipWhep

namespace Text

theorem unblank_hexDigit (n : Nat) : isBlank (hexDigit n) = false := by
  have digits : ∀ digit < 16, isBlank (Nat.digitChar digit) = false := by decide
  exact digits (n % 16) (Nat.mod_lt n (by decide))

theorem unblank_of_hex {bytes : Bytes} : ∀ c ∈ hex bytes, isBlank c = false := by
  intro c member
  obtain ⟨byte, -, digit⟩ := List.mem_flatMap.1 member
  simp only [hexByte, List.mem_cons, List.not_mem_nil, or_false] at digit
  rcases digit with rfl | rfl <;> exact unblank_hexDigit _

end Text

namespace Sdp

variable {params : StreamParams} {payloadType : UInt8} {media : MediaDescription} {format : List Char}

/-- A stream with a codec header that its codec cannot read. -/
def Refused (params : StreamParams) : Prop :=
  params.extradata ≠ [] ∧
    (params.codec = .h264 ∧ AvcConfig.ofExtradata? params.extradata = none ∨
      params.codec = .aac ∧ AudioConfig.parse? params.extradata = none)

/-! The format parameters of a stream. -/

theorem formatOf_refused (refused : Refused params) : ∃ cause, formatOf params = .error cause := by
  obtain ⟨given, ⟨codec, unread⟩ | ⟨codec, unread⟩⟩ := refused
  · refine ⟨.invalidAvcConfig, ?_⟩
    simp [formatOf, codec, given, unread, demand, Except.map]
  · refine ⟨.invalidAacConfig, ?_⟩
    simp [formatOf, codec, given, unread, demand, Except.map]

/-- Whatever is stated for a stream is one word. -/
theorem isWord_of_formatOf (stated : formatOf params = .ok (some format)) : Text.IsWord format := by
  have mode : Text.IsWord "packetization-mode=1".toList := ⟨by decide, Text.unblank_of_any rfl⟩
  have level : ∀ c ∈ ";profile-level-id=".toList, Text.isBlank c = false := Text.unblank_of_any rfl
  have general : Text.IsWord
      "profile-level-id=1;mode=AAC-hbr;sizelength=13;indexlength=3;indexdeltalength=3;config=".toList :=
    ⟨by decide, Text.unblank_of_any rfl⟩
  unfold formatOf at stated
  split at stated
  · split at stated
    · cases stated
      exact mode
    · obtain ⟨config, -, same⟩ := map_eq_ok_iff.1 stated
      cases same
      exact (mode.append level).append Text.unblank_of_hex
  · split at stated
    · cases stated
      exact ⟨by decide, Text.unblank_of_any rfl⟩
    · cases stated
  · split at stated
    · cases stated
    · obtain ⟨config, -, same⟩ := map_eq_ok_iff.1 stated
      cases same
      exact general.append Text.unblank_of_hex
  · cases stated

theorem formatOf_leveled {fmtp : Option (List Char)} (stated : formatOf params = .ok fmtp)
    (codec : params.codec = .h264) : ∃ format, fmtp = some format := by
  unfold formatOf at stated
  simp only [codec] at stated
  split at stated
  · cases stated
    exact ⟨_, rfl⟩
  · obtain ⟨config, -, same⟩ := map_eq_ok_iff.1 stated
    exact ⟨_, same⟩

theorem formatOf_taken (taken : ¬ Refused params) : ∃ fmtp, formatOf params = .ok fmtp := by
  unfold formatOf
  split
  · next codec =>
    split
    · exact ⟨_, rfl⟩
    · next given =>
      cases read : AvcConfig.ofExtradata? params.extradata with
      | none => exact absurd ⟨by simpa using given, .inl ⟨codec, read⟩⟩ taken
      | some config => exact ⟨_, rfl⟩
  · exact ⟨_, rfl⟩
  · next codec =>
    split
    · exact ⟨_, rfl⟩
    · next given =>
      cases read : AudioConfig.parse? params.extradata with
      | none => exact absurd ⟨by simpa using given, .inr ⟨codec, read⟩⟩ taken
      | some config => exact ⟨_, rfl⟩
  · exact ⟨_, rfl⟩

/-! The reader of format parameters. -/

/-- Of the lines that are written, only the one with the format parameters is taken for one. -/
theorem findSome?_renderLines (media : MediaDescription) :
    media.renderLines.findSome? (Text.after? "a=fmtp:".toList) =
      media.fmtp.map fun fmtp => MediaDescription.targeted media.payloadType fmtp.toList := by
  have first : Text.after? "a=fmtp:".toList ("m=".toList ++ media.headline) = none := rfl
  have mid : ∀ value, Text.after? "a=fmtp:".toList (MediaDescription.attributeLine "mid" value) = none :=
    fun _ => rfl
  have direction : ∀ direction, Text.after? "a=fmtp:".toList (MediaDescription.directionLine direction) = none := by
    intro direction
    cases direction <;> rfl
  have rtpmap : ∀ value, Text.after? "a=fmtp:".toList (MediaDescription.attributeLine "rtpmap" value) = none :=
    fun _ => rfl
  have fmtp : ∀ value, Text.after? "a=fmtp:".toList (MediaDescription.attributeLine "fmtp" value) = some value :=
    fun _ => Text.after?_eq_some_iff.2 rfl
  rw [MediaDescription.renderLines_eq, ← List.head?_filterMap, List.filterMap_cons_none first,
    MediaDescription.filterMap_attributeLines]
  simp only [mid, direction, rtpmap, fmtp, Option.bind_fun_none, Option.toList_none, List.nil_append]
  cases media.fmtp <;> rfl

/-- What is written is found again by who looks for format parameters only. -/
theorem firstFormat?_render (writable : Writable media) (some : ∀ fmtp ∈ media.fmtp, fmtp ≠ "") :
    firstFormat? media.render = media.fmtp.map String.toList := by
  have lines : Text.lines media.render = media.renderLines :=
    Text.lines_terminated (MediaDescription.isLine_renderLines writable)
  rw [firstFormat?, lines, findSome?_renderLines]
  cases stated : media.fmtp with
  | none => rfl
  | some fmtp =>
    have trimmed := (writable.fmtp fmtp stated).2
    have full := some fmtp stated
    simp [MediaDescription.splitFirst_targeted, trimmed, full]

/-! Descriptions of streams. -/

/-- What is to be told of a stream can be written, and no empty parameters are among it. -/
theorem writable_of_ofStream (stated : MediaDescription.ofStream params payloadType = .ok media) :
    Writable media ∧ ∀ fmtp ∈ media.fmtp, fmtp ≠ "" := by
  obtain ⟨fmtp, given, rfl⟩ := map_eq_ok_iff.1 stated
  have word : ∀ text ∈ fmtp.map String.ofList, Text.IsWord text.toList := by
    intro text member
    obtain ⟨format, rfl, rfl⟩ := Option.map_eq_some_iff.1 member
    rw [String.toList_ofList]
    exact isWord_of_formatOf given
  have protocol : Text.IsWord plainTransport.toList := ⟨by decide, Text.unblank_of_any rfl⟩
  refine ⟨⟨protocol, fun text member => ?_, nofun⟩, fun text member => ?_⟩
  · exact ⟨(isLine_of_unblank (word text member).2).1, Text.trim_of_word (word text member).2⟩
  · rintro rfl
    exact (word "" member).1 rfl

/-- A stream and its media section: each reader finds what was to be described, and that is what is advertised. -/
structure Described (params : StreamParams) (payloadType : UInt8) (media : MediaDescription) (text : List Char) :
    Prop where
  stated : MediaDescription.ofStream params payloadType = .ok media
  written : describe params payloadType = .ok text
  alone : mediaSections text = [text]
  readBack : MediaDescription.parse text = .ok media
  found : firstFormat? text = media.fmtp.map String.toList
  plain : params.codec ≠ .h264 → advertisedFormat params payloadType = .ok (media.fmtp.map String.toList)
  leveled : params.codec = .h264 → ∃ fmtp, media.fmtp = some fmtp ∧
    advertisedFormat params payloadType = .ok (some (fmtp.toList ++ ";level-asymmetry-allowed=1".toList))

theorem mediaSections_render (unbroken : Unbroken media) : mediaSections media.render = [media.render] := by
  have each : ∀ other ∈ [media], Unbroken other := by simpa using unbroken
  have closed : ∀ c ∈ ([] : List Char).getLast?, c = '\n' := nofun
  simpa using MediaDescription.mediaSections_renders closed nofun each

theorem fmtp_of_ofStream (stated : MediaDescription.ofStream params payloadType = .ok media)
    (codec : params.codec = .h264) : ∃ fmtp, media.fmtp = some fmtp := by
  obtain ⟨fmtp, given, rfl⟩ := map_eq_ok_iff.1 stated
  obtain ⟨format, rfl⟩ := formatOf_leveled given codec
  exact ⟨String.ofList format, rfl⟩

theorem described_of_ofStream (stated : MediaDescription.ofStream params payloadType = .ok media) :
    Described params payloadType media media.render := by
  obtain ⟨writable, some⟩ := writable_of_ofStream stated
  have written : describe params payloadType = .ok media.render := map_eq_ok_iff.2 ⟨media, stated, rfl⟩
  have found := firstFormat?_render writable some
  refine
    { stated := stated
      written := written
      alone := mediaSections_render writable.unbroken
      readBack := MediaDescription.parse_render writable
      found := found
      plain := fun other => ?_
      leveled := fun codec => ?_ }
  · exact map_eq_ok_iff.2 ⟨_, written, by rw [if_neg other, found]⟩
  · obtain ⟨fmtp, same⟩ := fmtp_of_ofStream stated codec
    refine ⟨fmtp, same, map_eq_ok_iff.2 ⟨_, written, ?_⟩⟩
    rw [if_pos codec, found, same]
    rfl

/-- A stream is described, unless its codec header is refused. -/
theorem describe_reads_back (params : StreamParams) (payloadType : UInt8) :
    (Refused params ∧ ∃ cause, describe params payloadType = .error cause ∧
      advertisedFormat params payloadType = .error cause) ∨
    (¬ Refused params ∧ ∃ media text, Described params payloadType media text) := by
  by_cases refused : Refused params
  · obtain ⟨cause, failed⟩ := formatOf_refused refused
    refine .inl ⟨refused, cause, ?_⟩
    simp [advertisedFormat, describe, MediaDescription.ofStream, failed, Except.map]
  · obtain ⟨fmtp, given⟩ := formatOf_taken refused
    obtain ⟨media, stated⟩ : ∃ media, MediaDescription.ofStream params payloadType = .ok media :=
      ⟨_, map_eq_ok_iff.2 ⟨fmtp, given, rfl⟩⟩
    exact .inr ⟨refused, media, media.render, described_of_ofStream stated⟩

end Sdp
end WhipWhep
