import WhipWhep.Proofs.Sdp.RoundTrip
import WhipWhep.Proofs.Steps
import WhipWhep.Rehearsal.Negotiation
import WhipWhep.Sdp.Offer

/-!
Offers. Descriptions that are written one after the other are the media sections of the text again, and
each is read back from its section. The format parameters that are advertised for a stream can stand in
such a section.
-/

namespace WhipWhep.Sdp

/-- The texts of a description do not break the lines that they are written into. -/
structure Unbroken (media : MediaDescription) : Prop where
  protocol : '\n' ∉ media.protocol.toList
  fmtp : ∀ fmtp ∈ media.fmtp, '\n' ∉ fmtp.toList
  mid : ∀ mid ∈ media.mid, '\n' ∉ mid.toList

theorem Writable.unbroken {media : MediaDescription} (writable : Writable media) : Unbroken media where
  protocol := (isLine_of_unblank writable.protocol.2).1
  fmtp fmtp stated := (writable.fmtp fmtp stated).1
  mid mid stated := (writable.mid mid stated).1

namespace MediaDescription

variable {media : MediaDescription} {medias : List MediaDescription}

/-- What can be written is read back. -/
theorem parse_render (writable : Writable media) : parse media.render = .ok media :=
  parse_described.2 ⟨_, _, firstSection_render writable, describes_written writable⟩

theorem unbroken_headline (unbroken : Unbroken media) : '\n' ∉ "m=".toList ++ media.headline := by
  have kind : '\n' ∉ media.kind.name.toList := by cases media.kind <;> decide
  have port := (isLine_writeDecimal media.port.toNat).1
  have payloadType := (isLine_writeDecimal media.payloadType.toNat).1
  simp [headline, kind, port, payloadType, unbroken.protocol]

theorem unbroken_attributeLines (unbroken : Unbroken media) : ∀ line ∈ media.attributeLines, '\n' ∉ line := by
  have payloadType := (isLine_writeDecimal media.payloadType.toNat).1
  have encoding := (isLine_of_unblank (unblank_of_encodingText media)).1
  intro line member
  simp only [attributeLines, List.mem_append, List.mem_map, List.mem_singleton, Option.mem_toList] at member
  rcases member with ((⟨mid, stated, rfl⟩ | ⟨direction, -, rfl⟩) | rfl) | ⟨fmtp, stated, rfl⟩
  · simp [attributeLine, unbroken.mid mid stated]
  · cases direction <;> decide
  · simp [attributeLine, targeted, payloadType, encoding]
  · simp [attributeLine, targeted, payloadType, unbroken.fmtp fmtp stated]

theorem unbroken_renderLines (unbroken : Unbroken media) : ∀ line ∈ media.renderLines, '\n' ∉ line := by
  rw [renderLines_eq]
  exact List.forall_mem_cons.2 ⟨unbroken_headline unbroken, unbroken_attributeLines unbroken⟩

/-- The lines of descriptions that are written one after the other. -/
theorem rawLines_renders (unbroken : ∀ media ∈ medias, Unbroken media) :
    Text.rawLines (medias.flatMap render) =
      (medias.flatMap renderLines).map fun line => line ++ ['\r', '\n'] := by
  have whole : ∀ line ∈ medias.flatMap renderLines, '\n' ∉ line := by
    intro line member
    obtain ⟨media, among, written⟩ := List.mem_flatMap.1 member
    exact unbroken_renderLines (unbroken media among) line written
  rw [← Text.rawLines_terminated whole, List.flatMap_assoc]
  rfl

theorem startsMedia_first (media : MediaDescription) :
    startsMedia ("m=".toList ++ media.headline ++ ['\r', '\n']) = true := by
  rw [startsMedia_iff, List.append_assoc]
  exact List.prefix_append _ _

theorem startsMedia_attributeLine (media : MediaDescription) :
    ∀ line ∈ media.attributeLines, startsMedia (line ++ ['\r', '\n']) = false := by
  intro line member
  simp only [attributeLines, List.mem_append, List.mem_map, List.mem_singleton] at member
  rcases member with ((⟨_, -, rfl⟩ | ⟨_, -, rfl⟩) | rfl) | ⟨_, -, rfl⟩ <;> rfl

/-- Each description is a section of its own. -/
theorem gather_renderLines (medias : List MediaDescription) :
    gather ((medias.flatMap renderLines).map fun line => line ++ ['\r', '\n']) = medias.map render := by
  induction medias with
  | nil => rfl
  | cons media medias ih =>
    have inside : ∀ line ∈ media.attributeLines.map fun line => line ++ ['\r', '\n'],
        startsMedia line = false := by
      intro line member
      obtain ⟨line, written, rfl⟩ := List.mem_map.1 member
      exact startsMedia_attributeLine media line written
    have next : ∀ line ∈ ((medias.flatMap renderLines).map fun line => line ++ ['\r', '\n']).head?,
        startsMedia line = true := by
      cases medias with
      | nil => exact nofun
      | cons other medias =>
        rintro _ ⟨⟩
        exact startsMedia_first other
    have own : media.render = ((media.renderLines).map fun line => line ++ ['\r', '\n']).flatten :=
      List.flatMap_def
    rw [List.flatMap_cons, renderLines_eq, List.cons_append, List.map_cons, List.map_append,
      gather_section (startsMedia_first media) inside next, ih, List.map_cons, own, renderLines_eq, List.map_cons]

/-- The sections of a text that consists of a beginning without sections, and of descriptions. -/
theorem mediaSections_renders {before : List Char} (closed : ∀ c ∈ before.getLast?, c = '\n')
    (none : ∀ line ∈ Text.lines before, ¬ "m=".toList <+: line)
    (unbroken : ∀ media ∈ medias, Unbroken media) :
    mediaSections (before ++ medias.flatMap render) = medias.map render := by
  rw [mediaSections, Text.rawLines_append closed, gather_append (unstarted_of_map_chomp none),
    rawLines_renders unbroken, gather_renderLines]

end MediaDescription

section Formats

variable {text format : List Char} {params : StreamParams} {payloadType : UInt8}

/-- A text that can be written as format parameters. -/
def IsFormat (format : List Char) : Prop := '\n' ∉ format ∧ Text.trim format = format

instance (format : List Char) : Decidable (IsFormat format) := inferInstanceAs (Decidable (_ ∧ _))

theorem isFormat_of_firstFormat? (found : firstFormat? text = some format) : format ≠ [] ∧ IsFormat format := by
  obtain ⟨stated, first, rest⟩ := Option.bind_eq_some_iff.1 found
  obtain ⟨⟨target, value⟩, split, kept⟩ := Option.bind_eq_some_iff.1 rest
  obtain ⟨line, member, after⟩ := List.exists_of_findSome?_eq_some first
  have whole := Text.isLine_of_lines member
  rw [Text.after?_eq_some_iff.1 after, Text.eq_of_splitFirst split] at whole
  dsimp only at kept
  split at kept
  · cases kept
  · next some =>
    cases kept
    refine ⟨fun empty => some (List.isEmpty_iff.2 empty), fun broken => whole.1 ?_, Text.trim_trim value⟩
    have inside : '\n' ∈ value := (Text.trim_infix value).subset broken
    simp [inside]

theorem isFormat_levelAsymmetry : IsFormat levelAsymmetry :=
  ⟨by decide, Text.trim_of_word (Text.unblank_of_any rfl)⟩

/-- Parameters stay as they are with others behind them. -/
theorem IsFormat.leveled (stated : IsFormat format) (some : format ≠ []) :
    IsFormat (format ++ ';' :: levelAsymmetry) := by
  have rest : '\n' ∉ ';' :: levelAsymmetry := by decide
  refine ⟨fun broken => (List.mem_append.1 broken).elim stated.1 rest, Text.trim_of_ends ?_ ?_⟩
  · rw [List.head?_append_of_ne_nil _ some, ← stated.2]
    exact Text.first_of_trim
  · rw [List.getLast?_append_of_ne_nil _ (List.cons_ne_nil _ _)]
    rintro _ ⟨⟩
    decide

/-- What is advertised for a stream can be written. -/
theorem isFormat_of_advertised (told : advertisedFormat params payloadType = .ok (some format)) :
    IsFormat format := by
  obtain ⟨text, -, same⟩ := map_eq_ok_iff.1 told
  dsimp only at same
  split at same
  · cases found : firstFormat? text with
    | none =>
      rw [found] at same
      cases same
      exact isFormat_levelAsymmetry
    | some stated =>
      rw [found] at same
      cases same
      obtain ⟨some, fits⟩ := isFormat_of_firstFormat? found
      exact fits.leveled some
  · exact (isFormat_of_firstFormat? same.symm).2

end Formats

section Offers

variable {init : TrackInit} {tracks : List TrackInit}

theorem isWord_transport : Text.IsWord "UDP/TLS/RTP/SAVPF".toList :=
  ⟨by decide, Text.unblank_of_any rfl⟩

/-- The description of a track can be written if its texts can. -/
theorem writable_describe (profile : ∀ profile ∈ init.profile, IsFormat profile.toList)
    (mid : Text.IsLine init.mid.toList) : Writable init.describe where
  protocol := isWord_transport
  fmtp := profile
  mid := by
    rintro _ ⟨⟩
    exact mid

theorem isLine_numeral (n : Nat) : Text.IsLine (numeral n).toList := by
  rw [numeral, String.toList_ofList]
  exact isLine_writeDecimal n

/-- An offer has a section for each of its tracks, in their order. -/
theorem mediaSections_offer (writable : ∀ init ∈ tracks, Writable init.describe) :
    mediaSections (Rehearsal.offer tracks).toList = tracks.map fun init => init.describe.render := by
  have closed : ∀ c ∈ Rehearsal.preamble.getLast?, c = '\n' := by
    rintro _ ⟨⟩
    rfl
  have none : ∀ line ∈ Text.lines Rehearsal.preamble, ¬ "m=".toList <+: line := by decide
  have unbroken : ∀ media ∈ tracks.map TrackInit.describe, Unbroken media := by
    intro media member
    obtain ⟨init, among, rfl⟩ := List.mem_map.1 member
    exact (writable init among).unbroken
  have all := MediaDescription.mediaSections_renders closed none unbroken
  rw [List.flatMap_map, List.map_map] at all
  rw [Rehearsal.offer, String.toList_ofList]
  exact all

end Offers

end WhipWhep.Sdp
