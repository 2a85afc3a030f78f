import WhipWhep.Proofs.Sdp.RoundTrip

/-!
The normal form of a text is what is written of the description that is read from it. Whatever lines a text has and
however they end, its normal form says the same and is its own normal form, and texts have one normal form only if they
are read as one description.
-/

namespace WhipWhep.Sdp.MediaDescription

/-- What is written of the description that a text gives. -/
def normalise (text : List Char) : Except Malformation (List Char) :=
  (parse text).map render

section Writing

variable {text other normal : List Char} {media : MediaDescription}

theorem parse_render_of_writable (writable : Writable media) : parse media.render = .ok media :=
  parse_described.2 ⟨_, _, firstSection_render writable, describes_written writable⟩

theorem parse_render_of_parse (read : parse text = .ok media) : parse media.render = .ok media :=
  parse_render_of_writable (writable_of_parse read)

/-- No description is lost in its normal form. -/
theorem parse_of_normalise (written : normalise text = .ok normal) : parse normal = parse text := by
  obtain ⟨media, read, rfl⟩ := map_eq_ok_iff.1 written
  rw [read, parse_render_of_parse read]

theorem normalise_of_normalise (written : normalise text = .ok normal) : normalise normal = .ok normal := by
  rw [← written, normalise, normalise, parse_of_normalise written]

/-- Reading tells apart whatever writing does. -/
theorem normalise_eq_iff (read : parse text = .ok media) :
    normalise other = normalise text ↔ parse other = parse text := by
  have written : normalise text = .ok media.render := by rw [normalise, read]; rfl
  constructor
  · intro same
    rw [← parse_of_normalise (same.trans written), parse_render_of_parse read, read]
  · intro same
    rw [normalise, same, normalise]

/-- The normal forms are what descriptions that can stand in a text are written as. -/
theorem normalise_eq_self_iff : normalise text = .ok text ↔ ∃ media, Writable media ∧ media.render = text := by
  constructor
  · intro fixed
    obtain ⟨media, read, same⟩ := map_eq_ok_iff.1 fixed
    exact ⟨media, writable_of_parse read, same.symm⟩
  · rintro ⟨media, writable, rfl⟩
    rw [normalise, parse_render_of_writable writable]
    rfl

end Writing

/-- How a text and its normal form are read and written. -/
structure Normalises (text : List Char) : Prop where
  reread : ∀ {media : MediaDescription}, parse text = .ok media → parse media.render = .ok media
  told : ∀ {normal : List Char}, normalise text = .ok normal → parse normal = parse text
  idempotent : (normalise text >>= normalise) = normalise text
  apart : ∀ {media : MediaDescription} {other : List Char}, parse text = .ok media →
    (normalise other = normalise text ↔ parse other = parse text)
  fixed : normalise text = .ok text ↔ ∃ media, Writable media ∧ media.render = text

/-- A description that is read from any text at all can be written and read again without a change. -/
theorem render_normalises (text : List Char) : Normalises text where
  reread := parse_render_of_parse
  told := parse_of_normalise
  idempotent := by
    cases written : normalise text with
    | error cause => rfl
    | ok normal => exact normalise_of_normalise written
  apart := normalise_eq_iff
  fixed := normalise_eq_self_iff

namespace Mixed

/-- Lines that end in two ways, attributes that are said twice or are not known, and two payload types. -/
def text : List Char :=
  ("s=-\nm=audio 9 RTP/AVP 0 96\r\na=rtpmap:96 opus/48000/2\na=mid:first\na=ptime:20\r\n" ++
    "a=fmtp:0  x=1 \na=mid:second\n").toList

def media : MediaDescription :=
  ⟨.audio, 9, "RTP/AVP", 0, .pcmMulaw, 8000, some 1, some "x=1", some "second", none⟩

def normal : List Char :=
  "m=audio 9 RTP/AVP 0\r\na=mid:second\r\na=rtpmap:0 PCMU/8000/1\r\na=fmtp:0 x=1\r\n".toList

end Mixed

open Mixed in
theorem render_normalises_mixed : parse text = .ok media ∧ media.render = normal ∧ parse normal = .ok media ∧
    normalise normal = .ok normal := by
  have read : parse text = .ok media := by decide +kernel
  have written : media.render = normal := by decide +kernel
  have again : parse normal = .ok media := written ▸ (render_normalises text).reread read
  have normalised : normalise text = .ok normal := by
    rw [normalise, read, ← written]
    rfl
  have settled := (render_normalises text).idempotent
  rw [normalised] at settled
  exact ⟨read, written, again, settled⟩

end WhipWhep.Sdp.MediaDescription
