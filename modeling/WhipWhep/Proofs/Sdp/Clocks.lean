import WhipWhep.Proofs.Sdp.RoundTrip

/-!
The clock of a received stream. Its timestamps count in ticks of the clock rate that its description states, and a rate
of zero is taken as any other, unlike the sample rate of a stream that is made by hand: a tick is then one second
divided by zero.
-/

namespace WhipWhep

/-- A stream that is made by hand has a clock, whatever its sample rate. -/
theorem StreamParams.audio_ticks (codec : Codec) (sampleRate : UInt32) (channels : UInt8) :
    1 ≤ (audio codec sampleRate channels).timeBase.den := by
  show 1 ≤ if sampleRate ≤ 1 then 1 else sampleRate
  split
  · exact UInt32.le_refl 1
  · next more => exact UInt32.le_of_lt (UInt32.not_le.1 more)

namespace Sdp

variable {text rate : List Char} {payloadType : UInt8} {media : MediaDescription}

theorem readRate?_eq_zero_iff : readRate? rate = some 0 ↔ Text.IsZero rate := by
  have room : 0 < UInt32.size := by decide
  rw [← Text.readDecimal_eq_zero_iff room, readRate?, Option.map_eq_some_iff]
  constructor
  · rintro ⟨value, read, none⟩
    have small := Text.lt_of_readDecimal read
    have same := congrArg UInt32.toNat none
    rw [UInt32.toNat_ofNat_of_lt' small] at same
    rwa [← show value = 0 from same]
  · exact fun read => ⟨0, read, rfl⟩

/-- What a text says last of a payload type, in its first section, gives it the clock rate zero. -/
def Halted (payloadType : UInt8) (text : List Char) : Prop :=
  ∃ headline attributes encoding name rate more, FirstSection text headline attributes ∧
    lastSaid (encodingFor? payloadType) attributes = some encoding ∧
    encoding.splitOn '/' = name :: rate :: more ∧ Text.IsZero rate

namespace MediaDescription

theorem static?_clockRate {meaning : Encoding} (fixed : Encoding.static? payloadType = some meaning) :
    meaning.clockRate = 8000 := by
  unfold Encoding.static? at fixed
  split at fixed
  · cases fixed
    rfl
  · split at fixed
    · cases fixed
      rfl
    · cases fixed

/-- A description is without a clock only if the text says so. -/
theorem clockRate_eq_zero_iff (read : parse text = .ok media) :
    media.clockRate = 0 ↔ Halted media.payloadType text := by
  constructor
  · intro none
    obtain ⟨headline, attributes, first, describes⟩ := parse_described.1 read
    have meaning := describes.meaning
    unfold StandsFor at meaning
    split at meaning
    · next encoding last =>
      obtain ⟨name, rate, more, parts, -, timed, -⟩ := meaning
      dsimp only at timed
      rw [none] at timed
      exact ⟨headline, attributes, encoding, name, rate, more, first, last, parts, readRate?_eq_zero_iff.1 timed⟩
    · have fixed := static?_clockRate meaning
      rw [none] at fixed
      cases fixed
  · rintro ⟨headline, attributes, encoding, name, rate, more, first, last, parts, zero⟩
    rw [parse_of_firstSection first, ofLines_eq_ok_iff] at read
    have meaning := read.meaning
    unfold StandsFor at meaning
    rw [last] at meaning
    obtain ⟨_, _, _, again, -, timed, -⟩ := meaning
    cases parts.symm.trans again
    exact Option.some.inj (timed.symm.trans (readRate?_eq_zero_iff.2 zero))

theorem timeBase_streamParams (media : MediaDescription) :
    media.streamParams.timeBase = .ofClockRate media.clockRate := rfl

/-- A received stream has the time base of the clock rate that its description states, and there is something to divide
by exactly if what the text says last of the payload type is not a rate of zero. -/
theorem streamParams_ticks (read : parse text = .ok media) :
    media.streamParams.timeBase = .ofClockRate media.clockRate ∧
      (1 ≤ media.streamParams.timeBase.den ↔ ¬ Halted media.payloadType text) := by
  refine ⟨timeBase_streamParams media, ?_⟩
  rw [← clockRate_eq_zero_iff read, timeBase_streamParams, UInt32.le_iff_toNat_le, ← UInt32.toNat_inj]
  exact Nat.one_le_iff_ne_zero

namespace Restated

/-- A rate that is given and then taken back. -/
def given : List Char := "m=video 9 RTP/AVP 96\r\na=rtpmap:96 VP8/90000\r\na=rtpmap:96 VP8/+00\r\n".toList

def read : MediaDescription := ⟨.video, 9, "RTP/AVP", 96, .vp8, 0, none, none, none, none⟩

end Restated

open Restated in
theorem streamParams_ticks_restated :
    parse given = .ok read ∧ ¬ 1 ≤ read.streamParams.timeBase.den ∧ Halted 96 given := by
  have accepted : parse given = .ok read := by decide
  have still : ¬ 1 ≤ read.streamParams.timeBase.den := by decide
  exact ⟨accepted, still, not_not.1 fun ticks => still ((streamParams_ticks accepted).2.2 ticks)⟩

/-- Not every description that is accepted gives its stream a clock. -/
theorem streamParams_halted : ¬ ∀ text media, parse text = .ok media → 1 ≤ media.streamParams.timeBase.den := by
  intro every
  have read : parse "m=audio 9 RTP/AVP 96\r\na=rtpmap:96 opus/0\r\n".toList =
      .ok ⟨.audio, 9, "RTP/AVP", 96, .opus, 0, none, none, none, none⟩ := by decide
  exact absurd (every _ _ read) (by decide)

end MediaDescription
end Sdp
end WhipWhep
