/-!
Codecs, under the three kinds of names they go by: their own, the one that a session description
uses, and the one that a peer connection uses for the codecs it can carry.
-/

namespace WhipWhep

inductive MediaKind where
  | audio
  | video
  deriving DecidableEq

def MediaKind.name : MediaKind → String
  | .audio => "audio"
  | .video => "video"

inductive Codec where
  | h264
  | hevc
  | av1
  | vp8
  | vp9
  | opus
  | aac
  | pcmAlaw
  | pcmMulaw
  | mp3
  | mpeg4
  deriving DecidableEq

namespace Codec

def all : List Codec := [h264, hevc, av1, vp8, vp9, opus, aac, pcmAlaw, pcmMulaw, mp3, mpeg4]

def name : Codec → String
  | h264 => "H264"
  | hevc => "Hevc"
  | av1 => "Av1"
  | vp8 => "Vp8"
  | vp9 => "Vp9"
  | opus => "Opus"
  | aac => "Aac"
  | pcmAlaw => "PcmAlaw"
  | pcmMulaw => "PcmMulaw"
  | mp3 => "Mp3"
  | mpeg4 => "Mpeg4"

def kind : Codec → MediaKind
  | h264 | hevc | av1 | vp8 | vp9 | mpeg4 => .video
  | opus | aac | pcmAlaw | pcmMulaw | mp3 => .audio

/-- The encoding name in a session description. -/
def encodingName : Codec → String
  | h264 => "H264"
  | hevc => "H265"
  | av1 => "AV1"
  | vp8 => "VP8"
  | vp9 => "VP9"
  | opus => "opus"
  | aac => "mpeg4-generic"
  | pcmAlaw => "PCMA"
  | pcmMulaw => "PCMU"
  | mp3 => "MPA"
  | mpeg4 => "MP4V-ES"

/-- Encoding names are compared without regard to the case of ASCII letters. -/
def sameName (a b : List Char) : Bool :=
  a.map Char.toLower == b.map Char.toLower

def ofEncodingName? (name : List Char) : Option Codec :=
  all.find? fun codec => sameName codec.encodingName.toList name

/-- The RTP clock of the codec. Where the codec fixes none, it is the sample rate of the stream. -/
def clockRate (codec : Codec) (sampleRate : UInt32) : UInt32 :=
  match codec with
  | opus => 48000
  | pcmAlaw | pcmMulaw => 8000
  | aac => sampleRate
  | _ => 90000

/-- Whether streams of the codec can be published. -/
def isPublishable : Codec → Bool
  | opus | aac | pcmMulaw | pcmAlaw | h264 | hevc | av1 | vp9 => true
  | vp8 | mp3 | mpeg4 => false

/-- The payload type that a stream at an index gets by convention: the static ones for G.711, else
one of the 32 dynamic ones. -/
def payloadType (codec : Codec) (index : Nat) : UInt8 :=
  match codec with
  | pcmMulaw => 0
  | pcmAlaw => 8
  | _ => 96 + UInt8.ofNat (min index 31)

end Codec

/-- The codecs that a peer connection carries. -/
inductive EngineCodec where
  | h264
  | h265
  | vp8
  | vp9
  | av1
  | opus
  | pcmu
  | pcma
  | aac
  deriving DecidableEq

namespace EngineCodec

def all : List EngineCodec := [h264, h265, vp8, vp9, av1, opus, pcmu, pcma, aac]

def name : EngineCodec → String
  | h264 => "H264"
  | h265 => "H265"
  | vp8 => "Vp8"
  | vp9 => "Vp9"
  | av1 => "Av1"
  | opus => "Opus"
  | pcmu => "Pcmu"
  | pcma => "Pcma"
  | aac => "Aac"

def codec : EngineCodec → Codec
  | h264 => .h264
  | h265 => .hevc
  | vp8 => .vp8
  | vp9 => .vp9
  | av1 => .av1
  | opus => .opus
  | pcmu => .pcmMulaw
  | pcma => .pcmAlaw
  | aac => .aac

def ofCodec? : Codec → Option EngineCodec
  | .h264 => some h264
  | .hevc => some h265
  | .vp8 => some vp8
  | .vp9 => some vp9
  | .av1 => some av1
  | .opus => some opus
  | .aac => some aac
  | .pcmAlaw => some pcma
  | .pcmMulaw => some pcmu
  | .mp3 | .mpeg4 => none

end EngineCodec

/-- Which way media flows on a track. -/
inductive Direction where
  | sendOnly
  | recvOnly
  | sendRecv
  | inactive
  deriving DecidableEq

namespace Direction

def keyword : Direction → String
  | sendOnly => "sendonly"
  | recvOnly => "recvonly"
  | sendRecv => "sendrecv"
  | inactive => "inactive"

def ofKeyword? (text : List Char) : Option Direction :=
  [sendOnly, recvOnly, sendRecv, inactive].find? fun direction =>
    direction.keyword.toList == text

end Direction
end WhipWhep
