import WhipWhep.Media.Codec
import WhipWhep.Text.Hex

/-!
Elementary streams: what is known of one beforehand, and the packets it is made of.
-/

namespace WhipWhep

/-- A tick of a timestamp lasts `num / den` seconds. -/
structure TimeBase where
  num : UInt32
  den : UInt32
  deriving DecidableEq

namespace TimeBase

def standard : TimeBase := ⟨1, 90000⟩

def ofClockRate (rate : UInt32) : TimeBase := ⟨1, rate⟩

end TimeBase

structure StreamParams where
  kind : MediaKind
  codec : Codec
  sampleRate : UInt32
  channels : UInt8
  width : UInt32
  height : UInt32
  extradata : Bytes
  timeBase : TimeBase
  deriving DecidableEq

namespace StreamParams

def video (codec : Codec) (width height : UInt32) : StreamParams where
  kind := .video
  codec := codec
  sampleRate := 0
  channels := 0
  width := width
  height := height
  extradata := []
  timeBase := .standard

/-- A stream without a sample rate counts in seconds. -/
def audio (codec : Codec) (sampleRate : UInt32) (channels : UInt8) : StreamParams where
  kind := .audio
  codec := codec
  sampleRate := sampleRate
  channels := channels
  width := 0
  height := 0
  extradata := []
  timeBase := .ofClockRate (max sampleRate 1)

def withExtradata (params : StreamParams) (extradata : Bytes) : StreamParams :=
  { params with extradata := extradata }

end StreamParams

structure Packet where
  stream : Nat
  pts : Int
  dts : Int
  isKeyframe : Bool
  payload : Bytes
  deriving DecidableEq

namespace Packet

def make (stream : Nat) (pts : Int) (payload : Bytes) : Packet :=
  ⟨stream, pts, pts, false, payload⟩

def keyframe (packet : Packet) : Packet :=
  { packet with isKeyframe := true }

end Packet
end WhipWhep
