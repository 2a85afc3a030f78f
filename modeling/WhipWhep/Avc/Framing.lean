import WhipWhep.Avc.Config
import WhipWhep.Error
import WhipWhep.Media.Stream

/-!
How the access units of a stream are framed anew before they are packetized: as byte streams, with
the parameter sets of the stream on every keyframe.
-/

namespace WhipWhep.Avc

structure Framing where
  parameterSets : Bytes
  lengthSize : Option UInt8
  deriving DecidableEq

namespace Framing

def ofConfig (config : AvcConfig) : Framing :=
  ⟨config.parameterSets, config.lengthSize⟩

/-- The access unit of a packet as a byte stream. -/
def accessUnit (framing : Framing) (packet : Packet) : Except MediaError Bytes :=
  match framing.lengthSize with
  | some size => demand .invalidAccessUnit (toByteStream? packet.payload size)
  | none => .ok packet.payload

def apply (framing : Framing) (packet : Packet) : Except MediaError Packet :=
  (framing.accessUnit packet).map fun unit =>
    if packet.isKeyframe then
      { packet with payload := withParameterSets unit framing.parameterSets }
    else { packet with payload := unit }

end Framing
end WhipWhep.Avc
