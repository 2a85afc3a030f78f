import WhipWhep.Capability.Relay
import WhipWhep.Sdp.MediaDescription

/-!
The RTP layer, which turns packets of a stream into messages of a track and back. It opens a writer
for a stream of the caller and a reader for a negotiated stream, each on the transport of one track.
-/

namespace WhipWhep

/-- The largest message of a transport. -/
def maxPacketSize : Nat := 1280

/-- What the layer can ask a transport about. -/
structure TransportInfo where
  rwTimeout : Nat
  maxPacket : Nat
  deriving DecidableEq

/-- An open writer, under the layer's name for it. -/
structure Writer where
  key : Nat
  payloadType : UInt8
  ssrc : UInt32
  deriving DecidableEq

/-- An open reader, under the layer's name for it. -/
structure Reader where
  key : Nat
  params : StreamParams
  deriving DecidableEq

inductive LayerCall where
  | openWriter (params : StreamParams) (index : Nat) (transport : TransportInfo)
  | openReader (media : Sdp.MediaDescription) (transport : TransportInfo)
  | write (writer : Nat) (packet : Packet)
  | read (reader : Nat)
  | closeWriter (writer : Nat)
  | closeReader (reader : Nat)
  /-- The session lets go of its own hold on the transport of a track. -/
  | releaseTransport (index : Nat)
  | note (writer : Nat) (packet : Packet)
  deriving DecidableEq

@[reducible] def LayerCall.Answer : LayerCall → Type
  | openWriter _ _ _ => Relay (Except Error Writer)
  | openReader _ _ => Relay (Except Error Reader)
  | write _ _ => Relay (Except Error Unit)
  | read _ => Relay (Except Error Packet)
  | closeWriter _ => Relay Unit
  | closeReader _ => Relay Unit
  | releaseTransport _ => Unit
  | note _ _ => Unit

end WhipWhep
