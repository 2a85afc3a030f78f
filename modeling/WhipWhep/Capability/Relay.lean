import WhipWhep.Error
import WhipWhep.Media.Stream

/-!
What the RTP layer does with the transport of a track during one call. The layer reaches the engine
in no other way, so a call to it is a small program over the transport.
-/

namespace WhipWhep

inductive Relay (α : Type) where
  | done (result : α)
  | send (message : Bytes) (next : Except Error Nat → Relay α)
  | receive (capacity : Nat) (next : Except Error Bytes → Relay α)
  /-- The layer takes down in its own books that a writer has carried a packet. -/
  | note (writer : Nat) (packet : Packet) (next : Relay α)

end WhipWhep
