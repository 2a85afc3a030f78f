import WhipWhep.Capability.Layer

/-!
How a stand-in for the RTP layer moves packets. A packet becomes one message: a byte that tells
keyframes, and the payload behind it.
-/

namespace WhipWhep.Rehearsal

def message (packet : Packet) : Bytes :=
  (if packet.isKeyframe then 1 else 0) :: packet.payload

/-- The packet in a message. Its timestamps are not told. -/
def packetOf : Bytes → Except Error Packet
  | [] => .error (.rtp "empty message")
  | flag :: payload =>
    .ok { Packet.make 0 0 payload with isKeyframe := flag == 1 }

/-- Sends a packet as one message and, if it went out, goes on with the books. -/
def write (packet : Packet) (sent : Relay (Except Error Unit)) : Relay (Except Error Unit) :=
  if maxPacketSize < (message packet).length then
    .done (.error (.rtp "packet exceeds transport size"))
  else
    .send (message packet) fun
      | .ok _ => sent
      | .error cause => .done (.error cause)

/-- Receives one message and takes it for a packet. -/
def read : Relay (Except Error Packet) :=
  .receive maxPacketSize fun
    | .ok message => .done (packetOf message)
    | .error cause => .done (.error cause)

end WhipWhep.Rehearsal
