import WhipWhep.Rehearsal.Message

/-!
An RTP layer in memory. A packet becomes one message. The layer remembers every writer with the
packets it has carried, every reader with what it was opened for, and how many of both are open.
-/

namespace WhipWhep.InMemory

structure WriterRecord where
  payloadType : UInt8
  ssrc : UInt32
  params : StreamParams
  packets : List Packet
  deriving DecidableEq

structure ReaderRecord where
  payloadType : UInt8
  codec : Codec
  fmtp : Option String
  deriving DecidableEq

structure Rtp where
  writers : List WriterRecord
  readers : List ReaderRecord
  openSessions : Nat
  deriving DecidableEq

namespace Rtp

def empty : Rtp := ⟨[], [], 0⟩

/-- The sources of the writers, all different. -/
def ssrcOf (writer : Nat) : UInt32 := UInt32.ofNat (0x10000 + writer)

def openWriter (params : StreamParams) (index : Nat) (rtp : Rtp) : Writer × Rtp :=
  let key := rtp.writers.length
  let payloadType := params.codec.payloadType index
  (⟨key, payloadType, ssrcOf key⟩,
    { rtp with
      writers := rtp.writers ++ [⟨payloadType, ssrcOf key, params, []⟩]
      openSessions := rtp.openSessions + 1 })

def openReader (media : Sdp.MediaDescription) (rtp : Rtp) : Reader × Rtp :=
  (⟨rtp.readers.length, media.streamParams⟩,
    { rtp with
      readers := rtp.readers ++ [⟨media.payloadType, media.codec, media.fmtp⟩]
      openSessions := rtp.openSessions + 1 })

def close (rtp : Rtp) : Rtp := { rtp with openSessions := rtp.openSessions - 1 }

def note (writer : Nat) (packet : Packet) (rtp : Rtp) : Rtp :=
  { rtp with
    writers := rtp.writers.modify writer fun written =>
      { written with packets := written.packets ++ [packet] } }

def respond : (call : LayerCall) → Rtp → call.Answer × Rtp
  | .openWriter params index _, rtp =>
    let (writer, rtp) := rtp.openWriter params index
    (.done (.ok writer), rtp)
  | .openReader media _, rtp =>
    let (reader, rtp) := rtp.openReader media
    (.done (.ok reader), rtp)
  | .write writer packet, rtp =>
    (Rehearsal.write packet (.note writer packet (.done (.ok ()))), rtp)
  | .read _, rtp => (Rehearsal.read, rtp)
  | .closeWriter _, rtp => (.done (), rtp.close)
  | .closeReader _, rtp => (.done (), rtp.close)
  | .releaseTransport _, rtp => ((), rtp)
  | .note writer packet, rtp => ((), rtp.note writer packet)

end Rtp
end WhipWhep.InMemory
