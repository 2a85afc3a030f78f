import WhipWhep.Capability.Script

/-!
What a stand-in for the engine negotiates: the descriptions of its tracks, and the offers that are
made of them.
-/

namespace WhipWhep

/-- The media description that is negotiated for a track when nothing else is said. -/
def TrackInit.describe (init : TrackInit) : Sdp.MediaDescription :=
  let codec := init.codec.codec
  { kind := codec.kind
    port := 9
    protocol := "UDP/TLS/RTP/SAVPF"
    payloadType := init.payloadType
    codec := codec
    clockRate := codec.clockRate 48000
    channels := match codec.kind with
      | .video => none
      | .audio => some (if codec = .opus then 2 else 1)
    fmtp := init.profile
    mid := some init.mid
    direction := some init.direction }

namespace Rehearsal

/-- What stands before the media sections. -/
def preamble : List Char := "v=0\r\no=- 0 0 IN IP4 127.0.0.1\r\ns=-\r\nt=0 0\r\n".toList

/-- The local description of a peer connection with the given tracks. -/
def offer (tracks : List TrackInit) : String :=
  String.ofList (preamble ++ tracks.flatMap fun init => init.describe.render)

/-- An answer that peer connections take. -/
def acceptableAnswer : String := "v=0\r\no=- 1 1 IN IP4 127.0.0.1\r\ns=-\r\nt=0 0\r\n"

def isDescription (text : String) : Bool := "v=0".toList.isPrefixOf text.toList

end Rehearsal
end WhipWhep
