import WhipWhep.Avc.Config
import WhipWhep.Media.AudioConfig
import WhipWhep.Sdp.MediaDescription

/-!
How a stream of the caller is described to others: its media section, and the format parameters that
are advertised for its track.
-/

namespace WhipWhep.Sdp

/-- The transport named in sections that are written for streams. -/
def plainTransport : String := "RTP/AVP"

/-- The format parameters of a stream, as far as its codec has any. -/
def formatOf (params : StreamParams) : Except MediaError (Option (List Char)) :=
  match params.codec with
  | .h264 =>
    let mode := "packetization-mode=1".toList
    if params.extradata.isEmpty then .ok (some mode)
    else
      (demand .invalidAvcConfig (AvcConfig.ofExtradata? params.extradata)).map fun config =>
        some (mode ++ ";profile-level-id=".toList ++ config.profileLevelId)
  | .opus => .ok (if params.channels = 2 then some "sprop-stereo=1".toList else none)
  | .aac =>
    if params.extradata.isEmpty then .ok none
    else
      (demand .invalidAacConfig (AudioConfig.parse? params.extradata)).map fun config =>
        some config.fmtp
  | _ => .ok none

def statedChannels (params : StreamParams) : Option UInt8 :=
  match params.kind with
  | .video => none
  | .audio =>
    match params.codec with
    | .opus => some 2
    | .pcmAlaw | .pcmMulaw => some 1
    | _ => some params.channels

def MediaDescription.ofStream (params : StreamParams) (payloadType : UInt8) :
    Except MediaError MediaDescription :=
  (formatOf params).map fun fmtp =>
    { kind := params.kind
      port := 0
      protocol := plainTransport
      payloadType := payloadType
      codec := params.codec
      clockRate := params.codec.clockRate params.sampleRate
      channels := statedChannels params
      fmtp := fmtp.map String.ofList
      mid := none
      direction := none }

/-- The media section of a stream. -/
def describe (params : StreamParams) (payloadType : UInt8) : Except MediaError (List Char) :=
  (MediaDescription.ofStream params payloadType).map MediaDescription.render

/-- Lets the receiver of H.264 use a higher level than the one offered. -/
def levelAsymmetry : List Char := "level-asymmetry-allowed=1".toList

/-- The format parameters advertised for the track of a stream, read off its media section. -/
def advertisedFormat (params : StreamParams) (payloadType : UInt8) :
    Except MediaError (Option (List Char)) :=
  (describe params payloadType).map fun text =>
    let fmtp := firstFormat? text
    if params.codec = .h264 then
      match fmtp with
      | some fmtp => some (fmtp ++ ';' :: levelAsymmetry)
      | none => some levelAsymmetry
    else fmtp

end WhipWhep.Sdp
