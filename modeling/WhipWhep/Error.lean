import WhipWhep.Connection
import WhipWhep.Media.Codec
import WhipWhep.Text.Duration

/-!
Everything that can go wrong, by cause. Each cause has one message, and the caller is expected to
try again on exactly two of them.
-/

namespace WhipWhep

/-- The value that has to be there, or the cause of its absence. -/
def demand {ε α : Type} (cause : ε) : Option α → Except ε α
  | some value => .ok value
  | none => .error cause

/-- A number as it is written in messages. -/
def numeral (n : Nat) : String := String.ofList (Text.writeDecimal n)

inductive ConfigError where
  | unsupportedCodec (codec : String)
  | unsupportedSampleRate (rate : UInt32)
  | unsupportedChannelLayout (channels : UInt8)
  | invalidUrl (reason : String)
  | zeroTimeout (timeout : String)
  | noStreams
  | kindMismatch (index : Nat) (declared : MediaKind) (codec : String)
  deriving DecidableEq

def ConfigError.kind : ConfigError → String
  | unsupportedCodec _ => "UnsupportedCodec"
  | unsupportedSampleRate _ => "UnsupportedSampleRate"
  | unsupportedChannelLayout _ => "UnsupportedChannelLayout"
  | invalidUrl _ => "InvalidUrl"
  | zeroTimeout _ => "ZeroTimeout"
  | noStreams => "NoStreams"
  | kindMismatch _ _ _ => "MediaKindMismatch"

def ConfigError.message : ConfigError → String
  | unsupportedCodec codec => "unsupported codec: " ++ codec
  | unsupportedSampleRate rate =>
    "unsupported sample rate " ++ numeral rate.toNat ++ " Hz, only 48 kHz is supported"
  | unsupportedChannelLayout channels =>
    "unsupported channel layout (" ++ numeral channels.toNat ++
      " channels), only stereo is supported"
  | invalidUrl reason => "invalid url: " ++ reason
  | zeroTimeout timeout => timeout ++ " must be greater than zero"
  | noStreams => "no streams to publish"
  | kindMismatch index declared codec =>
    "stream " ++ numeral index ++ " is declared as " ++ declared.name ++ " but has codec " ++ codec

/-- What a peer connection answers when it refuses a request. -/
inductive EngineError where
  | notAvailable
  | tooSmall
  | invalid
  | failure (reason : String)
  deriving DecidableEq

def EngineError.kind : EngineError → String
  | notAvailable => "NotAvailable"
  | tooSmall => "TooSmall"
  | invalid => "Invalid"
  | failure _ => "Failure"

def EngineError.message : EngineError → String
  | notAvailable => "not available"
  | tooSmall => "buffer too small"
  | invalid => "invalid argument"
  | failure reason => reason

inductive SignalingError where
  | transport (reason : String)
  | timeout (nanoseconds : Nat)
  | status (code : Nat)
  | tooManyRedirects (followed : Nat)
  | descriptionTooLarge (limit : Nat)
  | emptyAnswer
  | invalidEncoding
  | malformed (reason : String)
  | invalidLocation (reason : String)
  deriving DecidableEq

def SignalingError.kind : SignalingError → String
  | transport _ => "Transport"
  | timeout _ => "Timeout"
  | status _ => "Status"
  | tooManyRedirects _ => "TooManyRedirects"
  | descriptionTooLarge _ => "DescriptionTooLarge"
  | emptyAnswer => "EmptyAnswer"
  | invalidEncoding => "InvalidEncoding"
  | malformed _ => "Malformed"
  | invalidLocation _ => "InvalidLocation"

def SignalingError.message : SignalingError → String
  | transport reason => "http transport error: " ++ reason
  | timeout nanoseconds => "request timed out after " ++ Text.duration nanoseconds
  | status code => "server returned status " ++ numeral code
  | tooManyRedirects followed => "too many redirects (" ++ numeral followed ++ ")"
  | descriptionTooLarge limit => "session description exceeds " ++ numeral limit ++ " bytes"
  | emptyAnswer => "empty answer"
  | invalidEncoding => "answer is not valid UTF-8"
  | malformed reason => "malformed session description: " ++ reason
  | invalidLocation reason => "invalid resource location: " ++ reason

/-- Why a peer connection never opened. -/
inductive EstablishmentError where
  | timedOut (nanoseconds : Nat)
  | failed
  | closed
  deriving DecidableEq

def EstablishmentError.kind : EstablishmentError → String
  | timedOut _ => "TimedOut"
  | failed => "Failed"
  | closed => "Closed"

def EstablishmentError.message : EstablishmentError → String
  | timedOut nanoseconds => "timed out after " ++ Text.duration nanoseconds
  | failed => "peer connection failed"
  | closed => "peer connection closed"

inductive MediaError where
  | invalidAvcConfig
  | invalidAacConfig
  | invalidAccessUnit
  deriving DecidableEq

def MediaError.kind : MediaError → String
  | invalidAvcConfig => "InvalidAvcConfig"
  | invalidAacConfig => "InvalidAacConfig"
  | invalidAccessUnit => "InvalidAccessUnit"

def MediaError.message : MediaError → String
  | invalidAvcConfig => "invalid AVC decoder configuration"
  | invalidAacConfig => "invalid AAC audio specific config"
  | invalidAccessUnit => "malformed length-prefixed access unit"

/-- Steps taken out of turn. None of them can be reached through an open session of the right
role. -/
inductive Defect where
  | resourceAlreadyCreated
  | trackAddedTwice
  | bindingAttachedTwice
  | bindingOpenedTwice
  | codecOpenedTwice
  | trackWithoutHandle
  | trackWithoutTransport
  | trackWithoutWriter
  | trackWithoutReader
  | writeOnEgress
  | other (reason : String)
  deriving DecidableEq

def Defect.message : Defect → String
  | resourceAlreadyCreated => "resource already created"
  | trackAddedTwice => "track added to peer connection twice"
  | bindingAttachedTwice => "transport binding attached twice"
  | bindingOpenedTwice => "transport binding opened twice"
  | codecOpenedTwice => "codec session opened twice"
  | trackWithoutHandle => "track has no engine handle"
  | trackWithoutTransport => "unbound"
  | trackWithoutWriter => "ingest track without writer"
  | trackWithoutReader => "egress track without reader"
  | writeOnEgress => "write on an egress session"
  | other reason => reason

inductive Error where
  | config (cause : ConfigError)
  | engine (cause : EngineError)
  | signaling (cause : SignalingError)
  | establishment (cause : EstablishmentError)
  | notConnected (state : ConnectionState)
  | wouldBlock
  | bufferTooSmall
  | cancelled
  | invalidStream (index : Nat)
  | endOfStream
  | rtp (reason : String)
  | media (cause : MediaError)
  | defect (cause : Defect)
  deriving DecidableEq

namespace Error

def message : Error → String
  | config cause => "configuration error: " ++ cause.message
  | engine cause => "engine error: " ++ cause.message
  | signaling cause => "signaling error: " ++ cause.message
  | establishment cause => "transport establishment failed: " ++ cause.message
  | notConnected state => "connection is not open (state: " ++ state.name ++ ")"
  | wouldBlock => "resource temporarily unavailable"
  | bufferTooSmall => "buffer too small for next message"
  | cancelled => "operation cancelled"
  | invalidStream index => "invalid stream index: " ++ numeral index
  | endOfStream => "end of stream"
  | rtp reason => "rtp error: " ++ reason
  | media cause => "media error: " ++ cause.message
  | defect cause => "internal error: " ++ cause.message

/-- The cause without its particulars; where there is an inner cause, it stands behind a point. -/
def kind : Error → String
  | config cause => "Config." ++ cause.kind
  | engine cause => "Engine." ++ cause.kind
  | signaling cause => "Signaling." ++ cause.kind
  | establishment cause => "Establishment." ++ cause.kind
  | notConnected _ => "NotConnected"
  | wouldBlock => "WouldBlock"
  | bufferTooSmall => "BufferTooSmall"
  | cancelled => "Cancelled"
  | invalidStream _ => "InvalidStream"
  | endOfStream => "Eof"
  | rtp _ => "Rtp"
  | media cause => "Media." ++ cause.kind
  | defect _ => "Internal"

/-- Whether the operation may simply be tried again. -/
def isRetryable : Error → Bool
  | wouldBlock | notConnected _ => true
  | _ => false

end Error
end WhipWhep
