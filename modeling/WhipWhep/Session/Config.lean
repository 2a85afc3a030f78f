import WhipWhep.Error
import WhipWhep.Url.Parse

/-!
What the caller of a session decides: the endpoint, the bearer token, how long things may take, and
the servers that help to find a route. Times are in nanoseconds.
-/

namespace WhipWhep

structure ClientConfig where
  url : String
  bearerToken : Option String
  /-- How long the transport may take to connect once the answer is applied. -/
  connectionTimeout : Nat
  /-- How long one read or write of a packet may take. -/
  rwTimeout : Nat
  iceServers : List String
  deriving DecidableEq

namespace ClientConfig

def defaultConnectionTimeout : Nat := 10_000_000_000

def defaultRwTimeout : Nat := 1_000_000_000

/-- The endpoint, if it is a URL of the web and neither timeout is zero. -/
def validate (config : ClientConfig) : Except ConfigError Url := do
  if config.connectionTimeout = 0 then .error (.zeroTimeout "connection timeout")
  else if config.rwTimeout = 0 then .error (.zeroTimeout "read/write timeout")
  else
    let url ← (Url.parse config.url).mapError fun cause =>
      .invalidUrl (config.url ++ ": " ++ cause.message)
    if url.scheme = "http".toList ∨ url.scheme = "https".toList then return url
    else
      .error (.invalidUrl (config.url ++ ": unsupported scheme " ++ String.ofList url.scheme))

end ClientConfig
end WhipWhep
