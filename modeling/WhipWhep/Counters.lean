/-!
What has crossed a track, and what has crossed a session. The counters of a track are words of 64
bits that wrap, and so is what is reckoned from them.
-/

namespace WhipWhep

structure Counters where
  packetsSent : UInt64
  bytesSent : UInt64
  packetsReceived : UInt64
  bytesReceived : UInt64
  frames : UInt64
  keyframes : UInt64
  wouldBlock : UInt64
  deriving DecidableEq

namespace Counters

def zero : Counters := ⟨0, 0, 0, 0, 0, 0, 0⟩

def sent (counters : Counters) (size : Nat) : Counters :=
  { counters with
    packetsSent := counters.packetsSent + 1
    bytesSent := counters.bytesSent + UInt64.ofNat size }

def received (counters : Counters) (size : Nat) : Counters :=
  { counters with
    packetsReceived := counters.packetsReceived + 1
    bytesReceived := counters.bytesReceived + UInt64.ofNat size }

/-- A packet of the stream went to or came from the caller. -/
def frame (counters : Counters) (isKeyframe : Bool) : Counters :=
  { counters with
    frames := counters.frames + 1
    keyframes := counters.keyframes + if isKeyframe then 1 else 0 }

/-- A receive found nothing. -/
def blocked (counters : Counters) : Counters :=
  { counters with wouldBlock := counters.wouldBlock + 1 }

end Counters

/-- The counters of a session's tracks, in track order, with times in nanoseconds. -/
structure SessionStats where
  duration : Nat
  timeToConnect : Option Nat
  tracks : List Counters
  deriving DecidableEq

namespace SessionStats

def bytesSent (stats : SessionStats) : UInt64 :=
  stats.tracks.foldr (fun track total => track.bytesSent + total) 0

def bytesReceived (stats : SessionStats) : UInt64 :=
  stats.tracks.foldr (fun track total => track.bytesReceived + total) 0

/-- Bits per second in both directions together, over the full seconds that have passed; 0 within
the first second. -/
def bitrate (stats : SessionStats) : UInt64 :=
  (stats.bytesSent + stats.bytesReceived) * 8 / UInt64.ofNat (stats.duration / 1_000_000_000)

end SessionStats
end WhipWhep
