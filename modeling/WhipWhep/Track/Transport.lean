import WhipWhep.Capability.Act
import WhipWhep.Counters

/-!
The transport of a track moves messages between the RTP layer and the engine's track, and counts
them. It may be made before its track exists, and is attached once the engine has handed out a
handle. Nothing passes after a cancellation, nor before the transport is attached.
-/

namespace WhipWhep

def isCancelled {σ : Type} : Act σ Bool := Act.ask (.host .isCancelled)

namespace Transport

/-- Takes one message of at most the given size off the track. -/
def receive (target : Option Handle) (capacity : Nat) : Act Counters Bytes := do
  if ← isCancelled then Act.fail .cancelled
  else
    match target with
    | none => Act.fail (.engine .invalid)
    | some handle =>
      match ← Act.ask (.engine (.receive handle capacity)) with
      | .ok message => do
        Act.modify fun counters => counters.received message.length
        return message
      | .error .notAvailable => do
        Act.modify Counters.blocked
        Act.fail .wouldBlock
      | .error .tooSmall => Act.fail .bufferTooSmall
      | .error _ => Act.fail .endOfStream

/-- Puts one message on the track. -/
def send (target : Option Handle) (message : Bytes) : Act Counters Nat := do
  if ← isCancelled then Act.fail .cancelled
  else
    match target with
    | none => Act.fail (.engine .invalid)
    | some handle =>
      match ← Act.ask (.engine (.send handle message)) with
      | .ok () => do
        Act.modify fun counters => counters.sent message.length
        return message.length
      | .error cause => Act.fail (.engine cause)

end Transport

/-- Plays what the layer does with the transport. Failures of the transport go back to the layer. -/
def Relay.play {α : Type} (target : Option Handle) : Relay α → Act Counters α
  | .done result => pure result
  | .send message next => do
    let outcome ← (Transport.send target message).attempt
    (next outcome).play target
  | .receive capacity next => do
    let outcome ← (Transport.receive target capacity).attempt
    (next outcome).play target
  | .note writer packet next => do
    Act.ask (.layer (.note writer packet))
    next.play target

/-- A transport as it is handed to the layer: for the track at an index, with the time that one
operation may take, and attached to a handle or not yet. -/
structure Binding where
  index : Nat
  rwTimeout : Nat
  attached : Option Handle
  deriving DecidableEq

namespace Binding

def fresh (index rwTimeout : Nat) : Binding := ⟨index, rwTimeout, none⟩

def attach (binding : Binding) (handle : Handle) : Except Error Binding :=
  match binding.attached with
  | none => .ok { binding with attached := some handle }
  | some _ => .error (.defect .bindingAttachedTwice)

def info (binding : Binding) : TransportInfo := ⟨binding.rwTimeout, maxPacketSize⟩

def receive (binding : Binding) (capacity : Nat) : Act Counters Bytes :=
  Transport.receive binding.attached capacity

def send (binding : Binding) (message : Bytes) : Act Counters Nat :=
  Transport.send binding.attached message

end Binding

/-- The open end of the RTP layer on a track. -/
inductive CodecSession where
  | writer (writer : Writer)
  | reader (reader : Reader)
  deriving DecidableEq

namespace CodecSession

def openWriter (target : Option Handle) (params : StreamParams) (index : Nat)
    (transport : TransportInfo) : Act Counters Writer := do
  let relay ← Act.ask (.layer (.openWriter params index transport))
  Act.settle (← relay.play target)

def openReader (target : Option Handle) (media : Sdp.MediaDescription)
    (transport : TransportInfo) : Act Counters Reader := do
  let relay ← Act.ask (.layer (.openReader media transport))
  Act.settle (← relay.play target)

def close (target : Option Handle) : CodecSession → Act Counters Unit
  | .writer opened => do
    let relay ← Act.ask (.layer (.closeWriter opened.key))
    relay.play target
  | .reader opened => do
    let relay ← Act.ask (.layer (.closeReader opened.key))
    relay.play target

end CodecSession
end WhipWhep
