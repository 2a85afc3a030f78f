import WhipWhep.Proofs.InMemory.Serving
import WhipWhep.Proofs.Session.Counting
import WhipWhep.Proofs.Track.Refusing

/-!
Packets of a session whose caller is cancelled. The guard of an operation comes first, and it may refuse the packet
for reasons of its own. Behind it the layer is refused whatever it tries, and an operation fails with the cancellation
if the layer hands that on and has not refused the packet itself.
-/

namespace WhipWhep

variable {α : Type} {events : List Event}

/-- The causes by which a packet goes nowhere: the cancellation, or what is checked before. -/
inductive Unmoved : Error → Prop where
  | cancelled : Unmoved .cancelled
  | unconnected (state : ConnectionState) : Unmoved (.notConnected state)
  | absent (index : Nat) : Unmoved (.invalidStream index)
  | malformed : Unmoved (.media .invalidAccessUnit)
  | unfit (reason : String) : Unmoved (.rtp reason)
  | misplaced (cause : Defect) : Unmoved (.defect cause)

/-- A call for a packet, if it is one, moves none where the transport refuses all that the layer tries. -/
def Event.HandsOn : Event → Prop
  | ⟨.layer (.write _ _), relay⟩ => ∃ cause, relay.refused = .error cause ∧ Unmoved cause
  | ⟨.layer (.read _), relay⟩ => ∃ cause, relay.refused = .error cause ∧ Unmoved cause
  | _ => True

/-- The layer in memory hands on a refusal, if it does not refuse the packet itself. -/
theorem InMemory.Rtp.respond_handsOn {call : LayerCall} {rtp : Rtp} :
    Event.HandsOn ⟨.layer call, (rtp.respond call).1⟩ := by
  cases call with
  | write writer packet =>
    show ∃ cause, (Rehearsal.write packet _).refused = .error cause ∧ Unmoved cause
    unfold Rehearsal.write
    split
    · exact ⟨_, rfl, .unfit _⟩
    · exact ⟨_, rfl, .cancelled⟩
  | read reader => exact ⟨_, rfl, .cancelled⟩
  | _ => trivial

theorem Event.IsLayered.handsOn {event : Event} (layered : event.IsLayered) : event.HandsOn := by
  obtain ⟨call, answer⟩ := event
  cases call with
  | layer call =>
    obtain ⟨rtp, rfl⟩ := layered
    exact InMemory.Rtp.respond_handsOn
  | _ => trivial

/-- The guard refuses for a reason of its own, or what is behind it does. -/
theorem Context.Gate.refused {σ : Type} {context : Context} {state after : σ}
    {passes : List Event → Except Error α → σ → Prop} {outcome : Except Error α}
    (gate : Context.Gate context state passes events outcome after) (cancelled : AllCancelled events)
    (hands : ∀ event ∈ events, event.HandsOn)
    (behind : ∀ {rest outcome after}, passes rest outcome after → AllCancelled rest →
      (∀ event ∈ rest, event.HandsOn) → ∃ cause, outcome = .error cause ∧ Unmoved cause) :
    ∃ cause, outcome = .error cause ∧ Unmoved cause := by
  cases gate with
  | released down => exact ⟨_, rfl, .unconnected _⟩
  | unconnected up other => exact ⟨_, rfl, .unconnected _⟩
  | passed up onward =>
    exact behind onward cancelled.tail (List.forall_mem_cons.1 hands).2

namespace Publisher

variable {publisher after : Publisher} {packet : Packet} {outcome : Except Error Unit}

theorem Writes.refused (writes : Writes publisher packet events outcome after) (cancelled : AllCancelled events)
    (hands : ∀ event ∈ events, event.HandsOn) : ∃ cause, outcome = .error cause ∧ Unmoved cause := by
  cases writes with
  | absent beyond => exact ⟨_, rfl, .absent _⟩
  | malformed kept broken => exact ⟨_, rfl, .malformed⟩
  | @written _ _ writer _ framed relay _ _ found opened kept whole stays told counted =>
    have refused := Relay.outcome?_refused told cancelled.tail
    obtain ⟨cause, same, unmoved⟩ := hands _ List.mem_cons_self
    exact ⟨cause, refused.trans same, unmoved⟩

theorem writePacket_refused (ready : publisher.Ready)
    (run : (writePacket packet).Runs publisher events outcome after) (cancelled : AllCancelled events)
    (hands : ∀ event ∈ events, event.HandsOn) : ∃ cause, outcome = .error cause ∧ Unmoved cause :=
  (writePacket_gate ready run).refused cancelled hands Writes.refused

end Publisher

namespace Player

variable {player after : Player} {index : Nat} {outcome : Except Error Packet}

theorem Reads.refused (reads : Reads player index events outcome after) (cancelled : AllCancelled events)
    (hands : ∀ event ∈ events, event.HandsOn) : ∃ cause, outcome = .error cause ∧ Unmoved cause := by
  cases reads with
  | absent beyond => exact ⟨_, rfl, .absent _⟩
  | @asked _ _ reader relay _ answer found opened stays told counted =>
    have refused := Relay.outcome?_refused told cancelled.tail
    obtain ⟨cause, same, unmoved⟩ := hands _ List.mem_cons_self
    obtain rfl := refused.trans same
    exact ⟨cause, rfl, unmoved⟩

/-- The first stream that is tried is refused for good, and so no other one is tried. -/
theorem Tries.refused {count : Nat} {rest : List Nat} (tries : Tries count (index :: rest) player events outcome after)
    (cancelled : AllCancelled events) (hands : ∀ event ∈ events, event.HandsOn) :
    ∃ cause, outcome = .error cause ∧ Unmoved cause := by
  cases tries with
  | taken gate =>
    obtain ⟨_, wrong, -⟩ := gate.refused cancelled hands Reads.refused
    cases wrong
  | failed gate final => exact gate.refused cancelled hands Reads.refused
  | blocked gate later =>
    obtain ⟨_, same, unmoved⟩ := gate.refused cancelled.left (List.forall_mem_append.1 hands).1 Reads.refused
    cases same
    cases unmoved

theorem tryRead_refused (ready : player.Ready) (run : tryRead.Runs player events outcome after)
    (cancelled : AllCancelled events) (hands : ∀ event ∈ events, event.HandsOn) :
    ∃ cause, outcome = .error cause ∧ Unmoved cause :=
  (tryRead_tries ready run).refused cancelled hands

/-- A read that waits does not try again. -/
theorem read_refused (ready : player.Ready) (run : Player.read.Runs player events outcome after)
    (cancelled : AllCancelled events) (hands : ∀ event ∈ events, event.HandsOn) :
    ∃ cause, outcome = .error cause ∧ Unmoved cause := by
  obtain ⟨start, rest, rfl, -, started⟩ := runs_read.1 run
  rw [readUntil] at started
  obtain ⟨early, inner, middle, late, rfl, reading, onward⟩ := Act.runs_attempt_bind.1 started
  have hand := (List.forall_mem_append.1 (List.forall_mem_cons.1 hands).2).1
  obtain ⟨_, rfl, unmoved⟩ := tryRead_refused ready reading cancelled.tail.left hand
  cases unmoved <;>
    · obtain ⟨-, rfl, -⟩ := Act.runs_fail.1 onward
      exact ⟨_, rfl, by constructor⟩

end Player

namespace Client

variable {client after : Client} {operation : Operation} {outcome : Except Error (Option Packet)}

/-- The operations that are to move a packet. -/
def Operation.isMoving : Operation → Bool
  | write _ => true
  | tryReadStream _ => true
  | tryRead => true
  | read => true
  | _ => false

/-- For a caller who is cancelled an operation that is to move a packet fails with the cancellation, or before. -/
theorem Operation.refused (ready : client.Ready) (moving : operation.isMoving = true)
    (run : operation.moves.Runs client events outcome after) (cancelled : AllCancelled events)
    (hands : ∀ event ∈ events, event.HandsOn) : ∃ cause, outcome = .error cause ∧ Unmoved cause := by
  have reads : ∀ {act : Act Player Packet},
      (do return some (← asPlayer Operation.moves.notPlayer act) : Act Client (Option Packet)).Runs client events
        outcome after →
      (∀ {player inner : Player} {outcome : Except Error Packet}, player.Ready → act.Runs player events outcome inner →
        ∃ cause, outcome = .error cause ∧ Unmoved cause) → ∃ cause, outcome = .error cause ∧ Unmoved cause := by
    intro act run refused
    obtain ⟨_, rfl, inside⟩ := runs_told run
    cases client with
    | publisher session =>
      obtain ⟨-, same⟩ := Script.yields_done_iff.1 inside
      obtain ⟨rfl, -⟩ := Prod.mk.inj same
      exact ⟨_, rfl, .misplaced _⟩
    | player session =>
      obtain ⟨_, rfl, reading⟩ := runs_player inside
      obtain ⟨cause, rfl, unmoved⟩ := refused ready reading
      exact ⟨cause, rfl, unmoved⟩
  cases operation with
  | write packet =>
    obtain ⟨_, rfl, inside⟩ := runs_told run
    cases client with
    | publisher session =>
      obtain ⟨_, rfl, writing⟩ := runs_publisher inside
      obtain ⟨cause, rfl, unmoved⟩ := Publisher.writePacket_refused ready writing cancelled hands
      exact ⟨cause, rfl, unmoved⟩
    | player session =>
      obtain ⟨-, same⟩ := Script.yields_done_iff.1 inside
      obtain ⟨rfl, -⟩ := Prod.mk.inj same
      exact ⟨_, rfl, .misplaced _⟩
  | tryReadStream index =>
    exact reads run fun ready reading => (Player.tryReadStream_gate ready reading).refused cancelled hands
      Player.Reads.refused
  | tryRead => exact reads run fun ready reading => Player.tryRead_refused ready reading cancelled hands
  | read => exact reads run fun ready reading => Player.read_refused ready reading cancelled hands
  | state => cases moving
  | stats => cases moving
  | close => cases moving

end Client
end WhipWhep
