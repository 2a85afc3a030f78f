import Mathlib.Data.List.Rotate
import WhipWhep.Proofs.Session.Counting

/-!
A read of any stream. From the position of the player on, the streams are polled in their circle, up to the first one
that does not block; what that one gives is the outcome. Only a packet moves the position, to the stream after its own.
-/

namespace WhipWhep

namespace Player

variable {gives other : Nat → Except Error Packet} {player middle after : Player} {events early late : List Event}
  {index next : Nat} {indices : List Nat} {outcome : Except Error Packet} {packet : Packet} {cause : Error}
  {handles : List Handle}

/-- The stream after another one in the circle. -/
def following (index : Nat) : Nat := (index + 1) % offeredTracks.length

/-- The streams, from a position on. -/
def circle (next : Nat) : List Nat := order next offeredTracks.length

theorem length_offeredTracks : offeredTracks.length = 2 := rfl

theorem circle_eq_rotate (next : Nat) : circle next = (List.range offeredTracks.length).rotate next := by
  refine List.ext_getElem (by simp [circle, order]) fun place first second => ?_
  simp [circle, order, List.getElem_rotate, Nat.add_comm]

theorem circle_eq (valid : next < offeredTracks.length) : circle next = [next, following next] := by
  have first : (next + 0) % offeredTracks.length = next := Nat.mod_eq_of_lt valid
  show [(next + 0) % offeredTracks.length, following next] = _
  rw [first]

theorem circle_nodup (next : Nat) : (circle next).Nodup := by
  rw [circle_eq_rotate, List.nodup_rotate]
  exact List.nodup_range

theorem following_lt (index : Nat) : following index < offeredTracks.length := Nat.mod_lt _ (by decide)

theorem following_ne (index : Nat) : following index ≠ index := by
  rw [following, length_offeredTracks]
  omega

theorem following_following (valid : index < offeredTracks.length) : following (following index) = index := by
  rw [length_offeredTracks] at valid
  rw [following, following, length_offeredTracks]
  omega

def blocks : Except Error Packet → Bool
  | .error .wouldBlock => true
  | _ => false

theorem blocks_iff : blocks outcome = true ↔ outcome = .error .wouldBlock := by
  unfold blocks
  split
  · simp
  · next other => simpa using other

/-! What becomes of streams that are tried in some order, by what each of them would give. -/

section Vector

variable (gives : Nat → Except Error Packet) (indices : List Nat)

/-- The first stream that does not block. -/
def stops : Option Nat := indices.find? fun index => !blocks (gives index)

/-- The streams that block before that one, and that one. -/
def polled : List Nat := indices.takeWhile (fun index => blocks (gives index)) ++ (stops gives indices).toList

/-- What that one gives. -/
def comes : Except Error Packet := (stops gives indices).elim (.error .wouldBlock) gives

/-- The position behind that one, if it gives a packet. -/
def moves (next : Nat) : Nat :=
  match comes gives indices, stops gives indices with
  | .ok _, some index => following index
  | _, _ => next

end Vector

theorem stops_blocked (blocked : gives index = .error .wouldBlock) :
    stops gives (index :: indices) = stops gives indices :=
  List.find?_cons_of_neg (by simp [blocks_iff, blocked])

theorem stops_ended (ended : gives index ≠ .error .wouldBlock) : stops gives (index :: indices) = some index :=
  List.find?_cons_of_pos (by simpa [← blocks_iff] using ended)

theorem polled_blocked (blocked : gives index = .error .wouldBlock) :
    polled gives (index :: indices) = index :: polled gives indices := by
  simp [polled, stops_blocked blocked, blocks_iff, blocked]

theorem polled_ended (ended : gives index ≠ .error .wouldBlock) : polled gives (index :: indices) = [index] := by
  simp [polled, stops_ended ended, blocks_iff, ended]

theorem comes_blocked (blocked : gives index = .error .wouldBlock) :
    comes gives (index :: indices) = comes gives indices := by
  rw [comes, stops_blocked blocked]
  rfl

theorem comes_ended (ended : gives index ≠ .error .wouldBlock) : comes gives (index :: indices) = gives index := by
  rw [comes, stops_ended ended]
  rfl

theorem moves_blocked (blocked : gives index = .error .wouldBlock) :
    moves gives (index :: indices) next = moves gives indices next := by
  rw [moves, comes_blocked blocked, stops_blocked blocked]
  rfl

theorem moves_ok (given : gives index = .ok packet) : moves gives (index :: indices) next = following index := by
  have ended : gives index ≠ .error .wouldBlock := by
    rw [given]
    nofun
  rw [moves, comes_ended ended, stops_ended ended, given]

theorem moves_error (failed : comes gives indices = .error cause) : moves gives indices next = next := by
  rw [moves, failed]

/-- Nothing comes of them exactly if all are polled, and all block. -/
theorem comes_wouldBlock_iff : comes gives indices = .error .wouldBlock ↔
    polled gives indices = indices ∧ ∀ index ∈ indices, gives index = .error .wouldBlock := by
  induction indices with
  | nil => exact ⟨fun _ => ⟨rfl, List.forall_mem_nil _⟩, fun _ => rfl⟩
  | cons index rest ih =>
    rw [List.forall_mem_cons]
    by_cases blocked : gives index = .error .wouldBlock
    · rw [comes_blocked blocked, polled_blocked blocked, ih, List.cons.injEq]
      simp [blocked]
    · rw [comes_ended blocked]
      exact iff_of_false blocked fun all => blocked all.2.1

/-- What other streams would give makes no difference. -/
theorem sweep_congr (same : ∀ index ∈ indices, gives index = other index) :
    stops gives indices = stops other indices ∧ polled gives indices = polled other indices ∧
      comes gives indices = comes other indices := by
  induction indices with
  | nil => exact ⟨rfl, rfl, rfl⟩
  | cons index rest ih =>
    obtain ⟨here, there⟩ := List.forall_mem_cons.1 same
    by_cases blocked : gives index = .error .wouldBlock
    · have again := here ▸ blocked
      rw [stops_blocked blocked, stops_blocked again, polled_blocked blocked, polled_blocked again,
        comes_blocked blocked, comes_blocked again]
      obtain ⟨stopped, streams, comes⟩ := ih there
      exact ⟨stopped, congrArg _ streams, comes⟩
    · have again := here ▸ blocked
      rw [stops_ended blocked, stops_ended again, polled_ended blocked, polled_ended again, comes_ended blocked,
        comes_ended again]
      exact ⟨rfl, rfl, here⟩

theorem mem_of_polled (member : index ∈ polled gives indices) : index ∈ indices := by
  rcases List.mem_append.1 member with early | last
  · exact (List.takeWhile_sublist _).mem early
  · exact List.mem_of_find?_eq_some (Option.mem_toList.1 last)

/-- Streams that are polled one after the other, each of which gives what it is said to give. A poll is the guard,
and behind it one call to the reader of the stream. -/
inductive Polling (gives : Nat → Except Error Packet) : List Nat → Player → List Event → Player → Prop where
  | done (player : Player) : Polling gives [] player [] player
  | poll {index : Nat} {rest : List Nat} {player middle after : Player} {early late : List Event}
      (reads : (tryReadStream index).Runs player early (gives index) middle)
      (gate : Context.Gate player.context player (Reads player index) early (gives index) middle)
      (onward : Polling gives rest middle late after) :
      Polling gives (index :: rest) player (early ++ late) after

theorem Polling.congr (polling : Polling gives indices player events after)
    (same : ∀ index ∈ indices, gives index = other index) : Polling other indices player events after := by
  induction polling with
  | done player => exact .done player
  | poll reads gate onward ih =>
    obtain ⟨here, there⟩ := List.forall_mem_cons.1 same
    exact .poll (here ▸ reads) (here ▸ gate) (ih there)

/-- Streams that are tried in turn, as they would give: they are polled up to the one that does not block, and what
that one gives is the outcome. -/
def Sweeps (gives : Nat → Except Error Packet) (indices : List Nat) (player : Player) (events : List Event)
    (outcome : Except Error Packet) (after : Player) : Prop :=
  ∃ last, Polling gives (polled gives indices) player events last ∧ outcome = comes gives indices ∧
    after = { last with next := moves gives indices player.next }

theorem Sweeps.congr (sweeps : Sweeps gives indices player events outcome after)
    (same : ∀ index ∈ indices, gives index = other index) : Sweeps other indices player events outcome after := by
  obtain ⟨last, polling, rfl, rfl⟩ := sweeps
  obtain ⟨stopped, streams, given⟩ := sweep_congr same
  refine ⟨last, streams ▸ polling.congr fun index member => same index (mem_of_polled member), given, ?_⟩
  rw [moves, moves, stopped, given]

theorem sweeps_taken (given : gives index = .ok packet)
    (reads : (tryReadStream index).Runs player events (.ok packet) middle)
    (gate : Context.Gate player.context player (Reads player index) events (.ok packet) middle) :
    Sweeps gives (index :: indices) player events (.ok packet) { middle with next := following index } := by
  have ended : gives index ≠ .error .wouldBlock := by
    rw [given]
    nofun
  refine ⟨middle, ?_, given.symm.trans (comes_ended ended).symm, by rw [moves_ok given]⟩
  rw [polled_ended ended, ← List.append_nil events]
  rw [← given] at reads gate
  exact .poll reads gate (.done _)

theorem sweeps_failed (given : gives index = .error cause) (final : cause ≠ .wouldBlock)
    (reads : (tryReadStream index).Runs player events (.error cause) middle)
    (gate : Context.Gate player.context player (Reads player index) events (.error cause) middle) :
    Sweeps gives (index :: indices) player events (.error cause) middle := by
  have ended : gives index ≠ .error .wouldBlock := by
    rw [given]
    exact fun same => final (Except.error.inj same)
  have failed : comes gives (index :: indices) = .error cause := (comes_ended ended).trans given
  refine ⟨middle, ?_, failed.symm, by rw [moves_error failed, ← (heeds_of_gate gate).2]⟩
  rw [polled_ended ended, ← List.append_nil events]
  rw [← given] at reads gate
  exact .poll reads gate (.done _)

theorem Sweeps.behind (sweeps : Sweeps gives indices middle late outcome after)
    (reads : (tryReadStream index).Runs player early (.error .wouldBlock) middle)
    (gate : Context.Gate player.context player (Reads player index) early (.error .wouldBlock) middle)
    (blocked : gives index = .error .wouldBlock) :
    Sweeps gives (index :: indices) player (early ++ late) outcome after := by
  obtain ⟨last, polling, rfl, rfl⟩ := sweeps
  refine ⟨last, ?_, (comes_blocked blocked).symm, ?_⟩
  · rw [polled_blocked blocked]
    rw [← blocked] at reads gate
    exact .poll reads gate polling
  · rw [moves_blocked blocked, (heeds_of_gate gate).2]

/-- Streams that are tried in turn would each give something. -/
theorem sweeps_of_tryEach (ready : player.Ready) (apart : indices.Nodup)
    (run : (tryEach offeredTracks.length indices).Runs player events outcome after) :
    ∃ gives, Sweeps gives indices player events outcome after := by
  induction indices generalizing player events with
  | nil =>
    obtain ⟨rfl, rfl, rfl⟩ := Act.runs_fail.1 run
    exact ⟨fun _ => .error .wouldBlock, _, .done _, rfl, rfl⟩
  | cons index rest ih =>
    obtain ⟨elsewhere, apart⟩ := List.nodup_cons.1 apart
    obtain ⟨first, inner, middle, second, rfl, reading, onward⟩ := Act.runs_attempt_bind.1 run
    have gate := tryReadStream_gate ready reading
    split at onward
    · next packet =>
      have last := Act.runs_modify_bind.1 onward
      obtain ⟨rfl, rfl, rfl⟩ := Act.runs_pure.1 last
      rw [List.append_nil]
      exact ⟨fun _ => .ok packet, sweeps_taken rfl reading gate⟩
    · obtain ⟨gives, sweeps⟩ := ih (ready.of_counted (tryReadStream_counts reading)) apart onward
      have same : ∀ place ∈ rest, gives place = Function.update gives index (.error .wouldBlock) place := by
        intro place member
        rw [Function.update_of_ne]
        rintro rfl
        exact elsewhere member
      exact ⟨_, (sweeps.congr same).behind reading gate (Function.update_self ..)⟩
    · next cause final =>
      obtain ⟨rfl, rfl, rfl⟩ := Act.runs_fail.1 onward
      rw [List.append_nil]
      exact ⟨fun _ => .error cause, sweeps_failed rfl final reading gate⟩

/-- Whatever they would give, they are tried so. -/
theorem Sweeps.runs (sweeps : Sweeps gives indices player events outcome after) :
    (tryEach offeredTracks.length indices).Runs player events outcome after := by
  induction indices generalizing player events with
  | nil =>
    obtain ⟨last, polling, rfl, rfl⟩ := sweeps
    cases polling
    exact .done _
  | cons index rest ih =>
    obtain ⟨last, polling, rfl, rfl⟩ := sweeps
    by_cases blocked : gives index = .error .wouldBlock
    · rw [polled_blocked blocked] at polling
      cases polling with
      | poll reads gate onward =>
        rw [blocked] at reads gate
        refine Act.runs_attempt_bind.2 ⟨_, _, _, _, rfl, reads, ih ⟨last, onward, comes_blocked blocked, ?_⟩⟩
        rw [moves_blocked blocked, (heeds_of_gate gate).2]
    · rw [polled_ended blocked] at polling
      cases polling with
      | poll reads gate onward =>
        cases onward
        refine Act.runs_attempt_bind.2 ⟨_, _, _, _, rfl, reads, ?_⟩
        rw [comes_ended blocked]
        cases given : gives index with
        | ok packet =>
          rw [moves_ok given]
          exact .done _
        | error cause =>
          rw [moves_error ((comes_ended blocked).trans given), ← (heeds_of_gate gate).2]
          cases cause with
          | wouldBlock => exact absurd given blocked
          | _ => exact .done _

/-- A round, as the streams would give. -/
def Rotates (gives : Nat → Except Error Packet) (player : Player) : List Event → Except Error Packet → Player → Prop :=
  Sweeps gives (circle player.next) player

theorem rotates_iff (ready : player.Ready) :
    tryRead.Runs player events outcome after ↔ ∃ gives, Rotates gives player events outcome after := by
  have same : tryRead.Runs player events outcome after ↔
      (tryEach offeredTracks.length (circle player.next)).Runs player events outcome after := by
    rw [circle, ← ready.tracks]
    exact Act.runs_get_bind
  rw [same]
  exact ⟨sweeps_of_tryEach ready (circle_nodup _), fun ⟨_, sweeps⟩ => sweeps.runs⟩

/-- A packet says which stream it is of. -/
theorem stream_of_tryReadStream (ready : player.Ready) (bound : player.context.Bound handles)
    (run : (tryReadStream index).Runs player events (.ok packet) after) : packet.stream = index := by
  cases tryReadStream_takes ready run with
  | passed up takes =>
    generalize given : Except.ok packet = outcome at takes
    cases takes with
    | absent beyond => cases given
    | @taken track reader relay played answer _ counters found opened plays marked =>
      obtain ⟨-, -, indexed, -⟩ := (bound up).of_track found
      subst marked
      cases answer with
      | error cause => cases given
      | ok packet =>
        cases given
        exact indexed

theorem Polling.marked (polling : Polling gives indices player events after) (ready : player.Ready)
    (bound : player.context.Bound handles) (member : index ∈ indices) (given : gives index = .ok packet) :
    packet.stream = index := by
  induction polling with
  | done player => cases member
  | poll reads gate onward ih =>
    rcases List.mem_cons.1 member with rfl | later
    · rw [given] at reads
      exact stream_of_tryReadStream ready bound reads
    · have counted := tryReadStream_counts reads
      exact ih (ready.of_counted counted) (bound_of_counted bound counted) later

theorem lt_of_stops (found : stops gives (circle next) = some index) : index < offeredTracks.length := by
  have among := List.mem_of_find?_eq_some found
  rwa [circle_eq_rotate, List.mem_rotate, List.mem_range] at among

theorem stops_of_comes (given : comes gives indices = .ok packet) :
    ∃ index, stops gives indices = some index ∧ gives index = .ok packet := by
  unfold comes at given
  cases found : stops gives indices with
  | none =>
    rw [found] at given
    cases given
  | some index =>
    rw [found] at given
    exact ⟨index, rfl, given⟩

/-- A round that gives a packet has come to the stream of the packet, and the next one begins behind it. -/
theorem Rotates.taken (rotates : Rotates gives player events (.ok packet) after) (ready : player.Ready)
    (bound : player.context.Bound handles) : stops gives (circle player.next) = some packet.stream ∧
      gives packet.stream = .ok packet ∧ after.next = following packet.stream := by
  obtain ⟨last, polling, given, rfl⟩ := rotates
  obtain ⟨index, found, told⟩ := stops_of_comes given.symm
  have member : index ∈ polled gives (circle player.next) := by simp [polled, found]
  obtain rfl := polling.marked ready bound member told
  exact ⟨found, told, by simp [moves, ← given, found]⟩

theorem Rotates.failed (rotates : Rotates gives player events (.error cause) after) : after.next = player.next := by
  obtain ⟨last, polling, failed, rfl⟩ := rotates
  exact moves_error failed.symm

/-- A player that can be read, and whose position is one of its streams. -/
structure Steady (handles : List Handle) (player : Player) : Prop where
  ready : player.Ready
  bound : player.context.Bound handles
  position : player.next < offeredTracks.length

namespace Steady

theorem of_counted (steady : Steady handles player) (counted : player.Counted after)
    (position : after.next < offeredTracks.length) : Steady handles after where
  ready := steady.ready.of_counted counted
  bound := bound_of_counted steady.bound counted
  position := position

theorem tryRead (steady : Steady handles player) (run : tryRead.Runs player events outcome after) :
    Steady handles after := by
  refine steady.of_counted (reading_counted.tryRead _ _ _ run) ?_
  obtain ⟨gives, rotates⟩ := (rotates_iff steady.ready).1 run
  cases outcome with
  | ok packet =>
    rw [(rotates.taken steady.ready steady.bound).2.2]
    exact following_lt _
  | error cause =>
    rw [rotates.failed]
    exact steady.position

end Steady

end Player
end WhipWhep
