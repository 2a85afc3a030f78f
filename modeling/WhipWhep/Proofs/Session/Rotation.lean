import WhipWhep.Proofs.InMemory.Delivery
import WhipWhep.Proofs.Session.Agreement
import WhipWhep.Proofs.Session.Rounds

/-!
How the streams of a player take turns. Each read of any stream is a round, also one of those that a read makes while it
waits, and each round begins at the position that the one before has left. So two packets in a row are of the same
stream only if the other one was polled between them and had nothing.
-/

namespace WhipWhep

namespace Player

variable {player after : Player} {events : List Event} {index : Nat} {outcome : Except Error Packet} {packet : Packet}
  {handles : List Handle}

/-- A read of any stream, with its course and the player before and after it. -/
structure Round where
  before : Player
  events : List Event
  outcome : Except Error Packet
  after : Player
  run : tryRead.Runs before events outcome after

/-- A round in which the streams would give that. -/
def Round.Heard (gives : Nat → Except Error Packet) (round : Round) : Prop :=
  Rotates gives round.before round.events round.outcome round.after

/-- The rounds of a read that waits: as long as they block there are pauses, and others follow. -/
inductive Circling : Player → List Event → List Round → Except Error Packet → Player → Prop where
  | ended (round : Round) (final : round.outcome ≠ .error .wouldBlock) :
      Circling round.before round.events [round] round.outcome round.after
  | halted (round : Round) {pause : List Event} {cause : Error} (blocked : round.outcome = .error .wouldBlock)
      (waits : AllOf Call.isWaiting pause) :
      Circling round.before (round.events ++ pause) [round] (.error cause) round.after
  | again (round : Round) {rounds : List Round} {pause events : List Event} {outcome : Except Error Packet}
      {after : Player} (blocked : round.outcome = .error .wouldBlock) (waits : AllOf Call.isWaiting pause)
      (onward : Circling round.after events rounds outcome after) :
      Circling round.before (round.events ++ (pause ++ events)) (round :: rounds) outcome after

theorem circling_of_readUntil {deadline clock : Nat}
    (run : (readUntil deadline clock).Runs player events outcome after) :
    ∃ rounds, Circling player events rounds outcome after := by
  induction clock using readUntil.induct deadline generalizing player events with
  | _ clock ih =>
    rw [readUntil] at run
    obtain ⟨first, inner, middle, second, rfl, reading, onward⟩ := Act.runs_attempt_bind.1 run
    split at onward
    · obtain ⟨rfl, rfl, rfl⟩ := Act.runs_pure.1 onward
      rw [List.append_nil]
      exact ⟨_, .ended ⟨_, _, _, _, reading⟩ (by simp)⟩
    · obtain ⟨stopped, _, rfl, asked⟩ := Act.runs_ask_bind.1 onward
      have looks : AllOf Call.isWaiting [⟨.host .isCancelled, stopped⟩] := .single rfl _
      cases stopped with
      | true =>
        obtain ⟨rfl, rfl, rfl⟩ := Act.runs_fail.1 asked
        exact ⟨_, Circling.halted ⟨_, _, _, _, reading⟩ rfl looks⟩
      | false =>
        obtain ⟨time, _, rfl, timed⟩ := Act.runs_ask_bind.1 asked
        have waits := looks.append (.single rfl _ : AllOf Call.isWaiting [⟨.host (.now clock), time⟩])
        by_cases late : deadline ≤ time.val
        · rw [dif_pos late] at timed
          obtain ⟨rfl, rfl, rfl⟩ := Act.runs_fail.1 timed
          exact ⟨_, Circling.halted ⟨_, _, _, _, reading⟩ rfl waits⟩
        · rw [dif_neg late] at timed
          obtain ⟨later, rest, rfl, slept⟩ := Act.runs_ask_bind.1 timed
          obtain ⟨rounds, circling⟩ := ih time late later slept
          have rests : AllOf Call.isWaiting [⟨.host (.sleep time.val Wait.pause), later⟩] := .single rfl _
          have pauses := waits.append rests
          exact ⟨_, Circling.again ⟨_, _, _, _, reading⟩ rfl pauses circling⟩
    · next cause final =>
      obtain ⟨rfl, rfl, rfl⟩ := Act.runs_fail.1 onward
      rw [List.append_nil]
      exact ⟨_, .ended ⟨_, _, _, _, reading⟩ fun same => final (Except.error.inj same)⟩

/-- Rounds in their order. Each of them begins at the position that the one before has left. -/
inductive Follows (handles : List Handle) : Nat → List Round → Nat → Prop where
  | nil (next : Nat) : Follows handles next [] next
  | cons {round : Round} {rounds : List Round} {last : Nat} (steady : Steady handles round.before)
      (onward : Follows handles round.after.next rounds last) :
      Follows handles round.before.next (round :: rounds) last

section Follows

variable {start last between : Nat} {first second rounds : List Round} {round : Round}

theorem Follows.append (one : Follows handles start first between) (two : Follows handles between second last) :
    Follows handles start (first ++ second) last := by
  induction one with
  | nil next => exact two
  | cons steady onward ih => exact .cons steady (ih two)

theorem Follows.split (follows : Follows handles start (first ++ second) last) :
    ∃ between, Follows handles start first between ∧ Follows handles between second last := by
  induction first generalizing start with
  | nil => exact ⟨start, .nil _, follows⟩
  | cons round rest ih =>
    cases follows with
    | cons steady onward =>
      obtain ⟨between, one, two⟩ := ih onward
      exact ⟨between, .cons steady one, two⟩

/-- Rounds that give no packet leave the position where it was. -/
theorem Follows.stays (follows : Follows handles start rounds last)
    (none : ∀ round ∈ rounds, ∃ cause, round.outcome = .error cause) : last = start := by
  induction follows with
  | nil next => rfl
  | @cons round rounds last steady onward ih =>
    obtain ⟨⟨cause, failed⟩, others⟩ := List.forall_mem_cons.1 none
    obtain ⟨gives, rotates⟩ := (rotates_iff steady.ready).1 round.run
    rw [failed] at rotates
    exact (ih others).trans rotates.failed

theorem Circling.follows (circling : Circling player events rounds outcome after) (steady : Steady handles player) :
    Follows handles player.next rounds after.next ∧ Steady handles after := by
  induction circling with
  | ended round final => exact ⟨.cons steady (.nil _), steady.tryRead round.run⟩
  | halted round blocked waits => exact ⟨.cons steady (.nil _), steady.tryRead round.run⟩
  | again round blocked waits onward ih =>
    obtain ⟨later, last⟩ := ih (steady.tryRead round.run)
    exact ⟨.cons steady later, last⟩

/-- Between two packets in a row the position is behind the first of them. -/
theorem Follows.behind {one two : Round}
    (follows : Follows handles start (first ++ one :: (rounds ++ two :: second)) last)
    (given : one.outcome = .ok packet) (none : ∀ round ∈ rounds, ∃ cause, round.outcome = .error cause) :
    Steady handles two.before ∧ packet.stream < offeredTracks.length ∧
      two.before.next = following packet.stream := by
  obtain ⟨_, -, later⟩ := follows.split
  cases later with
  | cons steady onward =>
    obtain ⟨_, failing, rest⟩ := onward.split
    cases rest with
    | cons again _ =>
      obtain ⟨gives, rotates⟩ := (rotates_iff steady.ready).1 one.run
      rw [given] at rotates
      obtain ⟨stopped, -, moved⟩ := rotates.taken steady.ready steady.bound
      exact ⟨again, lt_of_stops stopped, (failing.stays none).trans moved⟩

/-- A round gives a packet of the stream that it comes to last only if the others had none. -/
theorem Round.Heard.of_last {gives : Nat → Except Error Packet} (heard : round.Heard gives)
    (steady : Steady handles round.before) (valid : index < offeredTracks.length)
    (position : round.before.next = following index) (given : round.outcome = .ok packet)
    (own : packet.stream = index) :
    polled gives (circle round.before.next) = [following index, index] ∧
      gives (following index) = .error .wouldBlock := by
  rw [Round.Heard, given] at heard
  obtain ⟨stopped, told, -⟩ := heard.taken steady.ready steady.bound
  rw [own] at stopped told
  rw [position, circle_eq (following_lt index), following_following valid] at stopped ⊢
  by_cases blocked : gives (following index) = .error .wouldBlock
  · have ended : gives index ≠ .error .wouldBlock := by
      rw [told]
      nofun
    exact ⟨by rw [polled_blocked blocked, polled_ended ended], blocked⟩
  · rw [stops_ended blocked, Option.some.injEq] at stopped
    exact absurd stopped (following_ne index)

end Follows

/-! The position of a player that has just opened. -/

theorem next_onContext {α : Type} {act : Act Context α} {outcome : Except Error α}
    (run : (onContext act).Runs player events outcome after) : after.next = player.next := by
  obtain ⟨_, rfl, -⟩ := Act.runs_within.1 run
  rfl

theorem next_setup (run : setup.Runs player events (.ok ()) after) : after.next = player.next := by
  obtain ⟨_, _, offered, _, rfl, offers, onward⟩ := Act.runs_bind_ok run
  obtain ⟨_, _, created, _, rfl, creates, onward⟩ := Act.runs_bind_ok onward
  obtain ⟨_, _, connected, _, rfl, waits, opens⟩ := Act.runs_bind_ok onward
  have one : offered.next = player.next := by
    refine Act.forM_ok (fun later => later.next = player.next) (fun same offering => ?_) rfl offers
    obtain ⟨_, _, _, -, -, rfl⟩ := offerTrack_ok offering
    exact same
  have two : connected.next = player.next := (next_onContext waits).trans ((next_onContext creates).trans one)
  refine Act.forM_ok (fun later => later.next = player.next) (fun same opening => ?_) two opens
  obtain ⟨_, _, _, _, _, _, _, _, _, _, -, -, -, -, -, -, rfl⟩ := openReader_plays opening
  exact same

end Player

namespace Client

variable {role : Role} {config : ClientConfig} {opening events : List Event} {first last client after : Client}
  {turns : List Turn} {turn : Turn} {operation : Operation} {outcome : Except Error (Option Packet)}
  {player : Player} {handles : List Handle}

theorem steady_of_opened (opened : (openSession role config).Runs () opening (.ok (.player player)) ()) :
    ∃ handles, Player.Steady handles player := by
  obtain ⟨handles, -, holds, -⟩ := (opens_of_runs opened).bills
  refine ⟨handles, ready_of_opened opened, fun _ => holds, ?_⟩
  cases opens_of_runs opened with
  | opened fit begins sets =>
    cases sets with
    | egress run =>
      rw [Player.next_setup run]
      exact Nat.two_pos

/-- The rounds that a use of a session makes. -/
inductive Turn.Makes : Turn → List Player.Round → Prop where
  | tryRead (round : Player.Round) :
      Makes ⟨.tryRead, .player round.before, round.events, round.outcome.map some, .player round.after⟩ [round]
  | read {player after : Player} {start : { time : Nat // 0 ≤ time }} {events : List Event}
      {outcome : Except Error Packet} {rounds : List Player.Round}
      (circling : Player.Circling player events rounds outcome after) :
      Makes ⟨.read, .player player, ⟨.host (.now 0), start⟩ :: events, outcome.map some, .player after⟩ rounds
  | other {turn : Turn} (single : turn.operation ≠ .tryRead) (waiting : turn.operation ≠ .read) : Makes turn []

/-- Whatever else is done with a player leaves its position where it was. -/
theorem Operation.leaves_position (single : operation ≠ .tryRead) (waiting : operation ≠ .read)
    (ready : player.Ready) (run : operation.moves.Runs (.player player) events outcome after) :
    ∃ later, after = .player later ∧ later.next = player.next := by
  have aside : ∀ {α : Type} {act : Act Context α} {result : Except Error α},
      (onContext act).Runs (.player player) events result after →
        ∃ later, after = .player later ∧ later.next = player.next := by
    intro α act result run
    obtain ⟨_, rfl, -⟩ := Act.runs_within.1 run
    exact ⟨_, rfl, rfl⟩
  cases operation with
  | tryRead => exact absurd rfl single
  | read => exact absurd rfl waiting
  | write packet =>
    obtain ⟨_, -, inside⟩ := runs_told run
    obtain ⟨-, same⟩ := Script.yields_done_iff.1 inside
    exact ⟨player, (Prod.mk.inj same).2, rfl⟩
  | tryReadStream index =>
    obtain ⟨_, -, inside⟩ := runs_told run
    obtain ⟨later, rfl, reading⟩ := runs_player inside
    exact ⟨later, rfl, (Player.heeds_of_gate (Player.tryReadStream_gate ready reading)).2⟩
  | state =>
    obtain ⟨_, -, inside⟩ := runs_told run
    exact aside inside
  | stats =>
    obtain ⟨_, -, inside⟩ := runs_told run
    exact aside inside
  | close =>
    obtain ⟨_, -, inside⟩ := runs_told run
    exact aside inside

/-- Every use makes some rounds. -/
theorem exists_makes (run : turn.operation.moves.Runs turn.before turn.events turn.outcome turn.after)
    (playing : turn.before = .player player) : ∃ rounds, turn.Makes rounds := by
  obtain ⟨operation, before, events, outcome, after⟩ := turn
  cases playing
  cases operation with
  | tryRead =>
    obtain ⟨inner, rfl, inside⟩ := runs_told run
    obtain ⟨later, rfl, reading⟩ := runs_player inside
    exact ⟨_, .tryRead ⟨player, events, inner, later, reading⟩⟩
  | read =>
    obtain ⟨inner, rfl, inside⟩ := runs_told run
    obtain ⟨later, rfl, reading⟩ := runs_player inside
    obtain ⟨start, rest, rfl, -, started⟩ := Player.runs_read.1 reading
    obtain ⟨rounds, circling⟩ := Player.circling_of_readUntil started
    exact ⟨rounds, .read circling⟩
  | _ => exact ⟨[], .other nofun nofun⟩

/-- The rounds of one use, from the position before it to the position behind it. -/
theorem Turn.Makes.follows {rounds : List Player.Round} (makes : turn.Makes rounds)
    (run : turn.operation.moves.Runs turn.before turn.events turn.outcome turn.after)
    (playing : turn.before = .player player) (steady : Player.Steady handles player) :
    ∃ later, turn.after = .player later ∧ Player.Steady handles later ∧
      Player.Follows handles player.next rounds later.next := by
  cases makes with
  | tryRead round =>
    cases playing
    exact ⟨_, rfl, steady.tryRead round.run, .cons steady (.nil _)⟩
  | read circling =>
    cases playing
    obtain ⟨follows, last⟩ := circling.follows steady
    exact ⟨_, rfl, last, follows⟩
  | other single waiting =>
    rw [playing] at run
    obtain ⟨later, moved, same⟩ := Operation.leaves_position single waiting steady.ready run
    have lasts := Operation.lasts run
    rw [moved] at lasts
    have before : Client.Ready (.player player) := steady.ready
    have ready : Player.Ready later := before.lasts lasts
    refine ⟨later, moved, ⟨ready, steady.bound.lasts lasts.context, ?_⟩, ?_⟩
    · rw [same]
      exact steady.position
    · rw [same]
      exact .nil _

theorem Lives.lasts (lives : Lives first turns last) : first.Lasts last := by
  induction lives with
  | nil client => exact .refl _
  | cons run rest ih =>
    have here := Operation.lasts run
    exact @Act.Composes.trans _ _ composes_lasts _ _ _ [] [] here ih

/-- The rounds of a run. -/
structure Rounds (handles : List Handle) (player : Player) (turns : List Turn) (last : Client) : Prop where
  last : ∃ later, last = .player later ∧ Player.Steady handles later
  made : ∃ rounds, List.Forall₂ Turn.Makes turns rounds
  follows : ∀ {rounds : List (List Player.Round)}, List.Forall₂ Turn.Makes turns rounds →
    ∃ position, Player.Follows handles player.next rounds.flatten position

theorem Lives.rounds (lives : Lives first turns last) (playing : first = .player player)
    (steady : Player.Steady handles player) : Rounds handles player turns last := by
  induction lives generalizing player with
  | nil client =>
    refine ⟨⟨player, playing, steady⟩, ⟨[], .nil⟩, fun made => ?_⟩
    cases made
    exact ⟨_, .nil _⟩
  | cons run rest ih =>
    obtain ⟨rounds, makes⟩ := exists_makes run playing
    obtain ⟨later, moved, still, -⟩ := makes.follows run playing steady
    obtain ⟨last, ⟨others, made⟩, follows⟩ := ih moved still
    refine ⟨last, ⟨_, .cons makes made⟩, fun all => ?_⟩
    cases all with
    | cons here there =>
      obtain ⟨again, same, -, now⟩ := here.follows run playing steady
      cases moved.symm.trans same
      obtain ⟨position, behind⟩ := follows there
      exact ⟨position, now.append behind⟩

/-- How the streams of a player take turns that has been in use. -/
structure TakesTurns (turns : List Turn) (player : Player) : Prop where
  position : player.next < Player.offeredTracks.length
  circle : Player.circle player.next = (List.range Player.offeredTracks.length).rotate player.next
  /-- A read of any stream polls the streams in this order, up to the first one that does not block. -/
  rounds : ∀ {events : List Event} {outcome : Except Error Packet} {after : Player},
    Player.tryRead.Runs player events outcome after ↔
      ∃ gives, Player.Rotates gives player events outcome after
  blocked : ∀ {gives : Nat → Except Error Packet},
    Player.comes gives (Player.circle player.next) = .error .wouldBlock ↔
      Player.polled gives (Player.circle player.next) = Player.circle player.next ∧
        ∀ index ∈ Player.circle player.next, gives index = .error .wouldBlock
  taken : ∀ {events : List Event} {packet : Packet} {after : Player},
    Player.tryRead.Runs player events (.ok packet) after →
      packet.stream < Player.offeredTracks.length ∧ after.next = Player.following packet.stream
  failed : ∀ {events : List Event} {cause : Error} {after : Player},
    Player.tryRead.Runs player events (.error cause) after → after.next = player.next
  made : ∃ rounds, List.Forall₂ Turn.Makes turns rounds
  /-- Two packets in a row are of the same stream only if the other one had none. -/
  alternates : ∀ {rounds : List (List Player.Round)} {before between behind : List Player.Round}
    {one two : Player.Round} {packet again : Packet}, List.Forall₂ Turn.Makes turns rounds →
      rounds.flatten = before ++ one :: (between ++ two :: behind) → one.outcome = .ok packet →
        (∀ round ∈ between, ∃ cause, round.outcome = .error cause) → two.outcome = .ok again →
          again.stream = packet.stream → ∃ gives, two.Heard gives ∧
            Player.polled gives (Player.circle two.before.next) =
              [Player.following packet.stream, packet.stream] ∧
            gives (Player.following packet.stream) = .error .wouldBlock

theorem Rounds.takesTurns {start : Player} (rounds : Rounds handles start turns (.player player)) :
    TakesTurns turns player := by
  obtain ⟨_, same, steady⟩ := rounds.last
  cases same
  have ready := steady.ready
  refine ⟨steady.position, Player.circle_eq_rotate _, Player.rotates_iff ready, Player.comes_wouldBlock_iff,
    fun run => ?_, fun run => ?_, rounds.made, ?_⟩
  · obtain ⟨gives, rotates⟩ := (Player.rotates_iff ready).1 run
    obtain ⟨stopped, -, moved⟩ := rotates.taken ready steady.bound
    exact ⟨Player.lt_of_stops stopped, moved⟩
  · obtain ⟨gives, rotates⟩ := (Player.rotates_iff ready).1 run
    exact rotates.failed
  · intro all before between behind one two packet again made split given none other same
    obtain ⟨_, follows⟩ := rounds.follows made
    rw [split] at follows
    obtain ⟨settled, valid, position⟩ := follows.behind given none
    obtain ⟨gives, heard⟩ := (Player.rotates_iff settled.ready).1 two.run
    exact ⟨gives, heard, Player.Round.Heard.of_last heard settled valid position other same⟩

/-- What was a player at the end was one from the beginning. -/
theorem Lives.begins_player (lives : Lives first turns (.player player)) : ∃ start, first = .player start := by
  cases lives.lasts with
  | player lasts streams => exact ⟨_, rfl⟩

/-- The rounds of a player in use since it was opened. -/
theorem rounds_of_opened (opened : (openSession role config).Runs () opening (.ok first) ())
    (lives : Lives first turns (.player player)) :
    ∃ handles start, first = .player start ∧ Rounds handles start turns (.player player) := by
  obtain ⟨start, rfl⟩ := lives.begins_player
  obtain ⟨handles, steady⟩ := steady_of_opened opened
  exact ⟨handles, start, rfl, lives.rounds rfl steady⟩

/-- However a player was used since it was opened, its streams take turns. -/
theorem openSession_takes_turns (opened : (openSession role config).Runs () opening (.ok first) ())
    (lives : Lives first turns (.player player)) : TakesTurns turns player := by
  obtain ⟨_, _, -, rounds⟩ := rounds_of_opened opened lives
  exact rounds.takesTurns

end Client

/-! Two keyframes are read one after the other. Before the second one the other stream is polled, and has nothing. -/

namespace Player.Revised

def missed : Player :=
  { told with
    context := told.context.setTrack 1
      { heard 1 Client.Unanswered.audio audio with counters := Counters.zero.blocked } }

def again : Player :=
  { missed with
    context := missed.context.setTrack 0
      { heard 0 Client.Unanswered.video video with
        counters := (((Counters.zero.received 3).frame true).received 3).frame true } }

def once : Client.Turn := ⟨.tryRead, .player session, reading.events, .ok (some packet), .player told⟩

def twice : Client.Turn where
  operation := .tryRead
  before := .player told
  events :=
    [seenOpen, ⟨.layer (.read 1), Rehearsal.read⟩, ⟨.host .isCancelled, false⟩,
      ⟨.engine (.receive Client.Unanswered.audio maxPacketSize), .error .notAvailable⟩] ++ reading.events
  outcome := .ok (some packet)
  after := .player again

theorem opened :
    (Client.openSession .egress Client.Unanswered.setting).Runs () opening (.ok (.player session)) () :=
  Act.runs_bind.2 (.inr ⟨_, _, (), [], (List.append_nil _).symm, runs, .done _⟩)

theorem lives_twice : Client.Lives once.before [once, twice] twice.after := by
  have first : once.operation.moves.Runs once.before once.events once.outcome once.after :=
    .call _ _ _ (.call _ _ _ (.call _ _ _ (.call _ _ _ (.done _))))
  have second : twice.operation.moves.Runs twice.before twice.events twice.outcome twice.after :=
    .call _ _ _ (.call _ _ _ (.call _ _ _ (.call _ _ _ (.call _ _ _ (.call _ _ _ (.call _ _ _ (.call _ _ _
      (.done _))))))))
  exact .cons first (.cons second (.nil _))

end Player.Revised

theorem Client.openSession_takes_turns_twice :
    Client.TakesTurns [Player.Revised.once, Player.Revised.twice] Player.Revised.again :=
  openSession_takes_turns Player.Revised.opened Player.Revised.lives_twice

end WhipWhep
