import WhipWhep.Proofs.Session.Rotation

/-!
Whether one stream of a player starves the other. Of two rounds in a row one gives a packet of a stream that has
packets, as long as the other stream gives packets as well or has nothing. But a round that fails leaves the position
where it was. So where the other stream fails again and again, and is polled first, nothing is read any more.
-/

namespace WhipWhep

open InMemory

namespace Player

variable {gives : Nat → Except Error Packet} {index start last : Nat} {round : Round} {rounds : List Round}
  {packet given : Packet} {cause : Error} {handles : List Handle}

/-- A packet of a stream is what comes of a round. -/
def Round.Gives (round : Round) (index : Nat) : Prop := ∃ packet, round.outcome = .ok packet ∧ packet.stream = index

/-- There are two places where a round can begin. -/
theorem eq_or_following {next : Nat} (valid : index < offeredTracks.length) (position : next < offeredTracks.length) :
    next = index ∨ next = following index := by
  rw [length_offeredTracks] at valid position
  rw [following, length_offeredTracks]
  omega

section Heard

variable (heard : round.Heard gives) (steady : Steady handles round.before) (valid : index < offeredTracks.length)

include heard steady valid

/-- A round comes to a stream that has a packet if it begins there, or the other one has nothing. -/
theorem Round.Heard.gives_iff (supplied : gives index = .ok given) : round.Gives index ↔
    round.before.next = index ∨ gives (following index) = .error .wouldBlock := by
  have own : gives index ≠ .error .wouldBlock := by
    rw [supplied]
    nofun
  constructor
  · rintro ⟨packet, outcome, stream⟩
    rcases eq_or_following valid steady.position with here | there
    · exact .inl here
    · exact .inr (heard.of_last steady valid there outcome stream).2
  · intro reaches
    have found : stops gives (circle round.before.next) = some index := by
      rcases eq_or_following valid steady.position with here | there
      · rw [here, circle_eq valid, stops_ended own]
      · have blocked := reaches.resolve_left (there ▸ following_ne index)
        rw [there, circle_eq (following_lt index), following_following valid, stops_blocked blocked, stops_ended own]
    have outcome : round.outcome = .ok given := by
      obtain ⟨_, -, same, -⟩ := heard
      rw [same, comes, found]
      exact supplied
    rw [Round.Heard, outcome] at heard
    have stream := (heard.taken steady.ready steady.bound).1.symm.trans found
    exact ⟨given, outcome, Option.some.inj stream⟩

/-- A round that gives a packet gives one of the stream, or leaves the position there. -/
theorem Round.Heard.gives_or (outcome : round.outcome = .ok packet) :
    round.Gives index ∨ round.after.next = index := by
  rw [Round.Heard, outcome] at heard
  obtain ⟨stopped, -, moved⟩ := heard.taken steady.ready steady.bound
  rcases eq_or_following valid (lt_of_stops stopped) with here | there
  · exact .inl ⟨packet, outcome, here⟩
  · right
    rw [moved, there, following_following valid]

/-- A round that fails, although a stream has a packet, began at the other one, which has failed. The next round begins
there again. -/
theorem Round.Heard.stuck (supplied : gives index = .ok given) (failed : round.outcome = .error cause) :
    round.after.next = following index ∧ gives (following index) = .error cause ∧ cause ≠ .wouldBlock := by
  have missed : ¬ round.Gives index := by
    rintro ⟨packet, outcome, -⟩
    cases failed.symm.trans outcome
  obtain ⟨elsewhere, ended⟩ := not_or.1 (mt (heard.gives_iff steady valid supplied).2 missed)
  have there := (eq_or_following valid steady.position).resolve_left elsewhere
  have told : gives (following index) = .error cause := by
    obtain ⟨_, -, same, -⟩ := heard
    rw [← failed, same, there, circle_eq (following_lt index), comes_ended ended]
  rw [Round.Heard, failed] at heard
  exact ⟨heard.failed.trans there, told, fun same => ended (told.trans (congrArg _ same))⟩

end Heard

/-- A round that begins at a stream that fails, fails so. -/
theorem Round.Heard.fails (heard : round.Heard gives) (valid : round.before.next < offeredTracks.length)
    (failed : gives round.before.next = .error cause) (final : cause ≠ .wouldBlock) :
    round.outcome = .error cause ∧ round.after.next = round.before.next := by
  have ended : gives round.before.next ≠ .error .wouldBlock := by
    rw [failed]
    exact fun same => final (Except.error.inj same)
  have outcome : round.outcome = .error cause := by
    obtain ⟨_, -, same, -⟩ := heard
    rw [same, circle_eq valid, comes_ended ended, failed]
  rw [Round.Heard, outcome] at heard
  exact ⟨outcome, heard.failed⟩

/-- As long as the stream fails where the rounds begin, they all fail, and none of them begins elsewhere. -/
theorem Follows.fails (follows : Follows handles start rounds last)
    (failing : ∀ round ∈ rounds, ∃ gives cause, round.Heard gives ∧ gives start = .error cause ∧ cause ≠ .wouldBlock) :
    ∀ round ∈ rounds, round.before.next = start ∧ ∃ cause, cause ≠ .wouldBlock ∧ round.outcome = .error cause := by
  induction follows with
  | nil next => exact List.forall_mem_nil _
  | cons steady onward ih =>
    obtain ⟨⟨gives, cause, heard, failed, final⟩, others⟩ := List.forall_mem_cons.1 failing
    obtain ⟨outcome, still⟩ := heard.fails steady.position failed final
    rw [still] at ih
    exact List.forall_mem_cons.2 ⟨⟨rfl, cause, final, outcome⟩, ih others⟩

/-- Of two rounds in a row one gives a packet of a stream that has packets exactly if the first of them gives any, or
the other stream has nothing in the second. -/
theorem Follows.serves {first second : Nat → Except Error Packet} {one two : Round} {before behind : List Round}
    {taken : Packet} (follows : Follows handles start (before ++ one :: two :: behind) last)
    (valid : index < offeredTracks.length) (heard : one.Heard first) (again : two.Heard second)
    (supplied : first index = .ok given) (still : second index = .ok taken) :
    one.Gives index ∨ two.Gives index ↔
      (∃ packet, one.outcome = .ok packet) ∨ second (following index) = .error .wouldBlock := by
  obtain ⟨_, -, onward⟩ := follows.split
  cases onward with
  | cons steady onward =>
    generalize position : one.after.next = next at onward
    cases onward with
    | cons settled _ =>
      have reaches := again.gives_iff settled valid still
      constructor
      · rintro (⟨packet, outcome, -⟩ | gives)
        · exact .inl ⟨packet, outcome⟩
        · cases outcome : one.outcome with
          | ok packet => exact .inl ⟨packet, rfl⟩
          | error cause =>
            have stays := (heard.stuck steady valid supplied outcome).1
            refine .inr ((reaches.1 gives).resolve_left fun here => ?_)
            exact following_ne index (stays.symm.trans (position.trans here))
      · rintro (⟨packet, outcome⟩ | blocked)
        · exact (heard.gives_or steady valid outcome).imp_right fun moved =>
            reaches.2 (.inl (position.symm.trans moved))
        · exact .inr (reaches.2 (.inr blocked))

/-- A stream that has packets gives one in two rounds in a row, whatever the other one gives, as long as it does not
fail. -/
theorem Follows.shares {first second : Nat → Except Error Packet} {one two : Round} {before behind : List Round}
    {taken : Packet} (follows : Follows handles start (before ++ one :: two :: behind) last)
    (valid : index < offeredTracks.length) (heard : one.Heard first) (again : two.Heard second)
    (supplied : first index = .ok given) (still : second index = .ok taken)
    (sound : ∀ cause, first (following index) = .error cause → cause = .wouldBlock) :
    one.Gives index ∨ two.Gives index := by
  refine (follows.serves valid heard again supplied still).2 (.inl ?_)
  obtain ⟨_, -, onward⟩ := follows.split
  cases onward with
  | cons steady _ =>
    cases outcome : one.outcome with
    | ok packet => exact ⟨packet, rfl⟩
    | error cause =>
      obtain ⟨-, failed, final⟩ := heard.stuck steady valid supplied outcome
      exact absurd (sound cause failed) final

end Player

namespace Client

variable {role : Role} {config : ClientConfig} {opening : List Event} {first : Client} {turns : List Turn}
  {player : Player}

/-- Two rounds in a row of a player in use, what its streams would give in them, and one stream that has a packet each
time. -/
structure Supplied (turns : List Turn) (index : Nat) (one two : Player.Round)
    (first second : Nat → Except Error Packet) : Prop where
  made : ∃ rounds before behind, List.Forall₂ Turn.Makes turns rounds ∧
    rounds.flatten = before ++ one :: two :: behind
  valid : index < Player.offeredTracks.length
  heard : one.Heard first
  again : two.Heard second
  given : ∃ packet, first index = .ok packet
  taken : ∃ packet, second index = .ok packet

/-- What is promised of a player in use: one of the two rounds gives a packet of that stream. -/
def Unstarved (turns : List Turn) : Prop :=
  ∀ {index : Nat} {one two : Player.Round} {first second : Nat → Except Error Packet},
    Supplied turns index one two first second → one.Gives index ∨ two.Gives index

/-- How the streams of a player in use share its rounds. -/
structure Shares (turns : List Turn) : Prop where
  made : ∃ rounds, List.Forall₂ Turn.Makes turns rounds
  /-- The other stream has to let the first round give something, or to have nothing in the second one. -/
  serves : ∀ {index : Nat} {one two : Player.Round} {first second : Nat → Except Error Packet},
    Supplied turns index one two first second → (one.Gives index ∨ two.Gives index ↔
      (∃ packet, one.outcome = .ok packet) ∨ second (Player.following index) = .error .wouldBlock)
  /-- It does so as long as it gives packets or has nothing. -/
  sound : ∀ {index : Nat} {one two : Player.Round} {first second : Nat → Except Error Packet},
    Supplied turns index one two first second →
      (∀ cause, first (Player.following index) = .error cause → cause = .wouldBlock) →
        one.Gives index ∨ two.Gives index
  /-- A stream that fails where a round begins fails all rounds from there on, for as long as it goes on. -/
  starves : ∀ {rounds : List (List Player.Round)} {before starved behind : List Player.Round} {one : Player.Round},
    List.Forall₂ Turn.Makes turns rounds → rounds.flatten = before ++ one :: (starved ++ behind) →
      (∀ round ∈ one :: starved, ∃ gives cause, round.Heard gives ∧ gives one.before.next = .error cause ∧
        cause ≠ .wouldBlock) →
          ∀ round ∈ one :: starved, round.before.next = one.before.next ∧
            ∃ cause, cause ≠ .wouldBlock ∧ round.outcome = .error cause

/-- However a player was used since it was opened, a stream that has packets is served at least every other time, unless
the other one fails. -/
theorem openSession_shares (opened : (openSession role config).Runs () opening (.ok first) ())
    (lives : Lives first turns (.player player)) : Shares turns := by
  obtain ⟨_, _, -, rounds⟩ := rounds_of_opened opened lives
  have follows : ∀ {all early}, List.Forall₂ Turn.Makes turns all → all.flatten = early →
      ∃ last, Player.Follows _ _ early last := fun made split => split ▸ rounds.follows made
  refine ⟨rounds.made, fun supplied => ?_, fun supplied sound => ?_, ?_⟩
  · obtain ⟨⟨_, _, _, made, split⟩, valid, heard, again, ⟨_, given⟩, ⟨_, taken⟩⟩ := supplied
    obtain ⟨_, follows⟩ := follows made split
    exact follows.serves valid heard again given taken
  · obtain ⟨⟨_, _, _, made, split⟩, valid, heard, again, ⟨_, given⟩, ⟨_, taken⟩⟩ := supplied
    obtain ⟨_, follows⟩ := follows made split
    exact follows.shares valid heard again given taken sound
  · intro all before starved behind one made split failing
    obtain ⟨_, follows⟩ := follows made split
    rw [← List.cons_append] at follows
    obtain ⟨_, -, onward⟩ := follows.split
    obtain ⟨_, here, -⟩ := onward.split
    cases here with
    | cons steady later => exact (Player.Follows.cons steady later).fails failing

end Client

/-! A message on the video track is too large to be read, and stays there. A packet waits on the audio track. -/

namespace Player.Revised

def crowded (message : Bytes) : Backend :=
  (left.push Client.Unanswered.video message).push Client.Unanswered.audio keyframe

def failing : Client.Turn where
  operation := .tryRead
  before := .player session
  events :=
    [seenOpen, ⟨.layer (.read 0), Rehearsal.read⟩, ⟨.host .isCancelled, false⟩,
      ⟨.engine (.receive Client.Unanswered.video maxPacketSize), .error .tooSmall⟩]
  outcome := .error .bufferTooSmall
  after := .player session

theorem fails : tryRead.Runs session failing.events (.error .bufferTooSmall) session :=
  .call _ _ _ (.call _ _ _ (.call _ _ _ (.call _ _ _ (.done _))))

theorem reads_video : (tryReadStream videoStream).Runs session failing.events (.error .bufferTooSmall) session :=
  .call _ _ _ (.call _ _ _ (.call _ _ _ (.call _ _ _ (.done _))))

theorem lives_failing : Client.Lives failing.before [failing, failing] failing.after := by
  have run : failing.operation.moves.Runs failing.before failing.events failing.outcome failing.after :=
    .call _ _ _ (.call _ _ _ (.call _ _ _ (.call _ _ _ (.done _))))
  exact .cons run (.cons run (.nil _))

theorem serves_failing : (crowded oversized).Serves failing.events (crowded oversized) := by
  have large : maxPacketSize < oversized.length := by simp [oversized]
  exact .cons (.host _ _) (.cons (.layer _) (.cons (.host _ _) (.cons (answers_large large) (.nil _))))

def failed : Round := ⟨session, failing.events, .error .bufferTooSmall, session, fails⟩

def spoken : Packet := { packet with stream := audioStream }

/-- What the streams would give, each time. -/
def wouldGive (index : Nat) : Except Error Packet :=
  if index = videoStream then .error .bufferTooSmall else .ok spoken

theorem heard_failed : failed.Heard wouldGive := by
  have ready : session.Ready := Client.ready_of_opened opened
  have sweeps : Sweeps wouldGive [videoStream, audioStream] session failing.events (.error .bufferTooSmall) session :=
    sweeps_failed rfl nofun reads_video (tryReadStream_gate ready reads_video)
  exact sweeps

def listening : List Event :=
  [seenOpen, ⟨.layer (.read 1), Rehearsal.read⟩, ⟨.host .isCancelled, false⟩,
    ⟨.engine (.receive Client.Unanswered.audio maxPacketSize), .ok keyframe⟩]

theorem listens : ∃ after, (tryReadStream audioStream).Runs session listening (.ok spoken) after :=
  ⟨_, .call _ _ _ (.call _ _ _ (.call _ _ _ (.call _ _ _ (.done _))))⟩

theorem serves_listening : ∃ last, (crowded oversized).Serves listening last :=
  ⟨_, .cons (.host _ _) (.cons (.layer _) (.cons (.host _ _) (.cons (.engine _) (.nil _))))⟩

end Player.Revised

namespace Client

open Player.Revised

theorem openSession_shares_failing : Shares [failing, failing] :=
  openSession_shares opened lives_failing

/-- The promise does not hold: a message that is too large to be read keeps all packets of the other stream back. -/
theorem openSession_starves :
    (⟨engine, .empty⟩ : Backend).Serves Player.Revised.opening left ∧
      (openSession .egress Unanswered.setting).Runs () Player.Revised.opening (.ok failing.before) () ∧
      left.Feeds [] [(Unanswered.video, oversized), (Unanswered.audio, keyframe)] (crowded oversized) ∧
      Lives failing.before [failing, failing] failing.after ∧
      (crowded oversized).Serves (failing.events ++ failing.events) (crowded oversized) ∧
      (∃ after, (Player.tryReadStream Player.audioStream).Runs session listening (.ok spoken) after) ∧
      (∃ last, (crowded oversized).Serves listening last) ∧
      ¬ Unstarved [failing, failing] := by
  refine ⟨serves, opened, .push (.push (.nil _)), lives_failing, ?_, listens, serves_listening, fun promised => ?_⟩
  · exact Backend.serves_append.2 ⟨_, serves_failing, serves_failing⟩
  · have made : List.Forall₂ Turn.Makes [failing, failing] [[failed], [failed]] :=
      .cons (.tryRead failed) (.cons (.tryRead failed) .nil)
    have supplied : Supplied [failing, failing] Player.audioStream failed failed wouldGive wouldGive :=
      ⟨⟨_, [], [], made, rfl⟩, Nat.one_lt_two, heard_failed, heard_failed, ⟨_, rfl⟩, ⟨_, rfl⟩⟩
    rcases promised supplied with ⟨_, wrong, -⟩ | ⟨_, wrong, -⟩ <;> cases wrong

end Client
end WhipWhep
