import WhipWhep.Proofs.Track.Holding

/-!
Packets on a track. Each of them is one call to the layer, whatever the layer then does with the
transport stays on the one track that the transport is attached to, and nothing of the track changes but
its counters.
-/

namespace WhipWhep

namespace Track

variable {α β : Type} {track after : Track} {events : List Event}

/-- A track without its counters. -/
def settings (track : Track) : Track := { track with counters := .zero }

/-- Nothing of a track is different but its counters. -/
def Counted (track after : Track) : Prop := after.settings = track.settings

theorem Counted.codec (counted : track.Counted after) : after.codec = track.codec := by
  have same := congrArg Track.codec counted
  exact same

theorem Counted.target (counted : track.Counted after) : after.target = track.target := by
  have same := congrArg Track.target counted
  exact same

/-- One call to the layer, what the layer does with the transport before it comes to a result, and what is
made of the result. -/
theorem runs_called {request : Call} {relay : request.Answer → Relay (Except Error α)} {next : α → Act Track β}
    {outcome : Except Error β}
    (run : (do
      let answer ← Act.ask request
      let result ← Act.settle (← Track.relay fun target => (relay answer).play target)
      next result : Act Track β).Runs track events outcome after) :
    ∃ answer played result counters rest, events = ⟨request, answer⟩ :: (played ++ rest) ∧
      ((relay answer).play track.target).Runs track.counters played (.ok result) counters ∧
      (Act.settle result >>= next).Runs { track with counters := counters } rest outcome after := by
  obtain ⟨answer, _, rfl, called⟩ := Act.runs_ask_bind.1 run
  rcases Act.runs_bind.1 called with ⟨_, -, failed⟩ | ⟨_, result, middle, _, rfl, played, settled⟩
  · obtain ⟨_, -, inside⟩ := runs_relay.1 failed
    obtain ⟨-, _, wrong, -⟩ := Relay.outcome?_of_play inside
    cases wrong
  · obtain ⟨counters, rfl, inside⟩ := runs_relay.1 played
    exact ⟨answer, _, result, counters, _, rfl, inside, settled⟩

theorem codec_of_writer? {writer : Writer} (found : track.writer? = some writer) :
    track.codec = some (.writer writer) := by
  unfold writer? at found
  split at found
  · next opened =>
    cases found
    exact opened
  · cases found

theorem codec_of_reader? {reader : Reader} (found : track.reader? = some reader) :
    track.codec = some (.reader reader) := by
  unfold reader? at found
  split at found
  · next opened =>
    cases found
    exact opened
  · cases found

/-- A packet that has passed, if one has, is counted. -/
def moving (counters : Counters) : Option Packet → Counters
  | some packet => counters.frame packet.isKeyframe
  | none => counters

/-- Counting a packet asks for nothing. -/
theorem frame_runs {isKeyframe : Bool} {outcome : Except Error Unit}
    (run : (counting (Act.modify fun counters => counters.frame isKeyframe)).Runs track events outcome after) :
    events = [] ∧ outcome = .ok () ∧ after = { track with counters := track.counters.frame isKeyframe } := by
  obtain ⟨_, rfl, counted⟩ := Act.runs_within.1 run
  obtain ⟨rfl, rfl, rfl⟩ := Act.runs_modify.1 counted
  exact ⟨rfl, rfl, rfl⟩

/-- A packet that could not be framed goes nowhere. -/
theorem write_broken {writer : Writer} {cause : Error} {outcome : Except Error Unit}
    (opened : track.codec = some (.writer writer)) (run : (write (.error cause)).Runs track events outcome after) :
    events = [] ∧ outcome = .error cause ∧ after = track := by
  unfold write at run
  have found : track.writer? = some writer := by rw [writer?, opened]
  rw [Act.runs_get_bind, found] at run
  exact Act.runs_settle_bind.1 run

/-- A packet that was framed is handed to the writer, and the layer decides what comes of it. -/
theorem write_plays {writer : Writer} {packet : Packet} {outcome : Except Error Unit}
    (opened : track.codec = some (.writer writer)) (run : (write (.ok packet)).Runs track events outcome after) :
    ∃ (relay : Relay (Except Error Unit)) (played : List Event) (counters : Counters),
      events = ⟨.layer (.write writer.key packet), relay⟩ :: played ∧
      (relay.play track.target).Runs track.counters played (.ok outcome) counters ∧
      after = { track with counters := moving counters (outcome.toOption.map fun _ => packet) } := by
  unfold write at run
  have found : track.writer? = some writer := by rw [writer?, opened]
  rw [Act.runs_get_bind, found] at run
  obtain ⟨relay, played, result, counters, rest, rfl, inside, settled⟩ := runs_called (Act.runs_settle_bind.1 run)
  rw [Act.runs_settle_bind] at settled
  cases result with
  | error cause =>
    obtain ⟨rfl, rfl, rfl⟩ := settled
    exact ⟨relay, played, counters, by simp, inside, rfl⟩
  | ok value =>
    obtain ⟨rfl, rfl, rfl⟩ := frame_runs settled
    exact ⟨relay, played, counters, by simp, inside, rfl⟩

/-- A packet is taken from the reader, and the layer decides whether there is one. -/
theorem read_plays {reader : Reader} {outcome : Except Error Packet}
    (opened : track.codec = some (.reader reader)) (run : Track.read.Runs track events outcome after) :
    ∃ (relay : Relay (Except Error Packet)) (played : List Event) (answer : Except Error Packet)
        (counters : Counters),
      events = ⟨.layer (.read reader.key), relay⟩ :: played ∧
      (relay.play track.target).Runs track.counters played (.ok answer) counters ∧
      outcome = answer.map (fun packet => { packet with stream := track.index }) ∧
      after = { track with counters := moving counters outcome.toOption } := by
  unfold Track.read at run
  have found : track.reader? = some reader := by rw [reader?, opened]
  rw [Act.runs_get_bind, found] at run
  obtain ⟨relay, played, answer, counters, rest, rfl, inside, settled⟩ := runs_called run
  rw [Act.runs_settle_bind] at settled
  cases answer with
  | error cause =>
    obtain ⟨rfl, rfl, rfl⟩ := settled
    exact ⟨relay, played, _, counters, by simp, inside, rfl, rfl⟩
  | ok packet =>
    rcases Act.runs_bind.1 settled with ⟨_, -, failed⟩ | ⟨_, _, _, _, rfl, framed, returned⟩
    · obtain ⟨-, wrong, -⟩ := frame_runs failed
      cases wrong
    · obtain ⟨rfl, -, rfl⟩ := frame_runs framed
      obtain ⟨rfl, rfl, rfl⟩ := Act.runs_pure.1 returned
      exact ⟨relay, played, _, counters, by simp, inside, rfl, rfl⟩

theorem counted_of_write {framed : Except Error Packet} {outcome : Except Error Unit}
    (run : (write framed).Runs track events outcome after) : track.Counted after := by
  cases opened : track.writer? with
  | none =>
    unfold write at run
    rw [Act.runs_get_bind, opened] at run
    obtain ⟨-, -, rfl⟩ := Act.runs_fail.1 run
    exact rfl
  | some writer =>
    cases framed with
    | error cause =>
      obtain ⟨-, -, rfl⟩ := write_broken (codec_of_writer? opened) run
      exact rfl
    | ok packet =>
      obtain ⟨_, _, _, -, -, rfl⟩ := write_plays (codec_of_writer? opened) run
      exact rfl

theorem counted_of_read {outcome : Except Error Packet} (run : Track.read.Runs track events outcome after) :
    track.Counted after := by
  cases opened : track.reader? with
  | none =>
    unfold Track.read at run
    rw [Act.runs_get_bind, opened] at run
    obtain ⟨-, -, rfl⟩ := Act.runs_fail.1 run
    exact rfl
  | some reader =>
    obtain ⟨_, _, _, _, -, -, -, rfl⟩ := read_plays (codec_of_reader? opened) run
    exact rfl

end Track
end WhipWhep
