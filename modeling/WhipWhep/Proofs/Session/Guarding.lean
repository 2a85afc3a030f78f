import WhipWhep.Proofs.Session.Playing

/-!
The guard. However a session was used since it was opened, whether it is connected, cut off or closed by
now, its packets pass the guard or nothing happens at all.
-/

namespace WhipWhep

variable {events : List Event}

namespace Player

variable {player after : Player} {index : Nat}

/-- What lasts of a player is enough for its reads. -/
theorem Ready.lasts {later : Player} (ready : player.Ready) (lasts : player.context.Lasts later.context) :
    later.Ready where
  tracks := lasts.size.trans ready.tracks
  readers up := by
    obtain ⟨codecs, still⟩ := Context.codecs_of_settings (lasts.up up)
    rw [codecs]
    exact ready.readers (still.symm.trans up)

/-- The guard of each read. A read of any stream tries them all, each behind the guard, and one that waits
is guarded from its first look on. -/
structure Guarded (player : Player) : Prop where
  stream : ∀ {index : Nat} {events : List Event} {outcome : Except Error Packet} {after : Player},
    (tryReadStream index).Runs player events outcome after →
    Context.Gate player.context player (Reads player index) events outcome after
  tryRead : ∀ {events : List Event} {outcome : Except Error Packet} {after : Player},
    Player.tryRead.Runs player events outcome after →
    Context.Gate player.context player (fun later outcome after =>
      Tries offeredTracks.length (order player.next offeredTracks.length) player (seenOpen :: later) outcome
        after) events outcome after
  read : ∀ {events : List Event} {outcome : Except Error Packet} {after : Player},
    Player.read.Runs player events outcome after →
    ∃ start rest, events = ⟨.host (.now 0), start⟩ :: rest ∧
      Context.Gate player.context player (fun rest outcome after => Heeds (seenOpen :: rest) outcome ∧
        ∀ cause, outcome = .error cause → after.next = player.next) rest outcome after

theorem Ready.guarded (ready : player.Ready) : player.Guarded where
  stream := tryReadStream_gate ready
  tryRead := tryRead_gate ready
  read := read_gate ready

end Player

/-- The guard of each packet that is sent. -/
structure Publisher.Guarded (publisher : Publisher) : Prop where
  writePacket : ∀ {packet : Packet} {events : List Event} {outcome : Except Error Unit} {after : Publisher},
    (Publisher.writePacket packet).Runs publisher events outcome after →
    Context.Gate publisher.context publisher (Writes publisher packet) events outcome after

namespace Client

variable {role : Role} {config : ClientConfig} {client after : Client}

/-- A session of which every track has its end of the layer, as long as there is a peer connection. -/
def Ready : Client → Prop
  | .publisher session => session.Ready
  | .player session => session.Ready

/-- The guards of a session, as its role has them. -/
def Guarded : Client → Prop
  | .publisher session => session.Guarded
  | .player session => session.Guarded

theorem ready_of_opened (opened : (openSession role config).Runs () events (.ok client) ()) : client.Ready := by
  cases opens_of_runs opened with
  | opened fit begins sets =>
    cases sets with
    | ingest run =>
      obtain ⟨_, -, -, strung, -⟩ := Publisher.setup_ok (Publisher.strung_of_begins begins) rfl run
      exact strung.ready
    | egress run =>
      refine Player.setup_ready ?_ run
      dsimp only
      rw [begins.bare.2, Registry.allocate, List.length_map, List.length_range]
      rfl

/-- A session that has just opened has its peer connection. -/
theorem up_of_opened (opened : (openSession role config).Runs () events (.ok client) ()) :
    client.context.hasPeer = true := by
  cases opens_of_runs opened with
  | opened fit begins sets =>
    have up := begins.accounts.2
    exact (sets.setUp up).accounts.2.trans up

theorem Ready.lasts (ready : client.Ready) (lasts : client.Lasts after) : after.Ready := by
  cases lasts with
  | publisher lasts streams framing => exact Publisher.Ready.lasts ready lasts framing
  | player lasts streams => exact Player.Ready.lasts ready lasts

/-- However a session was used since it was opened, its packets are guarded. -/
theorem reachable_guarded {opening used : List Event} {operations : List Operation} {first : Client}
    {outcome : Except Error PUnit} (opened : (openSession role config).Runs () opening (.ok first) ())
    (uses : (operations.forM Operation.perform).Runs first used outcome client) : client.Guarded := by
  have ready := (ready_of_opened opened).lasts (lasts_of_operations uses)
  cases client with
  | publisher session => exact ⟨Publisher.writePacket_gate ready⟩
  | player session => exact Player.Ready.guarded ready

theorem reachable_guarded_broadcast : Client.Guarded (.publisher Publisher.Broadcast.passed) := by
  have opened : (openSession (.ingest [Publisher.Broadcast.video, Publisher.Broadcast.audio])
      Unanswered.setting).Runs () (Publisher.Broadcast.opening ++ [])
      (.ok (.publisher Publisher.Broadcast.session)) () :=
    Act.runs_bind.2 (.inr ⟨_, _, (), [], rfl, Publisher.Broadcast.runs, .done _⟩)
  have used : ([Operation.write Publisher.Broadcast.packet].forM Operation.perform).Runs
      (.publisher Publisher.Broadcast.session) Publisher.Broadcast.passing (.ok ())
      (.publisher Publisher.Broadcast.passed) :=
    .call _ _ _ (.call _ _ _ (.call _ _ _ (.call _ _ _ (.done _))))
  exact reachable_guarded opened used

end Client
end WhipWhep
