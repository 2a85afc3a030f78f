import WhipWhep.Proofs.Session.Opening
import WhipWhep.Proofs.Steps

/-!
Failing to open. A session that cannot be opened gives back all that it was handed out, and it reports
the first step that failed. What its teardown is answered makes no difference to that.
-/

namespace WhipWhep

namespace Publisher

/-- What is done for one stream. -/
def streamSteps (stream : StreamParams × Nat) (rest : Steps Publisher) : Steps Publisher :=
  let (params, index) := (timed stream.1, stream.2)
  .step (Act.modify fun publisher =>
    { publisher with streams := publisher.streams.set index params }) fun _ =>
  .step (onContext (Context.bindTrack index)) fun binding =>
  .step (onContext (Context.onTrack index (Track.openWriter params index binding.info))) fun writer =>
  .step (Act.settle ((Sdp.advertisedFormat params writer.payloadType).mapError Error.media)) fun profile =>
  .step (Act.settle ((framingOf params).mapError Error.media)) fun framing =>
  .step (Act.modify fun publisher =>
    { publisher with framing := publisher.framing.set index framing }) fun _ =>
  .step (Act.settle (demand (.config (.unsupportedCodec params.codec.name))
    (EngineCodec.ofCodec? params.codec))) fun codec =>
  .step Act.get fun publisher =>
  .step (onContext (Context.addTrack index
    (trackInit publisher.context.msid params index codec writer (profile.map String.ofList)))) fun _ =>
  .step (onContext (Context.onTrack index (Track.setParams params))) fun _ => rest

def steps (streams : List StreamParams) : Steps Publisher :=
  .each streamSteps streams.zipIdx <|
  .step (onContext Context.createResource) fun _ =>
  .step (onContext Context.waitConnected) fun _ => .done

theorem act_streamSteps (stream : StreamParams × Nat) (rest : Steps Publisher) :
    (streamSteps stream rest).act = addStream stream.1 stream.2 >>= fun _ => rest.act := by
  simp only [addStream, Act.bind_assoc]
  rfl

theorem setup_steps (publisher : Publisher) :
    setup publisher = (steps publisher.streams).act publisher := by
  rw [steps, Steps.act_each act_streamSteps]
  simp only [Steps.act, bind_pure_unit]
  rfl

end Publisher

namespace Player

/-- What is done for one track that is offered. -/
def offerSteps (offered : OfferedTrack × Nat) (rest : Steps Player) : Steps Player :=
  .step (Act.ask (.host (.random 32))) fun bits =>
  .step Act.get fun player =>
  .step (onContext (Context.addTrack offered.2
    (trackInit player.context.msid offered.1 offered.2 (UInt32.ofBitVec bits)))) fun _ => rest

/-- What is done for one track that is read. -/
def readerSteps (index : Nat) (rest : Steps Player) : Steps Player :=
  .step (onContext (Context.trackDescription index)) fun description =>
  .step (Act.settle ((Sdp.checkSize description.utf8ByteSize).mapError Error.signaling)) fun _ =>
  .step (Act.settle ((Sdp.MediaDescription.parse description.toList).mapError fun cause =>
    .signaling (.malformed cause.message))) fun media =>
  .step (onContext (Context.bindTrack index)) fun binding =>
  .step (onContext (Context.onTrack index (Track.openReader media binding.info))) fun reader =>
  .step (onContext (Context.onTrack index (Track.setParams reader.params))) fun _ =>
  .step (Act.modify fun player => { player with streams := player.streams ++ [reader.params] }) fun _ =>
  rest

def steps : Steps Player :=
  .each offerSteps offeredTracks.zipIdx <|
  .step (onContext Context.createResource) fun _ =>
  .step (onContext Context.waitConnected) fun _ =>
  .each readerSteps (List.range offeredTracks.length) .done

theorem act_offerSteps (offered : OfferedTrack × Nat) (rest : Steps Player) :
    (offerSteps offered rest).act = offerTrack offered.1 offered.2 >>= fun _ => rest.act := by
  simp only [offerTrack, Act.bind_assoc]
  rfl

theorem act_readerSteps (index : Nat) (rest : Steps Player) :
    (readerSteps index rest).act = openReader index >>= fun _ => rest.act := by
  simp only [openReader, Act.bind_assoc]
  rfl

theorem setup_steps : setup = steps.act := by
  rw [steps, Steps.act_each act_offerSteps]
  simp only [Steps.act, Steps.act_each act_readerSteps, bind_pure_unit]
  rfl

end Player

/-- The steps of a setup up to the first one that fails, as the role has them. -/
inductive Role.Stops (context : Context) (events : List Event) (cause : Error) : Role → Client → Prop where
  | ingest {streams : List StreamParams} {half : Publisher}
      (stops : (Publisher.steps streams).Stops ⟨context, streams, streams.map fun _ => none⟩ events cause
        half) :
      Stops context events cause (.ingest streams) (.publisher half)
  | egress {half : Player} (stops : Player.steps.Stops ⟨context, [], 0⟩ events cause half) :
      Stops context events cause .egress (.player half)

variable {role : Role} {config : ClientConfig} {events : List Event}

theorem Role.SetsUp.stops {context : Context} {cause : Error} {half : Client}
    (sets : role.SetsUp context events (.error cause) half) : role.Stops context events cause half := by
  cases sets with
  | ingest run =>
    unfold Act.Runs at run
    rw [Publisher.setup_steps] at run
    exact .ingest (Steps.stops_iff.1 run)
  | egress run =>
    rw [Player.setup_steps] at run
    exact .egress (Steps.stops_iff.1 run)

/-- What an opening does up to the first step that fails, what it does after that, and the error of
the step. -/
inductive Client.FirstFailure (role : Role) (config : ClientConfig) :
    List Event → List Event → Error → Prop where
  | unfit {cause : ConfigError} (refused : role.check = .error cause) :
      FirstFailure role config [] [] (.config cause)
  | unbegun {building closing : List Event} {cause : Error} (fit : role.check = .ok ())
      (fails : Context.Fails config building closing cause) :
      FirstFailure role config building closing cause
  | unopened {first second teardown : List Event} {context after : Context} {half : Client}
      {cause : Error} (fit : role.check = .ok ())
      (begins : Context.Begins config role.tracks first context)
      (stops : role.Stops context second cause half)
      (closes : Context.Closes half.context teardown after) :
      FirstFailure role config (first ++ second) teardown cause

namespace Context

theorem Begins.unique {count : Nat} {first second rest more : List Event} {context other : Context}
    (begins : Begins config count first context) (again : Begins config count second other)
    (alike : first ++ rest = second ++ more) : first = second ∧ context = other := by
  cases begins with
  | begun valid bits started =>
    cases again with
    | begun same bits' started' =>
      rw [valid] at same
      cases same
      simp only [List.cons_append, List.cons.injEq, Event.mk.injEq, heq_eq_eq, true_and] at alike
      obtain ⟨rfl, rfl, -⟩ := alike
      exact ⟨rfl, rfl⟩

theorem Fails.unique {building closing other later rest : List Event} {cause reason : Error}
    (fails : Fails config building closing cause) (again : Fails config other later reason)
    (alike : building ++ rest = other ++ later) : reason = cause := by
  cases fails <;> cases again <;> simp_all

theorem Fails.not_begins {count : Nat} {building closing first rest more : List Event} {cause : Error}
    {context : Context} (fails : Fails config building closing cause)
    (begins : Begins config count first context) : building ++ rest ≠ first ++ more := by
  intro alike
  cases fails <;> cases begins <;> simp_all

end Context

namespace Client

variable {cause : Error} {outcome : Except Error Client}

theorem Opens.of_unfit {cause : ConfigError} (refused : role.check = .error cause)
    (opens : Opens role config events outcome) : outcome = .error (.config cause) := by
  cases opens with
  | unfit same =>
    rw [refused] at same
    cases same
    rfl
  | unbegun fit => cases refused.symm.trans fit
  | unopened fit => cases refused.symm.trans fit
  | opened fit => cases refused.symm.trans fit

theorem Opens.of_fails {building closing other : List Event} (fit : role.check = .ok ())
    (fails : Context.Fails config building closing cause)
    (opens : Opens role config (building ++ other) outcome) : outcome = .error cause := by
  generalize alike : building ++ other = all at opens
  cases opens with
  | unfit refused => cases refused.symm.trans fit
  | unbegun fit again => rw [fails.unique again alike]
  | unopened fit begins =>
    rw [List.append_assoc] at alike
    exact absurd alike (fails.not_begins begins)
  | opened fit begins => exact absurd alike (fails.not_begins begins)

/-- Openings that begin alike set up the same session, and they part where they are answered differently. -/
theorem Opens.of_setsUp {first second other : List Event} {context : Context} {half : Client}
    (fit : role.check = .ok ()) (begins : Context.Begins config role.tracks first context)
    (sets : role.SetsUp context second (.error cause) half)
    (opens : Opens role config (first ++ second ++ other) outcome) : outcome = .error cause := by
  generalize alike : first ++ second ++ other = all at opens
  rw [List.append_assoc] at alike
  cases opens with
  | unfit refused => cases refused.symm.trans fit
  | unbegun fit fails => exact absurd alike.symm (fails.not_begins begins)
  | unopened fit again setsAgain closes =>
    rw [List.append_assoc] at alike
    obtain ⟨rfl, rfl⟩ := begins.unique again alike
    obtain ⟨-, same⟩ := sets.unique setsAgain (List.append_cancel_left alike)
    cases same
    rfl
  | @opened _ made _ _ fit again setsAgain =>
    obtain ⟨rfl, rfl⟩ := begins.unique again alike
    have rest := List.append_cancel_left alike
    rw [← List.append_nil made] at rest
    obtain ⟨-, wrong⟩ := sets.unique setsAgain rest
    cases wrong

/-- An opening that starts out like a failed one, up to the failure, fails in the same way. -/
theorem Opens.blame (opens : Opens role config events (.error cause)) :
    ∃ building teardown, events = building ++ teardown ∧
      FirstFailure role config building teardown cause ∧
      ∀ {other : List Event} {outcome : Except Error Client},
        Opens role config (building ++ other) outcome → outcome = .error cause := by
  cases opens with
  | unfit refused => exact ⟨[], [], rfl, .unfit refused, fun again => again.of_unfit refused⟩
  | unbegun fit fails => exact ⟨_, _, rfl, .unbegun fit fails, fun again => again.of_fails fit fails⟩
  | unopened fit begins sets closes =>
    exact ⟨_, _, rfl, .unopened fit begins sets.stops closes, fun again => again.of_setsUp fit begins sets⟩

end Client

/-! Where the peer connection is closed. -/

/-- The requests that leave the peer connection up. -/
def Call.keepsPeer : Call → Bool
  | .engine .close => false
  | _ => true

theorem keepsPeer_of_stands {call : Call} (stands : call.stands = true) : call.keepsPeer = true := by
  unfold Call.keepsPeer
  split
  · cases stands
  · rfl

theorem keepsPeer_of_releasing {call : Call} (releasing : call.isReleasing = true) :
    call.keepsPeer = true := by
  unfold Call.keepsPeer
  split
  · cases releasing
  · rfl

/-- The peer connection is closed by the last of the requests, and by no other. -/
def ClosedLast (events : List Event) : Prop :=
  ∃ inner, events = inner ++ [⟨.engine .close, ()⟩] ∧ AllOf Call.keepsPeer inner

theorem ClosedLast.after {first : List Event} (keeps : AllOf Call.keepsPeer first)
    (last : ClosedLast events) : ClosedLast (first ++ events) := by
  obtain ⟨inner, rfl, kept⟩ := last
  exact ⟨first ++ inner, (List.append_assoc _ _ _).symm, keeps.append kept⟩

theorem count_close_of_keepsPeer (keeps : AllOf Call.keepsPeer events) :
    (asked events).count (.engine .close) = 0 := by
  rw [List.count_eq_zero]
  intro member
  obtain ⟨event, inside, closes⟩ := List.mem_map.1 member
  have kept := keeps event inside
  rw [closes] at kept
  cases kept

theorem ClosedLast.count (last : ClosedLast events) : (asked events).count (.engine .close) = 1 := by
  obtain ⟨inner, rfl, kept⟩ := last
  rw [asked_append, List.count_append, count_close_of_keepsPeer kept]
  rfl

theorem ClosedLast.ends (last : ClosedLast events) {before after : List Event}
    {answer : (Call.engine .close).Answer}
    (splits : events = before ++ ⟨.engine .close, answer⟩ :: after) : after = [] := by
  obtain ⟨inner, rfl, kept⟩ := last
  rcases List.eq_nil_or_concat after with rfl | ⟨early, final, rfl⟩
  · rfl
  · have alike : inner ++ [⟨.engine .close, ()⟩] =
        (before ++ ⟨.engine .close, answer⟩ :: early) ++ [final] := by simpa using splits
    obtain ⟨rfl, -⟩ := List.append_inj' alike rfl
    cases kept _ (List.mem_append_right before List.mem_cons_self)

namespace Context

theorem SetUp.stands {count : Nat} {start after : Context} {outcome : Except Error Unit}
    (sets : SetUp count start events outcome after) : AllOf Call.stands events := by
  have prepares : ∀ {first middle}, Uses Call.isPreparing start first middle → AllOf Call.stands first :=
    fun preparing => preparing.ofKind.weaken fun kind => stands_of_working (working_of_preparing kind)
  cases sets with
  | unprepared preparing => exact prepares preparing
  | uncreated preparing all creates =>
    exact (prepares preparing).append (creates.exchanging.weaken stands_of_exchanging)
  | created preparing all creates finishes =>
    have exchanged := (prepares preparing).append (creates.exchanging.weaken stands_of_exchanging)
    exact exchanged.append (finishes.uses.ofKind.weaken stands_of_working)

theorem Begins.keepsPeer {count : Nat} {context : Context} (begins : Begins config count events context) :
    AllOf Call.keepsPeer events := by
  cases begins with
  | begun valid bits started => simp [AllOf, Call.keepsPeer]

theorem Closes.closedLast {context after : Context} (up : context.hasPeer = true)
    (closes : Closes context events after) : ClosedLast events := by
  obtain ⟨deleting, releasing, rfl, deletes, releases⟩ := closes.course
  have asks : AllOf Call.keepsPeer deleting := by
    cases deletes with
    | absent vacant => exact .nil
    | unsendable stored unfit => exact .nil
    | sent stored fit progress => exact .single rfl _
  cases releases with
  | absent closed => cases up.symm.trans closed
  | released up uses bare =>
    exact ClosedLast.after asks ⟨_, rfl, uses.ofKind.weaken keepsPeer_of_releasing⟩

end Context

namespace Client

/-- A peer connection that was made for a session which cannot be opened is closed last. -/
theorem Opens.closes {cause : Error} (opens : Opens role config events (.error cause)) :
    ClosedLast events ∨ AllOf Call.keepsPeer events ∧
      ∀ servers, ⟨.engine (.create servers), .ok ()⟩ ∉ events := by
  cases opens with
  | unfit refused => exact .inr ⟨.nil, fun _ => List.not_mem_nil⟩
  | unbegun fit fails =>
    cases fails with
    | invalid refused => exact .inr ⟨.nil, fun _ => List.not_mem_nil⟩
    | uncreated valid => exact .inr ⟨by simp [AllOf, Call.keepsPeer], by simp⟩
    | unwatched valid => exact .inl ⟨_, rfl, by simp [AllOf, Call.keepsPeer]⟩
  | unopened fit begins sets closes =>
    obtain ⟨-, up⟩ := begins.accounts
    have setUp := sets.setUp up
    have still := setUp.accounts.2.trans up
    exact .inl ((closes.closedLast still).after
      (begins.keepsPeer.append (setUp.stands.weaken keepsPeer_of_stands)))

/-- What is said of a session that could not be opened, by what it has asked for and was answered. -/
structure FailsCleanly (role : Role) (config : ClientConfig) (events : List Event) (cause : Error) :
    Prop where
  /-- Each track, writer, reader and peer connection is given back as often as it was handed out. -/
  returned : ∀ call : Call, call.isReturn = true → (asked events).count call = (owed events).count call
  /-- A peer connection is closed once. -/
  closed : ∀ servers : List String, ⟨.engine (.create servers), .ok ()⟩ ∈ events →
    (asked events).count (.engine .close) = 1
  /-- No track is deleted once the peer connection is closed. -/
  ordered : ∀ before answer after, events = before ++ ⟨.engine .close, answer⟩ :: after →
    ∀ event ∈ after, ∀ track, event.call ≠ .engine (.deleteTrack track)
  /-- The error is that of the first step that failed. Whatever is answered after that step, the opening
  fails with the same error. -/
  blamed : ∃ building teardown, events = building ++ teardown ∧
    FirstFailure role config building teardown cause ∧
    ∀ other outcome, (openSession role config).Runs () (building ++ other) outcome () →
      outcome = .error cause

/-- A session that cannot be opened gives everything back, and tells the first step that failed. -/
theorem openSession_fails_cleanly {cause : Error}
    (run : (openSession role config).Runs () events (.error cause) ()) :
    FailsCleanly role config events cause := by
  have opens := opens_of_runs run
  obtain ⟨building, teardown, split, failure, alike⟩ := opens.blame
  refine ⟨fun call returns => ?_, fun servers created => ?_, fun before answer after here => ?_,
    building, teardown, split, failure, fun other outcome again => alike (opens_of_runs again)⟩
  · have balance := opens.accounts.total returns
    simp only [List.count_nil, Nat.add_zero] at balance
    exact balance.symm
  · rcases opens.closes with last | ⟨-, never⟩
    · exact last.count
    · exact absurd created (never servers)
  · rcases opens.closes with last | ⟨kept, -⟩
    · rw [last.ends here]
      exact fun event member => absurd member List.not_mem_nil
    · rw [here] at kept
      cases kept _ (List.mem_append_right before List.mem_cons_self)

theorem openSession_fails_cleanly_unanswered :
    FailsCleanly .egress Unanswered.setting Unanswered.whole (.signaling .emptyAnswer) :=
  openSession_fails_cleanly Unanswered.runs

end Client
end WhipWhep
