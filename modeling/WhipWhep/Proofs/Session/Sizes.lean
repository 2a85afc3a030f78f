import WhipWhep.Proofs.Exchange.Sizes
import WhipWhep.Proofs.Preceding
import WhipWhep.Proofs.Session.Weaving

/-!
The descriptions of a session and how large they are. Three kinds of them cross its border: the offer, which is
posted, the answer, which the engine is given, and what the engine tells of each track, which a player reads.
Each is measured before it is used, and one that is too large ends the opening.
-/

namespace WhipWhep

/-- What is wrong with the description of a track, where the size is looked at first. -/
inductive Unreadable (description : String) : SignalingError → Prop where
  | oversized (large : Sdp.maxSize < description.utf8ByteSize) :
      Unreadable description (.descriptionTooLarge Sdp.maxSize)
  | malformed {cause : Sdp.Malformation} (small : description.utf8ByteSize ≤ Sdp.maxSize)
      (broken : Sdp.MediaDescription.parse description.toList = .error cause) :
      Unreadable description (.malformed cause.message)

/-- The requests that open a reader. -/
def Call.isReaderOpening : Call → Bool
  | .layer (.openReader _ _) => true
  | _ => false

/-- A reader is opened for what the engine has told of a track. -/
def ReadFrom (told opening : Event) : Prop :=
  ∃ (handle : Handle) (description : String) (media : Sdp.MediaDescription) (transport : TransportInfo),
    told = ⟨.engine (.trackDescription handle), .ok description⟩ ∧
    opening.call = .layer (.openReader media transport) ∧ description.utf8ByteSize ≤ Sdp.maxSize ∧
    Sdp.MediaDescription.parse description.toList = .ok media

/-- The requests that have nothing to do with what the engine tells of a track. -/
def Call.isUnread : Call → Bool
  | .engine (.trackDescription _) => false
  | .layer (.openReader _ _) => false
  | _ => true

/-- What the engine tells of its tracks is read with care: readers are opened for what can be read, and what
cannot be read is the cause of the failure. -/
structure Interprets {α : Type} (events : List Event) (outcome : Except Error α) : Prop where
  preceded : Preceded Call.isReaderOpening ReadFrom none events
  refused : ∀ {handle description cause}, ⟨.engine (.trackDescription handle), .ok description⟩ ∈ events →
    Unreadable description cause → outcome = .error (.signaling cause)

variable {α β σ : Type} {events early late : List Event}

theorem preceded_of_unread (unread : AllOf Call.isUnread events) :
    Preceded Call.isReaderOpening ReadFrom none events := by
  refine preceded_of_free fun event member => ?_
  have kind := unread event member
  unfold Call.isReaderOpening
  split
  · next same =>
    rw [same] at kind
    cases kind
  · rfl

theorem interprets_of_unread {outcome : Except Error α} (unread : AllOf Call.isUnread events) :
    Interprets events outcome where
  preceded := preceded_of_unread unread
  refused told := by cases unread _ told

theorem Interprets.append {first : Except Error α} {outcome : Except Error β} (one : Interprets early first)
    (two : Interprets late outcome) (onward : ∀ cause, first = .error cause → outcome = .error cause) :
    Interprets (early ++ late) outcome where
  preceded := one.preceded.append two.preceded
  refused told unreadable := by
    rcases List.mem_append.1 told with before | behind
    · exact onward _ (one.refused before unreadable)
    · exact two.refused behind unreadable

theorem interprets_bind {act : Act σ α} {next : α → Act σ β} {state after : σ} {outcome : Except Error β}
    (first : ∀ {events outcome after}, act.Runs state events outcome after → Interprets events outcome)
    (second : ∀ {early late result middle outcome after}, act.Runs state early (.ok result) middle →
      (next result).Runs middle late outcome after → Interprets late outcome)
    (run : (act >>= next).Runs state events outcome after) : Interprets events outcome := by
  rcases Act.runs_bind.1 run with ⟨_, rfl, failed⟩ | ⟨_, _, _, _, rfl, passed, onward⟩
  · exact ⟨(first failed).preceded, fun told unreadable => by
      cases (first failed).refused told unreadable
      rfl⟩
  · exact (first passed).append (second passed onward) nofun

theorem interprets_forM {items : List β} {act : β → Act σ PUnit} {state after : σ} {outcome : Except Error PUnit}
    (each : ∀ {item state events outcome after}, (act item).Runs state events outcome after →
      Interprets events outcome)
    (run : (items.forM act).Runs state events outcome after) : Interprets events outcome := by
  induction items generalizing state events outcome after with
  | nil =>
    obtain ⟨rfl, -, -⟩ := Act.runs_pure.1 run
    exact interprets_of_unread .nil
  | cons item rest ih => exact interprets_bind each (fun _ => ih) run

/-! The requests of a session that have nothing to do with it. -/

theorem unread_of_preparing {call : Call} (preparing : call.isPreparing = true) : call.isUnread = true := by
  unfold Call.isUnread
  split <;> first | rfl | cases preparing

theorem unread_of_exchanging {call : Call} (exchanging : call.isExchanging = true) : call.isUnread = true := by
  unfold Call.isUnread
  split <;> first | rfl | cases exchanging

theorem unread_of_waiting {call : Call} (waiting : call.isWaiting = true) : call.isUnread = true := by
  unfold Call.isUnread
  split <;> first | rfl | cases waiting

theorem unread_of_releasing {call : Call} (releasing : call.isReleasing = true) : call.isUnread = true := by
  unfold Call.isUnread
  split <;> first | rfl | cases releasing

theorem unread_of_relayed {call : Call} (relayed : call.isRelayed = true) : call.isUnread = true :=
  unread_of_releasing (releasing_of_relayed relayed)

namespace Track

variable {track after : Track}

/-- What the layer opens it is asked for once, and what is refused by the track is closed. -/
theorem opening_asks {kind : Call → Bool} {request : Call} {relay : request.Answer → Relay (Except Error α)}
    {outcome : Except Error α} (session : α → CodecSession) (closing : ∀ opened, kind (session opened).closing = true)
    (relays : ∀ {call : Call}, call.isRelayed = true → kind call = true)
    (run : (do
      let opened ← Track.relay fun target => do
        let answer ← Act.ask request
        Act.settle (← (relay answer).play target)
      setCodec (session opened)
      return opened : Act Track α).Runs track events outcome after) :
    ∃ answer more, events = ⟨request, answer⟩ :: more ∧ AllOf kind more := by
  have opens : ∀ {events : List Event} {outcome : Except Error α} {after : Track},
      (Track.relay fun target => do
        let answer ← Act.ask request
        Act.settle (← (relay answer).play target)).Runs track events outcome after →
      ∃ answer played, events = ⟨request, answer⟩ :: played ∧ AllOf kind played := by
    intro events outcome after opening
    obtain ⟨_, -, called⟩ := runs_relay.1 opening
    obtain ⟨answer, played, rfl, plays⟩ := Relay.runs_called called
    exact ⟨answer, played, rfl, AllOf.weaken (Relay.keeps_play _ _ _ plays) relays⟩
  rcases Act.runs_bind.1 run with ⟨_, rfl, failed⟩ | ⟨_, opened, _, _, rfl, opening, onward⟩
  · exact opens failed
  obtain ⟨answer, played, rfl, ofKind⟩ := opens opening
  refine ⟨answer, _, rfl, ofKind.append ?_⟩
  rcases Act.runs_bind.1 onward with ⟨_, rfl, failed⟩ | ⟨_, _, _, _, rfl, taken, told⟩
  · exact (uses_setCodec (closing opened) relays failed).2
  · obtain ⟨rfl, -, -⟩ := Act.runs_pure.1 told
    rw [List.append_nil]
    exact (uses_setCodec (closing opened) relays taken).2

end Track

namespace Context

variable {context after : Context} {index : Nat}

/-- The engine is asked at most once, and its answer is what is told of the track. -/
theorem trackDescription_asks {outcome : Except Error String}
    (run : (trackDescription index).Runs context events outcome after) :
    (events = [] ∧ ∃ cause, outcome = .error cause) ∨
      ∃ (handle : Handle) (answer : Except EngineError String),
        events = [⟨.engine (.trackDescription handle), answer⟩] ∧ outcome = answer.mapError Error.engine := by
  unfold trackDescription at run
  rw [Act.runs_get_bind, Act.runs_settle_bind] at run
  split at run
  · split at run
    · obtain ⟨rfl, rfl, -⟩ := Act.runs_fail.1 run
      exact .inl ⟨rfl, _, rfl⟩
    next handle _ =>
    rcases Act.runs_bind.1 run with ⟨cause, rfl, failed⟩ | ⟨_, _, _, _, rfl, passed, asks⟩
    · obtain ⟨rfl, -, -⟩ := requirePeer_up failed
      exact .inl ⟨rfl, cause, rfl⟩
    · obtain ⟨rfl, rfl, -⟩ := requirePeer_up passed
      obtain ⟨answer, _, rfl, told⟩ := Act.runs_ask_bind.1 asks
      obtain ⟨rfl, rfl, -⟩ := Act.runs_granted.1 told
      exact .inr ⟨handle, answer, rfl, rfl⟩
  · obtain ⟨rfl, rfl, -⟩ := run
    exact .inl ⟨rfl, _, rfl⟩

theorem unread_createResource : createResource.Keeps (Act.OfKind Call.isUnread) context := by
  have composes : @Act.Composes Context (Act.OfKind Call.isUnread) := Act.composes_ofKind _
  refine Act.keeps_bind composes (fun _ _ _ run => (keeps_requirePeer _ _ _ run).ofKind) fun _ => ?_
  intro events outcome after run
  obtain ⟨_, -, inside⟩ := Act.runs_within.1 run
  exact (Exchange.creates_of_runs inside).exchanging.weaken unread_of_exchanging

theorem unread_waitConnected : waitConnected.Keeps (Act.OfKind Call.isUnread) context :=
  fun _ _ _ run => (waitConnected_waits run).1.ofKind.weaken unread_of_waiting

end Context

theorem Publisher.unread_setup {publisher : Publisher} :
    Publisher.setup.Keeps (Act.OfKind Call.isUnread) publisher := by
  have composes : @Act.Composes Publisher (Act.OfKind Call.isUnread) := Act.composes_ofKind _
  refine Act.keeps_bind composes (Act.keeps_get composes) fun _ => ?_
  refine Act.keeps_bind composes (Act.keeps_forM composes fun item _ _ _ _ _ run => ?_) fun _ => ?_
  · exact AllOf.weaken (addStream_adds _ _ _ run).1.ofKind unread_of_preparing
  refine Act.keeps_bind composes (fun _ _ _ run => ?_) fun _ _ _ _ run => ?_
  · exact Context.unread_createResource _ _ _ (runs_onContext run)
  · exact Context.unread_waitConnected _ _ _ (runs_onContext run)

namespace Player

variable {player after : Player} {index : Nat} {outcome : Except Error Unit}

/-- Once a description is read a reader is opened for it, or nothing is asked for any more. -/
theorem reader_asks {media : Sdp.MediaDescription}
    (run : (do
      let binding ← onContext (Context.bindTrack index)
      let reader ← onContext (Context.onTrack index (Track.openReader media binding.info))
      onContext (Context.onTrack index (Track.setParams reader.params))
      Act.modify fun player => { player with streams := player.streams ++ [reader.params] } :
        Act Player Unit).Runs player events outcome after) :
    events = [] ∨ ∃ (transport : TransportInfo) (relay : Relay (Except Error Reader)) (more : List Event),
      events = ⟨.layer (.openReader media transport), relay⟩ :: more ∧ AllOf Call.isUnread more := by
  have binds : ∀ {events : List Event} {outcome : Except Error Binding} {middle : Player},
      (onContext (Context.bindTrack index)).Runs player events outcome middle → events = [] := by
    intro events outcome middle binding
    have idle : Context.Uses (fun _ => false) player.context events middle.context :=
      Context.keeps_bindTrack _ _ _ (runs_onContext binding)
    exact idle.ofKind.eq_nil
  rcases Act.runs_bind.1 run with ⟨_, -, failed⟩ | ⟨_, binding, middle, _, rfl, bound, opens⟩
  · exact .inl (binds failed)
  obtain rfl := binds bound
  have asks : ∀ {events : List Event} {outcome : Except Error Reader} {last : Player},
      (onContext (Context.onTrack index (Track.openReader media binding.info))).Runs middle events outcome last →
      (events = [] ∧ ∀ reader, outcome ≠ .ok reader) ∨ ∃ (transport : TransportInfo)
        (relay : Relay (Except Error Reader)) (more : List Event),
        events = ⟨.layer (.openReader media transport), relay⟩ :: more ∧ AllOf Call.isUnread more := by
    intro events outcome last opening
    rcases Context.runs_onTrack (runs_onContext opening) with ⟨rfl, rfl, -⟩ | ⟨_, _, inside, -⟩
    · exact .inl ⟨rfl, nofun⟩
    · obtain ⟨relay, more, rfl, unread⟩ := Track.opening_asks CodecSession.reader (fun _ => rfl)
        unread_of_relayed inside
      exact .inr ⟨_, relay, more, rfl, unread⟩
  rcases Act.runs_bind.1 opens with ⟨_, -, failed⟩ | ⟨_, reader, voiced, late, rfl, opened, onward⟩
  · rcases asks failed with ⟨rfl, -⟩ | asked
    · exact .inl rfl
    · exact .inr asked
  · have notes : Uses (fun _ => false) voiced late after := by
      refine Act.keeps_bind composes_uses ?_ (fun _ => ?_) _ _ _ onward
      · exact keeps_onContext fun _ => Context.keeps_idle fun _ => Track.keeps_setParams
      · exact keeps_modify rfl
    obtain rfl := notes.ofKind.eq_nil
    rw [List.append_nil]
    exact .inr ((asks opened).resolve_left fun ⟨_, failed⟩ => failed reader rfl)

theorem openReader_interprets (run : (openReader index).Runs player events outcome after) :
    Interprets events outcome := by
  rcases Act.runs_bind.1 run with ⟨cause, rfl, failed⟩ | ⟨_, description, _, rest, rfl, described, reads⟩
  · rcases Context.trackDescription_asks (runs_onContext failed) with ⟨rfl, -⟩ | ⟨handle, answer, rfl, told⟩
    · exact interprets_of_unread .nil
    · refine ⟨⟨nofun, trivial⟩, fun {_ description _} member unreadable => ?_⟩
      have same : answer = .ok description := by
        have pair := List.mem_singleton.1 member
        cases pair
        rfl
      rw [same] at told
      cases told
  rcases Context.trackDescription_asks (runs_onContext described) with ⟨-, _, wrong⟩ | ⟨handle, answer, rfl, told⟩
  · cases wrong
  obtain rfl := mapError_eq_ok_iff.1 told.symm
  rw [Act.runs_settle_bind] at reads
  cases sized : Sdp.checkSize description.utf8ByteSize with
  | error cause =>
    obtain ⟨large, rfl⟩ := checkSize_error_iff.1 sized
    rw [sized] at reads
    obtain ⟨rfl, rfl, -⟩ := reads
    refine ⟨⟨nofun, trivial⟩, fun member unreadable => ?_⟩
    cases List.mem_singleton.1 member
    cases unreadable with
    | oversized _ => rfl
    | malformed small broken => exact absurd large (Nat.not_lt.2 small)
  | ok _ =>
    have small := checkSize_ok_iff.1 sized
    rw [sized] at reads
    replace reads := Act.runs_settle_bind.1 reads
    cases parsed : Sdp.MediaDescription.parse description.toList with
    | error cause =>
      rw [parsed] at reads
      obtain ⟨rfl, rfl, -⟩ := reads
      refine ⟨⟨nofun, trivial⟩, fun member unreadable => ?_⟩
      cases List.mem_singleton.1 member
      cases unreadable with
      | oversized large => exact absurd large (Nat.not_lt.2 small)
      | malformed _ broken =>
        cases parsed.symm.trans broken
        rfl
    | ok media =>
      rw [parsed] at reads
      have readable : ∀ {cause}, ¬ Unreadable description cause := by
        intro cause unreadable
        cases unreadable with
        | oversized large => exact absurd large (Nat.not_lt.2 small)
        | malformed _ broken => cases parsed.symm.trans broken
      rcases reader_asks reads with rfl | ⟨transport, relay, more, rfl, unread⟩
      · refine ⟨⟨nofun, trivial⟩, fun member unreadable => ?_⟩
        cases List.mem_singleton.1 member
        exact absurd unreadable readable
      · refine ⟨⟨nofun, fun _ => ⟨_, rfl, handle, description, media, transport, rfl, rfl, small, parsed⟩, ?_⟩, ?_⟩
        · exact (preceded_of_unread unread).after_any
        · intro _ _ _ member unreadable
          rcases List.mem_cons.1 member with same | later
          · cases same
            exact absurd unreadable readable
          · rcases List.mem_cons.1 later with wrong | last
            · cases wrong
            · cases unread _ last

theorem setup_interprets (run : setup.Runs player events outcome after) : Interprets events outcome := by
  refine interprets_bind (interprets_forM fun run => ?_) (fun _ created => ?_) run
  · exact interprets_of_unread (AllOf.weaken (offerTrack_adds run).1.ofKind unread_of_preparing)
  refine interprets_bind (fun run => ?_) (fun _ waited => ?_) created
  · exact interprets_of_unread (Context.unread_createResource _ _ _ (runs_onContext run))
  refine interprets_bind (fun run => ?_) (fun _ opened => interprets_forM openReader_interprets opened) waited
  exact interprets_of_unread (Context.unread_waitConnected _ _ _ (runs_onContext run))

end Player

/-! The exchange in an opening. -/

/-- The requests that are no part of the exchange with the endpoint. -/
def Call.isApart : Call → Bool
  | .http request => request.method == .delete
  | .engine (.setLocal _) => false
  | .engine .localDescription => false
  | .engine (.setRemote _ _) => false
  | _ => true

theorem apart_of_working {call : Call} (working : call.isWorking = true) : call.isApart = true := by
  unfold Call.isApart
  split <;> first | rfl | cases working

theorem apart_of_releasing {call : Call} (releasing : call.isReleasing = true) : call.isApart = true := by
  unfold Call.isApart
  split <;> first | rfl | cases releasing

/-- An opening makes one exchange at most. If that fails the opening does, and without a resource the endpoint is
not asked again. -/
inductive Exchanges {α : Type} (events : List Event) (outcome : Except Error α) : Prop
  | never (apart : AllOf Call.isApart events)
  | once {early creating late : List Event} {exchange next : Exchange} {result : Except Error Unit}
      (split : events = early ++ creating ++ late) (before : AllOf Call.isApart early)
      (unasked : requested early = []) (creates : Exchange.Creates Url.join exchange creating result next)
      (behind : AllOf Call.isApart late)
      (decides : ∀ cause, result = .error cause → outcome = .error cause ∧
        (next.location = none → requested late = []))

theorem unapplied_of_apart (apart : AllOf Call.isApart events) :
    ∀ event ∈ events, ∀ kind text, event.call ≠ .engine (.setRemote kind text) := by
  intro event member kind text same
  have elsewhere := apart event member
  rw [same] at elsewhere
  cases elsewhere

/-- What is part of an exchange has happened in the one exchange of the opening. -/
theorem Exchanges.of_part {outcome : Except Error α} {before after : List Event} {event : Event}
    (exchanges : Exchanges events outcome) (split : events = before ++ event :: after)
    (part : event.call.isApart = false) :
    ∃ (early first second late : List Event) (exchange next : Exchange) (result : Except Error Unit),
      before = early ++ first ∧ after = second ++ late ∧ AllOf Call.isApart early ∧ requested early = [] ∧
      Exchange.Creates Url.join exchange (first ++ event :: second) result next ∧ AllOf Call.isApart late ∧
      ∀ cause, result = .error cause → outcome = .error cause ∧ (next.location = none → requested late = []) := by
  have absent : ∀ {others : List Event}, AllOf Call.isApart others → event ∉ others := fun apart member => by
    cases part.symm.trans (apart event member)
  cases exchanges with
  | never apart => exact absurd (by simp [split]) (absent apart)
  | once whole apart unasked creates behind decides =>
    rw [whole, List.append_assoc] at split
    obtain ⟨first, rfl, rest⟩ := split_behind split (absent apart)
    obtain ⟨second, rfl, rfl⟩ := split_before rest (absent behind)
    exact ⟨_, first, second, _, _, _, _, rfl, rfl, apart, unasked, creates, behind, decides⟩

namespace Context

variable {context after : Context}

theorem Closes.apart (closes : Closes context events after) :
    AllOf Call.isApart events ∧ (context.exchange.location = none → requested events = []) := by
  obtain ⟨deleting, releasing, rfl, deletes, releases⟩ := closes.course
  have ⟨released, offline⟩ : AllOf Call.isApart releasing ∧ requested releasing = [] := by
    cases releases with
    | absent closed => exact ⟨.nil, rfl⟩
    | released up uses bare =>
      refine ⟨(uses.ofKind.weaken apart_of_releasing).append (.single rfl _), ?_⟩
      exact requested_of_local ((uses.ofKind.weaken local_of_releasing).append (.single rfl _))
  cases deletes with
  | absent vacant => exact ⟨released, fun _ => offline⟩
  | unsendable stored unfit => exact ⟨released, fun _ => offline⟩
  | sent stored fit progress =>
    obtain ⟨method, -⟩ := Exchange.of_request fit
    refine ⟨(AllOf.single (by simp [Call.isApart, method]) _).append released, fun vacant => ?_⟩
    cases stored.symm.trans vacant

theorem Closes.unread (closes : Closes context events after) : AllOf Call.isUnread events := by
  obtain ⟨deleting, releasing, rfl, deletes, releases⟩ := closes.course
  refine AllOf.append ?_ ?_
  · cases deletes with
    | absent vacant => exact .nil
    | unsendable stored unfit => exact .nil
    | sent stored fit progress => exact .single rfl _
  · cases releases with
    | absent closed => exact .nil
    | released up uses bare => exact (uses.ofKind.weaken unread_of_releasing).append (.single rfl _)

/-- What a session asks for before its tracks is nothing of the kind. -/
theorem Begins.plain {config : ClientConfig} {count : Nat} (begins : Begins config count events context) :
    AllOf Call.isApart events ∧ requested events = [] ∧ AllOf Call.isUnread events := by
  cases begins with
  | begun valid bits started => simp [AllOf, Call.isApart, Call.isUnread, requested]

theorem Fails.plain {config : ClientConfig} {cause : Error} (fails : Fails config early late cause) :
    AllOf Call.isApart (early ++ late) ∧ AllOf Call.isUnread (early ++ late) := by
  cases fails with
  | invalid refused => exact ⟨.nil, .nil⟩
  | uncreated valid => simp [AllOf, Call.isApart, Call.isUnread]
  | unwatched valid => simp [AllOf, Call.isApart, Call.isUnread]

end Context

namespace Client

variable {role : Role} {config : ClientConfig} {outcome : Except Error Client}

theorem Opens.exchanges (opens : Opens role config events outcome) : Exchanges events outcome := by
  have prepares : ∀ {first second : List Event} {context middle : Context},
      Context.Begins config role.tracks first context →
      Context.Uses Call.isPreparing context second middle →
      AllOf Call.isApart (first ++ second) ∧ requested (first ++ second) = [] := by
    intro first second context middle begins preparing
    obtain ⟨apart, unasked, -⟩ := begins.plain
    have working := preparing.ofKind.weaken working_of_preparing
    refine ⟨apart.append (working.weaken apart_of_working), ?_⟩
    rw [requested_append, unasked, requested_of_local (working.weaken local_of_working)]
    rfl
  cases opens with
  | unfit refused => exact .never .nil
  | unbegun fit fails => exact .never fails.plain.1
  | @unopened first second third context _ half cause fit begins sets closes =>
    obtain ⟨apart, offline⟩ := closes.apart
    have setUp := sets.setUp begins.accounts.2
    generalize half.context = left at setUp offline
    cases setUp with
    | unprepared preparing => exact .never ((prepares begins preparing).1.append apart)
    | uncreated preparing all creates =>
      obtain ⟨before, unasked⟩ := prepares begins preparing
      refine .once ?_ before unasked creates apart fun _ same => ?_
      · simp only [List.append_assoc]
      · cases same
        exact ⟨rfl, offline⟩
    | created preparing all creates finishes =>
      obtain ⟨before, unasked⟩ := prepares begins preparing
      refine .once ?_ before unasked creates ((finishes.uses.ofKind.weaken apart_of_working).append apart) nofun
      simp only [List.append_assoc]
  | @opened first second context client fit begins sets =>
    have setUp := sets.setUp begins.accounts.2
    generalize client.context = left at setUp
    cases setUp with
    | created preparing all creates finishes =>
      obtain ⟨before, unasked⟩ := prepares begins preparing
      refine .once ?_ before unasked creates (finishes.uses.ofKind.weaken apart_of_working) nofun
      simp only [List.append_assoc]

theorem Opens.interprets (opens : Opens role config events outcome) : Interprets events outcome := by
  have setting : ∀ {context : Context} {events : List Event} {outcome : Except Error Unit} {client : Client},
      role.SetsUp context events outcome client → Interprets events outcome := by
    intro context events outcome client sets
    cases sets with
    | ingest run => exact interprets_of_unread (Publisher.unread_setup _ _ _ run)
    | egress run => exact Player.setup_interprets run
  cases opens with
  | unfit refused => exact interprets_of_unread .nil
  | unbegun fit fails => exact interprets_of_unread fails.plain.2
  | @unopened _ _ _ _ _ _ cause fit begins sets closes =>
    have begun : Interprets (α := Unit) _ (.ok ()) := interprets_of_unread begins.plain.2.2
    have closed : Interprets (α := Client) _ (.error cause) := interprets_of_unread closes.unread
    refine (begun.append (setting sets) nofun).append closed fun _ same => ?_
    cases same
    rfl
  | opened fit begins sets =>
    have begun : Interprets (α := Unit) _ (.ok ()) := interprets_of_unread begins.plain.2.2
    have set := setting sets
    exact begun.append ⟨set.preceded, fun told unreadable => by cases set.refused told unreadable⟩ nofun

end Client

/-! The session in use. -/

/-- The requests by which a description crosses the border. -/
def Call.isDescribing : Call → Bool
  | .http request => request.method == .post
  | .engine (.setLocal _) => true
  | .engine .localDescription => true
  | .engine (.setRemote _ _) => true
  | .engine (.trackDescription _) => true
  | .layer (.openReader _ _) => true
  | _ => false

theorem silent_of_inUse {call : Call} (inUse : call.isInUse = true) : call.isDescribing = false := by
  unfold Call.isInUse at inUse
  split at inUse
  · rfl
  · next request =>
    rw [Call.isDescribing, eq_of_beq inUse]
    rfl
  all_goals first | rfl | cases inUse

theorem silent_of_relayed {call : Call} (relayed : call.isRelayed = true) : call.isDescribing = false := by
  unfold Call.isRelayed at relayed
  split at relayed <;> first | rfl | cases relayed

/-- No description crosses the border of a session in use. -/
theorem Woven.silent (woven : Woven Call.isInUse events) : ∀ event ∈ events, event.call.isDescribing = false := by
  induction woven with
  | nil => exact List.forall_mem_nil _
  | single allowed free woven ih => exact List.forall_mem_cons.2 ⟨silent_of_inUse allowed, ih⟩
  | played plays woven ih =>
    intro event member
    rcases List.mem_append.1 member with played | later
    · exact silent_of_relayed (Relay.keeps_play _ _ _ plays event played)
    · exact ih event later
  | @posted _ _ target _ _ _ allowed posting woven ih => cases allowed ⟨.post, target, [], [], 0⟩

namespace Client

variable {role : Role} {config : ClientConfig} {outcome : Except Error Client}

theorem Lives.silent {first last : Client} {turns : List Turn} (lives : Lives first turns last) :
    ∀ turn ∈ turns, ∀ event ∈ turn.events, event.call.isDescribing = false := by
  induction lives with
  | nil client => exact List.forall_mem_nil _
  | cons run rest ih => exact List.forall_mem_cons.2 ⟨(Operation.weaves run).silent, ih⟩

/-- What is said of the descriptions that cross the border of a session. -/
structure Measured (events : List Event) (outcome : Except Error Client) : Prop where
  /-- What is posted is the offer as the engine has told it, and not too large. -/
  posted : ∀ before request progress after, events = before ++ ⟨.http request, progress⟩ :: after →
    request.method = .post → request.body.length ≤ Sdp.maxSize ∧
      ∃ offer, descriptions before = [offer] ∧ request.body = Text.utf8 offer
  /-- What the engine is given is the answer as it came last, neither empty nor too large. -/
  applied : ∀ before kind answer result after,
    events = before ++ ⟨.engine (.setRemote kind answer), result⟩ :: after →
      answer ≠ "" ∧ answer.utf8ByteSize ≤ Sdp.maxSize ∧ LastSucceeded before (Text.utf8 answer)
  /-- A reader is opened for what was told of the track right before, and was not too large. -/
  parsed : ∀ before media transport relay after,
    events = before ++ ⟨.layer (.openReader media transport), relay⟩ :: after →
      ∃ handle description, before.getLast? = some ⟨.engine (.trackDescription handle), .ok description⟩ ∧
        description.utf8ByteSize ≤ Sdp.maxSize ∧ Sdp.MediaDescription.parse description.toList = .ok media
  described : ∀ handle description cause, ⟨.engine (.trackDescription handle), .ok description⟩ ∈ events →
    Unreadable description cause → outcome = .error (.signaling cause)
  /-- An offer that is too large is not posted. -/
  offered : ∀ offer, ⟨.engine .localDescription, .ok offer⟩ ∈ events → Sdp.maxSize < offer.utf8ByteSize →
    outcome = .error (.signaling (.descriptionTooLarge Sdp.maxSize)) ∧ requested events = []
  /-- A response of success that cannot be used as an answer is not given to the engine. -/
  answered : ∀ request progress response cause, ⟨.http request, progress⟩ ∈ events → request.method = .post →
    progress.wakes.any id = false → progress.result = .ok response → response.isSuccess = true →
    response.IsLocated request.url → Unusable response.body cause →
      outcome = .error (.signaling cause) ∧
        ∀ event ∈ events, ∀ kind text, event.call ≠ .engine (.setRemote kind text)
  /-- Once a session is open no description crosses its border any more. -/
  later : ∀ client turns last, outcome = .ok client → Lives client turns last →
    ∀ turn ∈ turns, ∀ event ∈ turn.events, event.call.isDescribing = false

/-- Whatever the engine and the endpoint answer, every description is measured before it is used. -/
theorem openSession_measures (run : (openSession role config).Runs () events outcome ()) :
    Measured events outcome := by
  have opens := opens_of_runs run
  have inTurn : ∀ before event after, events = before ++ event :: after → event.InTurn role before :=
    fun before _ _ split => List.nil_append before ▸ opens.orderly.1.at_each split
  have interprets := opens.interprets
  refine ⟨?_, ?_, ?_, fun _ _ _ => interprets.refused, ?_, ?_, fun _ _ _ _ lives => lives.silent⟩
  · intro before request progress after split method
    obtain ⟨_, _, _, _, _, _, _, -, -, -, -, creates, -⟩ :=
      opens.exchanges.of_part split (by simp [Call.isApart, method])
    exact ⟨creates.posts_sized (List.mem_append_right _ List.mem_cons_self), (inTurn before _ after split method).2⟩
  · intro before kind answer result after split
    obtain ⟨_, _, _, _, _, _, _, -, -, -, -, creates, -⟩ := opens.exchanges.of_part split rfl
    obtain ⟨something, small⟩ := creates.applies_sized (List.mem_append_right _ List.mem_cons_self)
    exact ⟨something, small, (inTurn before _ after split).1⟩
  · intro before media transport relay after split
    obtain ⟨told, member, handle, description, _, _, rfl, same, small, parsed⟩ :=
      interprets.preceded.at_each split rfl
    cases same
    rw [Option.or_none] at member
    exact ⟨handle, description, member, small, parsed⟩
  · intro offer told large
    obtain ⟨_, _, split⟩ := List.append_of_mem told
    obtain ⟨_, _, _, _, _, _, _, rfl, rfl, -, unasked, creates, -, decides⟩ := opens.exchanges.of_part split rfl
    obtain ⟨failed, quiet, vacant⟩ := creates.refuses_offer (by simp) large
    obtain ⟨same, offline⟩ := decides _ failed
    have whole := congrArg requested split
    simp only [← List.cons_append, List.append_assoc, requested_append, unasked, offline vacant] at whole quiet
    exact ⟨same, whole.trans (by simpa using quiet)⟩
  · intro request progress response cause made method steady got success located unusable
    obtain ⟨_, _, split⟩ := List.append_of_mem made
    obtain ⟨early, first, second, late, _, _, _, rfl, rfl, before, -, creates, behind, decides⟩ :=
      opens.exchanges.of_part split (by simp [Call.isApart, method])
    obtain ⟨failed, unapplied⟩ := creates.refuses_answer (by simp) steady got success located unusable
    refine ⟨(decides _ failed).1, ?_⟩
    rw [split, List.append_assoc, ← List.cons_append, ← List.append_assoc first]
    exact List.forall_mem_append.2 ⟨unapplied_of_apart before,
      List.forall_mem_append.2 ⟨unapplied, unapplied_of_apart behind⟩⟩

/-- The endpoint has answered with success and nothing. -/
theorem openSession_measures_unanswered : Measured Unanswered.whole (.error (.signaling .emptyAnswer)) :=
  openSession_measures Unanswered.runs

end Client
end WhipWhep
