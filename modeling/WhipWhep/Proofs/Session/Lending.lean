import WhipWhep.Proofs.Session.Handles
import WhipWhep.Proofs.Track.Counting

/-!
Whose events these are. A transport is lent to the layer with a call, and until the next one is lent whatever
passes belongs to its track. The counters of each track go on by what belongs to it.
-/

namespace WhipWhep

/-- The track that a transfer is on. -/
def Event.carrier? : Event → Option Handle
  | ⟨.engine (.send track _), _⟩ => some track
  | ⟨.engine (.receive track _), _⟩ => some track
  | _ => none

/-- How often a transport is lent. -/
def lendings (events : List Event) : Nat := events.countP fun event => event.call.lends

/-- The track that the transport that was lent last is of, if one was lent. The `n`-th one is that of the track
at `plan n`. -/
def borrowed (plan : Nat → Nat) : Nat → Option Nat
  | 0 => none
  | lent + 1 => some (plan lent)

/-- The events that belong to the track at an index, if so many transports have been lent before. -/
def share (plan : Nat → Nat) (index : Nat) : Nat → List Event → List Event
  | _, [] => []
  | lent, event :: rest =>
    (if borrowed plan (lent + lendings [event]) = some index then [event] else []) ++
      share plan index (lent + lendings [event]) rest

section Share

variable {plan : Nat → Nat} {index lent : Nat} {event : Event} {events more : List Event}

theorem lendings_append : lendings (events ++ more) = lendings events + lendings more := List.countP_append

theorem lendings_cons (event : Event) (events : List Event) :
    lendings (event :: events) = lendings [event] + lendings events := by
  show lendings ([event] ++ events) = _
  exact lendings_append

theorem lendings_aside (aside : AllOf Call.isAside events) : lendings events = 0 := by
  refine List.countP_eq_zero.2 fun event member lends => ?_
  have kind := aside event member
  simp [Call.isAside, lends] at kind

theorem idle_of_aside (aside : AllOf Call.isAside events) : ∀ event ∈ events, event.call.isTransfer = false := by
  intro event member
  have kind := aside event member
  simpa [Call.isAside] using (Bool.and_eq_true_iff.1 kind).2

theorem lends_of_relayed {call : Call} (relayed : call.isRelayed = true) : call.lends = false := by
  unfold Call.lends
  split <;> first | rfl | cases relayed

theorem lendings_relayed (relayed : AllOf Call.isRelayed events) : lendings events = 0 := by
  refine List.countP_eq_zero.2 fun event member lends => ?_
  rw [lends_of_relayed (relayed event member)] at lends
  cases lends

theorem lendings_lent (lends : event.call.lends = true) : lendings [event] = 1 := by
  rw [lendings, List.countP_singleton, if_pos lends]

theorem share_append : share plan index lent (events ++ more) =
    share plan index lent events ++ share plan index (lent + lendings events) more := by
  induction events generalizing lent with
  | nil => rfl
  | cons event events ih =>
    rw [List.cons_append, share, share, ih, lendings_cons event events, List.append_assoc, Nat.add_assoc]

theorem share_sublist : (share plan index lent events).Sublist events := by
  induction events generalizing lent with
  | nil => exact .slnil
  | cons event events ih =>
    rw [share]
    split
    · exact ih.cons_cons event
    · exact ih.cons event

/-- As long as no other transport is lent, all events belong to the one track. -/
theorem share_kept (none : lendings events = 0) :
    share plan index lent events = if borrowed plan lent = some index then events else [] := by
  induction events with
  | nil => split <;> rfl
  | cons event events ih =>
    rw [lendings_cons, Nat.add_eq_zero_iff] at none
    rw [share, none.1, Nat.add_zero, ih none.2]
    split <;> rfl

/-- What follows on one lending belongs to the track whose transport was lent. -/
theorem share_lent (lends : event.call.lends = true) (none : lendings events = 0) :
    share plan index lent (event :: events) = if plan lent = index then event :: events else [] := by
  rw [share, lendings_lent lends, share_kept none, borrowed]
  by_cases here : plan lent = index
  · rw [if_pos here, if_pos (congrArg some here), if_pos (congrArg some here), List.singleton_append]
  · have other : some (plan lent) ≠ some index := fun same => here (Option.some.inj same)
    rw [if_neg here, if_neg other, if_neg other, List.nil_append]

/-- A track whose transport is not lent gets nothing. -/
theorem share_off (before : borrowed plan lent ≠ some index)
    (other : ∀ place < lendings events, plan (lent + place) ≠ index) : share plan index lent events = [] := by
  induction events generalizing lent with
  | nil => rfl
  | cons event events ih =>
    rw [lendings_cons] at other
    have here : borrowed plan (lent + lendings [event]) ≠ some index := by
      cases lends : event.call.lends with
      | false =>
        have none : lendings [event] = 0 := by rw [lendings, List.countP_singleton, lends]; rfl
        rwa [none]
      | true =>
        rw [lendings_lent lends] at other ⊢
        exact fun same => other 0 (by omega) (Option.some.inj same)
    rw [share, if_neg here, List.nil_append]
    refine ih here fun place within => ?_
    rw [Nat.add_assoc]
    exact other _ (by omega)

theorem transfer_of_carrier {handle : Handle} (carried : event.carrier? = some handle) :
    event.call.isTransfer = true := by
  unfold Event.carrier? at carried
  split at carried <;> first | rfl | cases carried

theorem carrier_of_transfer (transfer : event.call.isTransfer = true) : ∃ handle, event.carrier? = some handle := by
  obtain ⟨call | request | call | call, answer⟩ := event
  · cases call <;> first | exact ⟨_, rfl⟩ | cases transfer
  · cases transfer
  · cases transfer
  · cases transfer

theorem relayedOn_carrier {target : Option Handle} {handle : Handle} (on : event.call.isRelayedOn target = true)
    (carried : event.carrier? = some handle) : target = some handle := by
  unfold Event.carrier? at carried
  split at carried
  · cases carried
    exact beq_iff_eq.1 on
  · cases carried
    exact beq_iff_eq.1 on
  · cases carried

end Share

/-- The packets of one stream. -/
def packetsOf (index : Nat) (packets : List Packet) : List Packet :=
  packets.filter fun packet => packet.stream = index

theorem packetsOf_append {index : Nat} (first second : List Packet) :
    packetsOf index (first ++ second) = packetsOf index first ++ packetsOf index second :=
  List.filter_append ..

namespace Registry

/-- The counters of each track go on by what belongs to it, and each transfer is on the transport of the track
that it belongs to. -/
structure Bills (handles : List Handle) (plan : Nat → Nat) (lent : Nat) (before : Registry) (events : List Event)
    (packets : List Packet) (after : Registry) : Prop where
  counters : ∀ index : Nat, after.counters[index]? = before.counters[index]?.map fun counters : Counters =>
    counters.plus (tally (share plan index lent events) (packetsOf index packets))
  own : ∀ {index : Nat} {event : Event}, event ∈ share plan index lent events →
    ∀ {handle : Handle}, event.carrier? = some handle → handles[index]? = some handle
  covered : ∀ event ∈ events, event.call.isTransfer = true → ∃ index, event ∈ share plan index lent events
  passed : ∀ packet ∈ packets, share plan packet.stream lent events ≠ []

variable {handles : List Handle} {plan : Nat → Nat} {lent : Nat} {before middle after : Registry}
  {events more : List Event} {packets others : List Packet}

theorem Bills.trans (first : Bills handles plan lent before events packets middle)
    (second : Bills handles plan (lent + lendings events) middle more others after) :
    Bills handles plan lent before (events ++ more) (packets ++ others) after where
  counters index := by
    rw [second.counters, first.counters, Option.map_map, share_append, packetsOf_append, tally_append]
    exact congrArg (Option.map · _) (funext fun counters => counters.plus_assoc _ _)
  own member handle carried := by
    rw [share_append] at member
    exact (List.mem_append.1 member).elim (first.own · carried) (second.own · carried)
  covered event member transfer := by
    rcases List.mem_append.1 member with early | late
    · obtain ⟨index, among⟩ := first.covered event early transfer
      exact ⟨index, share_append ▸ List.mem_append_left _ among⟩
    · obtain ⟨index, among⟩ := second.covered event late transfer
      exact ⟨index, share_append ▸ List.mem_append_right _ among⟩
  passed packet member := by
    rw [share_append]
    rcases List.mem_append.1 member with early | late
    · exact List.append_ne_nil_of_left_ne_nil (first.passed packet early) _
    · exact List.append_ne_nil_of_right_ne_nil _ (second.passed packet late)

/-- A part of a run in which no packet has come through. -/
theorem Bills.next (first : Bills handles plan lent before events [] middle)
    (second : Bills handles plan (lent + lendings events) middle more packets after) :
    Bills handles plan lent before (events ++ more) packets after :=
  first.trans second

/-- Where no transport is lent and none is used, all counters stay. -/
theorem bills_aside (aside : AllOf Call.isAside events) (same : after.counters = before.counters) :
    Bills handles plan lent before events [] after := by
  have idle := idle_of_aside aside
  refine ⟨fun index => ?_, fun member handle carried => ?_, fun event member transfer => ?_, nofun⟩
  · rw [same, packetsOf, List.filter_nil, tally_idle fun event member => idle event (share_sublist.subset member)]
    simp
  · have none := idle _ (share_sublist.subset member)
    rw [transfer_of_carrier carried] at none
    cases none
  · rw [idle event member] at transfer
    cases transfer

/-- A packet is of a stream whose transport was lent. -/
theorem Bills.streams (bills : Bills handles plan 0 before events packets after) :
    ∀ packet ∈ packets, ∃ place < lendings events, plan place = packet.stream := by
  refine fun packet moved => Classical.byContradiction fun never => ?_
  refine bills.passed packet moved (share_off nofun fun place within => ?_)
  rw [Nat.zero_add]
  exact fun same => never ⟨place, within, same⟩

/-- The counters of a track whose transport is not lent stay, whatever else is counted. -/
theorem Bills.apart {index : Nat} (bills : Bills handles plan 0 before events packets after)
    (elsewhere : ∀ place < lendings events, plan place ≠ index) :
    after.counters[index]? = before.counters[index]? := by
  have none : share plan index 0 events = [] :=
    share_off nofun fun place within => by rw [Nat.zero_add]; exact elsewhere place within
  have unmoved : packetsOf index packets = [] := List.filter_eq_nil_iff.2 fun packet moved => by
    obtain ⟨place, within, of⟩ := bills.streams packet moved
    simpa [← of] using elsewhere place within
  rw [bills.counters, none, unmoved]
  simp

/-- As long as there are no handles, nothing is asked of the engine on one. -/
theorem Bills.idle (bills : Bills [] plan lent before events packets after) :
    ∀ event ∈ events, event.call.isTransfer = false := by
  intro event member
  cases transfer : event.call.isTransfer with
  | false => rfl
  | true =>
    obtain ⟨index, among⟩ := bills.covered event member transfer
    obtain ⟨handle, carried⟩ := carrier_of_transfer transfer
    cases bills.own among carried

/-- Requests that are made before anything is lent make no difference. -/
theorem Bills.behind {first : List Event} (aside : AllOf Call.isAside first)
    (bills : Bills handles plan lent before events packets after) :
    Bills handles plan lent before (first ++ events) packets after := by
  have quiet : Bills handles plan lent before first [] before := bills_aside aside rfl
  refine quiet.next ?_
  rwa [lendings_aside aside]

/-- The transport of one track is lent, and what the layer does with it is counted on that track. -/
theorem bills_lent {index : Nat} {track changed : Track} {call : Call} {answer : call.Answer}
    {target : Option Handle} (lends : call.lends = true) (turn : plan lent = index)
    (found : before.tracks[index]? = some track) (stays : AllOf (Call.isRelayedOn target) events)
    (held : ∀ handle, target = some handle → handles[index]? = some handle)
    (counted : changed.counters = track.counters.plus (tally events packets))
    (streams : ∀ packet ∈ packets, packet.stream = index) :
    Bills handles plan lent before (⟨call, answer⟩ :: events) packets ⟨before.tracks.set index changed⟩ := by
  have none : lendings events = 0 := lendings_relayed (stays.weaken relayed_of_relayedOn)
  have whole : ∀ place, share plan place lent (⟨call, answer⟩ :: events) =
      if index = place then ⟨call, answer⟩ :: events else [] := by
    intro place
    rw [share_lent lends none, turn]
  have idle : call.isTransfer = false := by
    unfold Call.lends at lends
    split at lends <;> first | rfl | cases lends
  have relayed : ∀ {event : Event}, event ∈ (⟨call, answer⟩ : Event) :: events → event.call.isTransfer = true →
      event ∈ events := by
    intro event member transfer
    refine (List.mem_cons.1 member).resolve_left ?_
    rintro rfl
    rw [idle] at transfer
    cases transfer
  refine ⟨fun place => ?_, fun {place event} member handle carried => ?_, fun event member transfer => ?_,
    fun packet member => ?_⟩
  · rw [whole, Registry.counters, Registry.counters, List.getElem?_map, List.getElem?_map, Option.map_map]
    by_cases same : index = place
    · subst same
      have all : packetsOf index packets = packets := List.filter_eq_self.2 fun packet member => by
        simpa using streams packet member
      have alike : tally (⟨call, answer⟩ :: events) packets = tally events packets := tally_cons idle
      rw [if_pos rfl, all, alike, List.getElem?_set_self (List.getElem?_eq_some_iff.1 found).1, found]
      exact congrArg some counted
    · have none : packetsOf place packets = [] := List.filter_eq_nil_iff.2 fun packet member => by
        simpa [streams packet member] using same
      rw [if_neg same, none, List.getElem?_set_ne same]
      cases before.tracks[place]? with
      | none => rfl
      | some other => simp
  · rw [whole] at member
    split at member
    · next same =>
      subst same
      have among := relayed member (transfer_of_carrier carried)
      exact held handle (relayedOn_carrier (stays event among) carried)
    · cases member
  · exact ⟨index, by rwa [whole, if_pos rfl]⟩
  · rw [whole, streams packet member, if_pos rfl]
    nofun

end Registry

variable {handles : List Handle} {events : List Event}

theorem aside_of_exchanging {call : Call} (exchanging : call.isExchanging = true) : call.isAside = true := by
  have keeps : call.lends = false := by
    unfold Call.lends
    split <;> first | rfl | cases exchanging
  rw [Call.isAside, keeps, idle_of_exchanging exchanging]
  rfl

theorem aside_of_waiting {call : Call} (waiting : call.isWaiting = true) : call.isAside = true := by
  have keeps : call.lends = false := by
    unfold Call.lends
    split <;> first | rfl | cases waiting
  rw [Call.isAside, keeps, idle_of_waiting waiting]
  rfl

namespace Publisher

variable {publisher after : Publisher} {params : StreamParams} {index : Nat} {lines : List Line}
  {rest : List StreamParams}

/-- A writer is opened before its transport is attached. -/
theorem addStream_bills (handles : List Handle)
    (bare : publisher.context.registry.tracks[index]? = some (.fresh index))
    (run : (addStream params index).Runs publisher events (.ok ()) after) :
    Registry.Bills handles id index publisher.context.registry events [] after.context.registry ∧
      lendings events = 1 := by
  obtain ⟨line, own, relay, played, counters, -, -, -, rfl, plays, rfl⟩ := addStream_plays bare run
  have stays := Relay.keeps_target _ _ _ plays
  have opens : Registry.Bills handles id index publisher.context.registry
      (⟨.layer (.openWriter line.published index ⟨publisher.context.config.rwTimeout, maxPacketSize⟩), relay⟩ ::
        played) [] (publisher.context.setTrack index
          (line.track index publisher.context.config.rwTimeout counters)).registry :=
    Registry.bills_lent rfl rfl bare stays nofun (Relay.tally_of_play plays) nofun
  have adds : AllOf Call.isAside
      [⟨.engine (.addTrack (line.announced publisher.context.msid index)), .ok line.handle⟩] := .single rfl _
  refine ⟨opens.trans (Registry.bills_aside adds rfl), ?_⟩
  rw [lendings_cons, lendings_append, lendings_lent rfl, lendings_aside adds,
    lendings_relayed (stays.weaken relayed_of_relayedOn)]

theorem addStreams_bills (handles : List Handle) (strung : Strung lines rest publisher)
    (run : ((rest.zipIdx lines.length).forM fun (params, index) => addStream params index).Runs publisher events
      (.ok ()) after) :
    Registry.Bills handles id lines.length publisher.context.registry events [] after.context.registry := by
  induction rest generalizing lines publisher events with
  | nil =>
    obtain ⟨rfl, -, rfl⟩ := Act.runs_pure.1 run
    exact Registry.bills_aside .nil rfl
  | cons params rest ih =>
    obtain ⟨_, _, middle, _, rfl, adds, onward⟩ := Act.runs_bind_ok run
    have bare := strung.bare lines.length (Nat.le_refl _) (by rw [List.length_cons]; omega)
    obtain ⟨line, track, own, rfl, -, asked, leads, -, differs⟩ := addStream_ok bare adds
    obtain ⟨first, once⟩ := addStream_bills handles bare adds
    have next := strung.next leads asked differs
    have size : (lines ++ [line]).length = lines.length + 1 := List.length_append
    replace onward : Act.Runs ((rest.zipIdx (lines.length + 1)).forM fun (params, index) =>
      addStream params index) middle _ (.ok ()) after := onward
    rw [← size] at onward
    have later := ih next onward
    rw [size, ← once] at later
    exact first.trans later

theorem setup_bills (handles : List Handle) (strung : Strung [] rest publisher) (given : publisher.streams = rest)
    (run : setup.Runs publisher events (.ok ()) after) :
    Registry.Bills handles id 0 publisher.context.registry events [] after.context.registry := by
  unfold setup at run
  rw [Act.runs_get_bind, given] at run
  obtain ⟨_, _, ready, _, rfl, adds, onward⟩ := Act.runs_bind_ok run
  obtain ⟨_, _, _, _, rfl, creating, waiting⟩ := Act.runs_bind_ok onward
  obtain ⟨_, rfl, creates⟩ := Act.runs_within.1 creating
  obtain ⟨exchange, rfl, created⟩ := Context.createResource_ok creates
  obtain ⟨_, rfl, waits⟩ := Act.runs_within.1 waiting
  obtain ⟨time, rfl⟩ := Context.waitConnected_ok waits
  have exchanged := created.exchanging.weaken aside_of_exchanging
  have waited := (Context.waitConnected_waits waits).1.ofKind.weaken aside_of_waiting
  exact (addStreams_bills handles strung adds).trans
    ((Registry.bills_aside exchanged rfl).trans (Registry.bills_aside waited rfl))

end Publisher

namespace Player

variable {player after : Player} {index count : Nat}

/-- Tracks that are offered count nothing yet. -/
theorem offers_aside {left : List OfferedTrack} {start : Nat}
    (run : ((left.zipIdx start).forM fun (track, index) => offerTrack track index).Runs player events (.ok ())
      after) :
    AllOf Call.isAside events ∧ after.context.registry.counters = player.context.registry.counters := by
  induction left generalizing player events start with
  | nil =>
    obtain ⟨rfl, -, rfl⟩ := Act.runs_pure.1 run
    exact ⟨.nil, rfl⟩
  | cons offered left ih =>
    obtain ⟨_, _, _, _, rfl, offers, onward⟩ := Act.runs_bind_ok run
    obtain ⟨bits, handle, track, rfl, found, rfl⟩ := offerTrack_ok offers
    obtain ⟨aside, same⟩ := ih onward
    refine ⟨((AllOf.single rfl _).append (.single rfl _)).append aside, same.trans ?_⟩
    exact Context.map_setTrack Track.counters found rfl

theorem openReader_bills {handles : List Handle} (tuned : Tuned handles count player) (within : count < handles.length)
    (run : (openReader count).Runs player events (.ok ()) after) :
    Registry.Bills handles id count player.context.registry events [] after.context.registry ∧
      lendings events = 1 := by
  obtain ⟨track, handle, description, media, transport, relay, played, reader, binding, counters, rfl, found, held,
    -, -, plays, rfl⟩ := openReader_plays run
  have own : handles[count]? = some handle := by
    have given := List.getElem?_eq_getElem within
    obtain ⟨other, there, holds⟩ := tuned.held given
    cases found.symm.trans there
    exact given.trans (holds.symm.trans held)
  have asks : AllOf Call.isAside [⟨.engine (.trackDescription handle), .ok description⟩] := .single rfl _
  have stays := Relay.keeps_target _ _ _ plays
  have describes : Registry.Bills handles id count player.context.registry _ [] player.context.registry :=
    Registry.bills_aside asks rfl
  have opens : Registry.Bills handles id (count + lendings [⟨.engine (.trackDescription handle), .ok description⟩])
      player.context.registry (⟨.layer (.openReader media transport), relay⟩ :: played) []
      (player.context.setTrack count { track with
        binding := some binding
        codec := some (.reader reader)
        params := some reader.params
        counters := counters }).registry :=
    Registry.bills_lent rfl rfl found stays (by rintro _ ⟨⟩; exact own) (Relay.tally_of_play plays) nofun
  refine ⟨describes.trans opens, ?_⟩
  rw [lendings_cons, lendings_aside asks, lendings_cons, lendings_lent rfl,
    lendings_relayed (stays.weaken relayed_of_relayedOn)]

theorem opens_bills {handles : List Handle} {left : Nat} (tuned : Tuned handles count player)
    (within : count + left ≤ handles.length)
    (run : ((List.range' count left).forM openReader).Runs player events (.ok ()) after) :
    Registry.Bills handles id count player.context.registry events [] after.context.registry := by
  induction left generalizing count player events with
  | zero =>
    obtain ⟨rfl, -, rfl⟩ := Act.runs_pure.1 run
    exact Registry.bills_aside .nil rfl
  | succ left ih =>
    obtain ⟨_, _, _, _, rfl, opens, onward⟩ := Act.runs_bind_ok run
    obtain ⟨first, once⟩ := openReader_bills tuned (by omega) opens
    have later := ih (tuned.next opens) (by omega) onward
    rw [← once] at later
    exact first.trans later

theorem setup_bills {context : Context} (bare : context.registry = .allocate offeredTracks.length)
    (run : setup.Runs ⟨context, [], 0⟩ events (.ok ()) player) :
    ∃ handles : List Handle, handles.length = offeredTracks.length ∧ player.context.Holds handles ∧
      Registry.Bills handles id 0 context.registry events [] player.context.registry := by
  obtain ⟨half, connected, _, _, _, _, rfl, offers, exchanging, waiting, same, opens⟩ := setup_stages run
  obtain ⟨handles, size, -, ready⟩ := tuned_of_offers bare offers same
  have all := (ready.opens opens).2
  rw [Nat.zero_add] at all
  obtain ⟨aside, counted⟩ := offers_aside offers
  have quiet := aside.append ((exchanging.weaken aside_of_exchanging).append (waiting.weaken aside_of_waiting))
  have early : Registry.Bills handles id 0 context.registry _ [] connected.context.registry :=
    Registry.bills_aside quiet (by rw [same]; exact counted)
  have later := opens_bills ready (Nat.le_of_eq (by rw [size, Nat.zero_add])) opens
  refine ⟨handles, size, all.holds size, ?_⟩
  have whole := early.trans (by rwa [lendings_aside quiet])
  rwa [List.append_assoc, List.append_assoc] at whole

end Player

theorem Context.Begins.aside {config : ClientConfig} {count : Nat} {context : Context}
    (begins : Context.Begins config count events context) : AllOf Call.isAside events := by
  cases begins with
  | begun valid bits started => simp [AllOf, Call.isAside, Call.lends, Call.isTransfer]

/-- A publisher that opens sends nothing yet. Its writers are there before their tracks have handles. -/
theorem Publisher.opening_idle {config : ClientConfig} {streams : List StreamParams} {publisher : Publisher}
    (opened : (openSession config streams).Runs () events (.ok publisher) ()) :
    ∀ event ∈ events, event.call.isTransfer = false := by
  have opens := Client.opens_of_publisher opened
  generalize same : (Except.ok publisher).map Client.publisher = outcome at opens
  cases opens with
  | unfit | unbegun | unopened => cases same
  | opened fit begins sets =>
    cases sets with
    | ingest run =>
      have setting := setup_bills [] (strung_of_begins begins) rfl run
      intro event member
      exact (List.mem_append.1 member).elim (idle_of_aside begins.aside event) (setting.idle event)

namespace Client

variable {role : Role} {config : ClientConfig} {client : Client}

/-- While a session opens, the transports of its tracks are lent one after the other. -/
theorem Opens.bills (opens : Opens role config events (.ok client)) :
    ∃ handles, handles.length = role.tracks ∧ client.context.Holds handles ∧
      Registry.Bills handles id 0 (.allocate role.tracks) events [] client.context.registry := by
  cases opens with
  | @opened beginning _ context _ fit begins sets =>
    have aside := begins.aside
    have begun : ∀ {handles}, Registry.Bills handles id 0 (.allocate role.tracks) beginning [] context.registry :=
      Registry.bills_aside aside (congrArg Registry.counters begins.bare.2)
    cases sets with
    | ingest run =>
      obtain ⟨lines, rfl, -, strung, -⟩ := Publisher.setup_ok (Publisher.strung_of_begins begins) rfl run
      have setting := Publisher.setup_bills (lines.map Line.handle) (Publisher.strung_of_begins begins) rfl run
      refine ⟨lines.map Line.handle, by simp [Role.tracks], strung.holds, ?_⟩
      exact begun.trans (by rwa [lendings_aside aside])
    | egress run =>
      obtain ⟨handles, size, holds, setting⟩ := Player.setup_bills begins.bare.2 run
      exact ⟨handles, size, holds, begun.trans (by rwa [lendings_aside aside])⟩

end Client
end WhipWhep
