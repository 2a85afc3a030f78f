import WhipWhep.Proofs.InMemory.Serving
import WhipWhep.Proofs.Session.Handles
import WhipWhep.Proofs.Track.Counting

/-!
Messages that come in over the engine in memory. Others put them on tracks at any time, between any two
calls of a session, and the session takes them off again. On a live track no message is lost, and none
overtakes another.
-/

namespace WhipWhep

theorem leavesTracks_of_working {call : Call} (working : call.isWorking = true) : call.leavesTracks = true := by
  unfold Call.leavesTracks
  split <;> first | rfl | cases working

/-- The messages on one track, in order. -/
def messagesOn (handle : Handle) (messages : List (Handle × Bytes)) : List Bytes :=
  (messages.filter fun (track, _) => track = handle).map Prod.snd

section Messages

variable {handle track : Handle} {message : Bytes} {messages : List (Handle × Bytes)}

theorem messagesOn_append (first second : List (Handle × Bytes)) :
    messagesOn handle (first ++ second) = messagesOn handle first ++ messagesOn handle second := by
  rw [messagesOn, List.filter_append, List.map_append]
  rfl

theorem messagesOn_cons_self : messagesOn handle ((handle, message) :: messages) =
    message :: messagesOn handle messages := by
  simp [messagesOn]

theorem messagesOn_cons_ne (other : track ≠ handle) :
    messagesOn handle ((track, message) :: messages) = messagesOn handle messages := by
  simp [messagesOn, other]

theorem messagesOn_singleton : messagesOn handle [(track, message)] = if track = handle then [message] else [] := by
  split <;> simp [messagesOn, *]

/-- The message that is looked up is the oldest of its track. -/
theorem lookup_eq_head? : messages.lookup handle = (messagesOn handle messages).head? := by
  induction messages with
  | nil => rfl
  | cons first rest ih =>
    obtain ⟨track, message⟩ := first
    by_cases same : track = handle
    · subst same
      rw [messagesOn_cons_self, List.lookup_cons_self, List.head?_cons]
    · rw [messagesOn_cons_ne same, List.lookup_cons, beq_eq_false_iff_ne.2 (Ne.symm same), ih]

/-- Taking the oldest message of a track off leaves those of all other tracks. -/
theorem messagesOn_erase (found : messages.lookup track = some message) :
    messagesOn handle messages = messagesOn handle [(track, message)] ++
      messagesOn handle (messages.eraseP fun (other, _) => other = track) := by
  induction messages with
  | nil => cases found
  | cons first rest ih =>
    obtain ⟨other, given⟩ := first
    by_cases same : other = track
    · subst same
      rw [List.lookup_cons_self] at found
      cases found
      rw [List.eraseP_cons_of_pos (by simp), ← messagesOn_append]
      rfl
    · rw [List.lookup_cons, beq_eq_false_iff_ne.2 (Ne.symm same)] at found
      rw [List.eraseP_cons_of_neg (by simpa using same)]
      by_cases here : other = handle
      · subst here
        have none : messagesOn other [(track, message)] = [] := by
          rw [messagesOn_cons_ne (Ne.symm same)]
          rfl
        rw [messagesOn_cons_self, messagesOn_cons_self, ih found, none]
        rfl
      · rw [messagesOn_cons_ne here, messagesOn_cons_ne here, ih found]

end Messages

namespace InMemory

namespace Engine

variable {engine : Engine} {handle track : Handle} {message : Bytes}

/-- The newest peer connection. -/
def latest (engine : Engine) : Peer := engine.peer engine.newest

theorem latest_setPeer (present : engine.peers ≠ []) (peer : Peer) :
    (engine.setPeer engine.newest peer).latest = peer := by
  rw [latest, newest_setPeer, peer_setPeer present]

/-- Where there is no peer connection, no track is live. -/
theorem peer_push (index : Nat) : (engine.pushIncoming handle message).peer index =
    if (engine.peer index).isLive handle then
      { engine.peer index with incoming := (engine.peer index).incoming ++ [(handle, message)] }
    else engine.peer index := by
  rw [Engine.peer, Engine.peer, pushIncoming, List.getElem?_map]
  cases engine.peers[index]? <;> rfl

theorem latest_push : (engine.pushIncoming handle message).latest =
    if engine.latest.isLive handle then
      { engine.latest with incoming := engine.latest.incoming ++ [(handle, message)] }
    else engine.latest := by
  have same : (engine.pushIncoming handle message).newest = engine.newest := by
    simp [newest, pushIncoming]
  rw [latest, same]
  exact peer_push engine.newest

theorem present_push (present : engine.peers ≠ []) : (engine.pushIncoming handle message).peers ≠ [] := by
  simpa [pushIncoming] using present

theorem tracks_push : (engine.pushIncoming handle message).tracks = engine.tracks := by
  rw [tracks_eq, tracks_eq]
  show (engine.pushIncoming handle message).latest.tracks = engine.latest.tracks
  rw [latest_push]
  split <;> rfl

theorem isLive_iff : engine.latest.isLive handle = (engine.tracks.lookup handle).isSome := by
  rw [tracks_eq]
  rfl

end Engine

namespace Peer

variable {peer : Peer} {handle track : Handle} {capacity : Nat}

/-- What a receive takes off a track is what that track has lost. -/
theorem queue_receive : peer.queue handle =
    messagesOn handle (Event.taken? ⟨.engine (.receive track capacity), (peer.receive track capacity).1⟩).toList ++
      (peer.receive track capacity).2.queue handle := by
  unfold Peer.receive
  split
  · split
    · rfl
    · next message found =>
      split
      · rfl
      · exact messagesOn_erase found
  · rfl

/-- A receive on a live track goes by the oldest message. -/
theorem receive_of_live (live : peer.isLive handle = true) : (peer.receive handle capacity).1 =
    match (peer.queue handle).head? with
    | none => .error .notAvailable
    | some message => if capacity < message.length then .error .tooSmall else .ok message := by
  have oldest : peer.incoming.lookup handle = (peer.queue handle).head? := lookup_eq_head?
  rw [Peer.receive, if_pos live, oldest]
  cases (peer.queue handle).head? with
  | none => rfl
  | some message =>
    dsimp only
    split <;> rfl

end Peer

namespace Engine

variable {engine : Engine} {handle : Handle} {call : EngineCall}

theorem latest_addTrack (present : engine.peers ≠ []) (init : TrackInit) :
    (engine.addTrack engine.newest init).2.latest.incoming = engine.latest.incoming := by
  unfold addTrack
  dsimp only
  split
  · rfl
  split
  · rfl
  split
  · rfl
  · next given _ =>
    have counted : ({ engine with
        lastTrack := engine.lastTrack + 1
        tracksAdded := engine.tracksAdded + 1 } : Engine).peers ≠ [] := present
    exact (congrArg Peer.incoming (latest_setPeer counted _)).trans rfl

/-- What a call takes off a track of the newest peer connection is what that track has lost. -/
theorem queue_respond (leaves : (Call.engine call).leavesTracks = true) (present : engine.peers ≠ []) :
    engine.latest.queue handle =
      messagesOn handle (Event.taken? ⟨.engine call, (engine.respond engine.newest call).1⟩).toList ++
        (engine.respond engine.newest call).2.latest.queue handle := by
  have still : ∀ {peer : Peer}, peer.incoming = engine.latest.incoming →
      engine.latest.queue handle = messagesOn handle [] ++ (engine.setPeer engine.newest peer).latest.queue handle := by
    intro peer same
    rw [latest_setPeer present]
    show messagesOn handle engine.latest.incoming = messagesOn handle peer.incoming
    rw [same]
  cases call with
  | create servers => cases leaves
  | deleteTrack track => cases leaves
  | watchStates => exact still rfl
  | addTrack init => exact (congrArg (messagesOn handle) (latest_addTrack present init)).symm
  | setLocal kind => exact still (by cases kind <;> rfl)
  | localDescription => rfl
  | setRemote kind description => rfl
  | trackDescription track => rfl
  | send track message =>
    have same : (engine.latest.send track message).2.incoming = engine.latest.incoming := by
      unfold Peer.send
      split <;> rfl
    exact still same
  | receive track capacity =>
    show engine.latest.queue handle = _ ++ (engine.setPeer engine.newest _).latest.queue handle
    rw [latest_setPeer present]
    exact Peer.queue_receive
  | close => exact still rfl

end Engine

namespace Backend

/-- Puts a message on a track. -/
def push (handle : Handle) (message : Bytes) (backend : Backend) : Backend :=
  { backend with engine := backend.engine.pushIncoming handle message }

/-- The messages that wait on a track of the newest peer connection, the oldest first. -/
def waiting (backend : Backend) (handle : Handle) : List Bytes := backend.engine.latest.queue handle

/-- Calls one after the other, each answered in memory, and messages that others put on tracks meanwhile. -/
inductive Feeds : Backend → List Event → List (Handle × Bytes) → Backend → Prop where
  | nil (backend : Backend) : Feeds backend [] [] backend
  | push {backend last : Backend} {events : List Event} {pushed : List (Handle × Bytes)} {handle : Handle}
      {message : Bytes} (rest : Feeds (backend.push handle message) events pushed last) :
      Feeds backend events ((handle, message) :: pushed) last
  | call {backend middle last : Backend} {event : Event} {events : List Event} {pushed : List (Handle × Bytes)}
      (first : backend.Answers event middle) (rest : Feeds middle events pushed last) :
      Feeds backend (event :: events) pushed last

variable {backend middle last : Backend} {event : Event} {events more : List Event}
  {pushed : List (Handle × Bytes)} {handle track : Handle} {message : Bytes}

theorem feeds_append (fed : Feeds backend (events ++ more) pushed last) :
    ∃ middle early late, pushed = early ++ late ∧ Feeds backend events early middle ∧
      Feeds middle more late last := by
  generalize whole : events ++ more = all at fed
  induction fed generalizing events with
  | nil backend =>
    obtain ⟨rfl, rfl⟩ := List.append_eq_nil_iff.1 whole
    exact ⟨backend, [], [], rfl, .nil _, .nil _⟩
  | push rest ih =>
    obtain ⟨middle, early, late, rfl, first, second⟩ := ih whole
    exact ⟨middle, _ :: early, late, rfl, .push first, second⟩
  | @call backend next last event others pushed first rest ih =>
    cases events with
    | nil =>
      obtain rfl := whole
      exact ⟨backend, [], pushed, rfl, .nil _, .call first rest⟩
    | cons head events =>
      obtain ⟨rfl, others⟩ := List.cons.inj (List.cons_append.symm.trans whole)
      obtain ⟨middle, early, late, rfl, before, after⟩ := ih others
      exact ⟨middle, early, late, rfl, .call first before, after⟩

theorem Serves.feeds (served : Serves backend events last) : Feeds backend events [] last := by
  induction served with
  | nil backend => exact .nil backend
  | cons first rest ih => exact .call first ih

/-- Whoever answers the calls, the newest peer connection has the tracks that it was asked for and took. -/
theorem Feeds.tracks (fed : Feeds backend events pushed last) (leaves : AllOf Call.leavesTracks events)
    (present : backend.engine.peers ≠ []) :
    last.engine.peers ≠ [] ∧ last.engine.tracks = backend.engine.tracks ++ placed events := by
  induction fed with
  | nil backend => exact ⟨present, (List.append_nil _).symm⟩
  | push rest ih =>
    obtain ⟨standing, later⟩ := ih leaves (Engine.present_push present)
    exact ⟨standing, later.trans (congrArg (· ++ _) Engine.tracks_push)⟩
  | @call _ _ _ event events _ first rest ih =>
    obtain ⟨still, here⟩ := first.tracks (leaves event List.mem_cons_self) present
    obtain ⟨standing, later⟩ := ih (fun other member => leaves other (List.mem_cons_of_mem _ member)) still
    refine ⟨standing, ?_⟩
    have all : placed (event :: events) = event.placed?.toList ++ placed events := by
      rw [placed, List.filterMap_cons]
      cases event.placed? <;> rfl
    rw [later, here, all, List.append_assoc]

theorem Answers.waiting (answers : backend.Answers event middle) (leaves : event.call.leavesTracks = true)
    (present : backend.engine.peers ≠ []) :
    backend.waiting handle = messagesOn handle event.taken?.toList ++ middle.waiting handle := by
  cases answers with
  | engine call => exact Engine.queue_respond leaves present
  | _ => rfl

theorem Answers.live (answers : backend.Answers event middle) (leaves : event.call.leavesTracks = true)
    (present : backend.engine.peers ≠ []) (live : backend.engine.latest.isLive handle = true) :
    middle.engine.latest.isLive handle = true := by
  rw [Engine.isLive_iff] at live ⊢
  rw [(answers.tracks leaves present).2, List.lookup_append]
  simp [live]

theorem push_live (live : backend.engine.latest.isLive handle = true) :
    (backend.push track message).engine.latest.isLive handle = true := by
  rw [Engine.isLive_iff] at live ⊢
  rwa [push, Engine.tracks_push]

/-- A message that is put on a track waits behind all others there. -/
theorem push_waiting (live : backend.engine.latest.isLive handle = true) :
    (backend.push track message).waiting handle =
      backend.waiting handle ++ messagesOn handle [(track, message)] := by
  have later : (backend.push track message).waiting handle =
      (backend.engine.pushIncoming track message).latest.queue handle := rfl
  rw [later, Engine.latest_push]
  split
  · exact messagesOn_append _ _
  · next dead =>
    have other : track ≠ handle := by
      rintro rfl
      exact dead live
    rw [messagesOn_cons_ne other]
    exact (List.append_nil _).symm

/-- On a live track no message is lost and none overtakes another: what waited there and what has come in is
what was taken off and what is still waiting. -/
theorem Feeds.waiting (fed : Feeds backend events pushed last) (leaves : AllOf Call.leavesTracks events)
    (present : backend.engine.peers ≠ []) (live : backend.engine.latest.isLive handle = true) :
    last.engine.latest.isLive handle = true ∧ backend.waiting handle ++ messagesOn handle pushed =
      messagesOn handle (takenOff events) ++ last.waiting handle := by
  induction fed with
  | nil backend => exact ⟨live, List.append_nil _⟩
  | @push backend _ events pushed track message rest ih =>
    obtain ⟨still, law⟩ := ih leaves (Engine.present_push present) (push_live live)
    refine ⟨still, ?_⟩
    rw [push_waiting live, List.append_assoc, ← messagesOn_append] at law
    exact law
  | @call backend middle _ event events pushed first rest ih =>
    have allowed := leaves event List.mem_cons_self
    obtain ⟨still, law⟩ := ih (fun other member => leaves other (List.mem_cons_of_mem _ member))
      (first.tracks allowed present).1 (first.live allowed present live)
    refine ⟨still, ?_⟩
    rw [first.waiting allowed present, List.append_assoc, law, takenOff_cons, messagesOn_append, List.append_assoc]

/-- What waits on a track was waiting there before or has come in since. -/
theorem Feeds.sublist (fed : Feeds backend events pushed last) (leaves : AllOf Call.leavesTracks events)
    (present : backend.engine.peers ≠ []) (handle : Handle) :
    (last.waiting handle).Sublist (backend.waiting handle ++ messagesOn handle pushed) := by
  induction fed with
  | nil backend => exact List.sublist_append_left _ _
  | @push backend _ events pushed track message rest ih =>
    have grown : ((backend.push track message).waiting handle).Sublist
        (backend.waiting handle ++ messagesOn handle [(track, message)]) := by
      have later : (backend.push track message).waiting handle =
          (backend.engine.pushIncoming track message).latest.queue handle := rfl
      rw [later, Engine.latest_push]
      split
      · exact (messagesOn_append _ _) ▸ List.Sublist.refl _
      · exact List.sublist_append_left _ _
    have more := (ih leaves (Engine.present_push present)).trans (grown.append_right _)
    rwa [List.append_assoc, ← messagesOn_append] at more
  | @call backend middle _ event events pushed first rest ih =>
    have allowed := leaves event List.mem_cons_self
    have kept : (middle.waiting handle).Sublist (backend.waiting handle) := by
      rw [first.waiting allowed present]
      exact List.sublist_append_right _ _
    exact (ih (fun other member => leaves other (List.mem_cons_of_mem _ member))
      (first.tracks allowed present).1).trans (kept.append_right _)

theorem feeds_cons (fed : Feeds backend (event :: events) pushed last) :
    ∃ before middle early late, pushed = early ++ late ∧ Feeds backend [] early before ∧
      before.Answers event middle ∧ Feeds middle events late last := by
  generalize whole : event :: events = all at fed
  induction fed with
  | nil backend => cases whole
  | push rest ih =>
    obtain ⟨before, middle, early, late, rfl, first, answers, after⟩ := ih whole
    exact ⟨before, middle, _ :: early, late, rfl, .push first, answers, after⟩
  | call first rest ih =>
    cases whole
    exact ⟨_, _, [], _, rfl, .nil _, first, rest⟩

/-! Tracks are numbered one after the other, and no number comes up twice before the numbers are used up. -/

/-- Handles that are numbered from the number after another one on. -/
def Numbered : UInt32 → List Handle → Prop
  | _, [] => True
  | before, handle :: rest => handle.raw = before + 1 ∧ Numbered (before + 1) rest

theorem Numbered.later {before : UInt32} {handles : List Handle} (numbered : Numbered before handles) :
    ∀ handle ∈ handles, before.toNat < handle.raw.toNat := by
  induction handles generalizing before with
  | nil => exact nofun
  | cons first rest ih =>
    obtain ⟨raw, numbered⟩ := numbered
    -- Zero names no track, so the count has not begun again.
    have next : (before + 1).toNat = before.toNat + 1 := by
      have nonzero : (before + 1).toNat ≠ 0 := fun zero =>
        first.nonzero (raw.trans (UInt32.toNat_inj.1 zero))
      rw [UInt32.toNat_add] at nonzero ⊢
      have bound := before.toNat_lt
      simp only [UInt32.reduceToNat] at nonzero ⊢
      omega
    refine List.forall_mem_cons.2 ⟨by rw [raw, next]; exact Nat.lt_succ_self _, fun handle member => ?_⟩
    have beyond := ih numbered handle member
    omega

theorem Numbered.nodup {before : UInt32} {handles : List Handle} (numbered : Numbered before handles) :
    handles.Nodup := by
  induction handles generalizing before with
  | nil => exact .nil
  | cons first rest ih =>
    obtain ⟨raw, numbered⟩ := numbered
    refine List.nodup_cons.2 ⟨fun member => ?_, ih numbered⟩
    have beyond := numbered.later first member
    rw [raw] at beyond
    exact absurd beyond (Nat.lt_irrefl _)

theorem lastTrack_respond (engine : Engine) (index : Nat) (call : EngineCall)
    (plain : (Call.engine call).isPlain = true) :
    (engine.respond index call).2.lastTrack = engine.lastTrack := by
  cases call with
  | create servers =>
    simp only [Engine.respond, Engine.create]
    split <;> rfl
  | addTrack init => cases plain
  | _ => rfl

/-- A call that asks for no track leaves the count of tracks. -/
theorem Answers.lastTrack (answers : backend.Answers event middle) (none : event.adding? = none) :
    middle.engine.lastTrack = backend.engine.lastTrack := by
  cases answers with
  | engine call =>
    refine lastTrack_respond _ _ call ?_
    cases call <;> first | rfl | cases none
  | _ => rfl

/-- The handles that were granted are numbered on from where the engine had been. -/
theorem Feeds.numbered {handles : List Handle} (fed : Feeds backend events pushed last)
    (grants : Grants events handles) : Numbered backend.engine.lastTrack handles := by
  induction fed generalizing handles with
  | nil backend =>
    obtain rfl := List.map_eq_nil_iff.1 grants.symm
    exact trivial
  | push rest ih => exact ih grants
  | @call backend middle _ event events _ first rest ih =>
    rw [Grants, additions, List.filterMap_cons] at grants
    cases asked : event.adding? with
    | none =>
      rw [asked] at grants
      rw [← first.lastTrack asked]
      exact ih grants
    | some addition =>
      rw [asked, List.map_cons] at grants
      obtain ⟨handle, others, rfl, granted, more⟩ := List.map_eq_cons_iff.1 grants.symm
      have numbers : handle.raw = backend.engine.lastTrack + 1 ∧
          middle.engine.lastTrack = backend.engine.lastTrack + 1 := by
        cases first with
        | engine call =>
          cases call with
          | addTrack init =>
            cases asked
            exact Engine.addTrack_ok granted.symm
          | _ => cases asked
        | _ => cases asked
      refine ⟨numbers.1, ?_⟩
      rw [← numbers.2]
      exact ih more.symm

/-! An open session over the engine in memory. -/

/-- A peer connection that is made is the newest, and nothing is on it. -/
theorem latest_create {engine : Engine} {servers : List String} {index : Nat}
    (made : (engine.respond index (.create servers)).1 = .ok ()) :
    (engine.respond index (.create servers)).2.latest = .fresh := by
  simp only [Engine.respond, Engine.create] at made ⊢
  split at made
  · cases made
  · next free =>
    rw [if_neg free]
    simp [Engine.latest, Engine.newest, Engine.peer]

theorem Answers.created {servers : List String}
    (answers : backend.Answers ⟨.engine (.create servers), .ok ()⟩ middle) :
    middle.engine.peers ≠ [] ∧ middle.engine.tracks = [] ∧ ∀ handle, middle.waiting handle = [] := by
  obtain ⟨made, rfl⟩ := answers.of_engine
  obtain ⟨present, none⟩ := Engine.create_ok made.symm
  exact ⟨present, none, fun handle => congrArg (fun peer => peer.queue handle) (latest_create made.symm)⟩

theorem Feeds.bare {config : ClientConfig} {count : Nat} {context : Context}
    (fed : Feeds backend events pushed last) (begins : Context.Begins config count events context) :
    last.engine.peers ≠ [] ∧ last.engine.tracks = [] ∧
      ∀ handle, (last.waiting handle).Sublist (messagesOn handle pushed) := by
  cases begins with
  | begun valid bits started =>
    obtain ⟨_, _, first, _, rfl, -, -, fed⟩ := feeds_cons fed
    obtain ⟨_, middle, second, late, rfl, -, created, fed⟩ := feeds_cons fed
    obtain ⟨present, none, empty⟩ := created.created
    have leaves : AllOf Call.leavesTracks
        [⟨.engine .watchStates, .ok ()⟩, ⟨.host (.random 122), bits⟩, ⟨.host (.now 0), started⟩] :=
      (AllOf.single rfl _).append ((AllOf.single rfl _).append (.single rfl _))
    obtain ⟨still, tracks⟩ := fed.tracks leaves present
    refine ⟨still, tracks.trans (congrArg (· ++ []) none), fun handle => ?_⟩
    have waits := fed.sublist leaves present handle
    rw [empty, List.nil_append] at waits
    rw [messagesOn_append, messagesOn_append]
    exact waits.trans ((List.sublist_append_right _ _).trans (List.sublist_append_right _ _))

/-- An open session over the engine in memory. The handles of its tracks are all different and live. -/
structure Carries (handles : List Handle) (backend : Backend) : Prop where
  present : backend.engine.peers ≠ []
  distinct : handles.Nodup
  live : ∀ handle ∈ handles, backend.engine.latest.isLive handle = true

/-- An open session stays one. -/
theorem Carries.feeds {handles : List Handle} (carries : Carries handles backend) (fed : Feeds backend events pushed last)
    (leaves : AllOf Call.leavesTracks events) : Carries handles last where
  present := (fed.tracks leaves carries.present).1
  distinct := carries.distinct
  live handle member := (fed.waiting leaves carries.present (carries.live handle member)).1

theorem leavesTracks_of_setUp {count : Nat} {start after : Context} {outcome : Except Error Unit}
    (sets : Context.SetUp count start events outcome after) : AllOf Call.leavesTracks events := by
  have prepares : ∀ {first middle}, Context.Uses Call.isPreparing start first middle →
      AllOf Call.leavesTracks first := fun preparing => preparing.ofKind.weaken leavesTracks_of_preparing
  cases sets with
  | unprepared preparing => exact prepares preparing
  | uncreated preparing all creates =>
    exact (prepares preparing).append (creates.exchanging.weaken leavesTracks_of_exchanging)
  | created preparing all creates finishes =>
    have exchanged := (prepares preparing).append (creates.exchanging.weaken leavesTracks_of_exchanging)
    exact exchanged.append (finishes.uses.ofKind.weaken leavesTracks_of_working)

/-- The tracks that the engine has taken are those that it has granted. -/
theorem placed_of_grants {handles : List Handle} (grants : Grants events handles) :
    (placed events).map Prod.fst = handles := by
  have answers : (placed events).map Prod.fst =
      ((additions events).map Prod.snd).filterMap Except.toOption := by
    rw [placed_eq, List.map_filterMap, List.filterMap_map]
    congr 1
    funext addition
    obtain ⟨init, cause | handle⟩ := addition <;> rfl
  rw [answers, grants, List.filterMap_map]
  exact List.filterMap_some

theorem Feeds.carries {role : Role} {config : ClientConfig} {client : Client}
    (fed : Feeds backend events pushed last) (opens : Client.Opens role config events (.ok client)) :
    ∃ handles, handles.length = role.tracks ∧ client.context.Holds handles ∧ Carries handles last ∧
      ∀ handle, (last.waiting handle).Sublist (messagesOn handle pushed) := by
  obtain ⟨beginning, setting, context, handles, rfl, begins, sets, size, grants, holds⟩ := opens.holds
  obtain ⟨middle, early, late, rfl, begun, fed⟩ := feeds_append fed
  obtain ⟨present, none, waits⟩ := begun.bare begins
  have leaves := leavesTracks_of_setUp (sets.setUp begins.accounts.2)
  obtain ⟨still, tracks⟩ := fed.tracks leaves present
  refine ⟨handles, size, holds, ⟨still, (fed.numbered grants).nodup, fun handle member => ?_⟩, fun handle => ?_⟩
  · rw [Engine.isLive_iff, tracks, none, List.nil_append, List.lookup_isSome_iff]
    rw [← placed_of_grants grants] at member
    obtain ⟨pair, listed, rfl⟩ := List.mem_map.1 member
    exact ⟨pair, listed, beq_self_eq_true _⟩
  · rw [messagesOn_append]
    exact (fed.sublist leaves present handle).trans ((waits handle).append_right _)

end Backend
end InMemory
end WhipWhep
