import WhipWhep.Proofs.InMemory.Feeding
import WhipWhep.Proofs.InMemory.Journal

/-!
The engine in memory keeps its books. Whatever is done with it and its peer connections, in whatever order, the tracks,
queues, sent messages and counts that it holds are those of its journal.
-/

namespace WhipWhep.InMemory

open Journal

/-- What an engine holds on a peer connection, without what is about descriptions and reports. -/
def Peer.books (peer : Peer) : Peer := { peer with watched := false, localText := none }

namespace Entry

/-- What an entry does to the peer connection at an index. -/
def on (index : Nat) (peer : Peer) : Entry → Peer
  | made => peer
  | added place handle init => if place = index then { peer with tracks := peer.tracks ++ [(handle, init)] } else peer
  | deleted place handle => if place = index then peer.deleteTrack handle else peer
  | pushed handle message =>
    if peer.isLive handle then { peer with incoming := peer.incoming ++ [(handle, message)] } else peer
  | received place handle _ =>
    if place = index then { peer with incoming := peer.incoming.eraseP fun (track, _) => track = handle } else peer
  | sent place handle message => if place = index then { peer with sent := peer.sent ++ [(handle, message)] } else peer
  | closed place => if place = index then { peer with closed := true } else peer

/-- What an entry says of the engine that it is made for. -/
def Fits (engine : Engine) : Entry → Prop
  | made => True
  | added index handle _ => index < engine.peers.length ∧ handle.raw = engine.lastTrack + 1
  | deleted index _ => index < engine.peers.length
  | pushed _ _ => True
  | received index handle message =>
    (engine.peer index).isLive handle = true ∧ (engine.peer index).incoming.lookup handle = some message
  | sent index handle _ => (engine.peer index).isLive handle = true
  | closed _ => True

end Entry

theorem Backend.Numbered.concat {before : UInt32} {handles : List Handle} {handle : Handle}
    (numbered : Numbered before handles) (next : handle.raw = before + UInt32.ofNat handles.length + 1) :
    Numbered before (handles ++ [handle]) := by
  induction handles generalizing before with
  | nil => exact ⟨next.trans (congrArg (· + 1) (UInt32.add_zero before)), trivial⟩
  | cons first rest ih =>
    refine ⟨numbered.1, ih numbered.2 ?_⟩
    rw [next, List.length_cons, UInt32.ofNat_add, UInt32.add_comm (UInt32.ofNat rest.length), ← UInt32.add_assoc]
    rfl

namespace Engine

/-- What a call or a message does to the books of an engine, by the entry that it leaves. -/
inductive Enters (engine : Engine) : Option Entry → Engine → Prop where
  | idle {after : Engine} (size : after.peers.length = engine.peers.length)
      (last : after.lastTrack = engine.lastTrack)
      (same : ∀ index, (after.peer index).books = (engine.peer index).books) : Enters engine none after
  /-- The numbers for tracks are used up. -/
  | spent {after : Engine} (full : engine.lastTrack + 1 = 0) : Enters engine none after
  | entered {entry : Entry} {after : Engine} (fits : entry.Fits engine)
      (size : after.peers.length = engine.peers.length + made [entry])
      (last : after.lastTrack = engine.lastTrack + UInt32.ofNat (handles [entry]).length)
      (effect : ∀ index, after.peer index = entry.on index (engine.peer index)) : Enters engine (some entry) after

variable {engine after : Engine} {index other : Nat} {handle track : Handle} {message : Bytes}
  {journal : List Entry} {entry : Entry}

theorem peer_absent (absent : engine.peers.length ≤ index) : engine.peer index = .fresh := by
  rw [Engine.peer, List.getElem?_eq_none absent, Option.getD_none]

theorem length_setPeer (peer : Peer) : (engine.setPeer index peer).peers.length = engine.peers.length :=
  List.length_set

/-! What each call enters. -/

theorem Enters.refl (engine : Engine) : engine.Enters none engine := .idle rfl rfl fun _ => rfl

theorem enters_nothing (present : index < engine.peers.length) {peer : Peer}
    (same : peer.books = (engine.peer index).books) : engine.Enters none (engine.setPeer index peer) := by
  refine .idle (length_setPeer _) rfl fun other => ?_
  rw [peer_setPeer_at present]
  split
  · next here => rw [same, here]
  · rfl

/-- An entry that is about a peer connection alone, and takes no track. -/
theorem enters_setPeer (entry : Entry) (present : index < engine.peers.length) (fits : entry.Fits engine)
    (plain : made [entry] = 0 ∧ handles [entry] = [])
    (others : ∀ other peer, other ≠ index → entry.on other peer = peer) :
    engine.Enters (some entry) (engine.setPeer index (entry.on index (engine.peer index))) := by
  refine .entered fits ?_ ?_ fun other => ?_
  · rw [length_setPeer, plain.1, Nat.add_zero]
  · rw [plain.2]
    exact (UInt32.add_zero _).symm
  · rw [peer_setPeer_at present]
    split
    · next here => rw [here]
    · next apart => rw [others other _ apart]

theorem enters_create (servers : List String) :
    engine.Enters (Entry.of? index (.create servers) engine.create.1) engine.create.2 := by
  unfold create
  split
  · exact .refl engine
  · refine .entered trivial List.length_append (UInt32.add_zero _).symm fun other => ?_
    show (engine.peers ++ [Peer.fresh])[other]?.getD .fresh = engine.peers[other]?.getD .fresh
    rw [List.getElem?_append]
    split
    · rfl
    · next beyond =>
      rw [List.getElem?_eq_none (Nat.le_of_not_lt beyond), List.getElem?_singleton]
      split <;> rfl

theorem enters_addTrack (present : index < engine.peers.length) (init : TrackInit) :
    engine.Enters (Entry.of? index (.addTrack init) (engine.addTrack index init).1) (engine.addTrack index init).2 := by
  unfold addTrack
  dsimp only
  split
  · exact .refl engine
  split
  · exact .refl engine
  split
  · next unnumbered =>
    refine .spent ?_
    unfold Handle.of? at unnumbered
    split at unnumbered
    · cases unnumbered
    · next zero => exact not_not.1 zero
  · next given numbered =>
    refine .entered ⟨present, raw_of_of? numbered⟩ (length_setPeer _) rfl fun other => ?_
    have counted : index < ({ engine with
        lastTrack := engine.lastTrack + 1
        tracksAdded := engine.tracksAdded + 1 } : Engine).peers.length := present
    rw [peer_setPeer_at counted, Entry.on]
    by_cases here : other = index
    · rw [if_pos here, if_pos here.symm, here]
    · rw [if_neg here, if_neg (Ne.symm here)]
      rfl

theorem enters_send (present : index < engine.peers.length) : engine.Enters
    (Entry.of? index (.send handle message) ((engine.peer index).send handle message).1)
    (engine.setPeer index ((engine.peer index).send handle message).2) := by
  unfold Peer.send
  split
  · next live =>
    have entered := enters_setPeer (.sent index handle message) present live ⟨rfl, rfl⟩
      fun other peer apart => if_neg (Ne.symm apart)
    rwa [Entry.on, if_pos rfl] at entered
  · exact enters_nothing present rfl

theorem enters_receive (present : index < engine.peers.length) (capacity : Nat) : engine.Enters
    (Entry.of? index (.receive handle capacity) ((engine.peer index).receive handle capacity).1)
    (engine.setPeer index ((engine.peer index).receive handle capacity).2) := by
  unfold Peer.receive
  split
  · next live =>
    split
    · exact enters_nothing present rfl
    · next message oldest =>
      split
      · exact enters_nothing present rfl
      · have entered := enters_setPeer (.received index handle message) present ⟨live, oldest⟩ ⟨rfl, rfl⟩
          fun other peer apart => if_neg (Ne.symm apart)
        rwa [Entry.on, if_pos rfl] at entered
  · exact enters_nothing present rfl

theorem enters_respond (call : EngineCall)
    (present : index < engine.peers.length ∨ ∃ servers, call = .create servers) :
    engine.Enters (Entry.of? index call (engine.respond index call).1) (engine.respond index call).2 := by
  rcases present with present | ⟨servers, rfl⟩
  · cases call with
    | create servers => exact enters_create servers
    | watchStates => exact enters_nothing present rfl
    | addTrack init => exact enters_addTrack present init
    | deleteTrack handle =>
      have entered := enters_setPeer (.deleted index handle) present present ⟨rfl, rfl⟩
        fun other peer apart => if_neg (Ne.symm apart)
      rwa [Entry.on, if_pos rfl] at entered
    | setLocal kind => cases kind <;> exact enters_nothing present rfl
    | localDescription => exact .refl engine
    | setRemote kind description => exact .refl engine
    | trackDescription handle => exact .refl engine
    | send handle message => exact enters_send present
    | receive handle capacity => exact enters_receive present capacity
    | close =>
      have entered := enters_setPeer (.closed index) present trivial ⟨rfl, rfl⟩
        fun other peer apart => if_neg (Ne.symm apart)
      rwa [Entry.on, if_pos rfl] at entered
  · exact enters_create servers

theorem enters_push : engine.Enters (some (.pushed handle message)) (engine.pushIncoming handle message) :=
  .entered trivial (List.length_map _) (UInt32.add_zero _).symm peer_push

/-! What an entry does to the parts of a peer connection. -/

theorem tracks_on (peer : Peer) : (entry.on index peer).tracks =
    (peer.tracks.filter fun track => entry ≠ .deleted index track.1) ++ (entry.takenBy? index).toList := by
  cases entry with
  | made => simp [Entry.on, Entry.takenBy?]
  | added place handle init =>
    rw [Entry.on, Entry.takenBy?]
    split <;> simp
  | deleted place handle =>
    rw [Entry.on]
    split
    · next here => simp [here, Peer.deleteTrack, Entry.takenBy?, eq_comm]
    · next apart => simp [apart, Entry.takenBy?]
  | _ =>
    rw [Entry.on]
    split <;> simp [Entry.takenBy?]

theorem closed_on (peer : Peer) : (entry.on index peer).closed = (peer.closed || decide (entry = .closed index)) := by
  cases entry with
  | made => simp [Entry.on]
  | deleted place handle =>
    rw [Entry.on]
    split <;> simp [Peer.deleteTrack]
  | _ =>
    rw [Entry.on]
    split <;> simp [*]

theorem sent_on (peer : Peer) : messagesOn handle (entry.on index peer).sent =
    messagesOn handle peer.sent ++ (entry.sentBy? index handle).toList := by
  cases entry with
  | made => simp [Entry.on, Entry.sentBy?]
  | sent place track message =>
    rw [Entry.on, Entry.sentBy?]
    by_cases here : place = index
    · rw [if_pos here, messagesOn_append, messagesOn_singleton]
      by_cases same : track = handle <;> simp [here, same]
    · simp [here]
  | _ =>
    rw [Entry.on]
    split <;> simp [Entry.sentBy?, Peer.deleteTrack]

/-! The queue of a track. -/

theorem queue_push (peer : Peer) : ({ peer with incoming := peer.incoming ++ [(track, message)] } : Peer).queue handle =
    peer.queue handle ++ if track = handle then [message] else [] :=
  (messagesOn_append _ _).trans (congrArg _ messagesOn_singleton)

theorem queue_delete (peer : Peer) :
    (peer.deleteTrack track).queue handle = if track = handle then [] else peer.queue handle := by
  show messagesOn handle (peer.incoming.filter _) = _
  rw [messagesOn, List.filter_filter]
  split
  · next same =>
    subst same
    simp
  · next apart =>
    congr 1
    refine List.filter_congr fun waiting _ => ?_
    by_cases own : waiting.1 = handle
    · simp [own, Ne.symm apart]
    · simp [own]

theorem queue_take {peer : Peer} (oldest : peer.incoming.lookup track = some message) (handle : Handle) :
    peer.queue handle = (if track = handle then [message] else []) ++
      ({ peer with incoming := peer.incoming.eraseP fun (other, _) => other = track } : Peer).queue handle :=
  (messagesOn_erase oldest).trans (congrArg (· ++ _) messagesOn_singleton)

/-- The messages that wait on a track behind an entry are those that waited before it, with what has come in and
without what was received. -/
theorem queue_on (fits : entry.Fits engine) (kept : entry ≠ .deleted index handle)
    (stands : isStanding index handle journal = (engine.peer index).isLive handle) :
    (engine.peer index).queue handle ++ (arrives? index handle journal entry).toList =
      (entry.received? index handle).toList ++ (entry.on index (engine.peer index)).queue handle := by
  cases entry with
  | made => exact List.append_nil _
  | deleted place track =>
    have apart : place = index → track ≠ handle := fun here same => kept (by rw [here, same])
    refine (List.append_nil _).trans ?_
    rw [Entry.on]
    split
    · next here => exact (queue_delete _).symm ▸ (if_neg (apart here)).symm
    · rfl
  | pushed track message =>
    show _ = (if (engine.peer index).isLive track then _ else engine.peer index).queue handle
    rw [arrives?, stands]
    by_cases live : (engine.peer index).isLive track = true
    · rw [if_pos live, queue_push]
      by_cases same : track = handle
      · subst same
        simp [live]
      · simp [same]
    · rw [if_neg live]
      have absent : ¬(track = handle ∧ (engine.peer index).isLive handle = true) := fun both => live (both.1 ▸ both.2)
      rw [if_neg absent]
      exact List.append_nil _
  | received place track message =>
    refine (List.append_nil _).trans ?_
    rw [Entry.on, Entry.received?]
    by_cases here : place = index
    · subst here
      rw [if_pos rfl, queue_take fits.2 handle]
      by_cases same : track = handle <;> simp [same]
    · simp [here]
  | _ =>
    refine (List.append_nil _).trans ?_
    rw [Entry.on]
    split <;> rfl

/-- The messages that came in on a track are those that were received, in the same order, and those that wait. -/
structure Delivers (index : Nat) (handle : Handle) (journal : List Entry) (queue : List Bytes) : Prop where
  live : isStanding index handle journal = true →
    arrived index handle journal = received index handle journal ++ queue
  dead : isStanding index handle journal = false → queue = []
  order : received index handle journal <+: arrived index handle journal

variable {queue left : List Bytes}

theorem Delivers.next (delivers : Delivers index handle journal queue)
    (same : isStanding index handle (journal ++ [entry]) = isStanding index handle journal)
    (law : queue ++ (arrives? index handle journal entry).toList = (entry.received? index handle).toList ++ left) :
    Delivers index handle (journal ++ [entry]) left := by
  have alive : isStanding index handle journal = true →
      arrived index handle (journal ++ [entry]) = received index handle (journal ++ [entry]) ++ left := fun live => by
    rw [arrived_concat, received_concat, delivers.live live, List.append_assoc, law, List.append_assoc]
  -- A dead track has an empty queue, so the law says that nothing was received on it.
  cases stands : isStanding index handle journal with
  | true =>
    refine ⟨fun _ => alive stands, fun dead => ?_, ⟨left, (alive stands).symm⟩⟩
    rw [same, stands] at dead
    cases dead
  | false =>
    have none : arrives? index handle journal entry = none := by cases entry <;> simp [arrives?, stands]
    rw [delivers.dead stands, none] at law
    obtain ⟨unreceived, empty⟩ := List.append_eq_nil_iff.1 law.symm
    refine ⟨fun live => ?_, fun _ => empty, ?_⟩
    · rw [same, stands] at live
      cases live
    · rw [arrived_concat, received_concat, none, unreceived]
      simpa using delivers.order

/-- What waited on a track that is deleted is gone. -/
theorem Delivers.deleted (delivers : Delivers index handle journal queue) :
    Delivers index handle (journal ++ [.deleted index handle]) [] := by
  have gone : isStanding index handle (journal ++ [.deleted index handle]) ≠ true := by
    simp [isStanding_concat, Entry.takenBy?]
  refine ⟨fun live => absurd live gone, fun _ => rfl, ?_⟩
  simpa [arrived_concat, received_concat, arrives?, Entry.received?] using delivers.order

/-- On a new track nothing waits. -/
theorem Delivers.added {init : TrackInit} (delivers : Delivers index handle journal queue)
    (fresh : handle ∉ handles journal) : Delivers index handle (journal ++ [.added index handle init]) queue := by
  have dead := dead_of_untaken fresh index
  have none := arrived_of_untaken fresh index
  have unreceived := List.prefix_nil.1 (none ▸ delivers.order)
  have empty := delivers.dead dead
  constructor <;> simp [arrived_concat, received_concat, arrives?, Entry.received?, none, unreceived, empty]

theorem Delivers.enters (delivers : Delivers index handle journal ((engine.peer index).queue handle))
    (fits : entry.Fits engine) (stands : isStanding index handle journal = (engine.peer index).isLive handle)
    (fresh : ∀ init, entry = .added index handle init → handle ∉ handles journal) :
    Delivers index handle (journal ++ [entry]) ((entry.on index (engine.peer index)).queue handle) := by
  by_cases gone : entry = .deleted index handle
  · subst gone
    rw [Entry.on, if_pos rfl, queue_delete, if_pos rfl]
    exact delivers.deleted
  · by_cases new : ∃ init, entry = .added index handle init
    · obtain ⟨init, rfl⟩ := new
      rw [Entry.on, if_pos rfl]
      exact delivers.added (fresh init rfl)
    · refine delivers.next ?_ (queue_on fits gone stands)
      rw [Bool.eq_iff_iff, isStanding_concat]
      simp [gone, takenBy?_eq_some_iff, not_exists.1 new]

/-! The books and the journal. -/

/-- An engine holds what its journal says, and has numbered its tracks one after the other. -/
structure Agrees (journal : List Entry) (engine : Engine) : Prop where
  size : engine.peers.length = made journal
  last : engine.lastTrack = UInt32.ofNat (handles journal).length
  numbered : Backend.Numbered 0 (handles journal)
  tracks : ∀ index, (engine.peer index).tracks = standing index journal
  closed : ∀ index, (engine.peer index).closed = decide (.closed index ∈ journal)
  delivers : ∀ index handle, Delivers index handle journal ((engine.peer index).queue handle)
  sent : ∀ index handle, messagesOn handle (engine.peer index).sent = sentBy index handle journal
  /-- Messages were sent on own tracks only. -/
  owned : ∀ {index handle message}, .sent index handle message ∈ journal →
    ∃ init, .added index handle init ∈ journal
  counted : standingAll journal + removals journal = (taken journal).length

theorem Agrees.distinct (agrees : Agrees journal engine) : (handles journal).Nodup := agrees.numbered.nodup

theorem Agrees.live (agrees : Agrees journal engine) (index : Nat) (handle : Handle) :
    isStanding index handle journal = (engine.peer index).isLive handle := by
  rw [isStanding, ← agrees.tracks]
  rfl

theorem agrees_empty : Agrees [] .empty where
  size := rfl
  last := rfl
  numbered := trivial
  tracks _ := rfl
  closed _ := rfl
  delivers _ _ := ⟨nofun, fun _ => rfl, List.nil_prefix⟩
  sent _ _ := rfl
  owned := nofun
  counted := rfl

theorem Agrees.idle (agrees : Agrees journal engine) (size : after.peers.length = engine.peers.length)
    (last : after.lastTrack = engine.lastTrack) (same : ∀ index, (after.peer index).books = (engine.peer index).books) :
    Agrees journal after where
  size := size.trans agrees.size
  last := last.trans agrees.last
  numbered := agrees.numbered
  tracks index := (congrArg Peer.tracks (same index)).trans (agrees.tracks index)
  closed index := (congrArg Peer.closed (same index)).trans (agrees.closed index)
  delivers index handle := congrArg (Peer.queue · handle) (same index) ▸ agrees.delivers index handle
  sent index handle := (congrArg (fun peer => messagesOn handle peer.sent) (same index)).trans (agrees.sent index handle)
  owned := agrees.owned
  counted := agrees.counted

section Entered

variable (agrees : Agrees journal engine) (fits : entry.Fits engine)

include agrees fits

theorem Agrees.numbered_next : Backend.Numbered 0 (handles (journal ++ [entry])) := by
  rw [handles_append]
  cases entry with
  | added index handle init =>
    refine agrees.numbered.concat ?_
    rw [fits.2, agrees.last, UInt32.zero_add]
  | _ => exact (List.append_nil (handles journal)).symm ▸ agrees.numbered

theorem Agrees.counted_next :
    standingAll (journal ++ [entry]) + removals (journal ++ [entry]) = (taken (journal ++ [entry])).length := by
  have before := agrees.counted
  rw [removals_concat, taken_concat, List.length_append]
  cases entry with
  | made =>
    have bare : standing (made journal) journal = [] := by
      rw [← agrees.tracks, peer_absent (Nat.le_of_eq agrees.size)]
      rfl
    rw [standingAll_made bare]
    exact before
  | added index handle init =>
    rw [standingAll_added (agrees.size ▸ fits.1)]
    show _ + removals journal = (taken journal).length + 1
    omega
  | deleted index handle =>
    have present : index < engine.peers.length := fits
    have one := standingAll_deleted (agrees.size ▸ present) agrees.distinct handle
    show _ + (removals journal + if isStanding index handle journal then 1 else 0) = (taken journal).length + 0
    omega
  | _ =>
    rw [standingAll_still rfl rfl (by simp)]
    exact before

theorem Agrees.owned_next {index : Nat} {handle : Handle} {message : Bytes}
    (sent : .sent index handle message ∈ journal ++ [entry]) : ∃ init, .added index handle init ∈ journal ++ [entry] := by
  have earlier : ∃ init, .added index handle init ∈ journal := by
    rcases List.mem_append.1 sent with before | last
    · exact agrees.owned before
    · obtain rfl := List.mem_singleton.1 last
      exact taken_of_standing ((agrees.live index handle).trans fits)
  obtain ⟨init, added⟩ := earlier
  exact ⟨init, List.mem_append_left _ added⟩

end Entered

theorem Agrees.entered (agrees : Agrees journal engine) (fits : entry.Fits engine)
    (size : after.peers.length = engine.peers.length + made [entry])
    (last : after.lastTrack = engine.lastTrack + UInt32.ofNat (handles [entry]).length)
    (effect : ∀ index, after.peer index = entry.on index (engine.peer index)) : Agrees (journal ++ [entry]) after where
  size := by rw [size, agrees.size, made_append]
  last := by rw [last, agrees.last, handles_append, List.length_append, UInt32.ofNat_add]
  numbered := agrees.numbered_next fits
  tracks index := by rw [effect, tracks_on, agrees.tracks, standing_concat]
  closed index := by
    rw [effect, closed_on, agrees.closed]
    simp [eq_comm]
  delivers index handle := by
    rw [effect]
    refine (agrees.delivers index handle).enters fits (agrees.live index handle) ?_
    rintro init rfl
    -- The new handle is among the handles of the longer journal, and these are all different.
    have distinct := (agrees.numbered_next fits).nodup
    rw [handles_append] at distinct
    exact fun given => List.disjoint_of_nodup_append distinct given (List.mem_singleton_self _)
  sent index handle := by rw [effect, sent_on, agrees.sent, sentBy_concat]
  owned := agrees.owned_next fits
  counted := agrees.counted_next fits

theorem Agrees.enters {entry : Option Entry} (agrees : Agrees journal engine) (enters : engine.Enters entry after)
    (few : (handles journal).length < UInt32.size - 1) : Agrees (journal ++ entry.toList) after := by
  cases enters with
  | idle size last same => exact (List.append_nil journal).symm ▸ agrees.idle size last same
  | spent full =>
    -- The count of tracks would have come round to zero.
    rw [agrees.last] at full
    have zero := congrArg UInt32.toNat full
    rw [UInt32.toNat_add, UInt32.toNat_ofNat'] at zero
    simp only [UInt32.reduceToNat] at zero
    unfold UInt32.size at few
    omega
  | entered fits size last effect => exact agrees.entered fits size last effect

/-- What can be done with a new engine, one thing after the other. Any call goes to any of the peer connections that
were made, and messages come in on any handle. What the engine is to refuse, to report and to answer may change at any
time. -/
inductive History : List Entry → Engine → Prop where
  | empty : History [] .empty
  | called {journal : List Entry} {engine : Engine} (before : History journal engine) (index : Nat) (call : EngineCall)
      (present : index < engine.peers.length ∨ ∃ servers, call = .create servers) :
      History (journal ++ (Entry.of? index call (engine.respond index call).1).toList) (engine.respond index call).2
  | pushed {journal : List Entry} {engine : Engine} (before : History journal engine) (handle : Handle)
      (message : Bytes) : History (journal ++ [.pushed handle message]) (engine.pushIncoming handle message)
  | arranged {journal : List Entry} {engine : Engine} (before : History journal engine) (refusesPeers : Bool)
      (trackLimit : Option Nat) (states : List ConnectionState) (answers : List (String × Answered))
      (loggerInstalls : Nat) :
      History journal { engine with refusesPeers, trackLimit, states, answers, loggerInstalls }

/-- Whatever was done with it, an engine agrees with its journal. -/
theorem History.agrees (history : History journal engine) (few : (handles journal).length < UInt32.size - 1) :
    Agrees journal engine := by
  induction history with
  | empty => exact agrees_empty
  | called before index call present ih =>
    have earlier := Nat.lt_of_le_of_lt (length_handles_le _) few
    exact (ih earlier).enters (enters_respond call present) earlier
  | pushed before handle message ih =>
    have earlier := Nat.lt_of_le_of_lt (length_handles_le _) few
    exact (ih earlier).enters enters_push earlier
  | arranged before _ _ _ _ _ ih => exact (ih few).idle rfl rfl fun _ => rfl

/-! What an engine says of its books. -/

theorem peers_eq (engine : Engine) : engine.peers = (List.range engine.peers.length).map engine.peer := by
  refine List.ext_getElem (by simp) fun index within _ => ?_
  simp [Engine.peer, within]

theorem Agrees.liveTracks (agrees : Agrees journal engine) : engine.liveTracks = standingAll journal := by
  have gathered : engine.liveTracks = (engine.peers.flatMap Peer.tracks).length := by
    rw [List.length_flatMap, List.sum_eq_foldr, List.foldr_map]
    rfl
  rw [gathered, peers_eq, List.flatMap_map, agrees.size, standingAll]
  exact congrArg List.length (List.flatMap_congr fun index _ => agrees.tracks index)

theorem Agrees.livePeers (agrees : Agrees journal engine) :
    engine.livePeers = (List.range (made journal)).countP fun index => .closed index ∉ journal := by
  rw [Engine.livePeers, peers_eq, List.countP_map, agrees.size]
  refine List.countP_congr fun index _ => ?_
  simp [agrees.closed]

theorem Agrees.newest (agrees : Agrees journal engine) : engine.tracks = standing (made journal - 1) journal := by
  rw [tracks_eq, Engine.newest, agrees.size, agrees.tracks]

/-- Where one place of a list alone gives anything, the whole list gives that. -/
theorem flatMap_of_only {part : Peer → List Bytes} (none : part .fresh = []) {peers : List Peer} {index : Nat}
    (only : ∀ other, other ≠ index → part (peers[other]?.getD .fresh) = []) :
    peers.flatMap part = part (peers[index]?.getD .fresh) := by
  induction peers generalizing index with
  | nil => exact none.symm
  | cons first rest ih =>
    rw [List.flatMap_cons]
    cases index with
    | zero =>
      have others : rest.flatMap part = [] := List.flatMap_eq_nil_iff.2 fun peer member => by
        obtain ⟨place, found⟩ := List.mem_iff_getElem?.1 member
        have empty := only (place + 1) (Nat.succ_ne_zero place)
        rwa [List.getElem?_cons_succ, found] at empty
      rw [others]
      exact List.append_nil _
    | succ index =>
      have empty : part first = [] := only 0 (Nat.succ_ne_zero index).symm
      rw [empty, ih fun other apart => only (other + 1) fun same => apart (Nat.succ.inj same)]
      rfl

/-- A track belongs to one peer connection, and nothing was sent on it by another. -/
theorem Agrees.sender (agrees : Agrees journal engine) (handle : Handle) :
    ∃ index, ∀ {place message}, .sent place handle message ∈ journal → place = index := by
  by_cases some : ∃ index message, .sent index handle message ∈ journal
  · obtain ⟨index, message, sent⟩ := some
    obtain ⟨init, first⟩ := agrees.owned sent
    refine ⟨index, fun {place _} other => ?_⟩
    obtain ⟨another, second⟩ := agrees.owned other
    exact owner_unique agrees.distinct second first
  · exact ⟨0, fun {place message} sent => absurd ⟨place, message, sent⟩ some⟩

theorem Agrees.sentOn (agrees : Agrees journal engine) (handle : Handle) :
    engine.sent handle = Journal.sent handle journal := by
  obtain ⟨index, sender⟩ := agrees.sender handle
  have only : ∀ other, other ≠ index → messagesOn handle (engine.peer other).sent = [] := by
    intro other apart
    rw [agrees.sent, sentBy, List.filterMap_eq_nil_iff]
    intro entry member
    cases entry with
    | sent place track message =>
      refine if_neg fun own => apart ?_
      rw [← own.1]
      exact sender (own.2 ▸ member)
    | _ => rfl
  rw [Engine.sent]
  refine (flatMap_of_only rfl only).trans ((agrees.sent index handle).trans ?_)
  refine List.filterMap_congr fun entry member => ?_
  cases entry with
  | sent place track message =>
    rw [Entry.sentBy?, Entry.sent?]
    by_cases own : track = handle
    · simp [own, sender (own ▸ member)]
    · simp [own]
  | _ => rfl

/-! What the next message and the next receive do. -/

/-- A message for a live track waits last on that track, and on no other. -/
theorem Agrees.push (agrees : Agrees journal engine) (stands : isStanding index handle journal = true)
    (message : Bytes) (other : Nat) (track : Handle) :
    ((engine.pushIncoming handle message).peer other).queue track =
      (engine.peer other).queue track ++ if other = index ∧ track = handle then [message] else [] := by
  obtain ⟨init, own⟩ := taken_of_standing stands
  rw [peer_push]
  by_cases live : (engine.peer other).isLive handle = true
  · obtain ⟨another, taken⟩ := taken_of_standing ((agrees.live other handle).trans live)
    rw [if_pos live, queue_push, owner_unique agrees.distinct taken own]
    simp [eq_comm]
  · have apart : other ≠ index := by
      rintro rfl
      exact live ((agrees.live other handle).symm.trans stands)
    simp [live, apart]

/-- What a receive on a track says, and what it leaves. A live track gives its oldest message, where that fits. -/
inductive Receives (journal : List Entry) (engine : Engine) (index : Nat) (handle : Handle) (capacity : Nat) :
    Except EngineError Bytes → Engine → Prop where
  | dead (gone : isStanding index handle journal = false) :
      Receives journal engine index handle capacity (.error .invalid) engine
  | empty (stands : isStanding index handle journal = true) (none : (engine.peer index).queue handle = []) :
      Receives journal engine index handle capacity (.error .notAvailable) engine
  | tooSmall {message : Bytes} {rest : List Bytes} (stands : isStanding index handle journal = true)
      (waits : (engine.peer index).queue handle = message :: rest) (large : capacity < message.length) :
      Receives journal engine index handle capacity (.error .tooSmall) engine
  | oldest {message : Bytes} {rest : List Bytes} {after : Engine} (stands : isStanding index handle journal = true)
      (waits : (engine.peer index).queue handle = message :: rest) (fits : message.length ≤ capacity)
      (left : (after.peer index).queue handle = rest)
      (others : ∀ other track, ¬(other = index ∧ track = handle) →
        (after.peer other).queue track = (engine.peer other).queue track) :
      Receives journal engine index handle capacity (.ok message) after

theorem setPeer_self (present : index < engine.peers.length) : engine.setPeer index (engine.peer index) = engine := by
  have same : engine.peers.set index (engine.peer index) = engine.peers := by
    simp [Engine.peer, present]
  rw [setPeer, same]

theorem Agrees.receives (agrees : Agrees journal engine) (present : index < engine.peers.length) (handle : Handle)
    (capacity : Nat) : Receives journal engine index handle capacity
      (engine.respond index (.receive handle capacity)).1 (engine.respond index (.receive handle capacity)).2 := by
  have stands := agrees.live index handle
  show Receives journal engine index handle capacity ((engine.peer index).receive handle capacity).1
    (engine.setPeer index ((engine.peer index).receive handle capacity).2)
  unfold Peer.receive
  split
  · next live =>
    rw [live] at stands
    split
    · next none =>
      rw [lookup_eq_head?, List.head?_eq_none_iff] at none
      exact (setPeer_self present).symm ▸ .empty stands none
    · next message oldest =>
      have waits := queue_take oldest handle
      rw [if_pos rfl] at waits
      split
      · next large => exact (setPeer_self present).symm ▸ .tooSmall stands waits large
      · next fits =>
        refine .oldest stands waits (Nat.le_of_not_lt fits) ?_ fun other track apart => ?_
        · rw [peer_setPeer_at present, if_pos rfl]
          rfl
        · rw [peer_setPeer_at present]
          split
          · next here =>
            subst here
            have still := queue_take oldest track
            rw [if_neg fun same => apart ⟨rfl, same.symm⟩] at still
            exact still.symm
          · rfl
  · next gone =>
    rw [Bool.not_eq_true] at gone
    exact (setPeer_self present).symm ▸ .dead (stands.trans gone)

/-- The books of an engine by its journal. -/
structure Booked (journal : List Entry) (engine : Engine) : Prop where
  /-- No handle is given twice, not even when its track is gone. -/
  distinct : (handles journal).Nodup
  liveTracks : engine.liveTracks + removals journal = (taken journal).length
  livePeers : engine.livePeers = (List.range (made journal)).countP fun index => .closed index ∉ journal
  /-- The newest peer connection is the last one that was made. -/
  tracks : engine.tracks = standing (made journal - 1) journal
  delivers : ∀ index handle, Delivers index handle journal ((engine.peer index).queue handle)
  sent : ∀ handle, engine.sent handle = Journal.sent handle journal
  pushes : ∀ {index handle}, isStanding index handle journal = true → ∀ message other track,
    ((engine.pushIncoming handle message).peer other).queue track =
      (engine.peer other).queue track ++ if other = index ∧ track = handle then [message] else []
  receives : ∀ {index}, index < made journal → ∀ handle capacity,
    Receives journal engine index handle capacity
      (engine.respond index (.receive handle capacity)).1 (engine.respond index (.receive handle capacity)).2

/-- Whatever was done with an engine, its books are exact. -/
theorem history_keeps_books (history : History journal engine) (few : (taken journal).length < UInt32.size - 1) :
    Booked journal engine := by
  have agrees := history.agrees (by rwa [handles, List.length_map])
  exact {
    distinct := agrees.distinct
    liveTracks := agrees.liveTracks ▸ agrees.counted
    livePeers := agrees.livePeers
    tracks := agrees.newest
    delivers := agrees.delivers
    sent := agrees.sentOn
    pushes := agrees.push
    receives := fun within => agrees.receives (agrees.size ▸ within) }

/-! Two peer connections. A message is too large for a receive, a deletion goes to the wrong one, one of them is closed
and still sends, and a track is deleted while a message waits on it. -/

namespace Shared

open Client.Unanswered (video audio)

def init : TrackInit := ⟨.recvOnly, .h264, 96, 7, "0", "video", "stream", "track", none⟩

def entries : List Entry :=
  [.made, .made, .added 0 video init, .added 1 audio init, .pushed video [1, 2, 3], .pushed audio [7],
    .deleted 1 video, .pushed video [4], .received 0 video [1, 2, 3], .closed 0, .sent 0 video [9],
    .deleted 1 audio, .pushed audio [5]]

def reached : Engine :=
  { Engine.empty with
    peers := [⟨false, [(video, init)], [(video, [4])], [(video, [9])], none, true⟩, .fresh]
    lastTrack := 2
    tracksAdded := 2 }

theorem history : History entries reached := by
  have made := (History.empty.called 0 (.create []) (.inr ⟨[], rfl⟩)).called 0 (.create []) (.inr ⟨[], rfl⟩)
  have added := (made.called 0 (.addTrack init) (.inl (by decide))).called 1 (.addTrack init) (.inl (by decide))
  have pushed := (added.pushed video [1, 2, 3]).pushed audio [7]
  have tooSmall := pushed.called 0 (.receive video 2) (.inl (by decide))
  have astray := (tooSmall.called 1 (.deleteTrack video) (.inl (by decide))).pushed video [4]
  have received := astray.called 0 (.receive video 3) (.inl (by decide))
  have closed := (received.called 0 .close (.inl (by decide))).called 0 (.send video [9]) (.inl (by decide))
  have refused := closed.called 0 (.addTrack init) (.inl (by decide))
  have deleted := (refused.called 1 (.deleteTrack audio) (.inl (by decide))).pushed audio [5]
  exact deleted

end Shared

open Shared in
theorem history_keeps_books_shared :
    History entries reached ∧ (taken entries).length < UInt32.size - 1 ∧ Booked entries reached :=
  ⟨history, by decide, history_keeps_books history (by decide)⟩

end Engine
end WhipWhep.InMemory
