import WhipWhep.InMemory.Setting
import WhipWhep.Proofs.Session.Wiring

/-!
Sessions over the engine and the RTP layer in memory. What these two hold follows from the events: the
tracks of the newest peer connection are those it was asked for and took, a writer has the payload type
of its codec and index, and what a reader was opened for stays on record.
-/

namespace WhipWhep

/-- A track that the engine has taken, under its name for it. -/
def Event.placed? (event : Event) : Option (Handle × TrackInit) :=
  event.adding?.bind fun (init, answer) => answer.toOption.map fun handle => (handle, init)

/-- The tracks that the engine has taken, in order. -/
def placed (events : List Event) : List (Handle × TrackInit) := events.filterMap Event.placed?

/-- The requests that take no track off the newest peer connection, nor put a newer one in its place. -/
def Call.leavesTracks : Call → Bool
  | .engine (.create _) => false
  | .engine (.deleteTrack _) => false
  | _ => true

theorem leavesTracks_of_preparing {call : Call} (preparing : call.isPreparing = true) :
    call.leavesTracks = true := by
  unfold Call.leavesTracks
  split <;> first | rfl | cases preparing

theorem leavesTracks_of_exchanging {call : Call} (exchanging : call.isExchanging = true) :
    call.leavesTracks = true := by
  unfold Call.leavesTracks
  split <;> first | rfl | cases exchanging

theorem leavesTracks_of_waiting {call : Call} (waiting : call.isWaiting = true) : call.leavesTracks = true := by
  unfold Call.leavesTracks
  split <;> first | rfl | cases waiting

theorem leavesTracks_of_relayed {call : Call} (relayed : call.isRelayed = true) : call.leavesTracks = true := by
  unfold Call.leavesTracks
  split <;> first | rfl | cases relayed

theorem placed_eq (events : List Event) : placed events =
    (additions events).filterMap fun (init, answer) => answer.toOption.map fun handle => (handle, init) := by
  rw [placed, additions, List.filterMap_filterMap]
  rfl

/-- Where no track is asked for, none is taken. -/
theorem placed_plain {events : List Event} (plain : AllOf Call.isPlain events) : placed events = [] := by
  rw [placed_eq, additions_plain plain]
  rfl

/-- What the layer is called for is answered by the RTP layer in memory. -/
def Event.IsLayered : Event → Prop
  | ⟨.layer call, answer⟩ => ∃ rtp : InMemory.Rtp, answer = (rtp.respond call).1
  | _ => True

namespace InMemory

namespace Engine

variable {engine : Engine} {call : EngineCall}

/-- The place of the newest peer connection. -/
def newest (engine : Engine) : Nat := engine.peers.length - 1

theorem tracks_eq (engine : Engine) : engine.tracks = (engine.peer engine.newest).tracks := by
  unfold tracks peer newest
  rw [List.getLast?_eq_getElem?]
  cases engine.peers[engine.peers.length - 1]? <;> rfl

theorem peer_setPeer_at {index : Nat} (within : index < engine.peers.length) (peer : Peer) (other : Nat) :
    (engine.setPeer index peer).peer other = if other = index then peer else engine.peer other := by
  by_cases same : other = index
  · subst same
    simp [setPeer, Engine.peer, within]
  · simp [setPeer, Engine.peer, same, Ne.symm same]

theorem peer_setPeer (present : engine.peers ≠ []) (peer : Peer) :
    (engine.setPeer engine.newest peer).peer engine.newest = peer := by
  have within : engine.newest < engine.peers.length :=
    Nat.sub_lt (List.length_pos_iff.2 present) Nat.one_pos
  rw [peer_setPeer_at within, if_pos rfl]

@[simp] theorem newest_setPeer (index : Nat) (peer : Peer) :
    (engine.setPeer index peer).newest = engine.newest := by
  simp [newest, setPeer]

theorem setPeer_peers_ne_nil (present : engine.peers ≠ []) (index : Nat) (peer : Peer) :
    (engine.setPeer index peer).peers ≠ [] := by
  simpa [setPeer] using present

theorem tracks_setPeer (present : engine.peers ≠ []) (peer : Peer) :
    (engine.setPeer engine.newest peer).tracks = peer.tracks := by
  rw [tracks_eq, newest_setPeer, peer_setPeer present]

/-- What the newest peer connection holds after a call: its tracks, and one more where one was taken. -/
def Keeps (engine : Engine) (call : EngineCall) (answer : call.Answer) (after : Engine) : Prop :=
  after.peers ≠ [] ∧ after.tracks = engine.tracks ++ (Event.placed? ⟨.engine call, answer⟩).toList

theorem Keeps.same {answer : call.Answer} {after : Engine} (present : engine.peers ≠ [])
    (peers : after.peers = engine.peers) (none : Event.placed? ⟨.engine call, answer⟩ = none) :
    Keeps engine call answer after := by
  refine ⟨peers ▸ present, ?_⟩
  rw [none, Option.toList_none, List.append_nil, tracks, tracks, peers]

theorem Keeps.changed {answer : call.Answer} {peer : Peer} (present : engine.peers ≠ [])
    (tracks : peer.tracks = (engine.peer engine.newest).tracks)
    (none : Event.placed? ⟨.engine call, answer⟩ = none) :
    Keeps engine call answer (engine.setPeer engine.newest peer) := by
  refine ⟨setPeer_peers_ne_nil present _ _, ?_⟩
  rw [none, Option.toList_none, List.append_nil, tracks_setPeer present, tracks, tracks_eq]

theorem keeps_addTrack (init : TrackInit) (present : engine.peers ≠ []) :
    Keeps engine (.addTrack init) (engine.addTrack engine.newest init).1
      (engine.addTrack engine.newest init).2 := by
  unfold addTrack
  dsimp only
  split
  · exact .same present rfl rfl
  split
  · exact .same present rfl rfl
  split
  · exact .same present rfl rfl
  · next handle _ =>
    have counted : ({ engine with
        lastTrack := engine.lastTrack + 1
        tracksAdded := engine.tracksAdded + 1 } : Engine).peers ≠ [] := present
    refine ⟨setPeer_peers_ne_nil counted _ _, ?_⟩
    exact (tracks_setPeer counted _).trans (congrArg (· ++ [(handle, init)]) engine.tracks_eq.symm)

theorem raw_of_of? {raw : UInt32} {handle : Handle} (numbered : Handle.of? raw = some handle) :
    handle.raw = raw := by
  unfold Handle.of? at numbered
  split at numbered
  · cases numbered
    rfl
  · cases numbered

/-- The tracks of all peer connections are numbered together. -/
theorem addTrack_ok {index : Nat} {init : TrackInit} {handle : Handle}
    (taken : (engine.addTrack index init).1 = .ok handle) :
    handle.raw = engine.lastTrack + 1 ∧ (engine.addTrack index init).2.lastTrack = engine.lastTrack + 1 := by
  unfold addTrack at taken ⊢
  dsimp only at taken ⊢
  split at taken
  · cases taken
  next opened =>
    split at taken
    · cases taken
    next room =>
      split at taken
      · cases taken
      · next given numbered =>
        cases taken
        rw [if_neg opened, if_neg room]
        exact ⟨raw_of_of? numbered, rfl⟩

theorem tracks_setLocal (kind : SdpKind) (peer : Peer) : (peer.setLocal kind).2.tracks = peer.tracks := by
  cases kind <;> rfl

theorem tracks_send (handle : Handle) (message : Bytes) (peer : Peer) :
    (peer.send handle message).2.tracks = peer.tracks := by
  unfold Peer.send
  split <;> rfl

theorem tracks_receive (handle : Handle) (capacity : Nat) (peer : Peer) :
    (peer.receive handle capacity).2.tracks = peer.tracks := by
  unfold Peer.receive
  split
  · split
    · rfl
    · split <;> rfl
  · rfl

/-- Every call that leaves the tracks where they are adds at most the one that it asks for. -/
theorem keeps_respond (leaves : (Call.engine call).leavesTracks = true) (present : engine.peers ≠ []) :
    Keeps engine call (engine.respond engine.newest call).1 (engine.respond engine.newest call).2 := by
  cases call with
  | create servers => cases leaves
  | deleteTrack handle => cases leaves
  | watchStates => exact .changed present rfl rfl
  | addTrack init => exact keeps_addTrack init present
  | setLocal kind => exact .changed present (tracks_setLocal kind _) rfl
  | localDescription => exact .same present rfl rfl
  | setRemote kind description => exact .same present rfl rfl
  | trackDescription handle => exact .same present rfl rfl
  | send handle message => exact .changed present (tracks_send handle message _) rfl
  | receive handle capacity => exact .changed present (tracks_receive handle capacity _) rfl
  | close => exact .changed present rfl rfl

theorem answers_addTrack (engine : Engine) (index : Nat) (init : TrackInit) :
    (engine.addTrack index init).2.answers = engine.answers := by
  unfold addTrack
  dsimp only
  split
  · rfl
  split
  · rfl
  split <;> rfl

/-- What tracks are answered with is settled beforehand. -/
theorem answers_respond (engine : Engine) (index : Nat) (call : EngineCall) :
    (engine.respond index call).2.answers = engine.answers := by
  cases call with
  | create servers =>
    simp only [respond, create]
    split <;> rfl
  | addTrack init => exact answers_addTrack engine index init
  | _ => rfl

/-- Where a peer connection is made it is the newest, and no track is on it. -/
theorem create_ok {servers : List String} {index : Nat}
    (made : (engine.respond index (.create servers)).1 = .ok ()) :
    (engine.respond index (.create servers)).2.peers ≠ [] ∧
      (engine.respond index (.create servers)).2.tracks = [] := by
  simp only [respond, create] at made ⊢
  split at made
  · cases made
  · next free =>
    rw [if_neg free]
    simp [tracks, Peer.fresh]

/-- An offer is made of the tracks that are there. -/
theorem localDescription_offer {offering : Engine} (present : engine.peers ≠ [])
    (made : offering = (engine.respond engine.newest (.setLocal .offer)).2) :
    (offering.respond offering.newest .localDescription).1 =
      .ok (Rehearsal.offer (engine.tracks.map Prod.snd)) := by
  subst made
  simp only [respond, Peer.setLocal, newest_setPeer, peer_setPeer present, demand, tracks_eq]

/-- A track that is there is described as it was negotiated. -/
theorem trackDescription_ok {handle : Handle} {description : String} :
    engine.trackDescription engine.newest handle = .ok description ↔
      ∃ init, engine.tracks.lookup handle = some init ∧
        description = String.ofList (engine.negotiated init).describe.render := by
  rw [tracks_eq, trackDescription]
  cases (engine.peer engine.newest).tracks.lookup handle with
  | none => simp
  | some init => simp [eq_comm]

/-- What a track is described as depends on the tracks and the answers alone. -/
theorem trackDescription_congr {other : Engine} (tracks : other.tracks = engine.tracks)
    (answers : other.answers = engine.answers) (handle : Handle) :
    other.trackDescription other.newest handle = engine.trackDescription engine.newest handle := by
  rw [tracks_eq, tracks_eq] at tracks
  have same : other.negotiated = engine.negotiated := by
    funext init
    rw [negotiated, negotiated, answers]
  rw [trackDescription, trackDescription, tracks, same]

end Engine

/-- The engine and the layer of a session. -/
structure Backend where
  engine : Engine
  rtp : Rtp

def Setting.backend (setting : Setting) : Backend := ⟨setting.engine, setting.rtp⟩

namespace Backend

/-- A call that is answered in memory. The endpoint and the host may say anything; a log bridge that is
put up finds the engine. -/
inductive Answers (backend : Backend) : Event → Backend → Prop where
  | engine (call : EngineCall) :
      Answers backend ⟨.engine call, (backend.engine.respond backend.engine.newest call).1⟩
        { backend with engine := (backend.engine.respond backend.engine.newest call).2 }
  | layer (call : LayerCall) :
      Answers backend ⟨.layer call, (backend.rtp.respond call).1⟩
        { backend with rtp := (backend.rtp.respond call).2 }
  | http (request : HttpRequest) (progress : Progress) : Answers backend ⟨.http request, progress⟩ backend
  | host (call : HostCall) (answer : call.Answer) : Answers backend ⟨.host call, answer⟩ backend
  | bridged : Answers backend ⟨.host .bridgeLog, ()⟩ { backend with engine := backend.engine.setLogger.2 }

/-- Calls one after the other, each answered in memory. -/
inductive Serves : Backend → List Event → Backend → Prop where
  | nil (backend : Backend) : Serves backend [] backend
  | cons {backend middle last : Backend} {event : Event} {events : List Event}
      (first : backend.Answers event middle) (rest : Serves middle events last) :
      Serves backend (event :: events) last

variable {backend middle last : Backend} {event : Event} {events more : List Event}

theorem serves_append :
    Serves backend (events ++ more) last ↔ ∃ middle, Serves backend events middle ∧ Serves middle more last := by
  constructor
  · intro served
    induction events generalizing backend with
    | nil => exact ⟨backend, .nil backend, served⟩
    | cons event events ih =>
      cases served with
      | cons first rest =>
        obtain ⟨middle, early, late⟩ := ih rest
        exact ⟨middle, .cons first early, late⟩
  · rintro ⟨middle, early, late⟩
    induction early with
    | nil => exact late
    | cons first rest ih => exact .cons first (ih late)

/-- The surroundings in memory answer in memory. -/
theorem answers_respond (request : Call) (setting : Setting) :
    setting.backend.Answers ⟨request, (setting.respond request).1⟩ (setting.respond request).2.backend := by
  cases request with
  | engine call => exact .engine call
  | http request => exact .http request _
  | layer call => exact .layer call
  | host call =>
    cases call with
    | bridgeLog =>
      unfold Setting.respond Setting.bridgeLog Setting.backend
      dsimp only
      split
      · exact .bridged
      · exact .host .bridgeLog ()
    | _ => exact .host _ _

/-- Whatever a script does in the surroundings in memory, it is served from there. -/
theorem serves_run {α : Type} (script : Script α) (setting : Setting) :
    Serves setting.backend (script.run Setting.surroundings setting).2.1
      (script.run Setting.surroundings setting).2.2.backend := by
  induction script generalizing setting with
  | done result => exact .nil _
  | call request next ih => exact .cons (answers_respond request setting) (ih _ _)
  | assert holds next ih => exact ih setting

/-! What one call leaves, and what it says. -/

theorem Answers.of_engine {call : EngineCall} {answer : call.Answer}
    (answers : backend.Answers ⟨.engine call, answer⟩ middle) :
    answer = (backend.engine.respond backend.engine.newest call).1 ∧
      middle = { backend with engine := (backend.engine.respond backend.engine.newest call).2 } := by
  cases answers
  exact ⟨rfl, rfl⟩

theorem Answers.of_layer {call : LayerCall} {answer : call.Answer}
    (answers : backend.Answers ⟨.layer call, answer⟩ middle) :
    answer = (backend.rtp.respond call).1 ∧ middle = { backend with rtp := (backend.rtp.respond call).2 } := by
  cases answers
  exact ⟨rfl, rfl⟩

theorem Serves.layered (served : backend.Serves events last) : ∀ event ∈ events, event.IsLayered := by
  induction served with
  | nil backend => exact List.forall_mem_nil _
  | cons first rest ih =>
    refine List.forall_mem_cons.2 ⟨?_, ih⟩
    cases first with
    | layer call => exact ⟨_, rfl⟩
    | _ => trivial

theorem Answers.tracks (answers : backend.Answers event middle) (leaves : event.call.leavesTracks = true)
    (present : backend.engine.peers ≠ []) :
    middle.engine.peers ≠ [] ∧ middle.engine.tracks = backend.engine.tracks ++ event.placed?.toList := by
  cases answers with
  | engine call => exact Engine.keeps_respond leaves present
  | layer call => exact ⟨present, (List.append_nil _).symm⟩
  | http request progress => exact ⟨present, (List.append_nil _).symm⟩
  | host call answer => exact ⟨present, (List.append_nil _).symm⟩
  | bridged => exact ⟨present, (List.append_nil _).symm⟩

theorem Answers.answers (answers : backend.Answers event middle) :
    middle.engine.answers = backend.engine.answers := by
  cases answers with
  | engine call => exact Engine.answers_respond _ _ call
  | _ => rfl

theorem readers_respond (rtp : Rtp) (call : LayerCall) : rtp.readers <+: (rtp.respond call).2.readers := by
  cases call with
  | openReader media transport => exact List.prefix_append _ _
  | _ => exact List.prefix_refl _

theorem Answers.readers (answers : backend.Answers event middle) :
    backend.rtp.readers <+: middle.rtp.readers := by
  cases answers with
  | layer call => exact readers_respond _ call
  | _ => exact List.prefix_refl _

/-- A writer has the payload type that goes with its codec and its index. -/
theorem Answers.payloadType (answers : backend.Answers event middle) {params : StreamParams} {index : Nat}
    {writer : Writer} (opened : event.writer? more = some (params, index, writer)) :
    writer.payloadType = params.codec.payloadType index := by
  cases answers with
  | layer call =>
    cases call with
    | openWriter params index transport =>
      cases opened
      rfl
    | _ => cases opened
  | _ => cases opened

/-- A track is described as it was negotiated. -/
theorem Answers.described {handle : Handle} {description : String}
    (answers : backend.Answers ⟨.engine (.trackDescription handle), .ok description⟩ middle) :
    middle = backend ∧ backend.engine.trackDescription backend.engine.newest handle = .ok description := by
  obtain ⟨told, rfl⟩ := answers.of_engine
  exact ⟨rfl, told.symm⟩

/-- What a reader was opened for is on record under its key. -/
theorem Answers.reader {media : Sdp.MediaDescription} {transport : TransportInfo}
    {relay : Relay (Except Error Reader)}
    (answers : backend.Answers ⟨.layer (.openReader media transport), relay⟩ middle) :
    ∃ reader, relay = .done (.ok reader) ∧ reader.params = media.streamParams ∧
      middle.rtp.readers[reader.key]? = some ⟨media.payloadType, media.codec, media.fmtp⟩ := by
  obtain ⟨rfl, rfl⟩ := answers.of_layer
  exact ⟨_, rfl, rfl, List.getElem?_concat_length⟩

/-! What a course of calls leaves. -/

theorem Serves.tracks (served : Serves backend events last) (leaves : AllOf Call.leavesTracks events)
    (present : backend.engine.peers ≠ []) :
    last.engine.peers ≠ [] ∧ last.engine.tracks = backend.engine.tracks ++ placed events := by
  induction served with
  | nil backend => exact ⟨present, (List.append_nil _).symm⟩
  | @cons _ _ _ event events first rest ih =>
    obtain ⟨still, here⟩ := first.tracks (leaves event List.mem_cons_self) present
    obtain ⟨standing, later⟩ := ih (fun other member => leaves other (List.mem_cons_of_mem _ member)) still
    refine ⟨standing, ?_⟩
    have all : placed (event :: events) = event.placed?.toList ++ placed events := by
      rw [placed, List.filterMap_cons]
      cases event.placed? <;> rfl
    rw [later, here, all, List.append_assoc]

/-- The newest peer connection of a session that begins has no track yet. -/
theorem Serves.bare {config : ClientConfig} {count : Nat} {context : Context}
    (served : backend.Serves events last) (begins : Context.Begins config count events context) :
    last.engine.peers ≠ [] ∧ last.engine.tracks = [] := by
  cases begins with
  | begun valid bits started =>
    cases served with
    | cons first served =>
      cases served with
      | cons created served =>
        obtain ⟨made, rfl⟩ := created.of_engine
        obtain ⟨present, none⟩ := Engine.create_ok made.symm
        have leaves : AllOf Call.leavesTracks
            [⟨.engine .watchStates, .ok ()⟩, ⟨.host (.random 122), bits⟩, ⟨.host (.now 0), started⟩] :=
          (AllOf.single rfl _).append ((AllOf.single rfl _).append (.single rfl _))
        obtain ⟨still, tracks⟩ := served.tracks leaves present
        exact ⟨still, tracks.trans (congrArg (· ++ []) none)⟩

theorem Serves.answers (served : Serves backend events last) :
    last.engine.answers = backend.engine.answers := by
  induction served with
  | nil => rfl
  | cons first rest ih => exact ih.trans first.answers

theorem Serves.readers (served : Serves backend events last) : backend.rtp.readers <+: last.rtp.readers := by
  induction served with
  | nil => exact List.prefix_refl _
  | cons first rest ih => exact first.readers.trans ih

theorem Serves.payloadTypes (served : Serves backend events last) :
    ∀ opened ∈ openedWriters events, opened.2.2.payloadType = opened.1.codec.payloadType opened.2.1 := by
  induction served with
  | nil => exact nofun
  | cons first rest ih =>
    intro opened member
    rcases List.mem_append.1 member with here | later
    · exact first.payloadType (Option.mem_toList.1 here)
    · exact ih opened later

end Backend
end InMemory
end WhipWhep
