import WhipWhep.Proofs.Track.Debt

/-!
What a track holds. The operations on a track take in what they are handed out and give back what they
let go of, and a released track holds nothing.
-/

namespace WhipWhep

/-! The requests of the stages of a session: while a track is made ready for the peer connection, while
all of them are put on it, while the session works, and while what it holds is released. -/

def Call.isOpening : Call → Bool
  | .host (.random _) => true
  | .layer (.openWriter _ _ _) => true
  | .layer (.closeWriter _) => true
  | call => call.isRelayed

def Call.isPreparing : Call → Bool
  | .engine (.addTrack _) => true
  | call => call.isOpening

def Call.isWorking : Call → Bool
  | .host .connectionState => true
  | .host (.now _) => true
  | .host (.sleep _ _) => true
  | .engine (.trackDescription _) => true
  | .layer (.openReader _ _) => true
  | .layer (.closeReader _) => true
  | .layer (.write _ _) => true
  | .layer (.read _) => true
  | call => call.isPreparing

def Call.isReleasing : Call → Bool
  | .layer (.closeWriter _) => true
  | .layer (.closeReader _) => true
  | .layer (.releaseTransport _) => true
  | .engine (.deleteTrack _) => true
  | call => call.isRelayed

theorem opening_of_relayed {call : Call} (relayed : call.isRelayed = true) : call.isOpening = true := by
  unfold Call.isOpening
  split <;> first | rfl | exact relayed

theorem preparing_of_opening {call : Call} (opening : call.isOpening = true) :
    call.isPreparing = true := by
  unfold Call.isPreparing
  split <;> first | rfl | exact opening

theorem working_of_preparing {call : Call} (preparing : call.isPreparing = true) :
    call.isWorking = true := by
  unfold Call.isWorking
  split <;> first | rfl | exact preparing

theorem working_of_relayed {call : Call} (relayed : call.isRelayed = true) : call.isWorking = true :=
  working_of_preparing (preparing_of_opening (opening_of_relayed relayed))

theorem releasing_of_relayed {call : Call} (relayed : call.isRelayed = true) :
    call.isReleasing = true := by
  unfold Call.isReleasing
  split <;> first | rfl | exact relayed

/-- The layer answers a call and has control until it comes to a result. -/
theorem Relay.runs_called {α : Type} {request : Call} {relay : request.Answer → Relay (Except Error α)}
    {target : Option Handle} {counters after : Counters} {events : List Event}
    {outcome : Except Error α}
    (run : ((do
      let answer ← Act.ask request
      Act.settle (← (relay answer).play target)) : Act Counters α).Runs counters events outcome after) :
    ∃ answer played, events = ⟨request, answer⟩ :: played ∧
      ((relay answer).play target).Runs counters played (.ok outcome) after := by
  obtain ⟨answer, _, rfl, called⟩ := Act.runs_ask_bind.1 run
  refine ⟨answer, _, rfl, ?_⟩
  rcases Act.runs_bind.1 called with ⟨_, -, failed⟩ | ⟨_, _, _, _, rfl, played, settled⟩
  · obtain ⟨-, _, wrong, -⟩ := outcome?_of_play failed
    cases wrong
  · obtain ⟨rfl, rfl, rfl⟩ := Act.runs_settle.1 settled
    rw [List.append_nil]
    exact played

namespace Track

/-- What a track holds, as the requests that give it back. -/
def debts (track : Track) : List Call :=
  (track.codec.map CodecSession.closing).toList ++
    (track.handle.map fun handle => Call.engine (.deleteTrack handle)).toList

/-- What an operation on a track is handed out it has given back, or the track holds it. All that it
asks for is of a kind. -/
structure Uses (kind : Call → Bool) (track : Track) (events : List Event) (after : Track) : Prop where
  accounts : Accounts track.debts events after.debts
  ofKind : AllOf kind events

/-- Nothing is handed out or given back, and what the track holds is the same. -/
structure Idle (kind : Call → Bool) (track : Track) (events : List Event) (after : Track) : Prop where
  fresh : Fresh events
  neutral : AllOf Call.isNeutral events
  ofKind : AllOf kind events
  codec : after.codec = track.codec
  handle : after.handle = track.handle

variable {kind : Call → Bool} {track after : Track} {events : List Event}

theorem composes_uses : Act.Composes (Uses kind) where
  refl _ := ⟨accounts_nil _, .nil⟩
  trans one two :=
    { accounts := one.accounts.append two.accounts
      ofKind := one.ofKind.append two.ofKind }

theorem composes_idle : Act.Composes (Idle kind) where
  refl _ := ⟨fresh_nil, .nil, .nil, rfl, rfl⟩
  trans one two :=
    { fresh := one.fresh.append two.fresh
      neutral := one.neutral.append two.neutral
      ofKind := one.ofKind.append two.ofKind
      codec := two.codec.trans one.codec
      handle := two.handle.trans one.handle }

theorem Idle.uses (idle : Idle kind track events after) : Uses kind track events after where
  accounts := by
    unfold debts
    rw [idle.codec, idle.handle]
    exact accounts_of_neutral idle.fresh idle.neutral _
  ofKind := idle.ofKind

theorem runs_relay {α : Type} {call : Option Handle → Act Counters α} {outcome : Except Error α} :
    (relay call).Runs track events outcome after ↔
      ∃ counters, after = { track with counters := counters } ∧
        (call track.target).Runs track.counters events outcome counters := by
  show (counting (call track.target)).Runs track events outcome after ↔ _
  exact Act.runs_within

/-! What asks for nothing, or only for what passes through the transport. -/

theorem idle_quiet (codec : after.codec = track.codec) (handle : after.handle = track.handle) :
    Idle kind track [] after :=
  ⟨fresh_nil, .nil, .nil, codec, handle⟩

theorem idle_ask {request : Call} (neutral : request.isNeutral = true) (idle : request.isTransfer = false)
    (allowed : kind request = true) (answer : request.Answer) : Idle kind track [⟨request, answer⟩] track where
  fresh := fresh_cons idle
  neutral := AllOf.single neutral answer
  ofKind := AllOf.single allowed answer
  codec := rfl
  handle := rfl

theorem keeps_relay {α : Type} {relay : Relay α} :
    (Track.relay fun target => relay.play target).Keeps (Idle Call.isWorking) track := by
  intro events outcome after run
  obtain ⟨_, rfl, played⟩ := runs_relay.1 run
  have relayed : AllOf Call.isRelayed events := Relay.keeps_play _ _ _ played
  exact
    { fresh := (Relay.outcome?_of_play played).1
      neutral := relayed.weaken neutral_of_relayed
      ofKind := relayed.weaken working_of_relayed
      codec := rfl
      handle := rfl }

theorem keeps_setBinding {binding : Binding} : (setBinding binding).Keeps (Idle kind) track := by
  intro events outcome after run
  unfold setBinding at run
  rw [Act.runs_get_bind] at run
  split at run
  · exact Act.keeps_fail composes_idle _ _ _ run
  · have install : ∀ installed : Binding, ∀ track : Track,
        (do
          Act.modify fun track => { track with binding := some installed }
          return installed : Act Track Binding).Keeps (Idle kind) track := fun installed track =>
      Act.keeps_bind composes_idle (Act.keeps_modify (idle_quiet rfl rfl)) fun _ =>
        Act.keeps_pure composes_idle
    dsimp only at run
    split at run
    · exact install _ _ _ _ _ (Act.runs_pure_bind.1 run)
    · exact Act.keeps_bind composes_idle (Act.keeps_settle composes_idle) (fun _ => install _ _) _ _ _ run

theorem keeps_setParams {params : StreamParams} : (setParams params).Keeps (Idle kind) track :=
  Act.keeps_modify (idle_quiet rfl rfl)

theorem keeps_attach {handle : Handle} : (attach handle).Keeps (Idle kind) track := by
  intro events outcome after run
  unfold attach at run
  rw [Act.runs_get_bind] at run
  split at run
  · exact Act.keeps_pure composes_idle _ _ _ run
  · refine Act.keeps_bind composes_idle (Act.keeps_settle composes_idle) (fun _ => ?_) _ _ _ run
    exact Act.keeps_modify (idle_quiet rfl rfl)

theorem keeps_frame {isKeyframe : Bool} :
    (counting (Act.modify fun counters => counters.frame isKeyframe)).Keeps (Idle kind) track := by
  intro events outcome after run
  obtain ⟨_, rfl, counted⟩ := Act.runs_within.1 run
  obtain ⟨rfl, -, rfl⟩ := Act.runs_modify.1 counted
  exact idle_quiet rfl rfl

theorem keeps_write {framed : Except Error Packet} :
    (write framed).Keeps (Idle Call.isWorking) track := by
  intro events outcome after run
  unfold write at run
  rw [Act.runs_get_bind] at run
  split at run
  · exact Act.keeps_fail composes_idle _ _ _ run
  · refine Act.keeps_bind composes_idle (Act.keeps_settle composes_idle) (fun _ => ?_) _ _ _ run
    refine Act.keeps_bind composes_idle (Act.keeps_ask (idle_ask rfl rfl rfl)) fun _ => ?_
    refine Act.keeps_bind composes_idle keeps_relay fun _ => ?_
    exact Act.keeps_bind composes_idle (Act.keeps_settle composes_idle) fun _ => keeps_frame

theorem keeps_read : Track.read.Keeps (Idle Call.isWorking) track := by
  intro events outcome after run
  unfold Track.read at run
  rw [Act.runs_get_bind] at run
  split at run
  · exact Act.keeps_fail composes_idle _ _ _ run
  · refine Act.keeps_bind composes_idle (Act.keeps_ask (idle_ask rfl rfl rfl)) (fun _ => ?_) _ _ _ run
    refine Act.keeps_bind composes_idle keeps_relay fun _ => ?_
    refine Act.keeps_bind composes_idle (Act.keeps_settle composes_idle) fun _ => ?_
    exact Act.keeps_bind composes_idle keeps_frame fun _ => Act.keeps_pure composes_idle

theorem accounts_handle {handle : Handle} {request : Call} {answer : request.Answer}
    (free : track.handle = none) (idle : request.isTransfer = false) (keeps : request.isReturn = false)
    (incurs : ∀ rest, Event.incurs ⟨request, answer⟩ rest = some (.engine (.deleteTrack handle))) :
    Accounts track.debts [⟨request, answer⟩] { track with handle := some handle }.debts := by
  refine (accounts_handed idle keeps incurs []).beside fun call => ?_
  simp only [debts, free, List.count_append, Option.map_none, Option.map_some, Option.toList_none,
    Option.toList_some, List.count_nil]
  omega

theorem attach_asks_nothing {handle : Handle} {outcome : Except Error Unit}
    (run : (attach handle).Runs track events outcome after) :
    events = [] ∧ Uses kind track [] after := by
  have idle : Idle (fun _ => false) track events after := keeps_attach _ _ _ run
  obtain rfl := idle.ofKind.eq_nil
  exact ⟨rfl, idle.uses.accounts, .nil⟩

/-- Adding a track is one request. The handle is held from then on, whatever else happens. -/
theorem add_adds {init : TrackInit} {outcome : Except Error Handle}
    (run : (add init).Runs track events outcome after) :
    Uses Call.isPreparing track events after ∧
      ∀ handle, outcome = .ok handle → events = [⟨.engine (.addTrack init), .ok handle⟩] := by
  unfold add at run
  rw [Act.runs_get_bind] at run
  split at run
  · obtain ⟨rfl, rfl, rfl⟩ := Act.runs_fail.1 run
    exact ⟨composes_uses.refl _, nofun⟩
  next free =>
  obtain ⟨answer, _, rfl, told⟩ := Act.runs_ask_bind.1 run
  rw [Act.runs_granted_bind] at told
  cases answer with
  | error cause =>
    obtain ⟨rfl, rfl, rfl⟩ := told
    exact ⟨⟨accounts_refused rfl rfl (fun _ => rfl) _, .single rfl _⟩, nofun⟩
  | ok handle =>
    have none : track.handle = none := by simpa using free
    have holds : Uses Call.isPreparing track [⟨.engine (.addTrack init), .ok handle⟩]
        { track with handle := some handle } :=
      ⟨accounts_handle none rfl rfl fun _ => rfl, .single rfl _⟩
    have onward := Act.runs_modify_bind.1 told
    rcases Act.runs_bind.1 onward with ⟨_, rfl, failed⟩ | ⟨_, _, _, _, rfl, attaching, returned⟩
    · obtain ⟨rfl, attaches⟩ := attach_asks_nothing failed
      exact ⟨composes_uses.trans holds attaches, nofun⟩
    · obtain ⟨rfl, rfl, rfl⟩ := Act.runs_pure.1 returned
      obtain ⟨rfl, attaches⟩ := attach_asks_nothing attaching
      refine ⟨composes_uses.trans holds attaches, ?_⟩
      rintro _ ⟨⟩
      rfl

/-! Sessions of the layer, which are closed by one request. -/

theorem returns_closing {codec : CodecSession} : codec.closing.isReturn = true := by
  cases codec <;> rfl

theorem close_plays {codec : CodecSession} {target : Option Handle} {counters after : Counters}
    {outcome : Except Error Unit} (run : (codec.close target).Runs counters events outcome after) :
    ∃ answer played, ∃ relay : Relay Unit, events = ⟨codec.closing, answer⟩ :: played ∧
      (relay.play target).Runs counters played outcome after := by
  cases codec with
  | writer opened =>
    obtain ⟨answer, rest, rfl, played⟩ := Act.runs_ask_bind.1 run
    exact ⟨answer, rest, answer, rfl, played⟩
  | reader opened =>
    obtain ⟨answer, rest, rfl, played⟩ := Act.runs_ask_bind.1 run
    exact ⟨answer, rest, answer, rfl, played⟩

theorem runs_close {codec : CodecSession} {target : Option Handle} {counters after : Counters}
    {outcome : Except Error Unit} (run : (codec.close target).Runs counters events outcome after) :
    outcome = .ok () ∧ (∀ left, Accounts (codec.closing :: left) events left) ∧
      ∃ answer played, events = ⟨codec.closing, answer⟩ :: played ∧ AllOf Call.isRelayed played := by
  obtain ⟨answer, rest, relay, rfl, played⟩ := close_plays run
  obtain ⟨fresh, _, rfl, -⟩ := Relay.outcome?_of_play played
  have relayed : AllOf Call.isRelayed rest := Relay.keeps_play _ _ _ played
  refine ⟨rfl, fun left => ?_, answer, rest, rfl, relayed⟩
  exact (accounts_return returns_closing left).append
    (accounts_of_neutral fresh (relayed.weaken neutral_of_relayed) left)

/-- A session that the track takes over is among its debts from then on, or it is closed at once. -/
theorem uses_setCodec {codec : CodecSession} {outcome : Except Error Unit}
    (allowed : kind codec.closing = true)
    (relays : ∀ {call : Call}, call.isRelayed = true → kind call = true)
    (run : (setCodec codec).Runs track events outcome after) :
    Accounts (codec.closing :: track.debts) events after.debts ∧ AllOf kind events := by
  unfold setCodec at run
  rw [Act.runs_get_bind] at run
  split at run
  · have kept : ∀ {events : List Event} {outcome : Except Error Unit} {after : Track},
        (counting (codec.close none)).Runs track events outcome after →
          Accounts (codec.closing :: track.debts) events after.debts ∧ AllOf kind events := by
      intro events outcome after closing
      obtain ⟨_, rfl, closed⟩ := Act.runs_within.1 closing
      obtain ⟨-, accounts, answer, played, rfl, relayed⟩ := runs_close closed
      have first : AllOf kind [⟨codec.closing, answer⟩] := .single allowed _
      exact ⟨accounts _, first.append (relayed.weaken relays)⟩
    rcases Act.runs_bind.1 run with ⟨_, -, failed⟩ | ⟨_, _, _, _, rfl, closed, onward⟩
    · exact kept failed
    · obtain ⟨rfl, -, rfl⟩ := Act.runs_fail.1 onward
      rw [List.append_nil]
      exact kept closed
  · next free =>
    obtain ⟨rfl, -, rfl⟩ := Act.runs_modify.1 run
    have none : track.codec = none := by simpa using free
    refine ⟨?_, .nil⟩
    simpa [debts, none] using accounts_nil _

/-- What the layer opens on a track is handed to the track. -/
theorem uses_opening {α : Type} {request : Call} {relay : request.Answer → Relay (Except Error α)}
    (session : α → CodecSession) (idle : request.isTransfer = false) (keeps : request.isReturn = false)
    (incurs : ∀ answer rest, Event.incurs ⟨request, answer⟩ rest =
      ((relay answer).opened? rest).map fun opened => (session opened).closing)
    (asking : kind request = true) (closing : ∀ opened, kind (session opened).closing = true)
    (relays : ∀ {call : Call}, call.isRelayed = true → kind call = true) :
    (do
      let opened ← Track.relay fun target => do
        let answer ← Act.ask request
        Act.settle (← (relay answer).play target)
      setCodec (session opened)
      return opened : Act Track α).Keeps (Uses kind) track := by
  intro events outcome after run
  have opens : ∀ {events : List Event} {outcome : Except Error α} {after : Track},
      (Track.relay fun target => do
        let answer ← Act.ask request
        Act.settle (← (relay answer).play target)).Runs track events outcome after →
      AllOf kind events ∧ Accounts track.debts events
        ((outcome.toOption.map fun opened => (session opened).closing).toList ++ after.debts) := by
    intro events outcome after opening
    obtain ⟨_, rfl, called⟩ := runs_relay.1 opening
    obtain ⟨answer, played, rfl, relayed⟩ := Relay.runs_called called
    have first : AllOf kind [⟨request, answer⟩] := .single asking _
    exact ⟨first.append (AllOf.weaken (Relay.keeps_play _ _ _ relayed) relays),
      accounts_opening idle keeps (incurs answer) relayed track.debts⟩
  rcases Act.runs_bind.1 run with ⟨_, rfl, failed⟩ | ⟨_, opened, _, _, rfl, opening, onward⟩
  · obtain ⟨ofKind, accounts⟩ := opens failed
    exact ⟨accounts, ofKind⟩
  obtain ⟨ofKind, accounts⟩ := opens opening
  rcases Act.runs_bind.1 onward with ⟨_, rfl, failed⟩ | ⟨_, _, _, _, rfl, taken, told⟩
  · obtain ⟨taking, closes⟩ := uses_setCodec (closing opened) relays failed
    exact ⟨accounts.append taking, ofKind.append closes⟩
  · obtain ⟨rfl, rfl, rfl⟩ := Act.runs_pure.1 told
    obtain ⟨taking, closes⟩ := uses_setCodec (closing opened) relays taken
    rw [List.append_nil]
    exact ⟨accounts.append taking, ofKind.append closes⟩

theorem keeps_openWriter {params : StreamParams} {index : Nat} {transport : TransportInfo} :
    (openWriter params index transport).Keeps (Uses Call.isOpening) track :=
  uses_opening CodecSession.writer rfl rfl (fun _ _ => rfl) rfl (fun _ => rfl)
    opening_of_relayed

theorem keeps_openReader {media : Sdp.MediaDescription} {transport : TransportInfo} :
    (openReader media transport).Keeps (Uses Call.isWorking) track :=
  uses_opening CodecSession.reader rfl rfl (fun _ _ => rfl) rfl (fun _ => rfl)
    working_of_relayed

end Track
end WhipWhep
