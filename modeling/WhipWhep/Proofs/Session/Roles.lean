import WhipWhep.Client
import WhipWhep.Proofs.Session.Working

/-!
What the two roles do with a session: how their tracks are prepared for the peer connection, how a
player opens its readers, and how packets pass.
-/

namespace WhipWhep

/-- The track that an event puts on the peer connection, by its name in the offer. -/
def Event.added? : Event → Option String
  | ⟨.engine (.addTrack init), .ok _⟩ => some init.mid
  | _ => none

/-- The tracks that were put on the peer connection, in order. -/
def added (events : List Event) : List String := events.filterMap Event.added?

@[simp] theorem added_append (first second : List Event) :
    added (first ++ second) = added first ++ added second :=
  List.filterMap_append

theorem added_of_opening {events : List Event} (opening : AllOf Call.isOpening events) :
    added events = [] := by
  rw [added, List.filterMap_eq_nil_iff]
  intro event member
  have kind := opening event member
  obtain ⟨call | request | call | call, answer⟩ := event <;>
    first | rfl | (cases call <;> first | rfl | cases kind)

variable {events : List Event}

namespace Publisher

variable {α : Type} {kind : Call → Bool} {publisher after : Publisher}

def Uses (kind : Call → Bool) (before : Publisher) (events : List Event) (after : Publisher) : Prop :=
  Context.Uses kind before.context events after.context

theorem composes_uses : Act.Composes (Uses kind) := Context.composes_uses.along Publisher.context

theorem runs_onContext {act : Act Context α} {outcome : Except Error α}
    (run : (onContext act).Runs publisher events outcome after) :
    act.Runs publisher.context events outcome after.context :=
  Act.runs_part (fun _ => rfl) run

theorem keeps_onContext {act : Act Context α} (kept : ∀ context, act.Keeps (Context.Uses kind) context) :
    (onContext act).Keeps (Uses kind) publisher :=
  Act.keeps_within (fun _ => rfl) (kept _)

theorem keeps_modify {change : Publisher → Publisher} (same : (change publisher).context = publisher.context) :
    (Act.modify change).Keeps (Uses kind) publisher :=
  Act.keeps_beside Context.composes_uses same

/-- An act that puts one track on the peer connection if it succeeds. -/
def Adds (index : Nat) (act : Act Publisher Unit) (publisher : Publisher) : Prop :=
  ∀ events outcome after, act.Runs publisher events outcome after →
    Uses Call.isPreparing publisher events after ∧ (outcome = .ok () → added events = [numeral index])

theorem adds_bind {index : Nat} {act : Act Publisher α} {next : α → Act Publisher Unit}
    (first : act.Keeps (Uses Call.isOpening) publisher)
    (second : ∀ {result middle}, Adds index (next result) middle) :
    Adds index (act >>= next) publisher := by
  intro events outcome after run
  rcases Act.runs_bind.1 run with ⟨_, rfl, failed⟩ | ⟨_, _, _, _, rfl, passed, onward⟩
  · exact ⟨(first _ _ _ failed).weaken preparing_of_opening, nofun⟩
  · have opening := first _ _ _ passed
    obtain ⟨uses, adds⟩ := second _ _ _ onward
    refine ⟨composes_uses.trans (opening.weaken preparing_of_opening) uses, fun fine => ?_⟩
    rw [added_append, added_of_opening opening.ofKind, adds fine]
    rfl

/-- The transport and the writer come first; what the track is announced with follows from them. -/
theorem addStream_adds {params : StreamParams} {index : Nat} :
    Adds index (addStream params index) publisher := by
  refine adds_bind (keeps_modify rfl) fun {_ _} => ?_
  refine adds_bind (keeps_onContext fun _ => Context.keeps_bindTrack) fun {_ _} => ?_
  refine adds_bind (keeps_onContext fun _ => Context.keeps_onTrack fun _ => Track.keeps_openWriter)
    fun {_ _} => ?_
  refine adds_bind (Act.keeps_settle composes_uses) fun {_ _} => ?_
  refine adds_bind (Act.keeps_settle composes_uses) fun {_ _} => ?_
  refine adds_bind (keeps_modify rfl) fun {_ _} => ?_
  refine adds_bind (Act.keeps_settle composes_uses) fun {_ _} => ?_
  refine adds_bind (Act.keeps_get composes_uses) fun {_ middle} => ?_
  intro events outcome after run
  rcases Act.runs_bind.1 run with ⟨_, rfl, failed⟩ | ⟨_, handle, ready, last, rfl, adding, onward⟩
  · exact ⟨(Context.addTrack_adds (runs_onContext failed)).1, nofun⟩
  · have setting : ∀ {kind}, Uses kind ready last after :=
      keeps_onContext (fun _ => Context.keeps_idle fun _ => Track.keeps_setParams) _ _ _ onward
    obtain ⟨adds, same⟩ := Context.addTrack_adds (runs_onContext adding)
    refine ⟨composes_uses.trans adds setting, fun _ => ?_⟩
    obtain rfl := (@setting fun _ => false).ofKind.eq_nil
    rw [same handle rfl]
    rfl

theorem works_writePacket {packet : Packet} :
    (writePacket packet).Keeps (fun before events after =>
      Context.Works before.context events after.context) publisher := by
  refine Context.works_connected runs_onContext fun _ => ?_
  refine Act.keeps_bind composes_uses (Act.keeps_get composes_uses) fun _ => ?_
  refine Act.keeps_bind composes_uses (Act.keeps_settle composes_uses) fun _ => ?_
  exact keeps_onContext fun _ => Context.keeps_idle fun _ => Track.keeps_write

end Publisher

namespace Player

variable {α : Type} {kind : Call → Bool} {player after : Player}

def Uses (kind : Call → Bool) (before : Player) (events : List Event) (after : Player) : Prop :=
  Context.Uses kind before.context events after.context

theorem composes_uses : Act.Composes (Uses kind) := Context.composes_uses.along Player.context

theorem runs_onContext {act : Act Context α} {outcome : Except Error α}
    (run : (onContext act).Runs player events outcome after) :
    act.Runs player.context events outcome after.context :=
  Act.runs_part (fun _ => rfl) run

theorem keeps_onContext {act : Act Context α} (kept : ∀ context, act.Keeps (Context.Uses kind) context) :
    (onContext act).Keeps (Uses kind) player :=
  Act.keeps_within (fun _ => rfl) (kept _)

theorem keeps_modify {change : Player → Player} (same : (change player).context = player.context) :
    (Act.modify change).Keeps (Uses kind) player :=
  Act.keeps_beside Context.composes_uses same

theorem offerTrack_adds {track : OfferedTrack} {index : Nat} {outcome : Except Error Unit}
    (run : (offerTrack track index).Runs player events outcome after) :
    Uses Call.isPreparing player events after ∧
      (outcome = .ok () → added events = [numeral index]) := by
  unfold offerTrack at run
  obtain ⟨bits, _, rfl, drawn⟩ := Act.runs_ask_bind.1 run
  have random : Uses Call.isPreparing player [⟨.host (.random 32), bits⟩] player :=
    Context.uses_neutral (fresh_cons rfl) (.single rfl bits) (.single rfl bits)
  rw [Act.runs_get_bind] at drawn
  rcases Act.runs_bind.1 drawn with ⟨_, rfl, failed⟩ | ⟨_, _, _, _, rfl, adding, onward⟩
  · exact ⟨composes_uses.trans random (Context.addTrack_adds (runs_onContext failed)).1, nofun⟩
  · obtain ⟨uses, same⟩ := Context.addTrack_adds (runs_onContext adding)
    obtain ⟨rfl, rfl, rfl⟩ := Act.runs_pure.1 onward
    rw [same _ rfl] at uses ⊢
    exact ⟨composes_uses.trans random uses, fun _ => rfl⟩

theorem keeps_openReader {index : Nat} : (openReader index).Keeps (Uses Call.isWorking) player := by
  refine Act.keeps_bind composes_uses (keeps_onContext fun _ => Context.keeps_trackDescription) fun _ => ?_
  refine Act.keeps_bind composes_uses (Act.keeps_settle composes_uses) fun _ => ?_
  refine Act.keeps_bind composes_uses (Act.keeps_settle composes_uses) fun _ => ?_
  refine Act.keeps_bind composes_uses (keeps_onContext fun _ => Context.keeps_bindTrack) fun _ => ?_
  refine Act.keeps_bind composes_uses
    (keeps_onContext fun _ => Context.keeps_onTrack fun _ => Track.keeps_openReader) fun _ => ?_
  refine Act.keeps_bind composes_uses
    (keeps_onContext fun _ => Context.keeps_idle fun _ => Track.keeps_setParams) fun _ => ?_
  exact keeps_modify rfl

/-! Reading packets, which needs an open session. -/

def Works (before : Player) (events : List Event) (after : Player) : Prop :=
  Context.Works before.context events after.context

theorem composes_works : Act.Composes Works := Context.composes_works.along Player.context

theorem works_tryReadStream {index : Nat} : (tryReadStream index).Keeps Works player :=
  Context.works_connected runs_onContext fun _ =>
    keeps_onContext fun _ => Context.keeps_idle fun _ => Track.keeps_read

/-- What holds of reading one stream, of waiting and of a change of the place where reads begin. It holds
of reading whichever stream has a packet. -/
structure Reading (relation : Player → List Event → Player → Prop) : Prop where
  composes : Act.Composes relation
  stream : ∀ {index player}, (tryReadStream index).Keeps relation player
  waits : ∀ {request : Call} {player}, request.isWaiting = true → ∀ answer,
    relation player [⟨request, answer⟩] player
  begins : ∀ {player next}, relation player [] { player with next := next }

namespace Reading

variable {relation : Player → List Event → Player → Prop}

theorem tryEach (reading : Reading relation) {count : Nat} {indices : List Nat} :
    (Player.tryEach count indices).Keeps relation player := by
  have composes := reading.composes
  induction indices generalizing player with
  | nil => exact Act.keeps_fail composes
  | cons index rest ih =>
    refine Act.keeps_bind composes (Act.keeps_attempt reading.stream) fun {_ outcome _} _ => ?_
    split
    · exact Act.keeps_bind composes (Act.keeps_modify reading.begins) fun _ => Act.keeps_pure composes
    · exact ih
    · exact Act.keeps_fail composes

theorem tryRead (reading : Reading relation) : Player.tryRead.Keeps relation player :=
  Act.keeps_bind reading.composes (Act.keeps_get reading.composes) fun _ => reading.tryEach

theorem readUntil (reading : Reading relation) {deadline clock : Nat} :
    (Player.readUntil deadline clock).Keeps relation player := by
  have composes := reading.composes
  induction clock using readUntil.induct deadline generalizing player with
  | _ clock ih =>
    rw [Player.readUntil]
    refine Act.keeps_bind composes (Act.keeps_attempt reading.tryRead) fun {_ outcome _} _ => ?_
    split
    · exact Act.keeps_pure composes
    · refine Act.keeps_bind composes (Act.keeps_ask (reading.waits rfl)) fun {_ stopped _} _ => ?_
      cases stopped with
      | true => exact Act.keeps_fail composes
      | false =>
        refine Act.keeps_bind composes (Act.keeps_ask (reading.waits rfl)) fun {_ time _} _ => ?_
        by_cases late : deadline ≤ time.val
        · rw [dif_pos late]
          exact Act.keeps_fail composes
        · rw [dif_neg late]
          refine Act.keeps_bind composes (Act.keeps_ask (reading.waits rfl)) fun {_ later _} _ => ?_
          exact ih time late later
    · exact Act.keeps_fail composes

theorem read (reading : Reading relation) : Player.read.Keeps relation player := by
  intro events outcome after run
  obtain ⟨start, _, rfl, -, onward⟩ := runs_read.1 run
  exact reading.composes.trans (reading.waits rfl start) (reading.readUntil _ _ _ onward)

end Reading

theorem reading_works : Reading Works where
  composes := composes_works
  stream := works_tryReadStream
  waits waiting answer :=
    ⟨Context.uses_neutral (fresh_cons (idle_of_waiting waiting)) (.single (neutral_of_waiting waiting) answer)
      (.single (working_of_waiting waiting) answer), fun _ => rfl⟩
  begins := composes_works.refl _

end Player
end WhipWhep
