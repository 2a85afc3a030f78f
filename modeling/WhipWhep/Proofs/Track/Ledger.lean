import Mathlib.Data.List.Basic
import WhipWhep.Proofs.Track.Dismantling
import WhipWhep.Proofs.Track.Touching

/-!
The tracks of a registry against an account of what was given to each of them. However the operations on a registry
follow one another and come out, it has the tracks that the account says, with the handles that the engine has given
out for them and was not given back.
-/

namespace WhipWhep

/-- A handle that the engine gives out. -/
def Event.granted? : Event → Option Handle
  | ⟨.engine (.addTrack _), .ok handle⟩ => some handle
  | _ => none

/-- A handle that the engine is given back. -/
def Event.deleted? : Event → Option Handle
  | ⟨.engine (.deleteTrack handle), _⟩ => some handle
  | _ => none

def granted (events : List Event) : List Handle := events.filterMap Event.granted?

def deleted (events : List Event) : List Handle := events.filterMap Event.deleted?

section Dealings

variable {events more : List Event}

theorem granted_append : granted (events ++ more) = granted events ++ granted more := List.filterMap_append

theorem deleted_append : deleted (events ++ more) = deleted events ++ deleted more := List.filterMap_append

/-- No handle changes hands. -/
def Undealt (events : List Event) : Prop := granted events = [] ∧ deleted events = []

theorem Undealt.append (first : Undealt events) (second : Undealt more) : Undealt (events ++ more) :=
  ⟨by rw [granted_append, first.1, second.1]; rfl, by rw [deleted_append, first.2, second.2]; rfl⟩

theorem undealt_of_relayedOn {target : Option Handle} (stays : AllOf (Call.isRelayedOn target) events) :
    Undealt events := by
  have each : ∀ event ∈ events, event.granted? = none ∧ event.deleted? = none := by
    intro event member
    have relayed := relayed_of_relayedOn (stays event member)
    obtain ⟨call | request | call | call, answer⟩ := event
    · cases call <;> first | exact ⟨rfl, rfl⟩ | cases relayed
    · exact ⟨rfl, rfl⟩
    · exact ⟨rfl, rfl⟩
    · exact ⟨rfl, rfl⟩
  exact ⟨List.filterMap_eq_nil_iff.2 fun event member => (each event member).1,
    List.filterMap_eq_nil_iff.2 fun event member => (each event member).2⟩

theorem undealt_closing {codec : CodecSession} {answer : codec.closing.Answer} {target : Option Handle}
    (stays : AllOf (Call.isRelayedOn target) events) : Undealt (⟨codec.closing, answer⟩ :: events) := by
  have first : Undealt [⟨codec.closing, answer⟩] := by cases codec <;> exact ⟨rfl, rfl⟩
  exact first.append (undealt_of_relayedOn stays)

theorem CodecSession.Lapses.undealt {codec : CodecSession} (lapses : codec.Lapses events) : Undealt events := by
  obtain ⟨answer, played, rfl, stays⟩ := lapses
  exact undealt_closing stays

end Dealings

namespace Track

variable {track after : Track} {touch : Touch} {events : List Event} {outcome : Except Error Unit}

/-- A track that is taken down gives back its handle. -/
theorem TakesDown.deals (takes : track.TakesDown events) :
    granted events = [] ∧ deleted events = track.handle.toList := by
  obtain ⟨closes⟩ := takes
  have closing : ∀ {events}, track.ClosesCodec events → Undealt events := by
    intro events closes
    cases closes with
    | absent unvoiced => exact ⟨rfl, rfl⟩
    | closed voiced stays => exact undealt_closing stays
  have unbinding : Undealt track.unbinding := by
    unfold Track.unbinding
    cases track.binding <;> exact ⟨rfl, rfl⟩
  obtain ⟨noneGranted, noneDeleted⟩ := (closing closes).append unbinding
  rw [granted_append, deleted_append, noneGranted, noneDeleted, deleting]
  cases track.handle <;> exact ⟨rfl, rfl⟩

/-- A track holds what it held, and what is granted on it. -/
theorem Does.deals (does : track.Does touch events outcome after) :
    deleted events = [] ∧ after.handle.toList = granted events ++ track.handle.toList := by
  cases does with
  | voicedTwice taken lapses => exact ⟨lapses.undealt.2, by rw [lapses.undealt.1]; rfl⟩
  | added free => exact ⟨rfl, by rw [free]; rfl⟩
  | _ => exact ⟨rfl, rfl⟩

/-- What a track keeps when it is released. -/
def label (track : Track) : Nat × Option StreamParams := (track.index, track.params)

theorem releaseHandle_labels (run : (releaseHandle true).Runs track events outcome after) :
    after.label = track.label := by
  unfold releaseHandle at run
  rw [Act.runs_get_bind] at run
  split at run
  · obtain ⟨-, -, rfl⟩ := Act.runs_pure.1 run
    rfl
  · obtain ⟨_, _, rfl, onward⟩ := Act.runs_ask_bind.1 run
    obtain ⟨-, -, rfl⟩ := Act.runs_modify.1 onward
    rfl

theorem release_labels : (release true).Keeps (fun before _ after => after.label = before.label) track := by
  have composes := Act.composes_same label
  refine Act.keeps_bind composes (fun _ _ _ run => ?_) fun _ =>
    Act.keeps_bind composes (fun _ _ _ run => ?_) fun _ _ _ _ run => releaseHandle_labels run
  · obtain ⟨-, counters, rfl⟩ := closeCodec_closes run
    rfl
  · obtain ⟨-, rfl⟩ := releaseBinding_unbinds run
    rfl

end Track

namespace Registry

variable {registry after : Registry} {events : List Event} {outcome : Except Error Unit}

/-- What can be done with a registry while its session has the peer connection. -/
inductive Operation where
  | touch (index : Nat) (touch : Touch)
  | release
  deriving DecidableEq

def Operation.act : Operation → Act Registry Unit
  | touch index (.setCodec codec) => Registry.setCodec index codec
  | touch index other => Registry.onTrack index other.act
  | release => Registry.release true

/-- An operation with what it asked for, and how it came out. -/
structure Called where
  operation : Operation
  events : List Event
  outcome : Except Error Unit

/-- Operations on a registry one after the other, however each of them comes out. -/
inductive History : Registry → List Called → Registry → Prop where
  | nil (registry : Registry) : History registry [] registry
  | cons {registry middle after : Registry} {operation : Operation} {events : List Event}
      {outcome : Except Error Unit} {calls : List Called}
      (run : operation.act.Runs registry events outcome middle) (rest : History middle calls after) :
      History registry (⟨operation, events, outcome⟩ :: calls) after

/-! The account. -/

/-- What was given to the track at a place. -/
structure Slot where
  handle : Option Handle
  transport : Option Binding
  codec : Option CodecSession
  params : Option StreamParams

namespace Slot

def vacant : Slot := ⟨none, none, none, none⟩

/-- The first transport, codec session and handle count, and the last parameters. -/
def take (slot : Slot) (events : List Event) : Touch → Slot
  | .bind owner rwTimeout => { slot with transport := slot.transport.or (some (.fresh owner rwTimeout)) }
  | .setCodec codec => { slot with codec := slot.codec.or (some codec) }
  | .setParams params => { slot with params := some params }
  | .add _ => { slot with handle := slot.handle.or (granted events).head? }

def clear (slot : Slot) : Slot := { vacant with params := slot.params }

/-- What a call leaves at a place. -/
def next (slot : Slot) (index : Nat) (called : Called) : Slot :=
  match called.operation with
  | .touch place touch => if place = index then slot.take called.events touch else slot
  | .release => slot.clear

def holds (slot : Slot) : Bool := slot.handle.isSome || slot.transport.isSome || slot.codec.isSome

/-- The track that the account describes, without its counters. Its transport leads to its handle. -/
def track (index : Nat) (slot : Slot) : Track where
  index := index
  handle := slot.handle
  binding := slot.transport.map fun binding => { binding with attached := slot.handle }
  codec := slot.codec
  params := slot.params
  counters := .zero

end Slot

/-- What was given to the track at a place, by all calls. -/
def account (index : Nat) (calls : List Called) : Slot := calls.foldl (Slot.next · index) .vacant

/-! What one call does. -/

/-- A session of the layer that finds no track is closed; nothing else that finds none asks for anything. -/
def Misses : Touch → List Event → Prop
  | .setCodec codec, events => codec.Lapses events
  | _, events => events = []

/-- What an operation on a registry asks for, how it comes out and what it leaves behind. -/
inductive Does (registry : Registry) : Operation → List Event → Except Error Unit → Registry → Prop where
  | touched {index : Nat} {touch : Touch} {track inner : Track} {events : List Event} {outcome : Except Error Unit}
      (found : registry.tracks[index]? = some track) (does : track.Does touch events outcome inner) :
      registry.Does (.touch index touch) events outcome ⟨registry.tracks.set index inner⟩
  | missing {index : Nat} {touch : Touch} {events : List Event} (none : registry.tracks[index]? = none)
      (misses : Misses touch events) :
      registry.Does (.touch index touch) events (.error (.invalidStream index)) registry
  | released {events : List Event} {after : Registry} (takes : TakesDown registry.tracks events)
      (labels : after.tracks.map Track.label = registry.tracks.map Track.label) (bare : after.allocated = 0) :
      registry.Does .release events (.ok ()) after

theorem touch_runs {index : Nat} {touch : Touch}
    (run : (Operation.touch index touch).act.Runs registry events outcome after) :
    (registry.tracks[index]? = none ∧ Misses touch events ∧ outcome = .error (.invalidStream index) ∧
      after = registry) ∨
    ∃ track inner, registry.tracks[index]? = some track ∧ after = ⟨registry.tracks.set index inner⟩ ∧
      touch.act.Runs track events outcome inner := by
  cases touch with
  | setCodec codec =>
    unfold Operation.act Registry.setCodec at run
    rw [Act.runs_get_bind] at run
    cases found : registry.tracks[index]? with
    | none =>
      rw [found] at run
      obtain ⟨lapses, rfl, rfl⟩ := CodecSession.lapses_of_refused rfl run
      exact .inl ⟨rfl, lapses, rfl, rfl⟩
    | some track =>
      rw [found] at run
      have present := runs_onTrack.1 run
      rw [found] at present
      rcases present with ⟨wrong, -⟩ | inside
      · cases wrong
      · exact .inr inside
  | _ => exact runs_onTrack.1 run

theorem release_labels (run : (release true).Runs registry events outcome after) :
    after.tracks.map Track.label = registry.tracks.map Track.label := by
  have composes := Act.composes_same fun registry : Registry => registry.tracks.map Track.label
  refine Act.keeps_bind composes (Act.keeps_get composes) (fun _ => ?_) _ _ _ run
  refine Act.keeps_forM composes fun index _ state => ?_
  intro events outcome after run
  rcases runs_onTrack.1 run with ⟨-, -, -, rfl⟩ | ⟨track, inner, found, rfl, inside⟩
  · rfl
  · exact map_set_same Track.label found (Track.release_labels _ _ _ inside)

theorem does_of_runs {operation : Operation} (wired : ∀ track ∈ registry.tracks, track.Wired)
    (run : operation.act.Runs registry events outcome after) : registry.Does operation events outcome after := by
  cases operation with
  | touch index touch =>
    rcases touch_runs run with ⟨none, misses, rfl, rfl⟩ | ⟨track, inner, found, rfl, inside⟩
    · exact .missing none misses
    · exact .touched found (Track.does_of_runs (wired track (List.mem_of_getElem? found)) inside)
  | release =>
    obtain ⟨rfl, -, bare⟩ := release_lets run
    exact .released (release_takesDown run) (release_labels run) bare

/-- A call that fails changes nothing. -/
theorem Does.succeeds_or_keeps {operation : Operation} (does : registry.Does operation events outcome after) :
    outcome = .ok () ∨ after = registry := by
  cases does with
  | touched found does =>
    rcases does.succeeds_or_keeps with done | rfl
    · exact .inl done
    · obtain ⟨present, rfl⟩ := List.getElem?_eq_some_iff.1 found
      rw [List.set_getElem_self]
      exact .inr rfl
  | missing => exact .inr rfl
  | released => exact .inl rfl

/-! The handles. -/

/-- What is given out is given back or held, and so is what was held before. -/
def Balances (registry : Registry) (events : List Event) (after : Registry) : Prop :=
  (granted events ++ registry.tracks.filterMap Track.handle).Perm
    (deleted events ++ after.tracks.filterMap Track.handle)

theorem composes_balances : Act.Composes Balances where
  refl _ := .rfl
  trans {state middle after first second} one two := by
    rw [Balances, List.perm_iff_count] at one two ⊢
    intro handle
    have early := one handle
    have late := two handle
    simp only [granted_append, deleted_append, List.count_append] at early late ⊢
    omega

theorem TakesDown.deals {tracks : List Track} (takes : TakesDown tracks events) :
    granted events = [] ∧ deleted events = tracks.filterMap Track.handle := by
  induction takes with
  | nil => exact ⟨rfl, rfl⟩
  | @cons track tracks early late first rest ih =>
    obtain ⟨noneGranted, firstDeleted⟩ := first.deals
    rw [granted_append, deleted_append, noneGranted, firstDeleted, ih.1, ih.2, List.filterMap_cons]
    cases track.handle <;> exact ⟨rfl, rfl⟩

theorem Misses.undealt {touch : Touch} (misses : Misses touch events) : Undealt events := by
  cases touch with
  | setCodec codec => exact CodecSession.Lapses.undealt misses
  | _ =>
    obtain rfl : events = [] := misses
    exact ⟨rfl, rfl⟩

theorem handles_of_unallocated (none : registry.allocated = 0) : registry.tracks.filterMap Track.handle = [] := by
  rw [List.filterMap_eq_nil_iff]
  exact fun track member => (Track.bare_iff.1 (bare_of_unallocated none track member)).1.1

theorem Does.balances {operation : Operation} (does : registry.Does operation events outcome after) :
    registry.Balances events after := by
  cases does with
  | @touched index touch track inner _ _ found does =>
    obtain ⟨noneDeleted, holds⟩ := does.deals
    rw [Balances, noneDeleted, List.nil_append, List.perm_iff_count]
    intro handle
    have exchanged := count_flatMap_set (fun track => track.handle.toList) found inner handle
    simp only [holds, List.count_append, ← List.filterMap_eq_flatMap_toList] at exchanged ⊢
    omega
  | missing none misses =>
    obtain ⟨noneGranted, noneDeleted⟩ := misses.undealt
    rw [Balances, noneGranted, noneDeleted]
  | released takes labels bare =>
    obtain ⟨noneGranted, all⟩ := takes.deals
    rw [Balances, noneGranted, all, handles_of_unallocated bare, List.append_nil, List.nil_append]

/-! The registry and the account. -/

/-- A registry has the tracks that an account describes. -/
structure Agrees (registry : Registry) (count : Nat) (slots : Nat → Slot) : Prop where
  size : registry.tracks.length = count
  places : ∀ {index track}, registry.tracks[index]? = some track → track.settings = (slots index).track index

theorem Slot.wired_track (index : Nat) (slot : Slot) : (slot.track index).Wired := by
  intro binding held
  obtain ⟨_, -, rfl⟩ := Option.map_eq_some_iff.1 held
  rfl

theorem Agrees.wired {count : Nat} {slots : Nat → Slot} (agrees : registry.Agrees count slots) :
    ∀ track ∈ registry.tracks, track.Wired := by
  intro track member
  obtain ⟨index, found⟩ := List.mem_iff_getElem?.1 member
  have wired : track.settings.Wired := by
    rw [agrees.places found]
    exact (slots index).wired_track index
  exact wired

namespace Slot

variable {track inner : Track} {touch : Touch} {index : Nat} {slot : Slot}

theorem settings_eq_iff : track.settings = slot.track index ↔
    track.index = index ∧ track.handle = slot.handle ∧
      track.binding = slot.transport.map (fun binding => { binding with attached := slot.handle }) ∧
      track.codec = slot.codec ∧ track.params = slot.params := by
  simp [Track.settings, Slot.track]

theorem next_here : slot.next index ⟨.touch index touch, events, outcome⟩ = slot.take events touch := if_pos rfl

theorem next_elsewhere {place : Nat} (apart : place ≠ index) :
    slot.next index ⟨.touch place touch, events, outcome⟩ = slot :=
  if_neg apart

/-- The account of a track goes along with what is done with the track. -/
theorem settings_take (same : track.settings = slot.track index) (does : track.Does touch events outcome inner) :
    inner.settings = (slot.take events touch).track index := by
  rw [settings_eq_iff] at same ⊢
  have ⟨place, handle, binding, codec, params⟩ := same
  cases does with
  | bound free =>
    have vacant : slot.transport = none := by simpa [free] using binding.symm
    exact ⟨place, handle, by simp [take, vacant, handle, Binding.fresh], codec, params⟩
  | boundTwice taken =>
    have occupied : slot.transport.isSome := by simpa [binding, Option.isSome_iff_ne_none] using taken
    rwa [take, Option.or_of_isSome occupied]
  | voiced free => exact ⟨place, handle, binding, by rw [take, ← codec, free]; rfl, params⟩
  | voicedTwice taken lapses =>
    have occupied : slot.codec.isSome := Option.isSome_iff_ne_none.2 (codec ▸ taken)
    rwa [take, Option.or_of_isSome occupied]
  | told => exact ⟨place, handle, binding, codec, rfl⟩
  | added free =>
    have vacant : slot.handle = none := handle ▸ free
    refine ⟨place, by rw [take, vacant]; rfl, ?_, codec, params⟩
    simp [take, vacant, binding, granted, Event.granted?, Function.comp_def]
  | refused free => simpa [take, granted, Event.granted?] using same
  | addedTwice taken => simpa [take, granted] using same

end Slot

variable {count : Nat} {slots : Nat → Slot} {calls : List Called}

theorem agrees_allocate (count : Nat) : (allocate count).Agrees count fun _ => .vacant := by
  refine ⟨by simp [allocate], fun {index track} found => ?_⟩
  rw [allocate, List.getElem?_map] at found
  obtain ⟨place, there, rfl⟩ := Option.map_eq_some_iff.1 found
  obtain ⟨-, rfl⟩ := List.getElem?_eq_some_iff.1 there
  rw [List.getElem_range]
  rfl

theorem Agrees.released (agrees : registry.Agrees count slots)
    (labels : after.tracks.map Track.label = registry.tracks.map Track.label) (bare : after.allocated = 0) :
    after.Agrees count fun index => (slots index).clear := by
  have size := congrArg List.length labels
  rw [List.length_map, List.length_map] at size
  refine ⟨size.trans agrees.size, fun {index other} there => ?_⟩
  have alike := congrArg (fun labels : List _ => labels[index]?) labels
  simp only [List.getElem?_map, there, Option.map_some] at alike
  obtain ⟨track, found, label⟩ := Option.map_eq_some_iff.1 alike.symm
  have ⟨place, _, _, _, params⟩ := Slot.settings_eq_iff.1 (agrees.places found)
  obtain ⟨samePlace, sameParams⟩ := Prod.mk.inj label
  obtain ⟨⟨handle, binding⟩, codec⟩ :=
    Track.bare_iff.1 (bare_of_unallocated bare other (List.mem_of_getElem? there))
  exact Slot.settings_eq_iff.2 ⟨samePlace.symm.trans place, handle, binding, codec, sameParams.symm.trans params⟩

theorem Agrees.step {operation : Operation} (agrees : registry.Agrees count slots)
    (does : registry.Does operation events outcome after) :
    after.Agrees count fun index => (slots index).next index ⟨operation, events, outcome⟩ := by
  cases does with
  | @touched place touch track inner _ _ found does =>
    refine ⟨List.length_set.trans agrees.size, fun {index other} there => ?_⟩
    by_cases same : place = index
    · subst same
      rw [List.getElem?_set_self'] at there
      obtain ⟨_, -, rfl⟩ := Option.map_eq_some_iff.1 there
      rw [Slot.next_here]
      exact Slot.settings_take (agrees.places found) does
    · rw [List.getElem?_set_ne same] at there
      rw [Slot.next_elsewhere same]
      exact agrees.places there
  | @missing place touch _ none misses =>
    refine ⟨agrees.size, fun {index other} there => ?_⟩
    have apart : place ≠ index := by
      rintro rfl
      cases none.symm.trans there
    rw [Slot.next_elsewhere apart]
    exact agrees.places there
  | released takes labels bare => exact agrees.released labels bare

/-- Along a history the account goes along with the registry, and the handles balance. -/
theorem History.agrees (history : History registry calls after) (agrees : registry.Agrees count slots) :
    (after.Agrees count fun index => calls.foldl (Slot.next · index) (slots index)) ∧
      registry.Balances (calls.flatMap Called.events) after := by
  induction history generalizing slots with
  | nil registry => exact ⟨agrees, composes_balances.refl registry⟩
  | cons run rest ih =>
    -- A track of the account leads its transport to its handle, so adding it cannot fail behind the engine's back.
    have does := does_of_runs agrees.wired run
    obtain ⟨later, balances⟩ := ih (agrees.step does)
    exact ⟨later, composes_balances.trans does.balances balances⟩

theorem Agrees.settings (agrees : registry.Agrees count slots) :
    registry.tracks.map Track.settings = (List.range count).map fun index => (slots index).track index := by
  refine List.ext_getElem? fun index => ?_
  rw [List.getElem?_map, List.getElem?_map, ← agrees.size]
  cases found : registry.tracks[index]? with
  | none =>
    rw [List.getElem?_eq_none_iff] at found
    simp [found]
  | some track =>
    obtain ⟨within, -⟩ := List.getElem?_eq_some_iff.1 found
    simp [within, agrees.places found]

/-- What a registry is like after some calls. -/
structure Kept (count : Nat) (calls : List Called) (registry : Registry) : Prop where
  settings : registry.tracks.map Track.settings =
    (List.range count).map fun index => (account index calls).track index
  places : registry.tracks.map Track.index = List.range count
  handles : registry.handles = (List.range count).map fun index => (account index calls).handle
  balance : (granted (calls.flatMap Called.events)).Perm
    (deleted (calls.flatMap Called.events) ++ registry.tracks.filterMap Track.handle)
  wired : ∀ track ∈ registry.tracks, ∀ binding ∈ track.binding, binding.attached = track.handle
  allocated : registry.allocated = (List.range count).countP fun index => (account index calls).holds

theorem handles_allocate (count : Nat) : (allocate count).tracks.filterMap Track.handle = [] := by
  rw [allocate, List.filterMap_map, List.filterMap_eq_nil_iff]
  exact fun _ _ => rfl

theorem Slot.isAllocated_track (slot : Slot) (index : Nat) : (slot.track index).isAllocated = slot.holds := by
  rw [Track.isAllocated, Slot.holds, Slot.track, Option.isSome_map]

theorem kept_of_history (history : History (allocate count) calls registry) : Kept count calls registry := by
  obtain ⟨agrees, balances⟩ := history.agrees (agrees_allocate count)
  have settings := agrees.settings
  refine
    { settings := settings
      places := ?_
      handles := ?_
      balance := ?_
      wired := agrees.wired
      allocated := ?_ }
  · have places := congrArg (List.map Track.index) settings
    rw [List.map_map, List.map_map] at places
    exact places.trans (List.map_id _)
  · have handles := congrArg (List.map Track.handle) settings
    rwa [List.map_map, List.map_map] at handles
  · rwa [Balances, handles_allocate, List.append_nil] at balances
  · have counted := congrArg (List.countP Track.isAllocated) settings
    rw [List.countP_map, List.countP_map] at counted
    exact counted.trans (List.countP_congr fun index _ => by
      rw [Function.comp_apply, Slot.isAllocated_track, account])

/-- Whatever was done with a registry, it is as the account says, and a further call does what it does to such a
registry, or fails and leaves it alone. -/
theorem history_keeps_account (history : History (allocate count) calls registry) :
    Kept count calls registry ∧
      ∀ {operation : Operation} {events : List Event} {outcome : Except Error Unit} {after : Registry},
        operation.act.Runs registry events outcome after →
          registry.Does operation events outcome after ∧ (outcome = .ok () ∨ after = registry) := by
  refine ⟨kept_of_history history, fun run => ?_⟩
  obtain ⟨agrees, -⟩ := history.agrees (agrees_allocate count)
  have does := does_of_runs agrees.wired run
  exact ⟨does, does.succeeds_or_keeps⟩

/-! Two tracks: the transport of one is there before its handle, and that of the other one after it. -/

namespace Crossed

def first : Handle := ⟨31, by decide⟩

def second : Handle := ⟨32, by decide⟩

def init : TrackInit := ⟨.sendOnly, .opus, 111, 7, "0", "audio", "stream", "track", none⟩

def reader : CodecSession := .reader ⟨7, .audio .opus 48000 2⟩

def made : List Called :=
  [⟨.touch 1 (.add init), [⟨.engine (.addTrack init), .error .invalid⟩], .error (.engine .invalid)⟩,
    ⟨.touch 0 (.bind 0 5), [], .ok ()⟩,
    ⟨.touch 0 (.add init), [⟨.engine (.addTrack init), .ok first⟩], .ok ()⟩,
    ⟨.touch 1 (.add init), [⟨.engine (.addTrack init), .ok second⟩], .ok ()⟩,
    ⟨.touch 1 (.bind 1 5), [], .ok ()⟩,
    ⟨.touch 1 (.bind 1 9), [], .error (.defect .bindingOpenedTwice)⟩,
    ⟨.touch 2 (.bind 2 5), [], .error (.invalidStream 2)⟩,
    ⟨.touch 1 (.setCodec reader), [], .ok ()⟩]

def reached : Registry :=
  ⟨[⟨0, some first, some ⟨0, 5, some first⟩, none, none, .zero⟩,
    ⟨1, some second, some ⟨1, 5, some second⟩, some reader, none, .zero⟩]⟩

theorem history : History (allocate 2) made reached :=
  .cons (.call _ _ _ (.done _)) (.cons (.done _) (.cons (.call _ _ _ (.done _)) (.cons (.call _ _ _ (.done _))
    (.cons (.done _) (.cons (.done _) (.cons (.done _) (.cons (.done _) (.nil _))))))))

end Crossed

open Crossed in
theorem history_keeps_account_crossed :
    History (allocate 2) made reached ∧ Kept 2 made reached ∧
      reached.Does (.touch 1 (.add init)) [] (.error (.defect .trackAddedTwice)) reached := by
  have again : (Operation.touch 1 (.add init)).act.Runs reached [] (.error (.defect .trackAddedTwice)) reached :=
    .done _
  obtain ⟨kept, onward⟩ := history_keeps_account history
  exact ⟨history, kept, (onward again).1⟩

end Registry
end WhipWhep
