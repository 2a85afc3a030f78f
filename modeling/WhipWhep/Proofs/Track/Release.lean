import WhipWhep.Proofs.Track.Holding
import WhipWhep.Track.Registry

/-!
Releasing. Whatever a track holds, its release asks for everything to be taken back, and it always
succeeds. The tracks of a registry are released one after the other, and none of them holds anything
at the end.
-/

namespace WhipWhep

namespace Track

variable {track after : Track} {events : List Event}

/-- One stage of a release always succeeds, and only gives back. -/
structure Lets (track : Track) (events : List Event) (outcome : Except Error Unit) (after : Track) :
    Prop where
  done : outcome = .ok ()
  uses : Uses Call.isReleasing track events after

theorem lets_nothing : Lets track [] (.ok ()) track :=
  ⟨rfl, composes_uses.refl track⟩

theorem closeCodec_lets {outcome : Except Error Unit}
    (run : closeCodec.Runs track events outcome after) :
    Lets track events outcome after ∧ after.codec = none ∧ after.binding = track.binding ∧
      after.handle = track.handle := by
  unfold closeCodec at run
  rw [Act.runs_get_bind] at run
  split at run
  · next none =>
    obtain ⟨rfl, rfl, rfl⟩ := Act.runs_pure.1 run
    exact ⟨lets_nothing, none, rfl, rfl⟩
  · next codec held =>
    rcases Act.runs_bind.1 run with ⟨_, -, failed⟩ | ⟨_, _, _, _, rfl, closing, onward⟩
    · obtain ⟨_, -, inside⟩ := runs_relay.1 failed
      obtain ⟨wrong, -⟩ := runs_close inside
      cases wrong
    obtain ⟨_, rfl, inside⟩ := runs_relay.1 closing
    obtain ⟨-, accounts, answer, played, rfl, relayed⟩ := runs_close inside
    obtain ⟨rfl, rfl, rfl⟩ := Act.runs_modify.1 onward
    have first : AllOf Call.isReleasing [⟨codec.closing, answer⟩] :=
      .single (by cases codec <;> rfl) _
    rw [List.append_nil]
    refine ⟨⟨rfl, ?_, first.append (relayed.weaken releasing_of_relayed)⟩, rfl, rfl, rfl⟩
    simpa [debts, held] using accounts (track.handle.map fun handle => Call.engine (.deleteTrack handle)).toList

theorem releaseBinding_lets {outcome : Except Error Unit}
    (run : releaseBinding.Runs track events outcome after) :
    Lets track events outcome after ∧ after.codec = track.codec ∧ after.binding = none ∧
      after.handle = track.handle := by
  unfold releaseBinding at run
  rw [Act.runs_get_bind] at run
  split at run
  · next none =>
    obtain ⟨rfl, rfl, rfl⟩ := Act.runs_pure.1 run
    exact ⟨lets_nothing, rfl, none, rfl⟩
  · obtain ⟨answer, _, rfl, onward⟩ := Act.runs_ask_bind.1 run
    obtain ⟨rfl, rfl, rfl⟩ := Act.runs_modify.1 onward
    have asks : Idle Call.isReleasing track [⟨.layer (.releaseTransport track.index), answer⟩] track :=
      idle_ask rfl rfl rfl answer
    exact ⟨⟨rfl, asks.uses.accounts, asks.ofKind⟩, rfl, rfl, rfl⟩

theorem releaseHandle_lets {outcome : Except Error Unit}
    (run : (releaseHandle true).Runs track events outcome after) :
    Lets track events outcome after ∧ after.codec = track.codec ∧ after.binding = track.binding ∧
      after.handle = none := by
  unfold releaseHandle at run
  rw [Act.runs_get_bind] at run
  split at run
  · next none =>
    obtain ⟨rfl, rfl, rfl⟩ := Act.runs_pure.1 run
    exact ⟨lets_nothing, rfl, rfl, none⟩
  · next handle held =>
    rw [if_pos rfl] at run
    obtain ⟨answer, _, rfl, onward⟩ := Act.runs_ask_bind.1 run
    obtain ⟨rfl, rfl, rfl⟩ := Act.runs_modify.1 onward
    have returned : Accounts track.debts [⟨.engine (.deleteTrack handle), answer⟩]
        { track with handle := none }.debts := by
      refine (accounts_return rfl []).beside fun call => ?_
      simp only [debts, held, List.count_append, Option.map_none, Option.map_some, Option.toList_none,
        Option.toList_some, List.count_nil]
      omega
    exact ⟨⟨rfl, returned, .single rfl _⟩, rfl, rfl, rfl⟩

/-- A released track holds nothing, whatever it held. -/
theorem release_lets {outcome : Except Error Unit} (run : (release true).Runs track events outcome after) :
    Lets track events outcome after ∧ after.isAllocated = false := by
  unfold release at run
  rcases Act.runs_bind.1 run with ⟨_, -, failed⟩ | ⟨_, _, _, _, rfl, closed, onward⟩
  · cases (closeCodec_lets failed).1.done
  obtain ⟨⟨-, closing⟩, codec, -, -⟩ := closeCodec_lets closed
  rcases Act.runs_bind.1 onward with ⟨_, -, failed⟩ | ⟨_, _, _, _, rfl, unbound, last⟩
  · cases (releaseBinding_lets failed).1.done
  obtain ⟨⟨-, unbinding⟩, codecKept, binding, -⟩ := releaseBinding_lets unbound
  obtain ⟨⟨rfl, deleting⟩, codecStill, bindingKept, handle⟩ := releaseHandle_lets last
  refine ⟨⟨rfl, composes_uses.trans closing (composes_uses.trans unbinding deleting)⟩, ?_⟩
  rw [isAllocated, codecStill, codecKept, codec, bindingKept, binding, handle]
  rfl

theorem bare_iff : track.isAllocated = false ↔
    (track.handle = none ∧ track.binding = none) ∧ track.codec = none := by
  simp [isAllocated]

theorem debts_of_bare (bare : track.isAllocated = false) : track.debts = [] := by
  obtain ⟨⟨handle, -⟩, codec⟩ := bare_iff.1 bare
  rw [debts, codec, handle]
  rfl

end Track

namespace Registry

variable {α : Type} {registry after : Registry} {events : List Event}

theorem runs_onTrack {index : Nat} {act : Act Track α} {outcome : Except Error α} :
    (Registry.onTrack index act).Runs registry events outcome after ↔
      (registry.tracks[index]? = none ∧ events = [] ∧ outcome = .error (.invalidStream index) ∧
        after = registry) ∨
      ∃ track inner, registry.tracks[index]? = some track ∧ after = ⟨registry.tracks.set index inner⟩ ∧
        act.Runs track events outcome inner := by
  unfold Registry.onTrack Act.Runs
  cases found : registry.tracks[index]? with
  | none => simp [found, Script.yields_done_iff]
  | some track =>
    simp only [found, Script.yields_bind_iff]
    constructor
    · rintro ⟨first, ⟨result, inner⟩, second, rfl, inside, rest⟩
      obtain ⟨rfl, same⟩ := Script.yields_done_iff.1 rest
      obtain ⟨rfl, rfl⟩ := Prod.mk.inj same
      rw [List.append_nil]
      exact .inr ⟨track, inner, rfl, rfl, inside⟩
    · rintro (⟨wrong, -⟩ | ⟨_, inner, same, rfl, inside⟩)
      · cases wrong
      · cases same
        exact ⟨events, (outcome, inner), [], (List.append_nil _).symm, inside, .done _⟩

/-- What the tracks hold, as the requests that give it back. -/
def debts (registry : Registry) : List Call := registry.tracks.flatMap Track.debts

section Exchanging

variable {β : Type} {tracks : List Track} {index : Nat} {track : Track}

/-- Exchanging one track exchanges what that track is counted for. -/
theorem count_flatMap_set [BEq β] (part : Track → List β) (found : tracks[index]? = some track) (inner : Track)
    (item : β) :
    ((tracks.set index inner).flatMap part).count item + (part track).count item =
      (tracks.flatMap part).count item + (part inner).count item := by
  induction tracks generalizing index with
  | nil => cases found
  | cons head rest ih =>
    cases index with
    | zero =>
      cases found
      simp only [List.set_cons_zero, List.flatMap_cons, List.count_append]
      omega
    | succ index =>
      have others := ih found
      simp only [List.set_cons_succ, List.flatMap_cons, List.count_append] at others ⊢
      omega

theorem count_debts_set (found : tracks[index]? = some track) (inner : Track) (call : Call) :
    (Registry.mk (tracks.set index inner)).debts.count call + track.debts.count call =
      (Registry.mk tracks).debts.count call + inner.debts.count call :=
  count_flatMap_set Track.debts found inner call

/-- Where a track becomes another one that is the same in one respect, all tracks are in that respect. -/
theorem map_set_same (part : Track → β) (found : tracks[index]? = some track) {inner : Track}
    (same : part inner = part track) : (tracks.set index inner).map part = tracks.map part := by
  obtain ⟨present, rfl⟩ := List.getElem?_eq_some_iff.1 found
  rw [List.map_set, same, ← List.getElem_map part (h := by rwa [List.length_map]), List.set_getElem_self]

end Exchanging

/-- What an operation on the tracks is handed out it has given back, or a track holds it. -/
structure Uses (kind : Call → Bool) (registry : Registry) (events : List Event) (after : Registry) :
    Prop where
  accounts : Accounts registry.debts events after.debts
  ofKind : AllOf kind events
  size : after.tracks.length = registry.tracks.length

variable {kind : Call → Bool}

theorem composes_uses : Act.Composes (Uses kind) where
  refl _ := ⟨accounts_nil _, .nil, rfl⟩
  trans one two :=
    { accounts := one.accounts.append two.accounts
      ofKind := one.ofKind.append two.ofKind
      size := two.size.trans one.size }

theorem uses_set {index : Nat} {track inner : Track} (found : registry.tracks[index]? = some track)
    (uses : Track.Uses kind track events inner) :
    Uses kind registry events ⟨registry.tracks.set index inner⟩ where
  accounts := uses.accounts.beside fun call => by
    have exchanged := count_debts_set found inner call
    exact exchanged.symm
  ofKind := uses.ofKind
  size := List.length_set

/-- Nothing on the engine's side is held at an index. -/
def BareAt (registry : Registry) (index : Nat) : Prop :=
  ∀ track ∈ registry.tracks[index]?, track.isAllocated = false

theorem bareAt_set {index : Nat} {inner : Track} (bare : inner.isAllocated = false) {other : Nat}
    (before : other = index ∨ registry.BareAt other) :
    (Registry.mk (registry.tracks.set index inner)).BareAt other := by
  intro track found
  by_cases same : index = other
  · subst same
    rw [List.getElem?_set_self'] at found
    obtain ⟨_, -, rfl⟩ := Option.map_eq_some_iff.1 found
    exact bare
  · rw [List.getElem?_set_ne same] at found
    rcases before with rfl | bareBefore
    · exact absurd rfl same
    · exact bareBefore track found

theorem releases_at {index : Nat} {outcome : Except Error Unit}
    (present : index < registry.tracks.length)
    (run : (Registry.onTrack index (Track.release true)).Runs registry events outcome after) :
    outcome = .ok () ∧ Uses Call.isReleasing registry events after ∧
      ∀ other, other = index ∨ registry.BareAt other → after.BareAt other := by
  rcases runs_onTrack.1 run with ⟨missing, -⟩ | ⟨track, inner, found, rfl, letting⟩
  · rw [List.getElem?_eq_none_iff] at missing
    omega
  · obtain ⟨⟨done, uses⟩, bare⟩ := Track.release_lets letting
    exact ⟨done, uses_set found uses, fun other before => bareAt_set bare before⟩

/-- Releasing some of the tracks leaves nothing with them, nor with those that held nothing before. -/
theorem releases_each {indices : List Nat} {outcome : Except Error Unit}
    (inside : ∀ index ∈ indices, index < registry.tracks.length)
    (run : (indices.forM fun index => Registry.onTrack index (Track.release true)).Runs registry events
      outcome after) :
    outcome = .ok () ∧ Uses Call.isReleasing registry events after ∧
      ∀ index, index ∈ indices ∨ registry.BareAt index → after.BareAt index := by
  induction indices generalizing registry events with
  | nil =>
    obtain ⟨rfl, rfl, rfl⟩ := Act.runs_pure.1 run
    refine ⟨rfl, composes_uses.refl _, fun index before => ?_⟩
    rcases before with member | bare
    · cases member
    · exact bare
  | cons index rest ih =>
    have present := inside index List.mem_cons_self
    rcases Act.runs_bind.1 run with ⟨_, rfl, failed⟩ | ⟨_, _, middle, _, rfl, first, onward⟩
    · obtain ⟨wrong, -⟩ := releases_at present failed
      cases wrong
    obtain ⟨-, early, bareEarly⟩ := releases_at present first
    have still : ∀ other ∈ rest, other < middle.tracks.length := fun other member => by
      have known := inside other (List.mem_cons_of_mem _ member)
      rw [early.size]
      exact known
    obtain ⟨done, late, bareLate⟩ := ih still onward
    refine ⟨done, composes_uses.trans early late, fun other before => ?_⟩
    apply bareLate
    rcases before with member | bare
    · rcases List.mem_cons.1 member with same | later
      · exact .inr (bareEarly other (.inl same))
      · exact .inl later
    · exact .inr (bareEarly other (.inr bare))

theorem allocated_of_bare (bare : ∀ index, registry.BareAt index) : registry.allocated = 0 := by
  rw [allocated, List.countP_eq_zero]
  intro track member
  obtain ⟨index, found⟩ := List.mem_iff_getElem?.1 member
  rw [bare index track found]
  exact Bool.false_ne_true

theorem bare_of_unallocated (none : registry.allocated = 0) : ∀ track ∈ registry.tracks, track.isAllocated = false :=
  fun track member => Bool.eq_false_iff.2 (List.countP_eq_zero.1 none track member)

theorem debts_of_unallocated (none : registry.allocated = 0) : registry.debts = [] := by
  rw [debts, List.flatMap_eq_nil_iff]
  exact fun track member => Track.debts_of_bare (bare_of_unallocated none track member)

/-- A released registry holds nothing, whatever its tracks held. -/
theorem release_lets {outcome : Except Error Unit} (run : (release true).Runs registry events outcome after) :
    outcome = .ok () ∧ Uses Call.isReleasing registry events after ∧ after.allocated = 0 := by
  unfold release at run
  rw [Act.runs_get_bind] at run
  have inside : ∀ index ∈ List.range registry.tracks.length, index < registry.tracks.length :=
    fun _ member => List.mem_range.1 member
  obtain ⟨done, uses, bare⟩ := releases_each inside run
  refine ⟨done, uses, allocated_of_bare fun index => ?_⟩
  by_cases present : index < registry.tracks.length
  · exact bare index (.inl (List.mem_range.2 present))
  · intro track found
    rw [List.getElem?_eq_none (by rw [uses.size]; omega)] at found
    cases found

theorem debts_allocate (count : Nat) : (allocate count).debts = [] := by
  rw [debts, List.flatMap_eq_nil_iff]
  intro track member
  obtain ⟨index, -, rfl⟩ := List.mem_map.1 member
  rfl

end Registry
end WhipWhep
