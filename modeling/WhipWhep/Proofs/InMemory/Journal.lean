import Mathlib.Data.List.Induction
import Mathlib.Data.List.Nodup
import WhipWhep.Capability.Engine

/-!
The journal of an engine in memory: what was done with it, one thing after the other. What the engine should hold
and say is read off the journal, with no look at the engine.
-/

namespace WhipWhep.InMemory

/-- Something that was done with an engine. Its peer connections are numbered from zero on as they were made. -/
inductive Entry where
  | made
  | added (index : Nat) (handle : Handle) (init : TrackInit)
  | deleted (index : Nat) (handle : Handle)
  | pushed (handle : Handle) (message : Bytes)
  | received (index : Nat) (handle : Handle) (message : Bytes)
  | sent (index : Nat) (handle : Handle) (message : Bytes)
  | closed (index : Nat)
  deriving DecidableEq

namespace Entry

/-- The entry for a call to a peer connection, by its answer. A call that is refused leaves none, and neither does
one that is about descriptions or reports. -/
def of? (index : Nat) : (call : EngineCall) → call.Answer → Option Entry
  | .create _, .ok () => some made
  | .addTrack init, .ok handle => some (added index handle init)
  | .deleteTrack handle, () => some (deleted index handle)
  | .receive handle _, .ok message => some (received index handle message)
  | .send handle message, .ok () => some (sent index handle message)
  | .close, () => some (closed index)
  | _, _ => none

/-- The track that is taken, and by which peer connection. -/
def taken? : Entry → Option (Nat × Handle × TrackInit)
  | added index handle init => some (index, handle, init)
  | _ => none

/-- The track that a peer connection takes. -/
def takenBy? (index : Nat) : Entry → Option (Handle × TrackInit)
  | added place handle init => if place = index then some (handle, init) else none
  | _ => none

def received? (index : Nat) (handle : Handle) : Entry → Option Bytes
  | received place track message => if place = index ∧ track = handle then some message else none
  | _ => none

/-- The message that a peer connection sends on a track. -/
def sentBy? (index : Nat) (handle : Handle) : Entry → Option Bytes
  | sent place track message => if place = index ∧ track = handle then some message else none
  | _ => none

def sent? (handle : Handle) : Entry → Option Bytes
  | sent _ track message => if track = handle then some message else none
  | _ => none

end Entry

namespace Journal

def made (journal : List Entry) : Nat := journal.count .made

def taken (journal : List Entry) : List (Nat × Handle × TrackInit) := journal.filterMap Entry.taken?

/-- All handles that were ever given to a track, in order. -/
def handles (journal : List Entry) : List Handle := (taken journal).map fun track => track.2.1

/-- The live tracks of a peer connection: those it has taken and was not told to delete since, in order. -/
def standing (index : Nat) : List Entry → List (Handle × TrackInit)
  | [] => []
  | entry :: later =>
    ((entry.takenBy? index).toList.filter fun track => Entry.deleted index track.1 ∉ later) ++ standing index later

/-- How many tracks are live, on all peer connections. -/
def standingAll (journal : List Entry) : Nat :=
  ((List.range (made journal)).flatMap fun index => standing index journal).length

def isStanding (index : Nat) (handle : Handle) (journal : List Entry) : Bool :=
  ((standing index journal).lookup handle).isSome

/-- Every entry together with those before it. -/
def withPast (past : List Entry) : List Entry → List (List Entry × Entry)
  | [] => []
  | entry :: later => (past, entry) :: withPast (past ++ [entry]) later

/-- Whether a live track is deleted, and on its own peer connection. -/
def removes (past : List Entry) : Entry → Bool
  | .deleted index handle => isStanding index handle past
  | _ => false

/-- How many live tracks were deleted on their own peer connections. -/
def removals (journal : List Entry) : Nat := (withPast [] journal).countP fun (past, entry) => removes past entry

/-- The message that comes in on a track while the track is live. -/
def arrives? (index : Nat) (handle : Handle) (past : List Entry) : Entry → Option Bytes
  | .pushed track message => if track = handle ∧ isStanding index handle past then some message else none
  | _ => none

/-- The messages that came in on a track while it was live, in order. -/
def arrived (index : Nat) (handle : Handle) (journal : List Entry) : List Bytes :=
  (withPast [] journal).filterMap fun (past, entry) => arrives? index handle past entry

def received (index : Nat) (handle : Handle) (journal : List Entry) : List Bytes :=
  journal.filterMap (Entry.received? index handle)

def sentBy (index : Nat) (handle : Handle) (journal : List Entry) : List Bytes :=
  journal.filterMap (Entry.sentBy? index handle)

/-- The messages that were sent on a track, in order. -/
def sent (handle : Handle) (journal : List Entry) : List Bytes := journal.filterMap (Entry.sent? handle)

variable {journal : List Entry} {entry : Entry} {index other : Nat} {handle : Handle} {init : TrackInit}

/-! What one more entry adds. -/

theorem made_append (more : List Entry) : made (journal ++ more) = made journal + made more := List.count_append

theorem filterMap_concat {α β : Type} (read : α → Option β) (items : List α) (last : α) :
    (items ++ [last]).filterMap read = items.filterMap read ++ (read last).toList := by
  rw [List.filterMap_append, List.filterMap_cons]
  cases read last <;> rfl

theorem taken_concat : taken (journal ++ [entry]) = taken journal ++ entry.taken?.toList := filterMap_concat _ _ _

theorem handles_append (more : List Entry) : handles (journal ++ more) = handles journal ++ handles more := by
  rw [handles, taken, List.filterMap_append, List.map_append]
  rfl

theorem length_handles_le (more : List Entry) : (handles journal).length ≤ (handles (journal ++ more)).length := by
  rw [handles_append, List.length_append]
  exact Nat.le_add_right _ _

theorem received_concat : received index handle (journal ++ [entry]) =
    received index handle journal ++ (entry.received? index handle).toList := filterMap_concat _ _ _

theorem sentBy_concat : sentBy index handle (journal ++ [entry]) =
    sentBy index handle journal ++ (entry.sentBy? index handle).toList := filterMap_concat _ _ _

theorem standing_concat : standing index (journal ++ [entry]) =
    ((standing index journal).filter fun track => entry ≠ .deleted index track.1) ++
      (entry.takenBy? index).toList := by
  induction journal with
  | nil => simp [standing]
  | cons first later ih =>
    rw [List.cons_append, standing, standing, ih, List.filter_append, List.filter_filter, List.append_assoc]
    congr 2
    funext track
    simp [and_comm, eq_comm]

theorem withPast_concat (past : List Entry) :
    withPast past (journal ++ [entry]) = withPast past journal ++ [(past ++ journal, entry)] := by
  induction journal generalizing past with
  | nil => simp [withPast]
  | cons first later ih => simp [withPast, ih]

theorem removals_concat :
    removals (journal ++ [entry]) = removals journal + if removes journal entry then 1 else 0 := by
  rw [removals, withPast_concat, List.countP_append, List.countP_singleton]
  rfl

theorem arrived_concat : arrived index handle (journal ++ [entry]) =
    arrived index handle journal ++ (arrives? index handle journal entry).toList := by
  rw [arrived, withPast_concat]
  exact filterMap_concat _ _ _

/-- Only what a peer connection takes or deletes makes a difference to its live tracks. -/
theorem standing_still (none : entry.takenBy? index = none) (kept : ∀ handle, entry ≠ .deleted index handle) :
    standing index (journal ++ [entry]) = standing index journal := by
  rw [standing_concat, none, Option.toList_none, List.append_nil, List.filter_eq_self]
  exact fun track _ => decide_eq_true (kept track.1)

/-! Live tracks are among those that were taken. -/

theorem isStanding_iff : isStanding index handle journal = true ↔ ∃ init, (handle, init) ∈ standing index journal := by
  rw [isStanding, List.lookup_isSome_iff]
  simp

theorem isStanding_concat : isStanding index handle (journal ++ [entry]) = true ↔
    isStanding index handle journal = true ∧ entry ≠ .deleted index handle ∨
      ∃ init, entry.takenBy? index = some (handle, init) := by
  simp only [isStanding_iff, standing_concat, List.mem_append, List.mem_filter, decide_eq_true_eq, Option.mem_toList,
    exists_or, exists_and_right]

theorem takenBy?_eq_some_iff : entry.takenBy? index = some (handle, init) ↔ entry = .added index handle init := by
  cases entry <;> simp [Entry.takenBy?]

theorem mem_taken_iff : (index, handle, init) ∈ taken journal ↔ .added index handle init ∈ journal := by
  rw [taken, List.mem_filterMap]
  constructor
  · rintro ⟨entry, member, found⟩
    cases entry <;> cases found
    exact member
  · exact fun member => ⟨_, member, rfl⟩

theorem standing_sublist : ((standing index journal).map Prod.fst).Sublist (handles journal) := by
  induction journal with
  | nil => exact .slnil
  | cons entry later ih =>
    have own : ((entry.takenBy? index).toList.map Prod.fst).Sublist (handles [entry]) := by
      cases entry with
      | added place handle init =>
        rw [Entry.takenBy?]
        split <;> simp [handles, taken, Entry.taken?]
      | _ => exact List.nil_sublist _
    have kept := (List.filter_sublist (p := fun track => decide (Entry.deleted index track.1 ∉ later))
      (l := (entry.takenBy? index).toList)).map Prod.fst
    rw [standing, List.map_append, show entry :: later = [entry] ++ later from rfl, handles_append]
    exact (kept.trans own).append ih

theorem taken_of_standing (stands : isStanding index handle journal = true) :
    ∃ init, .added index handle init ∈ journal := by
  obtain ⟨init, member⟩ := isStanding_iff.1 stands
  refine ⟨init, ?_⟩
  induction journal with
  | nil => cases member
  | cons entry later ih =>
    rcases List.mem_append.1 member with own | others
    · have found := Option.mem_toList.1 (List.mem_filter.1 own).1
      exact List.mem_cons.2 (.inl (takenBy?_eq_some_iff.1 found).symm)
    · exact List.mem_cons_of_mem _ (ih (isStanding_iff.2 ⟨init, others⟩) others)

theorem mem_handles (added : .added index handle init ∈ journal) : handle ∈ handles journal :=
  List.mem_map.2 ⟨_, mem_taken_iff.2 added, rfl⟩

theorem dead_of_untaken (untaken : handle ∉ handles journal) (index : Nat) :
    isStanding index handle journal = false := by
  rw [← Bool.not_eq_true]
  intro stands
  obtain ⟨init, added⟩ := taken_of_standing stands
  exact untaken (mem_handles added)

/-- While handles are all different, each belongs to one peer connection. -/
theorem owner_unique (distinct : (handles journal).Nodup) {another : TrackInit}
    (first : .added index handle init ∈ journal) (second : .added other handle another ∈ journal) : index = other := by
  have same := List.inj_on_of_nodup_map distinct (mem_taken_iff.2 first) (mem_taken_iff.2 second) rfl
  exact congrArg Prod.fst same

/-- On a track that was never taken nothing comes in. -/
theorem arrived_of_untaken (untaken : handle ∉ handles journal) (index : Nat) : arrived index handle journal = [] := by
  induction journal using List.reverseRecOn with
  | nil => rfl
  | append_singleton journal entry ih =>
    rw [handles_append, List.mem_append, not_or] at untaken
    have dead := dead_of_untaken untaken.1 index
    rw [arrived_concat, ih untaken.1]
    cases entry <;> simp [arrives?, dead]

/-! The number of live tracks. -/

/-- What is gathered from all places grows by as much as at the one place that is different. -/
theorem length_flatMap_moved {α : Type} {first second : Nat → List α} {count : Nat} (within : index < count)
    (same : ∀ other, other ≠ index → first other = second other) :
    ((List.range count).flatMap first).length + (second index).length =
      ((List.range count).flatMap second).length + (first index).length := by
  induction count with
  | zero => cases within
  | succ count ih =>
    simp only [List.range_succ, List.flatMap_append, List.flatMap_singleton, List.length_append]
    by_cases last : index = count
    · have before : (List.range count).flatMap first = (List.range count).flatMap second :=
        List.flatMap_congr fun other member => same other (last ▸ Nat.ne_of_lt (List.mem_range.1 member))
      rw [before, last]
      omega
    · have earlier := ih (by omega)
      rw [same count (Ne.symm last)]
      omega

theorem standingAll_made (bare : standing (made journal) journal = []) :
    standingAll (journal ++ [.made]) = standingAll journal := by
  have still : ∀ index, standing index (journal ++ [.made]) = standing index journal :=
    fun index => standing_still rfl nofun
  have one : made (journal ++ [.made]) = made journal + 1 := made_append _
  simp [standingAll, one, still, List.range_succ, bare]

/-- Where one peer connection alone gains or loses tracks, all of them do by as many. -/
theorem standingAll_moved (within : index < made journal) (unmade : made [entry] = 0)
    (others : ∀ other, other ≠ index → standing other (journal ++ [entry]) = standing other journal) :
    standingAll (journal ++ [entry]) + (standing index journal).length =
      standingAll journal + (standing index (journal ++ [entry])).length := by
  rw [standingAll, standingAll, made_append, unmade, Nat.add_zero]
  exact length_flatMap_moved within others

theorem standingAll_added (within : index < made journal) :
    standingAll (journal ++ [.added index handle init]) = standingAll journal + 1 := by
  have others : ∀ other, other ≠ index → standing other (journal ++ [.added index handle init]) = standing other journal :=
    fun other apart => standing_still (if_neg (Ne.symm apart)) (by simp)
  have moved := standingAll_moved within rfl others
  have own : (standing index (journal ++ [.added index handle init])).length = (standing index journal).length + 1 := by
    simp [standing_concat, Entry.takenBy?]
  omega

/-- Of tracks that are all different a deletion takes one, if it is there. -/
theorem length_without {tracks : List (Handle × TrackInit)} (distinct : (tracks.map Prod.fst).Nodup) (handle : Handle) :
    (tracks.filter fun track => handle ≠ track.1).length + (if (tracks.lookup handle).isSome then 1 else 0) =
      tracks.length := by
  have listed : handle ∈ tracks.map Prod.fst ↔ (tracks.lookup handle).isSome = true := by
    rw [List.lookup_isSome_iff]
    simp
  have own : tracks.countP (fun track => handle = track.1) = if (tracks.lookup handle).isSome then 1 else 0 := by
    have counted := distinct.count (a := handle)
    rw [List.count, List.countP_map, ite_congr (propext listed) (fun _ => rfl) (fun _ => rfl)] at counted
    rw [← counted]
    exact List.countP_congr fun track _ => by
      rw [decide_eq_true_eq, Function.comp_apply, beq_iff_eq, eq_comm]
  rw [← own, ← List.countP_eq_length_filter, Nat.add_comm]
  simpa using (tracks.length_eq_countP_add_countP fun track => decide (handle = track.1)).symm

theorem standingAll_deleted (within : index < made journal) (distinct : (handles journal).Nodup) (handle : Handle) :
    standingAll (journal ++ [.deleted index handle]) + (if isStanding index handle journal then 1 else 0) =
      standingAll journal := by
  have others : ∀ other, other ≠ index → standing other (journal ++ [.deleted index handle]) = standing other journal :=
    fun other apart => standing_still rfl (by simp [Ne.symm apart])
  have moved := standingAll_moved within rfl others
  have own : (standing index (journal ++ [.deleted index handle])).length +
      (if isStanding index handle journal then 1 else 0) = (standing index journal).length := by
    rw [← length_without (distinct.sublist standing_sublist) handle, standing_concat, isStanding]
    simp [Entry.takenBy?]
  omega

/-- An entry that neither makes a peer connection nor takes or deletes a track. -/
theorem standingAll_still (unmade : made [entry] = 0) (none : entry.taken? = none)
    (kept : ∀ index handle, entry ≠ .deleted index handle) :
    standingAll (journal ++ [entry]) = standingAll journal := by
  have untaken : ∀ index, entry.takenBy? index = Option.none := fun index => by
    cases entry with
    | added => cases none
    | _ => rfl
  have still : ∀ index, standing index (journal ++ [entry]) = standing index journal :=
    fun index => standing_still (untaken index) (kept index)
  simp [standingAll, made_append, unmade, still]

end Journal
end WhipWhep.InMemory
