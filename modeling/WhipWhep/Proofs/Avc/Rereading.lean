import Mathlib.Data.List.Chain
import WhipWhep.Proofs.Avc.ParameterSets
import WhipWhep.Proofs.Avc.Splitting

/-!
Units that are written behind start codes and read back. Which start codes they are written behind makes no difference,
as long as a unit that ends in a zero comes before a long one; so the units of a length-prefixed access unit are those
of the byte stream that it becomes, and a keyframe is given parameter sets exactly if it has come without any.
-/

namespace WhipWhep.Avc

section Reading

variable {lead accessUnit stream sets : Bytes} {pieces : List Piece} {us : List Bytes} {size : UInt8} {packet : Packet}

/-- A unit that a short start code follows does not end in a zero. -/
def Piece.Closed (piece next : Piece) : Prop := next.code = .short → piece.unit.getLast? ≠ some 0

instance (piece next : Piece) : Decidable (piece.Closed next) :=
  inferInstanceAs (Decidable (next.code = .short → piece.unit.getLast? ≠ some 0))

theorem tight_of_chain (clean : ∀ unit ∈ lead :: pieces.map Piece.unit, ¬ mark <:+: unit)
    (first : ∀ piece ∈ pieces.head?, piece.code = .short → lead.getLast? ≠ some 0)
    (closed : pieces.IsChain Piece.Closed) : Tight lead pieces := by
  induction pieces generalizing lead with
  | nil => exact .last (clean lead List.mem_cons_self)
  | cons piece pieces ih =>
    obtain ⟨here, later⟩ := List.forall_mem_cons.1 clean
    obtain ⟨next, rest⟩ := List.isChain_cons.1 closed
    exact .next here (first piece rfl) (ih later next rest)

/-- An access unit that consists of units without 00 00 01, and the byte stream that it becomes. -/
structure Converted (accessUnit : Bytes) (size : UInt8) (stream : Bytes) (us : List Bytes) : Prop where
  units : units stream = us
  contains : containsSps stream = true ↔ ∃ unit ∈ us, typeOf? unit = some .sps
  keyframe : ∀ {sets : Bytes} {packet : Packet}, packet.isKeyframe = true → packet.payload = accessUnit →
    Framing.apply ⟨sets, some size⟩ packet = .ok
      { packet with payload := if ∃ unit ∈ us, typeOf? unit = some .sps then stream else sets ++ stream }
  inserted : ∀ {sets : Bytes}, sets ≠ [] →
    (withParameterSets stream sets = sets ++ stream ↔ ∀ unit ∈ us, typeOf? unit ≠ some .sps)

theorem containsSps_of_units (read : units stream = us) :
    containsSps stream = true ↔ ∃ unit ∈ us, typeOf? unit = some .sps := by
  rw [containsSps, read, List.any_eq_true]
  simp only [decide_eq_true_eq]

theorem withParameterSets_of_units (read : units stream = us) (sets : Bytes) :
    withParameterSets stream sets = if ∃ unit ∈ us, typeOf? unit = some .sps then stream else sets ++ stream := by
  have contains := containsSps_of_units read
  split
  · next some => exact withParameterSets_of_contains (contains.2 some)
  · next none =>
    have bare : containsSps stream = false := Bool.eq_false_iff.2 fun found => none (contains.1 found)
    cases sets with
    | nil => rfl
    | cons => simp [withParameterSets, bare]

theorem converted_of_split (accepted : toByteStream? accessUnit size = some stream) (read : units stream = us) :
    Converted accessUnit size stream us where
  units := read
  contains := containsSps_of_units read
  keyframe key same := by
    simp only [Framing.apply, Framing.accessUnit, same, accepted, demand, Except.map, if_pos key,
      withParameterSets_of_units read]
  inserted given := by
    rw [withParameterSets_of_units read]
    split
    · next some =>
      obtain ⟨unit, within, typed⟩ := some
      refine iff_of_false (fun same => given ?_) fun none => none unit within typed
      exact List.self_eq_append_left.1 same
    · next none => exact iff_of_true rfl fun unit within typed => none ⟨unit, within, typed⟩

/-- Units are read back as they were written, behind whichever start codes, if they are not empty, do not contain
00 00 01 and do not end in a zero before a short start code. The units of a length-prefixed access unit, which all come
to stand behind long ones, may end in any zeros. -/
theorem units_reread :
    (∀ {pieces : List Piece}, (∀ piece ∈ pieces, piece.unit ≠ [] ∧ ¬ mark <:+: piece.unit) →
      pieces.IsChain Piece.Closed → units (weave pieces) = pieces.map Piece.unit) ∧
    ∀ {accessUnit stream : Bytes} {size : UInt8}, toByteStream? accessUnit size = some stream →
      ∃ us, Split size.toNat accessUnit us ∧
        ((∀ unit ∈ us, ¬ mark <:+: unit) → Converted accessUnit size stream us) := by
  constructor
  · intro pieces whole closed
    have clean : ∀ unit ∈ [] :: pieces.map Piece.unit, ¬ mark <:+: unit := by
      rw [List.forall_mem_cons, List.forall_mem_map]
      exact ⟨by decide, fun piece within => (whole piece within).2⟩
    exact units_weave (fun piece within => (whole piece within).1) (tight_of_chain clean (fun _ _ _ => nofun) closed)
  · intro accessUnit stream size accepted
    obtain ⟨-, us, split, rfl⟩ := toByteStream?_eq_some_iff.1 accepted
    refine ⟨us, split, fun clean => converted_of_split accepted (units_write ?_ clean)⟩
    exact fun unit within => (split.fits unit within).full

end Reading

namespace Zeros

/-- Units that begin or end with zeros, behind start codes of both sizes. -/
def pieces : List Piece := [⟨.short, [0, 0x09]⟩, ⟨.short, [0x06, 0, 0]⟩, ⟨.long, [0x65, 0x88, 0]⟩]

/-- A keyframe whose units end in zeros, behind lengths of two bytes. -/
def keyframe : Packet := (Packet.make 0 3000 [0, 2, 0x06, 0, 0, 3, 0x65, 0x88, 0]).keyframe

def stream : Bytes := [0, 0, 0, 1, 0x06, 0, 0, 0, 0, 1, 0x65, 0x88, 0]

def sets : Bytes := [0, 0, 0, 1, 0x67, 0x42]

end Zeros

open Zeros in
theorem units_reread_zeros :
    units (weave pieces) = [[0, 0x09], [0x06, 0, 0], [0x65, 0x88, 0]] ∧
      units stream = [[0x06, 0], [0x65, 0x88, 0]] ∧
      Framing.apply ⟨sets, some 2⟩ keyframe = .ok { keyframe with payload := sets ++ stream } := by
  have read : units (weave pieces) = pieces.map Piece.unit := units_reread.1 (by decide) (by decide)
  have accepted : toByteStream? keyframe.payload 2 = some stream := by decide +kernel
  obtain ⟨us, split, converts⟩ := units_reread.2 accepted
  obtain rfl : us = [[0x06, 0], [0x65, 0x88, 0]] := split.unique (split_iff.2 (by decide +kernel))
  have converted := converts (by decide)
  refine ⟨read, converted.units, (converted.keyframe rfl rfl).trans ?_⟩
  rw [if_neg (by decide)]

end WhipWhep.Avc
