import WhipWhep.Proofs.Avc.Pieces

/-!
Units that are written one after the other, each behind a start code, are what the byte stream is
cut into again, if none of them is empty or contains 00 00 01. A unit may begin and end with zeros:
where a unit ends in zeros, the start code after it is found behind them.
-/

namespace WhipWhep.Avc

/-- Pieces are read back if none of them is empty: an empty unit at the end is no unit. -/
theorem units_weave {pieces : List Piece} (full : ∀ piece ∈ pieces, piece.unit ≠ []) (tight : Tight [] pieces) :
    units (weave pieces) = pieces.map Piece.unit := by
  have last : (pieces.map Piece.unit).getLast? ≠ some [] := fun empty => by
    obtain ⟨piece, within, same⟩ := List.mem_map.1 (List.mem_of_getLast? empty)
    exact full piece within same
  have cuts : cut (weave pieces) = ([], pieces.map Piece.unit) := cut_weave tight
  rw [units_eq_kept, cuts]
  exact if_neg last

section Write

variable {us : List Bytes}

theorem write_eq_weave (us : List Bytes) : write us = weave (us.map (Piece.mk .long)) := by
  rw [write, weave, List.flatMap_map]
  rfl

/-- Behind long start codes units may end in zeros. -/
theorem tight_long {lead : Bytes} (clean : ∀ u ∈ lead :: us, ¬ mark <:+: u) :
    Tight lead (us.map (Piece.mk .long)) := by
  induction us generalizing lead with
  | nil => exact .last (clean lead List.mem_cons_self)
  | cons unit us ih =>
    obtain ⟨first, rest⟩ := List.forall_mem_cons.1 clean
    exact .next first nofun (ih rest)

/-- Reading gives back exactly what was written. -/
theorem units_write (full : ∀ u ∈ us, u ≠ []) (clean : ∀ u ∈ us, ¬ mark <:+: u) :
    units (write us) = us := by
  have tight : Tight [] (us.map (Piece.mk .long)) := tight_long (List.forall_mem_cons.2 ⟨by decide, clean⟩)
  rw [write_eq_weave, units_weave (by simpa using full) tight, List.map_map]
  exact List.map_id us

theorem ne_nil_of_typeOf? {unit : Bytes} {kind : UnitType} (typed : typeOf? unit = some kind) :
    unit ≠ [] := by
  rintro rfl
  simp [typeOf?] at typed

theorem head?_write (us : List Bytes) : (write us).head? ≠ some 1 := by
  cases us <;> simp [write, startCode]

/-- Each kind of units is found in the order in which it was written. -/
theorem unitsOf_write (kind : UnitType) (full : ∀ u ∈ us, u ≠ [])
    (clean : ∀ u ∈ us, ¬ mark <:+: u) :
    unitsOf kind (write us) = us.filter fun unit => typeOf? unit = some kind := by
  rw [unitsOf, units_write full clean]

end Write

end WhipWhep.Avc
