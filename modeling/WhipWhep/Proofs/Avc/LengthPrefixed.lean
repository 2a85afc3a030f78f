import Mathlib.Algebra.Group.Nat.Defs
import Mathlib.Data.List.Induction
import WhipWhep.Avc.LengthPrefixed

/-!
Writing length-prefixed access units. A length that fits the prefixes is read back as it was
written, and so are the units of an access unit, as long as none of them is empty. Nothing else is
read: what is split into units was written from them.
-/

namespace WhipWhep.Avc

/-- The lowest bytes of a number, the highest of them first. -/
def toBigEndian : Nat → Nat → Bytes
  | 0, _ => []
  | size + 1, value => toBigEndian size (value / 256) ++ [UInt8.ofNat value]

/-- Units written one after the other, each behind its length. -/
def prefixed (size : Nat) (units : List Bytes) : Bytes :=
  units.flatMap fun unit => toBigEndian size unit.length ++ unit

/-- A unit whose length can stand in a prefix. -/
structure Fits (size : Nat) (unit : Bytes) : Prop where
  full : unit ≠ []
  short : unit.length < 256 ^ size

variable {size value : Nat} {unit bytes rest : Bytes} {units : List Bytes}

@[simp] theorem length_toBigEndian : (toBigEndian size value).length = size := by
  induction size generalizing value with
  | zero => rfl
  | succ size ih => simp [toBigEndian, ih]

theorem bigEndian_concat (bytes : Bytes) (b : UInt8) :
    bigEndian (bytes ++ [b]) = 256 * bigEndian bytes + b.toNat := by
  simp [bigEndian]

/-- A number that fits is read back. -/
theorem bigEndian_toBigEndian (short : value < 256 ^ size) :
    bigEndian (toBigEndian size value) = value := by
  induction size generalizing value with
  | zero =>
    have none : value = 0 := by simpa using short
    exact none.symm
  | succ size ih =>
    have above : value / 256 < 256 ^ size := by
      rw [Nat.pow_succ] at short
      exact Nat.div_lt_of_lt_mul (Nat.mul_comm .. ▸ short)
    have low : (UInt8.ofNat value).toNat = value % 256 := by simp
    rw [toBigEndian, bigEndian_concat, ih above, low]
    omega

theorem bigEndian_lt (bytes : Bytes) : bigEndian bytes < 256 ^ bytes.length := by
  induction bytes using List.reverseRecOn with
  | nil => decide
  | append_singleton bytes b ih =>
    have low := b.toNat_lt
    rw [bigEndian_concat, List.length_append, List.length_singleton, Nat.pow_succ]
    omega

/-- Bytes are those of the number that they are read as. -/
theorem toBigEndian_bigEndian (bytes : Bytes) : toBigEndian bytes.length (bigEndian bytes) = bytes := by
  induction bytes using List.reverseRecOn with
  | nil => rfl
  | append_singleton bytes b ih =>
    have low := b.toNat_lt
    have above : (256 * bigEndian bytes + b.toNat) / 256 = bigEndian bytes := by omega
    have last : UInt8.ofNat (256 * bigEndian bytes + b.toNat) = b := by
      apply UInt8.toNat.inj
      rw [UInt8.toNat_ofNat']
      omega
    rw [bigEndian_concat, List.length_append, List.length_singleton, toBigEndian, above, ih, last]

theorem prefixed_cons (unit : Bytes) (units : List Bytes) :
    prefixed size (unit :: units) = toBigEndian size unit.length ++ (unit ++ prefixed size units) := by
  simp [prefixed]

/-- The first unit is cut off where its length says. -/
theorem firstUnit?_append (fits : Fits size unit) :
    firstUnit? size (toBigEndian size unit.length ++ (unit ++ rest)) = some (unit, rest) := by
  have lead : (toBigEndian size unit.length ++ (unit ++ rest)).take size =
      toBigEndian size unit.length := List.take_left' length_toBigEndian
  have tail : (toBigEndian size unit.length ++ (unit ++ rest)).drop size = unit ++ rest :=
    List.drop_left' length_toBigEndian
  have full : unit.length ≠ 0 := fun empty => fits.full (List.length_eq_zero_iff.1 empty)
  simp [firstUnit?, lead, tail, bigEndian_toBigEndian fits.short, full]

theorem splitUnits?_nil : splitUnits? size [] = some [] := by
  rw [splitUnits?, List.isEmpty_nil, if_pos rfl]

theorem splitUnits?_of_ne_nil (present : bytes ≠ []) :
    splitUnits? size bytes =
      (firstUnit? size bytes).bind fun (unit, rest) => (splitUnits? size rest).map (unit :: ·) := by
  have full : bytes.isEmpty = false := by simpa using present
  rw [splitUnits?, full]
  simp only [Bool.false_eq_true, if_false]
  split
  · next missing => rw [missing]; rfl
  · next found => rw [found]; rfl

/-- An access unit is split into the units it was written from. -/
theorem splitUnits?_prefixed (fits : ∀ unit ∈ units, Fits size unit) :
    splitUnits? size (prefixed size units) = some units := by
  induction units with
  | nil => exact splitUnits?_nil
  | cons unit units ih =>
    obtain ⟨first, others⟩ := List.forall_mem_cons.1 fits
    have present : toBigEndian size unit.length ++ (unit ++ prefixed size units) ≠ [] := by simp [first.full]
    rw [prefixed_cons, splitUnits?_of_ne_nil present, firstUnit?_append first, Option.bind_some]
    dsimp only
    rw [ih others, Option.map_some]

/-- What is cut off as the first unit was written as one. -/
theorem firstUnit?_eq_some_iff :
    firstUnit? size bytes = some (unit, rest) ↔
      Fits size unit ∧ bytes = toBigEndian size unit.length ++ (unit ++ rest) := by
  constructor
  · intro found
    unfold firstUnit? at found
    simp only [] at found
    split at found
    · cases found
    · next fits =>
      obtain ⟨rfl, rfl⟩ := Prod.mk.inj (Option.some.inj found)
      simp only [not_or, Nat.not_lt] at fits
      obtain ⟨wide, full, long⟩ := fits
      have lead : (bytes.take size).length = size := Nat.le_antisymm (List.length_take_le _ _) wide
      have whole : ((bytes.drop size).take (bigEndian (bytes.take size))).length = bigEndian (bytes.take size) :=
        Nat.le_antisymm (List.length_take_le _ _) long
      have short := bigEndian_lt (bytes.take size)
      have written := toBigEndian_bigEndian (bytes.take size)
      rw [lead] at short written
      refine ⟨⟨fun none => full ?_, Nat.lt_of_le_of_lt (List.length_take_le _ _) short⟩, ?_⟩
      · rw [← whole, none, List.length_nil]
      · rw [whole, written, List.take_append_drop, List.take_append_drop]
  · rintro ⟨fits, rfl⟩
    exact firstUnit?_append fits

/-- An access unit is split exactly into the units that it was written from. -/
theorem splitUnits?_eq_some_iff :
    splitUnits? size bytes = some units ↔ (∀ unit ∈ units, Fits size unit) ∧ bytes = prefixed size units := by
  constructor
  · intro split
    induction units generalizing bytes with
    | nil =>
      refine ⟨List.forall_mem_nil _, ?_⟩
      by_contra present
      rw [splitUnits?_of_ne_nil present] at split
      obtain ⟨_, -, rest⟩ := Option.bind_eq_some_iff.1 split
      simp at rest
    | cons unit units ih =>
      have present : bytes ≠ [] := by
        rintro rfl
        rw [splitUnits?_nil] at split
        cases split
      rw [splitUnits?_of_ne_nil present] at split
      obtain ⟨⟨first, rest⟩, found, others⟩ := Option.bind_eq_some_iff.1 split
      obtain ⟨_, later, same⟩ := Option.map_eq_some_iff.1 others
      obtain ⟨rfl, rfl⟩ := List.cons.inj same
      obtain ⟨fits, rfl⟩ := firstUnit?_eq_some_iff.1 found
      obtain ⟨all, rfl⟩ := ih later
      exact ⟨List.forall_mem_cons.2 ⟨fits, all⟩, (prefixed_cons _ _).symm⟩
  · rintro ⟨fits, rfl⟩
    exact splitUnits?_prefixed fits

end WhipWhep.Avc
