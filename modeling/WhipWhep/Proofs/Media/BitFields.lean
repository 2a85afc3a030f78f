import Mathlib.Algebra.Order.Ring.Nat
import Mathlib.Data.Nat.Bitwise
import Mathlib.Tactic.Ring
import WhipWhep.Text.Hex

/-!
Records of bit fields. The bits of some bytes are counted from the highest one of the first byte on, and a field is the
number that the bits from one place to another stand for. It lies within the first byte, behind it, or across its end,
and that is where shifts and masks find it.
-/

namespace WhipWhep

/-- The number that bits stand for, the highest bit first. -/
def number : List Bool → Nat
  | [] => 0
  | bit :: rest => bit.toNat * 2 ^ rest.length + number rest

/-- The bits of a byte, the highest first. -/
def octet (byte : UInt8) : List Bool := (List.range 8).reverse.map byte.toNat.testBit

def bits (data : Bytes) : List Bool := data.flatMap octet

/-- The field from a first to a last bit. Bits that are not there count for nothing. -/
def field (data : Bytes) (first last : Nat) : Nat := number (((bits data).take (last + 1)).drop first)

section Numbers

theorem number_append (high low : List Bool) : number (high ++ low) = number high * 2 ^ low.length + number low := by
  induction high with
  | nil => simp [number]
  | cons bit high ih =>
    rw [List.cons_append, number, number, ih, List.length_append]
    ring

theorem number_lt (bits : List Bool) : number bits < 2 ^ bits.length := by
  induction bits with
  | nil => exact Nat.one_pos
  | cons bit bits ih =>
    rw [number, List.length_cons, pow_succ]
    cases bit <;> simp <;> omega

theorem number_cut (bits : List Bool) (count : Nat) :
    number bits = number (bits.take count) * 2 ^ (bits.length - count) + number (bits.drop count) := by
  rw [← List.length_drop, ← number_append, List.take_append_drop]

/-- The upper bits are what is left when the lower ones are shifted out. -/
theorem number_take (bits : List Bool) (count : Nat) :
    number (bits.take count) = number bits / 2 ^ (bits.length - count) := by
  have low := number_lt (bits.drop count)
  rw [List.length_drop] at low
  rw [number_cut bits count, Nat.mul_comm, Nat.mul_add_div (Nat.two_pow_pos _), Nat.div_eq_of_lt low, Nat.add_zero]

/-- The lower bits are what is left when the upper ones are masked out. -/
theorem number_drop (bits : List Bool) (count : Nat) :
    number (bits.drop count) = number bits % 2 ^ (bits.length - count) := by
  have low := number_lt (bits.drop count)
  rw [List.length_drop] at low
  rw [number_cut bits count, Nat.mul_comm, Nat.mul_add_mod, Nat.mod_eq_of_lt low]

theorem number_testBits (value count : Nat) :
    number ((List.range count).reverse.map value.testBit) = value % 2 ^ count := by
  induction count with
  | zero => simp [number, Nat.mod_one]
  | succ count ih =>
    rw [List.range_succ, List.reverse_append, List.reverse_singleton, List.singleton_append, List.map_cons, number, ih,
      List.length_map, List.length_reverse, List.length_range, Nat.toNat_testBit, Nat.mod_pow_succ]
    ring

end Numbers

section Fields

variable {byte : UInt8} {data : Bytes} {first last : Nat}

theorem length_octet (byte : UInt8) : (octet byte).length = 8 := rfl

theorem number_octet (byte : UInt8) : number (octet byte) = byte.toNat := by
  rw [octet, number_testBits, Nat.mod_eq_of_lt byte.toNat_lt]

theorem length_bits (data : Bytes) : (bits data).length = 8 * data.length := by
  induction data with
  | nil => rfl
  | cons byte data ih =>
    rw [bits, List.flatMap_cons, List.length_append, ← bits, ih, length_octet, List.length_cons]
    omega

theorem field_cons (byte : UInt8) (data : Bytes) (first last : Nat) :
    field (byte :: data) first last = number (((octet byte ++ bits data).take (last + 1)).drop first) := rfl

/-- Bits from the second byte on have all of the first byte before them. -/
theorem take_beyond (byte : UInt8) (rest : List Bool) (last : Nat) :
    (octet byte ++ rest).take (last + 8 + 1) = octet byte ++ rest.take (last + 1) := by
  have places : last + 8 + 1 = (octet byte).length + (last + 1) := by
    rw [length_octet]
    omega
  rw [places, List.take_length_add_append]

/-- A field of the first byte is shifted to its end, and what is above it is masked out. -/
theorem field_within (inside : last < 8) :
    field (byte :: data) first last = byte.toNat / 2 ^ (7 - last) % 2 ^ (last + 1 - first) := by
  have upper : (octet byte ++ bits data).take (last + 1) = (octet byte).take (last + 1) :=
    List.take_append_of_le_length inside
  have places : 8 - (last + 1) = 7 - last := by omega
  have size : ((octet byte).take (last + 1)).length = last + 1 := by
    rw [List.length_take, length_octet]
    omega
  rw [field_cons, upper, number_drop, number_take, size, number_octet, length_octet, places]

theorem field_beyond : field (byte :: data) (first + 8) (last + 8) = field data first last := by
  have behind : (octet byte ++ (bits data).take (last + 1)).drop ((octet byte).length + first) =
      ((bits data).take (last + 1)).drop first := List.drop_length_add_append first
  rw [length_octet, Nat.add_comm] at behind
  rw [field_cons, take_beyond, behind]
  rfl

/-- A field that begins in the first byte and ends behind it is put together from the two parts. -/
theorem field_across (begins : first < 8) (present : last < 8 * data.length) :
    field (byte :: data) first (last + 8) = byte.toNat % 2 ^ (8 - first) * 2 ^ (last + 1) + field data 0 last := by
  have behind : (octet byte ++ (bits data).take (last + 1)).drop first =
      (octet byte).drop first ++ (bits data).take (last + 1) :=
    List.drop_append_of_le_length (Nat.le_of_lt begins)
  have size : ((bits data).take (last + 1)).length = last + 1 := by
    rw [List.length_take, length_bits]
    omega
  rw [field_cons, take_beyond, behind, number_append, number_drop, number_octet, length_octet, size]
  rfl

end Fields

/-! Shifts and masks as the code of the fields has them. -/

section Shifts

variable {count : Nat} {low : Nat}

theorem toNat_shiftRight {count : UInt8} (byte : UInt8) (within : count.toNat < 8) :
    (byte >>> count).toNat = byte.toNat / 2 ^ count.toNat := by
  rw [UInt8.toNat_shiftRight, Nat.mod_eq_of_lt within, Nat.shiftRight_eq_div_pow]

theorem toNat_mask {mask : UInt8} (byte : UInt8) (ones : mask.toNat = 2 ^ count - 1) :
    (byte &&& mask).toNat = byte.toNat % 2 ^ count := by
  rw [UInt8.toNat_and, ones, Nat.and_two_pow_sub_one_eq_mod]

/-- A byte that is shifted up within a word loses nothing. -/
theorem toNat_shiftLeft {count : UInt32} (byte : UInt8) (room : count.toNat ≤ 24) :
    (byte.toUInt32 <<< count).toNat = byte.toNat <<< count.toNat := by
  have small : byte.toNat <<< count.toNat < 2 ^ 32 := by
    rw [Nat.shiftLeft_eq]
    calc byte.toNat * 2 ^ count.toNat
      _ < 2 ^ 8 * 2 ^ count.toNat := Nat.mul_lt_mul_of_pos_right byte.toNat_lt (Nat.two_pow_pos _)
      _ ≤ 2 ^ 8 * 2 ^ 24 := Nat.mul_le_mul_left _ (Nat.pow_le_pow_right (by decide) room)
  rw [UInt32.toNat_shiftLeft, UInt8.toNat_toUInt32, Nat.mod_eq_of_lt (by omega : count.toNat < 32),
    Nat.mod_eq_of_lt small]

/-- Numbers that share no bits are put together by adding them. -/
theorem shiftLeft_or (high : Nat) (small : low < 2 ^ count) : high <<< count ||| low = high * 2 ^ count + low := by
  rw [← Nat.shiftLeft_add_eq_or_of_lt small, Nat.shiftLeft_eq]

/-- A byte right below a number, where both are shifted up. -/
theorem shiftLeft_or_byte (high : Nat) (byte : UInt8) :
    high <<< (count + 8) ||| byte.toNat <<< count = (high * 2 ^ 8 + byte.toNat) <<< count := by
  rw [← shiftLeft_or high byte.toNat_lt, Nat.shiftLeft_or_distrib, ← Nat.shiftLeft_add, Nat.add_comm]

end Shifts

end WhipWhep
