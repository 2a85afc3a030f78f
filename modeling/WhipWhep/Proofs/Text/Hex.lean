import WhipWhep.Text.Hex

/-!
Hexadecimal text. What bytes are written as is read back as the same bytes, and there is nothing in it but digits.
-/

namespace WhipWhep.Text

theorem hexValue?_hexDigit (n : Nat) : hexValue? (hexDigit n) = some (n % 16) := by
  have digits : ∀ digit < 16, hexValue? (Nat.digitChar digit) = some digit := by decide
  exact digits (n % 16) (Nat.mod_lt n (by decide))

theorem hexValue?_of_hex {data : Bytes} {c : Char} (member : c ∈ hex data) : ∃ value, hexValue? c = some value := by
  obtain ⟨byte, -, digit⟩ := List.mem_flatMap.1 member
  simp only [hexByte, List.mem_cons, List.not_mem_nil, or_false] at digit
  rcases digit with rfl | rfl <;> exact ⟨_, hexValue?_hexDigit _⟩

theorem unhex?_hex (data : Bytes) : unhex? (hex data) = some data := by
  induction data with
  | nil => rfl
  | cons byte data ih =>
    have small := byte.toNat_lt
    have halves : 16 * (byte.toNat / 16 % 16) + byte.toNat % 16 = byte.toNat := by omega
    have pair : hex (byte :: data) = hexDigit (byte.toNat / 16) :: hexDigit byte.toNat :: hex data := rfl
    simp only [pair, unhex?, hexValue?_hexDigit, ih, halves, UInt8.ofNat_toNat, Option.bind_eq_bind, Option.bind_some]
    rfl

end WhipWhep.Text
