import WhipWhep.Proofs.Text.Words
import WhipWhep.Text.Decimal

/-!
Numerals that are written are read back as the number, where it is below the bound, and they are made
of digits only. A numeral is read as zero if it is made of zeros.
-/

namespace WhipWhep.Text

theorem isDigit_eq (c : Char) : isDigit c = c.isDigit := by
  simp [isDigit, Char.isDigit, UInt32.le_iff_toNat_le]

theorem digit_of_writeDecimal {n : Nat} {c : Char} (member : c ∈ writeDecimal n) : isDigit c = true := by
  rw [isDigit_eq]
  exact Nat.isDigit_of_mem_toDigits (by decide) (by decide) member

theorem unblank_of_digit {c : Char} (digit : isDigit c = true) : isBlank c = false := by
  have range : 48 ≤ c.toNat ∧ c.toNat ≤ 57 := by simpa [isDigit] using digit
  simp only [isBlank]
  simp
  omega

theorem isWord_writeDecimal (n : Nat) : IsWord (writeDecimal n) :=
  ⟨Nat.toDigits_ne_nil, fun _ member => unblank_of_digit (digit_of_writeDecimal member)⟩

theorem digitValue_digitChar {n : Nat} (small : n < 10) : digitValue n.digitChar = n :=
  Nat.toNat_digitChar_sub_48_of_lt_ten small

theorem valueOfDigits_concat (digits : List Char) (c : Char) :
    valueOfDigits (digits ++ [c]) = 10 * valueOfDigits digits + digitValue c :=
  List.foldl_concat ..

theorem valueOfDigits_writeDecimal (n : Nat) : valueOfDigits (writeDecimal n) = n := by
  induction n using Nat.strong_induction_on with
  | _ n ih =>
    unfold writeDecimal at ih ⊢
    rw [Nat.toDigits_eq_if (by decide)]
    split
    · next small => simpa [valueOfDigits] using digitValue_digitChar small
    · next large =>
      rw [valueOfDigits_concat, ih (n / 10) (by omega), digitValue_digitChar (by omega)]
      omega

theorem readDecimal_writeDecimal {bound n : Nat} (small : n < bound) :
    readDecimal bound (writeDecimal n) = some n := by
  have digits : ∀ c ∈ writeDecimal n, isDigit c = true := fun _ member => digit_of_writeDecimal member
  have some : writeDecimal n ≠ [] := (isWord_writeDecimal n).1
  unfold readDecimal
  split
  · next rest plain =>
    rw [plain] at digits
    cases digits '+' List.mem_cons_self
  · simp [some, List.all_eq_true.2 digits, valueOfDigits_writeDecimal, small]

/-! Numerals that stand for zero. -/

section Zero

variable {digits : List Char}

theorem eq_zero_of_digit {c : Char} (digit : isDigit c = true) (none : digitValue c = 0) : c = '0' := by
  have range : 48 ≤ c.toNat ∧ c.toNat ≤ 57 := by simpa [isDigit] using digit
  have value : c.toNat - 48 = 0 := none
  have same : c.toNat = '0'.toNat := by
    show c.toNat = 48
    omega
  exact Char.toNat_inj.1 same

theorem valueOfDigits_eq_zero_iff (whole : ∀ c ∈ digits, isDigit c = true) :
    valueOfDigits digits = 0 ↔ ∀ c ∈ digits, c = '0' := by
  induction digits using List.reverseRecOn with
  | nil => simp [valueOfDigits]
  | append_singleton digits c ih =>
    obtain ⟨front, last⟩ := List.forall_mem_append.1 whole
    have digit := last c (List.mem_singleton_self c)
    rw [valueOfDigits_concat, List.forall_mem_append, ← ih front]
    constructor
    · intro none
      refine ⟨by omega, fun other same => ?_⟩
      rw [List.mem_singleton.1 same]
      exact eq_zero_of_digit digit (by omega)
    · rintro ⟨none, final⟩
      rw [none, final c (List.mem_singleton_self c)]
      rfl

/-- A numeral that stands for zero: zeros, with a plus sign in front or without. -/
def IsZero (text : List Char) : Prop :=
  ∃ digits, digits ≠ [] ∧ (∀ c ∈ digits, c = '0') ∧ (text = digits ∨ text = '+' :: digits)

/-- Digits stand for zero if they are all zeros. -/
theorem eq_some_zero_iff {bound : Nat} (room : 0 < bound) :
    (if digits.isEmpty || !digits.all isDigit then none
      else if valueOfDigits digits < bound then some (valueOfDigits digits) else none) = some 0 ↔
      digits ≠ [] ∧ ∀ c ∈ digits, c = '0' := by
  constructor
  · intro read
    split at read
    · cases read
    · next well =>
      obtain ⟨full, whole⟩ : digits ≠ [] ∧ ∀ c ∈ digits, isDigit c = true := by simpa using well
      split at read
      · exact ⟨full, (valueOfDigits_eq_zero_iff whole).1 (Option.some.inj read)⟩
      · cases read
  · rintro ⟨full, zeros⟩
    have whole : ∀ c ∈ digits, isDigit c = true := by
      intro c member
      rw [zeros c member]
      rfl
    have none := (valueOfDigits_eq_zero_iff whole).2 zeros
    simp [full, List.all_eq_true.2 whole, none, room]

theorem readDecimal_eq_zero_iff {bound : Nat} {text : List Char} (room : 0 < bound) :
    readDecimal bound text = some 0 ↔ IsZero text := by
  unfold readDecimal IsZero
  split
  · next rest =>
    rw [eq_some_zero_iff room]
    constructor
    · exact fun ⟨full, zeros⟩ => ⟨rest, full, zeros, .inr rfl⟩
    · rintro ⟨digits, full, zeros, rfl | same⟩
      · cases zeros '+' List.mem_cons_self
      · cases same
        exact ⟨full, zeros⟩
  · next unsigned =>
    rw [eq_some_zero_iff room]
    constructor
    · exact fun ⟨full, zeros⟩ => ⟨text, full, zeros, .inl rfl⟩
    · rintro ⟨digits, full, zeros, rfl | signed⟩
      · exact ⟨full, zeros⟩
      · exact absurd signed (unsigned digits)

theorem lt_of_readDecimal {bound value : Nat} {text : List Char} (read : readDecimal bound text = some value) :
    value < bound := by
  unfold readDecimal at read
  extract_lets digits total at read
  split at read
  · cases read
  · split at read
    · next small => exact Option.some.inj read ▸ small
    · cases read

end Zero

end WhipWhep.Text
