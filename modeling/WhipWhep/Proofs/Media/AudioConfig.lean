import WhipWhep.Media.AudioConfig
import WhipWhep.Proofs.Media.BitFields
import WhipWhep.Proofs.Text.Hex

/-!
Audio configurations, bit by bit. A record is read exactly if it is long enough for what its frequency index asks for,
and then every field is the number that its bits stand for, wherever they lie in the bytes. The whole record goes into
the format parameters, and is found there again behind the name of its parameter.
-/

namespace WhipWhep

namespace AudioConfig

variable {data : Bytes} {config : AudioConfig} {b0 b1 b2 b3 b4 : UInt8} {rest : Bytes}

/-- Records that are long enough, with a frequency index that is in the table or stands for a frequency of its own. -/
def Whole (data : Bytes) : Prop :=
  2 ≤ data.length ∧ (field data 5 8 ≤ 12 ∨ field data 5 8 = 15 ∧ 5 ≤ data.length)

/-- A configuration has in each field what the record has in the bits of that field. -/
structure Spells (data : Bytes) (config : AudioConfig) : Prop where
  raw : config.raw = data
  objectType : config.objectType.toNat = field data 0 4
  index : config.frequencyIndex.toNat = field data 5 8
  listed : field data 5 8 ≤ 12 → frequencies[field data 5 8]? = some config.frequency ∧
    config.channelConfiguration.toNat = field data 9 12
  explicit : field data 5 8 = 15 → config.frequency.toNat = field data 9 32 ∧
    config.channelConfiguration.toNat = field data 33 36

/-! The fields in the bytes. -/

theorem objectType_field (b0 : UInt8) (rest : Bytes) : (b0 >>> 3).toNat = field (b0 :: rest) 0 4 := by
  have small := b0.toNat_lt
  have shifted : (b0 >>> 3).toNat = b0.toNat / 2 ^ 3 := toNat_shiftRight b0 (by decide)
  rw [shifted, field_within (by decide)]
  omega

theorem index_field (b0 b1 : UInt8) (rest : Bytes) :
    (((b0 &&& 0x07) <<< 1) ||| (b1 >>> 7)).toNat = field (b0 :: b1 :: rest) 5 8 := by
  have small := b1.toNat_lt
  have upper : (b0 &&& 0x07).toNat = b0.toNat % 2 ^ 3 := toNat_mask b0 (by decide)
  have raised : ((b0 &&& 0x07) <<< 1).toNat = (b0.toNat % 2 ^ 3) <<< 1 := by
    have room : (b0.toNat % 2 ^ 3) <<< 1 < 2 ^ 8 := by
      rw [Nat.shiftLeft_eq]
      omega
    rw [UInt8.toNat_shiftLeft, upper]
    exact Nat.mod_eq_of_lt room
  have lower : (b1 >>> 7).toNat = b1.toNat / 2 ^ 7 := toNat_shiftRight b1 (by decide)
  have bit : b1.toNat / 2 ^ 7 < 2 ^ 1 := by omega
  have across : field (b0 :: b1 :: rest) 5 8 = b0.toNat % 2 ^ 3 * 2 ^ 1 + field (b1 :: rest) 0 0 :=
    field_across (by decide) (by simp)
  calc (((b0 &&& 0x07) <<< 1) ||| (b1 >>> 7)).toNat
    _ = (b0.toNat % 2 ^ 3) <<< 1 ||| b1.toNat / 2 ^ 7 := by rw [UInt8.toNat_or, raised, lower]
    _ = b0.toNat % 2 ^ 3 * 2 ^ 1 + b1.toNat / 2 ^ 7 := shiftLeft_or _ bit
    _ = b0.toNat % 2 ^ 3 * 2 ^ 1 + field (b1 :: rest) 0 0 := by rw [field_within (by decide), Nat.mod_eq_of_lt bit]
    _ = field (b0 :: b1 :: rest) 5 8 := across.symm

/-- The four bits behind the first one of a byte. -/
theorem channels_field (byte : UInt8) (rest : Bytes) : ((byte >>> 3) &&& 0x0F).toNat = field (byte :: rest) 1 4 := by
  have masked : ((byte >>> 3) &&& 0x0F).toNat = (byte >>> 3).toNat % 2 ^ 4 := toNat_mask _ (by decide)
  have shifted : (byte >>> 3).toNat = byte.toNat / 2 ^ 3 := toNat_shiftRight byte (by decide)
  rw [masked, shifted, field_within (by decide)]

/-- Of the 24 bits of a frequency seven are in one byte, eight in each of the next two, and one in the last. -/
theorem frequency_field (b1 b2 b3 b4 : UInt8) (rest : Bytes) :
    (((b1 &&& 0x7F).toUInt32 <<< 17) ||| (b2.toUInt32 <<< 9) ||| (b3.toUInt32 <<< 1) |||
      (b4 >>> 7).toUInt32).toNat = field (b1 :: b2 :: b3 :: b4 :: rest) 1 24 := by
  have small := b4.toNat_lt
  have bit : b4.toNat / 2 ^ 7 < 2 ^ 1 := by omega
  have masked : (b1 &&& 0x7F).toNat = b1.toNat % 2 ^ 7 := toNat_mask b1 (by decide)
  have first : ((b1 &&& 0x7F).toUInt32 <<< 17).toNat = (b1.toNat % 2 ^ 7) <<< (9 + 8) := by
    rw [← masked]
    exact toNat_shiftLeft _ (by decide)
  have second : (b2.toUInt32 <<< 9).toNat = b2.toNat <<< (1 + 8) := toNat_shiftLeft b2 (by decide)
  have third : (b3.toUInt32 <<< 1).toNat = b3.toNat <<< 1 := toNat_shiftLeft b3 (by decide)
  have last : (b4 >>> 7).toUInt32.toNat = b4.toNat / 2 ^ 7 := by
    rw [UInt8.toNat_toUInt32]
    exact toNat_shiftRight b4 (by decide)
  have joined : (((b1 &&& 0x7F).toUInt32 <<< 17) ||| (b2.toUInt32 <<< 9) ||| (b3.toUInt32 <<< 1) |||
      (b4 >>> 7).toUInt32).toNat =
        ((b1.toNat % 2 ^ 7 * 2 ^ 8 + b2.toNat) * 2 ^ 8 + b3.toNat) * 2 ^ 1 + b4.toNat / 2 ^ 7 := by
    rw [UInt32.toNat_or, UInt32.toNat_or, UInt32.toNat_or, first, second, third, last, shiftLeft_or_byte,
      shiftLeft_or_byte, shiftLeft_or _ bit]
  have one : field (b1 :: b2 :: b3 :: b4 :: rest) 1 24 =
      b1.toNat % 2 ^ 7 * 2 ^ 17 + field (b2 :: b3 :: b4 :: rest) 0 16 := field_across (by decide) (by simp; omega)
  have two : field (b2 :: b3 :: b4 :: rest) 0 16 = b2.toNat % 2 ^ 8 * 2 ^ 9 + field (b3 :: b4 :: rest) 0 8 :=
    field_across (by decide) (by simp)
  have three : field (b3 :: b4 :: rest) 0 8 = b3.toNat % 2 ^ 8 * 2 ^ 1 + field (b4 :: rest) 0 0 :=
    field_across (by decide) (by simp)
  have four : field (b4 :: rest) 0 0 = b4.toNat / 2 ^ 7 % 2 ^ 1 := field_within (by decide)
  rw [joined, one, two, three, four, Nat.mod_eq_of_lt b2.toNat_lt, Nat.mod_eq_of_lt b3.toNat_lt, Nat.mod_eq_of_lt bit]
  ring

/-- The bits 33 to 36 are in the fifth byte. -/
theorem field_fifth (b0 b1 b2 b3 : UInt8) (data : Bytes) :
    field (b0 :: b1 :: b2 :: b3 :: data) 33 36 = field data 1 4 :=
  calc field (b0 :: b1 :: b2 :: b3 :: data) 33 36
    _ = field (b1 :: b2 :: b3 :: data) 25 28 := field_beyond
    _ = field (b2 :: b3 :: data) 17 20 := field_beyond
    _ = field (b3 :: data) 9 12 := field_beyond
    _ = field data 1 4 := field_beyond

/-! Reading a record. -/

/-- A record with its frequency in the table. -/
theorem parse?_listed (b0 b1 : UInt8) (rest : Bytes) (other : field (b0 :: b1 :: rest) 5 8 ≠ 15) :
    parse? (b0 :: b1 :: rest) = frequencies[field (b0 :: b1 :: rest) 5 8]?.map fun frequency =>
      ⟨b0 >>> 3, ((b0 &&& 0x07) <<< 1) ||| (b1 >>> 7), frequency, (b1 >>> 3) &&& 0x0F, b0 :: b1 :: rest⟩ := by
  have index := index_field b0 b1 rest
  have elsewhere : ((b0 &&& 0x07) <<< 1) ||| (b1 >>> 7) ≠ 0x0F := fun same => other (by rw [← index, same]; rfl)
  unfold parse?
  dsimp only
  rw [if_neg elsewhere, index]

theorem escapes (b0 b1 : UInt8) (rest : Bytes) (escape : field (b0 :: b1 :: rest) 5 8 = 15) :
    ((b0 &&& 0x07) <<< 1) ||| (b1 >>> 7) = 0x0F :=
  UInt8.toNat_inj.1 ((index_field b0 b1 rest).trans escape)

/-- What is read is spelt out by a record that is long enough. -/
theorem spells_of_parse? (read : parse? data = some config) : Whole data ∧ Spells data config := by
  match data with
  | [] => cases read
  | [_] => cases read
  | b0 :: b1 :: rest =>
    have index := index_field b0 b1 rest
    by_cases escape : field (b0 :: b1 :: rest) 5 8 = 15
    · have marked := escapes b0 b1 rest escape
      unfold parse? at read
      dsimp only at read
      rw [if_pos marked] at read
      match rest with
      | [] | [_] | [_, _] => cases read
      | b2 :: b3 :: b4 :: rest =>
        cases read
        have long : 5 ≤ (b0 :: b1 :: b2 :: b3 :: b4 :: rest).length := by simp
        have behind : field (b0 :: b1 :: b2 :: b3 :: b4 :: rest) 9 32 = field (b1 :: b2 :: b3 :: b4 :: rest) 1 24 :=
          field_beyond
        have frequency := (frequency_field b1 b2 b3 b4 rest).trans behind.symm
        have channels := (channels_field b4 rest).trans (field_fifth b0 b1 b2 b3 (b4 :: rest)).symm
        exact ⟨⟨by omega, .inr ⟨escape, long⟩⟩, rfl, objectType_field b0 _, index, by omega,
          fun _ => ⟨frequency, channels⟩⟩
    · rw [parse?_listed b0 b1 rest escape] at read
      obtain ⟨frequency, found, rfl⟩ := Option.map_eq_some_iff.1 read
      obtain ⟨within, -⟩ := List.getElem?_eq_some_iff.1 found
      have channels : ((b1 >>> 3) &&& 0x0F).toNat = field (b0 :: b1 :: rest) 9 12 :=
        (channels_field b1 rest).trans field_beyond.symm
      have listed : field (b0 :: b1 :: rest) 5 8 ≤ 12 := Nat.le_of_lt_succ within
      exact ⟨⟨by simp, .inl listed⟩, rfl, objectType_field b0 _, index, fun _ => ⟨found, channels⟩,
        fun same => absurd same escape⟩

/-- A record that is long enough is read. -/
theorem parse?_of_whole (whole : Whole data) : ∃ config, parse? data = some config := by
  obtain ⟨long, frequency⟩ := whole
  match data with
  | [] | [_] => simp at long
  | b0 :: b1 :: rest =>
    rcases frequency with listed | ⟨escape, enough⟩
    · have other : field (b0 :: b1 :: rest) 5 8 ≠ 15 := by omega
      have within : field (b0 :: b1 :: rest) 5 8 < frequencies.length := Nat.lt_succ_of_le listed
      exact ⟨_, by rw [parse?_listed b0 b1 rest other, List.getElem?_eq_getElem within]; rfl⟩
    · match rest with
      | [] | [_] | [_, _] => simp at enough
      | b2 :: b3 :: b4 :: rest =>
        exact ⟨_, if_pos (escapes b0 b1 _ escape)⟩

/-- A record spells one configuration only. -/
theorem Spells.unique {other : AudioConfig} (whole : Whole data) (one : Spells data config)
    (two : Spells data other) : config = other := by
  have raw := one.raw.trans two.raw.symm
  have objectType := UInt8.toNat_inj.1 (one.objectType.trans two.objectType.symm)
  have index := UInt8.toNat_inj.1 (one.index.trans two.index.symm)
  have rest : config.frequency = other.frequency ∧ config.channelConfiguration = other.channelConfiguration := by
    rcases whole.2 with listed | ⟨escape, -⟩
    · obtain ⟨frequency, channels⟩ := one.listed listed
      obtain ⟨again, same⟩ := two.listed listed
      exact ⟨Option.some.inj (frequency.symm.trans again), UInt8.toNat_inj.1 (channels.trans same.symm)⟩
    · obtain ⟨frequency, channels⟩ := one.explicit escape
      obtain ⟨again, same⟩ := two.explicit escape
      exact ⟨UInt32.toNat_inj.1 (frequency.trans again.symm), UInt8.toNat_inj.1 (channels.trans same.symm)⟩
  cases config
  cases other
  simp_all

theorem parse?_eq_some_iff : parse? data = some config ↔ Whole data ∧ Spells data config := by
  constructor
  · exact spells_of_parse?
  · rintro ⟨whole, spells⟩
    obtain ⟨other, read⟩ := parse?_of_whole whole
    rw [read, (spells_of_parse? read).2.unique whole spells]

/-- A frequency that has an index in the table may be spelt out all the same. -/
example : parse? [0x17, 0x80, 0x2E, 0xE0, 0x08] = some ⟨2, 15, 24000, 1, [0x17, 0x80, 0x2E, 0xE0, 0x08]⟩ := by
  decide

/-! The record in the format parameters. -/

/-- Format parameters state some bytes if config= stands in them, and behind it, wherever it stands, nothing but these
bytes in hexadecimal. -/
structure States (format : List Char) (data : Bytes) : Prop where
  present : "config=".toList <:+: format
  decoded : ∀ before text, format = before ++ "config=".toList ++ text → Text.unhex? text = some data

/-- The parameters before the record. -/
def general : List Char :=
  "profile-level-id=1;mode=AAC-hbr;sizelength=13;indexlength=3;indexdeltalength=3;config=".toList

theorem fmtp_eq (config : AudioConfig) : config.fmtp = general ++ Text.hex config.raw := rfl

/-- Before the record config= stands at the end only. -/
theorem config_last {before rest : List Char} (whole : general = before ++ "config=".toList ++ rest) : rest = [] := by
  have places : ∀ count ≤ general.length,
      "config=".toList <+: general.drop count → general.drop count = "config=".toList := by
    decide
  have dropped : general.drop before.length = "config=".toList ++ rest := by
    rw [whole, List.append_assoc, List.drop_left]
  have within : before.length ≤ general.length := by
    rw [whole, List.append_assoc, List.length_append]
    omega
  have alone := places before.length within (dropped ▸ List.prefix_append _ _)
  rw [dropped] at alone
  exact List.append_right_eq_self.1 alone

/-- Within the record it does not stand, since there are only digits. -/
theorem states_fmtp (config : AudioConfig) : States config.fmtp config.raw := by
  have lead : general = "profile-level-id=1;mode=AAC-hbr;sizelength=13;indexlength=3;indexdeltalength=3;".toList ++
      "config=".toList := by decide
  refine ⟨⟨_, Text.hex config.raw, by rw [fmtp_eq, lead]⟩, fun before text whole => ?_⟩
  rw [fmtp_eq] at whole
  rcases List.append_eq_append_iff.1 whole with ⟨more, named, split⟩ | ⟨more, same, rfl⟩
  · rcases more.eq_nil_or_concat with rfl | ⟨digits, c, rfl⟩
    · rw [List.nil_append] at split
      rw [← split, Text.unhex?_hex]
    · have last := congrArg List.getLast? named
      obtain rfl : c = '=' := by simpa using last.symm
      have digit : '=' ∈ Text.hex config.raw := by simp [split]
      obtain ⟨value, wrong⟩ := Text.hexValue?_of_hex digit
      cases wrong
  · rw [config_last same, List.nil_append, Text.unhex?_hex]

end AudioConfig
end WhipWhep
