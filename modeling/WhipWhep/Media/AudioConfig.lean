import WhipWhep.Text.Hex

/-!
The configuration of an AAC decoder, a record of bit fields: five bits of object type, four bits of
frequency index, 24 bits of frequency if the index is 15, and four bits of channel configuration.
The format parameters of a stream carry the record in hexadecimal.
-/

namespace WhipWhep

structure AudioConfig where
  objectType : UInt8
  frequencyIndex : UInt8
  frequency : UInt32
  channelConfiguration : UInt8
  raw : Bytes
  deriving DecidableEq

namespace AudioConfig

/-- The sampling frequencies that have an index of their own. -/
def frequencies : List UInt32 :=
  [96000, 88200, 64000, 48000, 44100, 32000, 24000, 22050, 16000, 12000, 11025, 8000, 7350]

def parse? (data : Bytes) : Option AudioConfig :=
  match data with
  | b0 :: b1 :: rest =>
    let objectType := b0 >>> 3
    let index := ((b0 &&& 0x07) <<< 1) ||| (b1 >>> 7)
    if index = 0x0F then
      match rest with
      | b2 :: b3 :: b4 :: _ =>
        let frequency := ((b1 &&& 0x7F).toUInt32 <<< 17) ||| (b2.toUInt32 <<< 9) |||
          (b3.toUInt32 <<< 1) ||| (b4 >>> 7).toUInt32
        some ⟨objectType, index, frequency, (b4 >>> 3) &&& 0x0F, data⟩
      | _ => none
    else
      frequencies[index.toNat]?.map fun frequency =>
        ⟨objectType, index, frequency, (b1 >>> 3) &&& 0x0F, data⟩
  | _ => none

/-- The number of channels, or 0 if the stream itself defines it. -/
def channels (config : AudioConfig) : UInt8 :=
  if 1 ≤ config.channelConfiguration ∧ config.channelConfiguration ≤ 6 then
    config.channelConfiguration
  else if config.channelConfiguration = 7 then 8
  else 0

def hex (config : AudioConfig) : List Char := Text.hex config.raw

/-- The format parameters of the payload format. -/
def fmtp (config : AudioConfig) : List Char :=
  "profile-level-id=1;mode=AAC-hbr;sizelength=13;indexlength=3;indexdeltalength=3;config=".toList ++
    config.hex

end AudioConfig
end WhipWhep
