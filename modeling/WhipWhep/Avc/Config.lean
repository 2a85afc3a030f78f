import WhipWhep.Avc.LengthPrefixed

/-!
The configuration of an H.264 decoder. It comes as a record (version 1, profile, compatibility,
level, size of the length prefixes, sequence and picture parameter sets), or as a byte stream of
parameter sets.
-/

namespace WhipWhep

structure AvcConfig where
  profile : UInt8
  compatibility : UInt8
  level : UInt8
  sps : List Bytes
  pps : List Bytes
  /-- The size of the length prefixes of access units; none if they are byte streams. -/
  lengthSize : Option UInt8
  deriving DecidableEq

namespace AvcConfig

/-- Units that each stand behind a length of two bytes, and what follows the last. -/
def readSets? : Nat → Bytes → Option (List Bytes × Bytes)
  | 0, bytes => some ([], bytes)
  | count + 1, high :: low :: tail =>
    let length := Avc.bigEndian [high, low]
    if tail.length < length then none
    else
      (readSets? count (tail.drop length)).map fun (sets, rest) => (tail.take length :: sets, rest)
  | _ + 1, _ => none

def ofRecord? : Bytes → Option AvcConfig
  | version :: profile :: compatibility :: level :: sizes :: count :: rest =>
    if version = 1 then
      (readSets? (count &&& 0x1F).toNat rest).bind fun
        | (_, []) => none
        | (sps, count :: rest) =>
          (readSets? count.toNat rest).map fun (pps, _) =>
            ⟨profile, compatibility, level, sps, pps, some ((sizes &&& 0x03) + 1)⟩
    else none
  | _ => none

/-- Profile, compatibility and level stand behind the first byte of the first sequence parameter
set. -/
def ofByteStream? (stream : Bytes) : Option AvcConfig :=
  let sps := Avc.unitsOf .sps stream
  match sps with
  | (_ :: profile :: compatibility :: level :: _) :: _ =>
    some ⟨profile, compatibility, level, sps, Avc.unitsOf .pps stream, none⟩
  | _ => none

/-- A record starts with its version; no byte stream starts with 1. -/
def ofExtradata? (extradata : Bytes) : Option AvcConfig :=
  if extradata.head? = some 1 then ofRecord? extradata else ofByteStream? extradata

/-- The parameter sets as a byte stream. -/
def parameterSets (config : AvcConfig) : Bytes :=
  Avc.write (config.sps ++ config.pps)

def profileLevelId (config : AvcConfig) : List Char :=
  Text.hex [config.profile, config.compatibility, config.level]

end AvcConfig
end WhipWhep
