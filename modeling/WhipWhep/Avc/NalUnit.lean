import WhipWhep.Text.Hex

/-!
The units of an H.264 stream. The low five bits of a unit's first byte tell its type.
-/

namespace WhipWhep.Avc

inductive UnitType where
  | slice
  | idr
  | sei
  | sps
  | pps
  | aud
  deriving DecidableEq

namespace UnitType

def name : UnitType → String
  | slice => "Slice"
  | idr => "Idr"
  | sei => "Sei"
  | sps => "Sps"
  | pps => "Pps"
  | aud => "Aud"

def ofByte? (b : UInt8) : Option UnitType :=
  match (b &&& 0x1F).toNat with
  | 1 => some slice
  | 5 => some idr
  | 6 => some sei
  | 7 => some sps
  | 8 => some pps
  | 9 => some aud
  | _ => none

def isParameterSet : UnitType → Bool
  | sps | pps => true
  | _ => false

end UnitType

def typeOf? (unit : Bytes) : Option UnitType :=
  unit.head?.bind UnitType.ofByte?

end WhipWhep.Avc
