/-!
Bytes as pairs of lowercase hexadecimal digits.
-/

namespace WhipWhep

/-- A run of octets: payloads, bodies of requests, codec headers. -/
abbrev Bytes := List UInt8

namespace Text

def hexDigit (n : Nat) : Char := Nat.digitChar (n % 16)

def hexByte (b : UInt8) : List Char := [hexDigit (b.toNat / 16), hexDigit b.toNat]

def hex (bytes : Bytes) : List Char := bytes.flatMap hexByte

/-- Hexadecimal digits of either case. -/
def hexValue? (c : Char) : Option Nat :=
  if '0' ≤ c && c ≤ '9' then some (c.toNat - '0'.toNat)
  else if 'a' ≤ c && c ≤ 'f' then some (c.toNat - 'a'.toNat + 10)
  else if 'A' ≤ c && c ≤ 'F' then some (c.toNat - 'A'.toNat + 10)
  else none

/-- The bytes that pairs of hexadecimal digits stand for; nothing if the text is not made of pairs. -/
def unhex? : List Char → Option Bytes
  | [] => some []
  | high :: low :: rest => do
    let h ← hexValue? high
    let l ← hexValue? low
    let bytes ← unhex? rest
    return UInt8.ofNat (16 * h + l) :: bytes
  | [_] => none

end Text
end WhipWhep
