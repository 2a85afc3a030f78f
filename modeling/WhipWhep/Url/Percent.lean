import WhipWhep.Text.Hex

/-!
Percent-encoding. Every part of a URL has its own set of ASCII characters that must not stand for
themselves; characters outside ASCII never do.
-/

namespace WhipWhep.Url

def isControl (c : Char) : Bool := c.toNat < 0x20 || c.toNat == 0x7F

def fragmentSet (c : Char) : Bool :=
  isControl c || [' ', '"', '<', '>', '\x60'].contains c

def querySet (c : Char) : Bool :=
  isControl c || [' ', '"', '#', '<', '>'].contains c

/-- Queries of the schemes that browsers know also leave out the apostrophe. -/
def specialQuerySet (c : Char) : Bool := querySet c || c == '\x27'

def pathSet (c : Char) : Bool :=
  fragmentSet c || ['#', '?', '\x7b', '\x7d'].contains c

def userinfoSet (c : Char) : Bool :=
  pathSet c || ['/', ':', ';', '=', '@', '[', '\\', ']', '^', '|'].contains c

def percentByte (b : UInt8) : List Char :=
  '%' :: (Text.hexByte b).map Char.toUpper

def percentEncode (reserved : Char → Bool) (text : List Char) : List Char :=
  text.flatMap fun c =>
    if reserved c || 0x80 ≤ c.toNat then (String.utf8EncodeChar c).flatMap percentByte else [c]

/-- The bytes of a text, each triple of a percent sign and two hexadecimal digits taken as one. -/
def percentDecode : Bytes → Bytes
  | 0x25 :: high :: low :: rest =>
    match Text.hexValue? (Char.ofNat high.toNat), Text.hexValue? (Char.ofNat low.toNat) with
    | some h, some l => UInt8.ofNat (16 * h + l) :: percentDecode rest
    | _, _ => 0x25 :: percentDecode (high :: low :: rest)
  | b :: rest => b :: percentDecode rest
  | [] => []

end WhipWhep.Url
