import WhipWhep.Text.Blank
import WhipWhep.Url.Domain.Direction
import WhipWhep.Url.Domain.Joining
import WhipWhep.Url.Domain.Mapping
import WhipWhep.Url.Domain.NormalForm
import WhipWhep.Url.Percent
import WhipWhep.Url.Punycode

/-!
Domains, as lists of labels with points between. A domain may have characters from all over the
world, and is kept in its ASCII form, in lowercase.
-/

namespace WhipWhep.Url

def deniedInHost (c : Char) : Bool :=
  ['\x00', '\t', '\n', '\r', ' ', '#', '/', ':', '<', '>', '?', '@', '[', '\\', ']', '^',
    '|'].contains c

def deniedInDomain (c : Char) : Bool := deniedInHost c || isControl c || c == '%'

namespace Domain

def isBeyondAscii (c : Char) : Bool := 0x80 ≤ c.toNat

def encodedMark : List Char := "xn--".toList

/-- How many characters a label beyond ASCII may have. -/
def maxPlain : Nat := 1000

/-- How many characters the encoded form of a label may have. -/
def maxEncoded : Nat := 2000

/-- The label that is meant by its encoded form. It must be what encoding gives. -/
def decoded? (encoded : List Char) : Option (List Char) :=
  if maxEncoded < encoded.length then none
  else
    (Punycode.decode? encoded).bind fun points =>
      let label := points.map Char.ofNat
      if label.any isBeyondAscii && label.all isPlain && composed label == label &&
        !label.any deniedInDomain && Punycode.encode label == encoded then some label else none

/-- A label beyond ASCII has no mark first, joiners only in their places, and a bounded length. -/
def isLabel (label : List Char) : Bool :=
  !label.any isBeyondAscii ||
    (!label.head?.any Text.isMark && joinersFit label && label.length ≤ maxPlain)

/-- A label as it is meant. -/
def readLabel? (label : List Char) : Option (List Char) := do
  let meant ← match Text.after? encodedMark label with
    | none => some label
    | some encoded => decoded? encoded
  if isLabel meant then some meant else none

def writeLabel (label : List Char) : List Char :=
  if label.any isBeyondAscii then encodedMark ++ Punycode.encode label else label

def labels? (text : List Char) : Option (List (List Char)) := do
  let meant := composed (← text.mapM meaning?).flatten
  if meant.any deniedInDomain then none else (meant.splitOn '.').mapM readLabel?

end Domain

/-- The ASCII form of a domain. -/
def domainText? (text : List Char) : Option (List Char) := do
  let labels ← Domain.labels? text
  if Domain.fitDirections labels then some (['.'].intercalate (labels.map Domain.writeLabel))
  else none

end WhipWhep.Url
