/-!
Numerals in base ten. Reading takes one plus sign and any number of leading zeros, and refuses a
number that is not below the given bound.
-/

namespace WhipWhep.Text

def digitValue (c : Char) : Nat := c.toNat - '0'.toNat

def isDigit (c : Char) : Bool := '0'.toNat ≤ c.toNat && c.toNat ≤ '9'.toNat

def valueOfDigits (digits : List Char) : Nat :=
  digits.foldl (fun value digit => 10 * value + digitValue digit) 0

def readDecimal (bound : Nat) (text : List Char) : Option Nat :=
  let digits := match text with
    | '+' :: rest => rest
    | _ => text
  if digits.isEmpty || !digits.all isDigit then none
  else
    let value := valueOfDigits digits
    if value < bound then some value else none

def writeDecimal (n : Nat) : List Char := Nat.toDigits 10 n

/-- The digits of a number, padded with zeros on the left. -/
def padDecimal (width n : Nat) : List Char :=
  let digits := writeDecimal n
  List.replicate (width - digits.length) '0' ++ digits

end WhipWhep.Text
