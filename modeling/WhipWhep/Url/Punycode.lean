/-!
Punycode, the form in which a label outside ASCII enters a domain name. The ASCII characters come
first; the others follow as distances, in ascending order of code points, each a numeral in base 36
whose digits have thresholds that adapt to the distances before.
-/

namespace WhipWhep.Url.Punycode

def digit (d : Nat) : Char :=
  if d < 26 then Char.ofNat ('a'.toNat + d) else Char.ofNat ('0'.toNat + (d - 26))

def value? (c : Char) : Option Nat :=
  let lower := c.toLower
  if 'a' ≤ lower && lower ≤ 'z' then some (lower.toNat - 'a'.toNat)
  else if '0' ≤ c && c ≤ '9' then some (c.toNat - '0'.toNat + 26)
  else none

def threshold (weightIndex bias : Nat) : Nat :=
  min 26 (max 1 (36 * (weightIndex + 1) - bias))

def scaleDown (delta : Nat) (steps : Nat) : Nat :=
  if 455 < delta then scaleDown (delta / 35) (steps + 1)
  else 36 * steps + 36 * delta / (delta + 38)
termination_by delta
decreasing_by omega

def adapt (delta count : Nat) (first : Bool) : Nat :=
  let halved := if first then delta / 700 else delta / 2
  scaleDown (halved + halved / count) 0

theorem threshold_bounds (index bias : Nat) :
    1 ≤ threshold index bias ∧ threshold index bias ≤ 26 := by
  unfold threshold
  omega

/-- The digits of a distance, the least significant one first. -/
def numeral (bias distance index : Nat) : List Char :=
  let t := threshold index bias
  if distance < t then [digit distance]
  else digit (t + (distance - t) % (36 - t)) :: numeral bias ((distance - t) / (36 - t)) (index + 1)
termination_by distance
decreasing_by
  have bounds := threshold_bounds index bias
  have quotient := Nat.div_le_self (distance - threshold index bias) (36 - threshold index bias)
  omega

structure Progress where
  delta : Nat
  bias : Nat
  written : Nat
  output : List Char

/-- Goes once through the label and writes the distance to each occurrence of a code point. -/
def passOver (label : List Nat) (basic point : Nat) (progress : Progress) : Progress :=
  label.foldl (fun now c =>
    if c < point then { now with delta := now.delta + 1 }
    else if c = point then
      { delta := 0
        bias := adapt now.delta (now.written + 1) (now.written == basic)
        written := now.written + 1
        output := now.output ++ numeral now.bias now.delta 0 }
    else now) progress

/-- The code points above a bound that occur in a label, ascending and each once. -/
def distinctFrom (bound : Nat) (label : List Nat) : List Nat :=
  ((label.filter fun c => bound ≤ c).mergeSort).eraseDups

def encode (label : List Char) : List Char :=
  let points := label.map Char.toNat
  let basic := label.filter fun c => c.toNat < 0x80
  let start : Progress :=
    { delta := 0
      bias := 72
      written := basic.length
      output := if basic.isEmpty then [] else basic ++ ['-'] }
  let done := (distinctFrom 0x80 points).foldl (fun (last, now) point =>
    let ahead := { now with delta := now.delta + (point - last) * (now.written + 1) }
    let after := passOver points basic.length point ahead
    (point + 1, { after with delta := after.delta + 1 })) (0x80, start)
  done.2.output

/-- Reads one distance; what is left of the digits comes with it. -/
def readNumeral? (bias : Nat) : Nat → Nat → Nat → List Char → Option (Nat × List Char)
  | _, _, _, [] => none
  | index, weight, total, c :: rest => do
    let d ← value? c
    let t := threshold index bias
    let total := total + d * weight
    if d < t then some (total, rest) else readNumeral? bias (index + 1) (weight * (36 - t)) total rest

/-- Puts the characters that the digits tell into the output. Each takes at least one digit. -/
def insertAll? : Nat → (point position bias : Nat) → List Nat → List Char → Option (List Nat)
  | _, _, _, _, output, [] => some output
  | 0, _, _, _, _, _ => none
  | fuel + 1, point, position, bias, output, digits => do
    let (distance, rest) ← readNumeral? bias 0 1 0 digits
    let count := output.length + 1
    let place := position + distance
    let point := point + place / count
    let place := place % count
    if 0x110000 ≤ point then none
    else
      insertAll? fuel point (place + 1) (adapt distance count (output.all fun c => c < 0x80))
        (output.take place ++ point :: output.drop place) rest

/-- The code points that an encoded label stands for. -/
def decode? (text : List Char) : Option (List Nat) :=
  let reversed := text.reverse
  let digits := (reversed.takeWhile (· != '-')).reverse
  let basic := ((reversed.dropWhile (· != '-')).drop 1).reverse
  insertAll? digits.length 0x80 0 72 (basic.map Char.toNat) digits

end WhipWhep.Url.Punycode
