/-!
Random identifiers: 128 bits written as 32 lowercase hexadecimal digits in groups of 8, 4, 4, 4 and
12, of which the thirteenth digit is 4 and the seventeenth is one of 8, 9, a and b.
-/

namespace WhipWhep.Text

/-- The hexadecimal digits of a number, from the most significant one of `width` digits. -/
def hexDigits : Nat → Nat → List Char
  | 0, _ => []
  | width + 1, n => hexDigits width (n / 16) ++ [Nat.digitChar (n % 16)]

/-- The identifier with the given 122 free bits. -/
def uuid (bits : BitVec 122) : String :=
  let n := bits.toNat
  let low := hexDigits 15 (n % Nat.pow 2 60)
  let variant := Nat.digitChar (8 + n / Nat.pow 2 60 % 4)
  let high := hexDigits 15 (n / Nat.pow 2 62)
  String.ofList (high.take 8 ++ ['-'] ++ (high.drop 8).take 4 ++ ['-', '4'] ++ high.drop 12 ++
    ['-', variant] ++ low.take 3 ++ ['-'] ++ low.drop 3)

/-- Whether a text is an identifier of that form. -/
def isUuid (text : List Char) : Bool :=
  text.length == 36 &&
    text.zipIdx.all fun (c, position) =>
      if [8, 13, 18, 23].contains position then c == '-'
      else if position == 14 then c == '4'
      else if position == 19 then ['8', '9', 'a', 'b'].contains c
      else ('0' ≤ c && c ≤ '9') || ('a' ≤ c && c ≤ 'f')

end WhipWhep.Text
