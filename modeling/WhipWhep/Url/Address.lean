import WhipWhep.Text.Decimal
import WhipWhep.Text.Hex
import WhipWhep.Url.Error

/-!
Numeric addresses of hosts. An IPv4 address has up to four parts in base 8, 10 or 16, of which the
last one fills all the bytes that are left. An IPv6 address has eight pieces of 16 bits; the longest
run of at least two zero pieces is left out when it is written.
-/

namespace WhipWhep.Url

/-- A number in the given base, if all its digits belong to that base. -/
def readBase? (base : Nat) (digits : List Char) : Option Nat :=
  digits.foldlM (fun value c => do
    let d ← Text.hexValue? c
    if d < base then some (base * value + d) else none) 0

/-- One part of an IPv4 address. -/
def ipv4Part? : List Char → Option Nat
  | [] => none
  | '0' :: 'x' :: rest => readBase? 16 rest
  | '0' :: 'X' :: rest => readBase? 16 rest
  | '0' :: c :: rest => readBase? 8 (c :: rest)
  | digits => readBase? 10 digits

/-- The labels of a domain without the empty one that a final point leaves. -/
def addressParts (domain : List Char) : List (List Char) :=
  let parts := domain.splitOn '.'
  if parts.getLast? = some [] then parts.dropLast else parts

/-- Whether a domain ends in a number, and so has to be an IPv4 address. -/
def endsInNumber (domain : List Char) : Bool :=
  match (addressParts domain).getLast? with
  | none => false
  | some part => (!part.isEmpty && part.all Text.isDigit) || (ipv4Part? part).isSome

def ipv4? (domain : List Char) : Except UrlError Nat :=
  let parts := addressParts domain
  match parts.mapM ipv4Part? with
  | none => .error .invalidIpv4
  | some numbers =>
    match numbers.getLast? with
    | none => .error .invalidIpv4
    | some last =>
      let leading := numbers.dropLast
      if 4 < numbers.length || leading.any (255 < ·) || Nat.pow 256 (4 - leading.length) ≤ last then
        .error .invalidIpv4
      else
        .ok (leading.zipIdx.foldl (fun total (n, i) => total + n * Nat.pow 256 (3 - i)) last)

def ipv4Text (address : Nat) : List Char :=
  ['.'].intercalate ([3, 2, 1, 0].map fun i => Text.writeDecimal (address / Nat.pow 256 i % 256))

/-- One piece of an IPv6 address: one to four hexadecimal digits. -/
def ipv6Piece? (text : List Char) : Option Nat :=
  if text.isEmpty || 4 < text.length then none else readBase? 16 text

/-- A byte of an IPv4 address at the end of an IPv6 address. -/
def tailByte? (text : List Char) : Option Nat :=
  if text.isEmpty || (1 < text.length && text.head? = some '0') || !text.all Text.isDigit then none
  else
    let value := Text.valueOfDigits text
    if value < 256 then some value else none

/-- Two pieces, written as an IPv4 address. -/
def ipv4Tail? (text : List Char) : Option (List Nat) :=
  match (text.splitOn '.').mapM tailByte? with
  | some [a, b, c, d] => some [256 * a + b, 256 * c + d]
  | _ => none

/-- Pieces with colons between. Only the last may be written as an IPv4 address. -/
def ipv6Pieces? : List (List Char) → Option (List Nat)
  | [] => some []
  | [last] => (ipv6Piece? last).map ([·]) <|> ipv4Tail? last
  | piece :: rest => do return (← ipv6Piece? piece) :: (← ipv6Pieces? rest)

/-- The texts before and after the first pair of colons. -/
def splitColons : List Char → Option (List Char × List Char)
  | [] => none
  | ':' :: ':' :: rest => some ([], rest)
  | c :: rest => (splitColons rest).map fun (before, after) => (c :: before, after)

def piecesOf? (text : List Char) : Option (List Nat) :=
  if text.isEmpty then some [] else ipv6Pieces? (text.splitOn ':')

def ipv6? (text : List Char) : Option (List Nat) :=
  match splitColons text with
  | none => (piecesOf? text).bind fun pieces => if pieces.length = 8 then some pieces else none
  | some (before, after) => do
    let front ← if before.isEmpty then some [] else (before.splitOn ':').mapM ipv6Piece?
    let back ← piecesOf? after
    let given := front.length + back.length
    if given ≤ 7 then some (front ++ List.replicate (8 - given) 0 ++ back) else none

/-- Start and length of the longest run of zeros, the first of several. -/
def longestZeros (pieces : List Nat) : Nat × Nat :=
  (List.range pieces.length).foldl (fun (start, size) i =>
    let run := ((pieces.drop i).takeWhile (· == 0)).length
    if size < run then (i, run) else (start, size)) (0, 0)

def ipv6Text (pieces : List Nat) : List Char :=
  let written (pieces : List Nat) : List Char := [':'].intercalate (pieces.map (Nat.toDigits 16))
  let (start, size) := longestZeros pieces
  if size < 2 then written pieces
  else written (pieces.take start) ++ [':', ':'] ++ written (pieces.drop (start + size))

end WhipWhep.Url
