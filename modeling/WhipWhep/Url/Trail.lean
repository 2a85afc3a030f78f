import WhipWhep.Url.Basic

/-!
Paths as they are read, part by part. A point stands for the place itself, and two points for the
place above. In the path of a file the first segment may name a drive, which no points lead out of.
-/

namespace WhipWhep.Url

def isAsciiLetter (c : Char) : Bool :=
  ('a' ≤ c && c ≤ 'z') || ('A' ≤ c && c ≤ 'Z')

def isSingleDot (part : List Char) : Bool :=
  [".".toList, "%2e".toList].contains (part.map Char.toLower)

def isDoubleDot (part : List Char) : Bool :=
  ["..".toList, ".%2e".toList, "%2e.".toList, "%2e%2e".toList].contains (part.map Char.toLower)

/-- The name of a drive: a letter and a colon, or a bar for the colon. -/
def isDrive : List Char → Bool
  | [letter, mark] => isAsciiLetter letter && [':', '|'].contains mark
  | _ => false

/-- The name of a drive as it is written in the end. -/
def isWrittenDrive (segment : List Char) : Bool :=
  isDrive segment && segment.getLast? == some ':'

def startsWithDrive (text : List Char) : Bool :=
  isDrive (text.take 2) && (text.drop 2).head?.all ['/', '\\', '?', '#'].contains

/-- A path up to some place. -/
structure Trail where
  /-- The segments that are complete, the nearest one first. -/
  above : List (List Char)
  /-- What the segment at the place holds so far. -/
  here : List Char

namespace Trail

def root : Trail := ⟨[], []⟩

def segments (trail : Trail) : List (List Char) := (trail.here :: trail.above).reverse

def descend (trail : Trail) : Trail := ⟨trail.here :: trail.above, []⟩

/-- The place above. At a drive there is none. -/
def ascend (kind : SchemeKind) (trail : Trail) : Trail :=
  match trail.here, trail.above with
  | [], last :: above => if startsWithDrive (last ++ ['/']) then trail else ⟨above, []⟩
  | here, above => ⟨above, if kind = .file ∧ isWrittenDrive here then here else []⟩

/-- A drive that is all of the path is complete before a further part. -/
def leaveDrive (kind : SchemeKind) (trail : Trail) : Trail :=
  if kind = .file ∧ trail.above.isEmpty ∧ isWrittenDrive trail.here then trail.descend else trail

/-- A part as it is kept. The bar of a drive becomes a colon. -/
def kept (kind : SchemeKind) (trail : Trail) (part : List Char) : List Char :=
  if kind = .file ∧ trail.above.isEmpty ∧ trail.here.isEmpty ∧ isDrive part then
    part.take 1 ++ [':']
  else part

/-- One more part, which is the last one or has a slash after it. -/
def add (kind : SchemeKind) (trail : Trail) (part : List Char) (isLast : Bool) : Trail :=
  let trail := if part.isEmpty then trail else trail.leaveDrive kind
  if isDoubleDot part then
    let up := trail.ascend kind
    if isLast || up.here.isEmpty then up else up.descend
  else if isSingleDot part then if trail.here.isEmpty then trail else trail.descend
  else
    let full : Trail := ⟨trail.above, trail.here ++ trail.kept kind part⟩
    if isLast then full else full.descend

def addAll (kind : SchemeKind) (trail : Trail) : List (List Char) → Trail
  | [] => trail
  | [last] => trail.add kind last true
  | part :: rest => addAll kind (trail.add kind part false) rest

def read (kind : SchemeKind) (trail : Trail) (text : List Char) : Trail :=
  let parts := text.splitOnP fun c => c == '/' || (kind.isSpecial && c == '\\')
  trail.addAll kind (parts.map (percentEncode pathSet))

end Trail

def dropEmptyLead : List (List Char) → List (List Char)
  | [] :: next :: rest => dropEmptyLead (next :: rest)
  | path => path

/-- The path that a trail has become. The path of a file starts with no empty segments. -/
def Trail.path (kind : SchemeKind) (trail : Trail) : Path :=
  .segments (if kind = .file then dropEmptyLead trail.segments else trail.segments)

/-- Where a relative path starts: at the path without its last segment, unless that is a drive. -/
def Path.folder (kind : SchemeKind) : Path → Trail
  | .bare _ => .root
  | .segments list =>
    match list.reverse with
    | [] => .root
    | last :: above => ⟨above, if kind = .file ∧ isWrittenDrive last then last else []⟩

end WhipWhep.Url
