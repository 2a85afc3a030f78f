import WhipWhep.Error
import WhipWhep.Text.Lines

/-!
A session description is a text of lines. Its media sections are the runs of lines that start at a
line beginning with m= and end before the next such line.
-/

namespace WhipWhep.Sdp

/-- No description above this number of bytes is sent or taken. -/
def maxSize : Nat := 16384

def checkSize (size : Nat) : Except SignalingError Unit :=
  if maxSize < size then .error (.descriptionTooLarge maxSize) else .ok ()

def startsMedia (line : List Char) : Bool :=
  "m=".toList.isPrefixOf line

/-- The sections of a list of raw lines. -/
def gather : List (List Char) → List (List Char)
  | [] => []
  | line :: rest =>
    if startsMedia line then
      (line ++ (rest.takeWhile fun next => !startsMedia next).flatten) :: gather rest
    else gather rest

def mediaSections (text : List Char) : List (List Char) :=
  gather (Text.rawLines text)

/-- The parameters on the first line that holds format parameters, whatever payload type they are
for. -/
def firstFormat? (text : List Char) : Option (List Char) :=
  ((Text.lines text).findSome? (Text.after? "a=fmtp:".toList)).bind fun format =>
    (Text.splitFirst ' ' format).bind fun (_, params) =>
      let params := Text.trim params
      if params.isEmpty then none else some params

end WhipWhep.Sdp
