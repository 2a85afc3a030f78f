import WhipWhep.Error
import WhipWhep.Text.Hex
import WhipWhep.Url.Basic

/-!
Requests over HTTP. A request is started once, may be woken any number of times while it is pending,
and is answered in the end.
-/

namespace WhipWhep

inductive Method where
  | post
  | delete
  deriving DecidableEq

def Method.name : Method → String
  | post => "POST"
  | delete => "DELETE"

structure HttpRequest where
  method : Method
  url : Url
  /-- Names in lowercase, in the order of the names. -/
  headers : List (String × String)
  body : Bytes
  /-- The largest body that is wanted in the response. -/
  limit : Nat
  deriving DecidableEq

structure HttpResponse where
  status : Nat
  location : Option String
  body : Bytes
  deriving DecidableEq

namespace HttpResponse

def isSuccess (response : HttpResponse) : Bool :=
  200 ≤ response.status && response.status < 300

/-- The redirects that keep the method and the body. -/
def isRedirect (response : HttpResponse) : Bool :=
  response.status == 307 || response.status == 308

end HttpResponse

/-- How a request went: at each wake whether the caller was cancelled by then, and the result. -/
structure Progress where
  wakes : List Bool
  result : Except SignalingError HttpResponse

/-- A value of a header holds no control character other than the tab. -/
def isHeaderText (text : List Char) : Bool :=
  text.all fun c => (0x20 ≤ c.toNat && c.toNat != 0x7F) || c == '\t'

/-- The time that a request may take if nothing else is said, in nanoseconds. -/
def defaultHttpTimeout : Nat := 10_000_000_000

end WhipWhep
