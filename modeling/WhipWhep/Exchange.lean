import WhipWhep.Capability.Act
import WhipWhep.Text.Utf8
import WhipWhep.Track.Transport
import WhipWhep.Url.Parse

/-!
The exchange with an endpoint. The local offer is posted; the body of the response is the answer, and
its location names the remote resource, which is deleted in the end. Once a response says that the
resource exists its location is kept, even if the answer turns out to be unusable.
-/

namespace WhipWhep

structure Exchange where
  endpoint : Url
  /-- Sent as a bearer token with every request. -/
  token : Option String
  /-- Where the remote resource is, as long as it has to be deleted. -/
  location : Option Url
  deriving DecidableEq

namespace Exchange

/-- The number of redirects that are followed while an offer is posted. -/
def maxRedirects : Nat := 8

/-- The media type of offers and answers. -/
def sdpType : String := "application/sdp"

def start (endpoint : Url) (token : Option String) : Exchange := ⟨endpoint, token, none⟩

/-- A request, unless its bearer token cannot stand in a header. -/
def request (exchange : Exchange) (method : Method) (url : Url) (body : Bytes) :
    Except SignalingError HttpRequest := do
  let content := match method with
    | .post => [("content-type", sdpType)]
    | .delete => []
  let authorization ← match exchange.token with
    | none => .ok []
    | some token =>
      if isHeaderText token.toList then .ok [("authorization", "Bearer " ++ token)]
      else .error (.transport "invalid bearer token")
  return ⟨method, url, authorization ++ content, body, Sdp.maxSize⟩

def signaling {α : Type} (outcome : Except SignalingError α) : Act Exchange α :=
  Act.settle (outcome.mapError Error.signaling)

/-- How a text is read as a URL where it is found at another one. The exchange relies on nothing about
it. -/
abbrev Joining : Type := Url → String → Except UrlError Url

/-- Resolves a location against the URL of the request that it answers. -/
def resolve (join : Joining) (base : Url) (location : String) : Except SignalingError Url :=
  (join base location).mapError fun cause =>
    .invalidLocation (location ++ ": " ++ cause.message)

/-- Where a redirect leads. -/
def redirection (join : Joining) (target : Url) (response : HttpResponse) :
    Except SignalingError Url :=
  match response.location with
  | none => .error (.invalidLocation "redirect without Location header")
  | some location => resolve join target location

/-- Posts the offer to one URL. A cancellation wins over a request that is not started yet, and over
one that is still pending. -/
def post (offer : Bytes) (target : Url) : Act Exchange HttpResponse := do
  let request ← signaling ((← Act.get).request .post target offer)
  if ← isCancelled then Act.fail .cancelled
  else
    let progress ← Act.ask (.http request)
    if progress.wakes.any id then Act.fail .cancelled
    else signaling progress.result

/-- Posts the offer and follows redirects, at most the given number of them. The response comes with
the URL that gave it. -/
def postFollowing (join : Joining) (offer : Bytes) : Nat → Url → Act Exchange (Url × HttpResponse)
  | remaining, target => do
    let response ← post offer target
    if !response.isRedirect then return (target, response)
    else
      match remaining with
      | 0 => Act.fail (.signaling (.tooManyRedirects maxRedirects))
      | remaining + 1 => do
        let next ← signaling (redirection join target response)
        postFollowing join offer remaining next

/-- Keeps the location of the resource that a response has created. -/
def keepLocation (join : Joining) (target : Url) (response : HttpResponse) : Act Exchange Unit :=
  match response.location with
  | none => pure ()
  | some location => do
    let url ← signaling (resolve join target location)
    Act.modify fun exchange => { exchange with location := some url }

/-- The answer in the body of a response. -/
def answerOf (body : Bytes) : Except SignalingError String := do
  Sdp.checkSize body.length
  if body.isEmpty then .error .emptyAnswer
  else demand .invalidEncoding (Text.ofUtf8? body)

/-- Makes the offer, posts it, and applies the answer. Every track has to be on the peer connection
by then, since the offer lists them. -/
def createWith (join : Joining) : Act Exchange Unit := do
  if (← Act.get).location.isSome then Act.fail (.defect .resourceAlreadyCreated)
  else
    Act.granted (← Act.ask (.engine (.setLocal .offer)))
    let offer ← Act.granted (← Act.ask (.engine .localDescription))
    signaling (Sdp.checkSize offer.utf8ByteSize)
    let endpoint := (← Act.get).endpoint
    let (target, response) ← postFollowing join (Text.utf8 offer) maxRedirects endpoint
    if !response.isSuccess then Act.fail (.signaling (.status response.status))
    else
      keepLocation join target response
      let answer ← signaling (answerOf response.body)
      Act.granted (← Act.ask (.engine (.setRemote .answer answer)))

def create : Act Exchange Unit := createWith Url.join

/-- Deletes the remote resource, if there is one. This is part of closing a session, so cancellation
is not looked at, and the location is forgotten whatever comes of the request. -/
def delete : Act Exchange Unit := do
  match (← Act.get).location with
  | none => pure ()
  | some location => do
    Act.modify fun exchange => { exchange with location := none }
    let request ← signaling ((← Act.get).request .delete location [])
    let progress ← Act.ask (.http request)
    let response ← signaling progress.result
    if response.isSuccess then pure ()
    else Act.fail (.signaling (.status response.status))

end Exchange
end WhipWhep
