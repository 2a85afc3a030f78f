import WhipWhep.Capability.Http

/-!
An HTTP client in memory. It gives the responses it was told to give, in their order, and remembers
the requests.
-/

namespace WhipWhep.InMemory

structure Http where
  responses : List (Except SignalingError HttpResponse)
  requests : List HttpRequest

namespace Http

def empty : Http := ⟨[], []⟩

def push (response : Except SignalingError HttpResponse) (http : Http) : Http :=
  { http with responses := http.responses ++ [response] }

/-- The response of an endpoint that has created a resource. -/
def created (location : String) (body : Bytes) : HttpResponse := ⟨201, some location, body⟩

def redirect (status : Nat) (location : String) : HttpResponse := ⟨status, some location, []⟩

def plain (status : Nat) : HttpResponse := ⟨status, none, []⟩

def respond (request : HttpRequest) (http : Http) : Progress × Http :=
  let result := http.responses.headD (.error (.transport "connection refused"))
  (⟨[], result⟩,
    { http with responses := http.responses.drop 1, requests := http.requests ++ [request] })

end Http
end WhipWhep.InMemory
