import WhipWhep.Capability.Engine
import WhipWhep.Capability.Http
import WhipWhep.Capability.Layer

/-!
A script is a program as a tree of requests to its surroundings: the engine, the HTTP client, the RTP
layer, and the host that knows the time, the cancellation flag and the last reported state. What a
script does against every possible surroundings is read off the tree (`Yields`); one surroundings
picks one path (`run`).
-/

namespace WhipWhep

inductive HostCall where
  | isCancelled
  | connectionState
  /-- The clock, in nanoseconds. It has not gone back since an earlier reading. -/
  | now (since : Nat)
  /-- A pause from a point in time on. It never ends early. -/
  | sleep (since duration : Nat)
  | random (bits : Nat)
  /-- The process puts up its log bridge to the engine, unless it stands. -/
  | bridgeLog
  deriving DecidableEq

@[reducible] def HostCall.Answer : HostCall → Type
  | isCancelled => Bool
  | connectionState => ConnectionState
  | now since => { time : Nat // since ≤ time }
  | sleep since duration => { time : Nat // since + duration ≤ time }
  | random bits => BitVec bits
  | bridgeLog => Unit

inductive Call where
  | engine (call : EngineCall)
  | http (request : HttpRequest)
  | layer (call : LayerCall)
  | host (call : HostCall)
  deriving DecidableEq

@[reducible] def Call.Answer : Call → Type
  | engine call => call.Answer
  | http _ => Progress
  | layer call => call.Answer
  | host call => call.Answer

/-- A request together with what it was answered. -/
structure Event where
  call : Call
  answer : call.Answer

inductive Script (α : Type) where
  | done (result : α)
  | call (request : Call) (next : request.Answer → Script α)
  /-- A condition that the program relies on. Where it does not hold the program panics, and nothing that stands behind
  it is done. -/
  | assert (holds : Bool) (next : Script α)

namespace Script

variable {α β γ σ : Type}

def bind : Script α → (α → Script β) → Script β
  | done result, next => next result
  | call request answered, next => call request fun answer => (answered answer).bind next
  | assert holds onward, next => assert holds (onward.bind next)

instance : Monad Script where
  pure := done
  bind := bind

def ask (request : Call) : Script request.Answer := call request done

@[simp] theorem bind_done (script : Script α) : script.bind done = script := by
  induction script with
  | done result => rfl
  | call request answered ih => simp only [bind, ih]
  | assert holds onward ih => simp only [bind, ih]

theorem bind_assoc (script : Script α) (first : α → Script β) (second : β → Script γ) :
    (script.bind first).bind second = script.bind fun result => (first result).bind second := by
  induction script with
  | done result => rfl
  | call request answered ih => simp only [bind, ih]
  | assert holds onward ih => simp only [bind, ih]

instance : LawfulMonad Script := LawfulMonad.mk' Script bind_done (fun _ _ => rfl) bind_assoc

/-- The script as it is for whoever catches its panics: there is no result then. -/
def caught : Script α → Script (Option α)
  | done result => done (some result)
  | call request next => call request fun answer => (next answer).caught
  | assert true next => next.caught
  | assert false _ => done none

/-- A script can come to a result through a sequence of answered requests. -/
inductive Yields : Script α → List Event → α → Prop where
  | done (result : α) : Yields (.done result) [] result
  | call (request : Call) (next : request.Answer → Script α) (answer : request.Answer)
      {events : List Event} {result : α} (rest : Yields (next answer) events result) :
      Yields (.call request next) (⟨request, answer⟩ :: events) result
  | assert (next : Script α) {events : List Event} {result : α} (rest : Yields next events result) :
      Yields (.assert true next) events result

/-- A script can come to a panic through a sequence of answered requests. -/
def Panics (script : Script α) (events : List Event) : Prop := Yields script.caught events none

/-- Surroundings with a state of their own. -/
structure Surroundings (σ : Type) where
  respond : (request : Call) → σ → request.Answer × σ

/-- The result in given surroundings, what was asked and answered, and the state afterwards. Conditions are passed over
here; whoever wants to see a panic runs the script as it is when caught. -/
def run (surroundings : Surroundings σ) : Script α → σ → α × List Event × σ
  | done result, state => (result, [], state)
  | call request next, state =>
    let (answer, state) := surroundings.respond request state
    let (result, events, state) := (next answer).run surroundings state
    (result, ⟨request, answer⟩ :: events, state)
  | assert _ next, state => next.run surroundings state

theorem yields_run (surroundings : Surroundings σ) (script : Script α) (state : σ) :
    Yields script.caught (script.caught.run surroundings state).2.1 (script.caught.run surroundings state).1 := by
  induction script generalizing state with
  | done result => exact .done _
  | call request next ih => exact .call request _ _ (ih _ _)
  | assert holds next ih =>
    cases holds with
    | true => exact ih state
    | false => exact .done _

end Script
end WhipWhep
