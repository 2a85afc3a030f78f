import WhipWhep.Capability.Script

/-!
An act is a script that works on something the session holds. It may fail, and what it has changed by
then stays changed: a session that fails to open still has to release all it was given.
-/

namespace WhipWhep

def Act (σ α : Type) : Type := σ → Script (Except Error α × σ)

namespace Act

variable {σ τ α β : Type}

def bind (act : Act σ α) (next : α → Act σ β) : Act σ β := fun state =>
  (act state).bind fun
    | (.ok result, state) => next result state
    | (.error cause, state) => .done (.error cause, state)

instance : Monad (Act σ) where
  pure result := fun state => .done (.ok result, state)
  bind := bind

def fail (cause : Error) : Act σ α := fun state => .done (.error cause, state)

/-- The outcome of an act as a result. -/
def attempt (act : Act σ α) : Act σ (Except Error α) := fun state =>
  (act state).bind fun (outcome, state) => .done (.ok outcome, state)

def get : Act σ σ := fun state => .done (.ok state, state)

def modify (change : σ → σ) : Act σ Unit := fun state => .done (.ok (), change state)

def ofScript (script : Script α) : Act σ α := fun state =>
  script.bind fun result => .done (.ok result, state)

def ask (request : Call) : Act σ request.Answer := ofScript (.ask request)

/-- Goes on only where a condition holds. A panic is no error: it is not handed back, and no act that stands behind it
is done. -/
def assert (condition : Prop) [Decidable condition] : Act σ Unit := fun state =>
  .assert (decide condition) (.done (.ok (), state))

def settle : Except Error α → Act σ α
  | .ok result => pure result
  | .error cause => fail cause

/-- The answer of the engine, where a refusal ends the act. -/
def granted : Except EngineError α → Act σ α
  | .ok result => pure result
  | .error cause => fail (.engine cause)

/-- An act on a part of what is held. -/
def within (part : σ → τ) (put : τ → σ → σ) (act : Act τ α) : Act σ α := fun state =>
  (act (part state)).bind fun (outcome, inner) => .done (outcome, put inner state)

end Act
end WhipWhep
