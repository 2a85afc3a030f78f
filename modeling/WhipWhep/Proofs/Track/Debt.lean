import WhipWhep.Proofs.Track.Relaying
import WhipWhep.Track.Basic

/-!
What has to be given back. The engine hands out a peer connection and tracks on it, the layer hands out
writers and readers; each of them calls for one request that gives it back. A track at any time owes
what it holds, and no operation on it loses a debt or pays one twice.
-/

namespace WhipWhep

/-- The requests that give something back. -/
def Call.isReturn : Call → Bool
  | .engine .close => true
  | .engine (.deleteTrack _) => true
  | .layer (.closeWriter _) => true
  | .layer (.closeReader _) => true
  | _ => false

/-- The request that closes a session of the layer. -/
def CodecSession.closing : CodecSession → Call
  | .writer opened => .layer (.closeWriter opened.key)
  | .reader opened => .layer (.closeReader opened.key)

/-- What a call to the layer has opened, if it has. -/
def Relay.opened? {α : Type} (relay : Relay (Except Error α)) (events : List Event) : Option α :=
  (relay.outcome? events).bind Except.toOption

/-- What the layer has opened is read off what it did before it returned. -/
theorem Relay.opened?_played {α : Type} {relay : Relay (Except Error α)} {target : Option Handle}
    {counters after : Counters} {played rest : List Event} {outcome : Except Error α}
    (plays : (relay.play target).Runs counters played (.ok outcome) after) (fresh : Fresh rest) :
    relay.opened? (played ++ rest) = outcome.toOption := by
  rw [opened?, outcome?_played plays fresh]
  rfl

/-- What an event hands out, as the request that gives it back. Whether the layer has opened anything
shows in the events after the call to it. -/
def Event.incurs : Event → List Event → Option Call
  | ⟨.engine (.create _), .ok _⟩, _ => some (.engine .close)
  | ⟨.engine (.addTrack _), .ok track⟩, _ => some (.engine (.deleteTrack track))
  | ⟨.layer (.openWriter _ _ _), relay⟩, rest =>
    (relay.opened? rest).map fun writer => (CodecSession.writer writer).closing
  | ⟨.layer (.openReader _ _), relay⟩, rest =>
    (relay.opened? rest).map fun reader => (CodecSession.reader reader).closing
  | _, _ => none

/-- Everything that was handed out, as the requests that give it back. -/
def owed : List Event → List Call
  | [] => []
  | event :: rest => (event.incurs rest).toList ++ owed rest

def asked (events : List Event) : List Call := events.map Event.call

@[simp] theorem asked_nil : asked [] = [] := rfl

@[simp] theorem asked_cons (event : Event) (events : List Event) :
    asked (event :: events) = event.call :: asked events := rfl

@[simp] theorem asked_append (first second : List Event) :
    asked (first ++ second) = asked first ++ asked second := List.map_append

/-- What was due before the events and what they hand out is what they give back and what is left. -/
structure Accounts (due : List Call) (events : List Event) (left : List Call) : Prop where
  fresh : Fresh events
  balance : ∀ {rest : List Event}, Fresh rest → ∀ call : Call, call.isReturn = true →
    (owed (events ++ rest)).count call + due.count call =
      (asked events).count call + left.count call + (owed rest).count call

theorem accounts_nil (due : List Call) : Accounts due [] due where
  fresh := fresh_nil
  balance _ call _ := by
    simp only [List.nil_append, asked_nil, List.count_nil]
    omega

theorem Accounts.append {due middle left : List Call} {first second : List Event}
    (one : Accounts due first middle) (two : Accounts middle second left) :
    Accounts due (first ++ second) left where
  fresh := one.fresh.append two.fresh
  balance {rest} fresh call returns := by
    have early := one.balance (two.fresh.append fresh) call returns
    have late := two.balance fresh call returns
    rw [List.append_assoc, asked_append, List.count_append]
    omega

/-- What is due beside what the events are about is still due after them. -/
theorem Accounts.beside {due left : List Call} {events : List Event} (accounts : Accounts due events left)
    {all still : List Call}
    (apart : ∀ call, all.count call + left.count call = still.count call + due.count call) :
    Accounts all events still where
  fresh := accounts.fresh
  balance fresh call returns := by
    have settled := accounts.balance fresh call returns
    have same := apart call
    omega

/-- At the end of a run the accounts do not depend on what follows. -/
theorem Accounts.total {due left : List Call} {events : List Event} (accounts : Accounts due events left)
    {call : Call} (returns : call.isReturn = true) :
    (owed events).count call + due.count call = (asked events).count call + left.count call := by
  have settled := accounts.balance fresh_nil call returns
  simpa [owed] using settled

/-- The requests that neither hand out nor give back. -/
def Call.isNeutral : Call → Bool
  | .engine (.create _) => false
  | .engine (.addTrack _) => false
  | .engine (.deleteTrack _) => false
  | .engine .close => false
  | .layer (.openWriter _ _ _) => false
  | .layer (.openReader _ _) => false
  | .layer (.closeWriter _) => false
  | .layer (.closeReader _) => false
  | _ => true

theorem incurs_of_neutral {event : Event} (neutral : event.call.isNeutral = true)
    (rest : List Event) : event.incurs rest = none := by
  obtain ⟨call | request | call | call, answer⟩ := event <;>
    first | rfl | (cases call <;> first | rfl | cases neutral)

theorem not_return_of_neutral {call : Call} (neutral : call.isNeutral = true) :
    call.isReturn = false := by
  rcases call with call | request | call | call <;>
    first | rfl | (cases call <;> first | rfl | cases neutral)

theorem neutral_of_relayed {call : Call} (relayed : call.isRelayed = true) :
    call.isNeutral = true := by
  rcases call with call | request | call | call <;>
    first | rfl | (cases call <;> first | rfl | cases relayed)

theorem accounts_of_neutral {events : List Event} (fresh : Fresh events)
    (neutral : AllOf Call.isNeutral events) (due : List Call) :
    Accounts due events due where
  fresh := fresh
  balance {rest} _ call returns := by
    have ⟨incurs, returned⟩ : owed (events ++ rest) = owed rest ∧ (asked events).count call = 0 := by
      clear fresh
      induction events with
      | nil => exact ⟨rfl, rfl⟩
      | cons event events ih =>
        have here := neutral event List.mem_cons_self
        have ⟨incurs, returned⟩ := ih fun other member => neutral other (List.mem_cons_of_mem _ member)
        have different : event.call ≠ call := by
          rintro rfl
          rw [not_return_of_neutral here] at returns
          cases returns
        constructor
        · rw [List.cons_append, owed, incurs_of_neutral here, incurs]
          rfl
        · rw [asked_cons, List.count_cons_of_ne different, returned]
    rw [incurs, returned]
    omega

/-- One request that gives something back. -/
theorem accounts_return {request : Call} {answer : request.Answer} (returns : request.isReturn = true)
    (left : List Call) : Accounts (request :: left) [⟨request, answer⟩] left where
  fresh := fresh_cons <| by
    rcases request with call | request | call | call <;>
      first | rfl | (cases call <;> first | rfl | cases returns)
  balance {rest} _ call _ := by
    have none : owed ([⟨request, answer⟩] ++ rest) = owed rest := by
      rcases request with call | request | call | call <;>
        first | rfl | (cases call <;> first | rfl | cases returns)
    rw [none]
    simp only [asked_cons, asked_nil, List.count_cons, List.count_nil]
    omega

/-- One request that gives nothing back, where what it hands out shows at once. -/
theorem accounts_request {request : Call} {answer : request.Answer} {handed : Option Call}
    (idle : request.isTransfer = false) (keeps : request.isReturn = false)
    (incurs : ∀ rest, Event.incurs ⟨request, answer⟩ rest = handed) (due : List Call) :
    Accounts due [⟨request, answer⟩] (handed.toList ++ due) where
  fresh := fresh_cons idle
  balance {rest} _ call returns := by
    have different : request ≠ call := by
      rintro rfl
      rw [keeps] at returns
      cases returns
    rw [List.singleton_append, owed, incurs, List.count_append, asked_cons,
      List.count_cons_of_ne different, List.count_append, asked_nil, List.count_nil]
    omega

theorem accounts_handed {request : Call} {answer : request.Answer} {handed : Call}
    (idle : request.isTransfer = false) (keeps : request.isReturn = false)
    (incurs : ∀ rest, Event.incurs ⟨request, answer⟩ rest = some handed) (due : List Call) :
    Accounts due [⟨request, answer⟩] (handed :: due) :=
  accounts_request idle keeps incurs due

theorem accounts_refused {request : Call} {answer : request.Answer} (idle : request.isTransfer = false)
    (keeps : request.isReturn = false) (incurs : ∀ rest, Event.incurs ⟨request, answer⟩ rest = none)
    (due : List Call) : Accounts due [⟨request, answer⟩] due :=
  accounts_request idle keeps incurs due

/-- A call to the layer that opens something, and what the layer does before it returns. -/
theorem accounts_opening {α : Type} {request : Call} {answer : request.Answer}
    {relay : Relay (Except Error α)} {closing : α → Call} {target : Option Handle}
    {counters after : Counters} {played : List Event} {outcome : Except Error α}
    (idle : request.isTransfer = false) (opens : request.isReturn = false)
    (incurs : ∀ rest, Event.incurs ⟨request, answer⟩ rest = (relay.opened? rest).map closing)
    (run : (relay.play target).Runs counters played (.ok outcome) after) (due : List Call) :
    Accounts due (⟨request, answer⟩ :: played)
      ((outcome.toOption.map closing).toList ++ due) where
  fresh := fresh_cons idle
  balance {rest} fresh call returns := by
    obtain ⟨freshPlayed, -⟩ := Relay.outcome?_of_play run
    have neutral : AllOf Call.isNeutral played :=
      AllOf.weaken (Relay.keeps_play _ _ _ run) neutral_of_relayed
    have relayed := (accounts_of_neutral freshPlayed neutral due).balance fresh call returns
    have different : request ≠ call := by
      rintro rfl
      rw [opens] at returns
      cases returns
    rw [List.cons_append, owed, incurs, Relay.opened?_played run fresh, List.count_append, asked_cons,
      List.count_cons_of_ne different, List.count_append]
    omega

end WhipWhep
