/-
  File:      JobKeeper/Remote/Transport.lean
  Subject:   Requests, the client that is asked to send them, and the trace of what became of each.

  The client and the network behind it are not part of this library. A client refuses a request
  whose address it cannot send to, and which addresses these are is its own affair. It has a state
  of its own, so an answer may depend on all that went before. A body is used only if the status is
  200.
-/
import JobKeeper.Json.Value
import JobKeeper.Remote.Error

namespace JobKeeper

/-! ## 1. Requests and answers -/

inductive Method where
  | get
  | post
  deriving DecidableEq, Repr

def Method.name : Method → String
  | .get => "GET"
  | .post => "POST"

/-- A request for JSON. -/
structure Request where
  method : Method
  endpoint : String
  body : Option Json := none

/-- An answer to a request. -/
structure Response where
  status : Nat
  body : String

/-- What comes of a request: its answer, or why there is none. -/
abbrev Transport.Answer := Except TransportFailure Response

/-- A client that can be asked to send requests and to wait, and the network behind it; their state
    is of type `σ`. Whether a request can be sent depends on its address alone. -/
structure Transport (σ : Type) where
  /-- Why nothing is sent to an address, if it cannot be requested. -/
  refuses : String → Option TransportFailure := fun _ => none
  /-- Sends a request and gives the answer with all of its body. Redirects that the client follows
      by itself are part of this. -/
  send : Request → σ → Transport.Answer × σ
  /-- Waits for so many milliseconds. -/
  pause : Nat → σ → σ := fun _ state => state

/-! ## 2. Exchanges -/

/-- What a client did. -/
inductive WireEvent where
  | sent (request : Request)
  /-- Nothing was sent, as the address cannot be requested. -/
  | refused (request : Request)
  | paused (milliseconds : Nat)

/-- What came of talking to a service: the result, what the client did, and its state afterwards. -/
structure Exchange (σ α : Type) where
  result : α
  trace : List WireEvent := []
  state : σ

namespace Exchange

/-- The requests sent, in order. -/
def requests {σ α : Type} (e : Exchange σ α) : List Request :=
  e.trace.filterMap fun event => match event with
    | .sent request => some request
    | .refused _ => none
    | .paused _ => none

/-- The same exchange with another result. -/
def mapResult {σ α β : Type} (f : α → β) (e : Exchange σ α) : Exchange σ β :=
  { result := f e.result, trace := e.trace, state := e.state }

end Exchange

/-! ## 3. Asking a client -/

/-- The body of an answer with status 200. -/
def bodyOf (endpoint : String) : Transport.Answer → Except RemoteError String
  | .error failure => .error (.transport endpoint failure)
  | .ok response =>
    if response.status = 200 then .ok response.body
    else .error (.status endpoint response.status response.body)

namespace Transport

variable {σ : Type} (t : Transport σ)

/-- What comes of a request, and the state after it. One that is refused has no effect. -/
def answer (request : Request) (state : σ) : Answer × σ :=
  match t.refuses request.endpoint with
  | some failure => (.error failure, state)
  | none => t.send request state

/-- What the client does with a request. -/
def event (request : Request) : WireEvent :=
  if (t.refuses request.endpoint).isSome then .refused request else .sent request

/-- Asks the client for one request, and gives the body of its answer. -/
def request (method : Method) (endpoint : String) (body : Option Json) (state : σ) :
    Exchange σ (Except RemoteError String) :=
  let request : Request := { method, endpoint, body }
  let answered := t.answer request state
  { result := bodyOf endpoint answered.1, trace := [t.event request], state := answered.2 }

section Sent

variable {t} {request : Request} (h : t.refuses request.endpoint = none)

include h

theorem answer_of_sent (state : σ) : t.answer request state = t.send request state := by
  rw [answer, h]

theorem event_of_sent : t.event request = .sent request := by
  rw [event, h]
  rfl

end Sent

section Refused

variable {t} {request : Request} {failure : TransportFailure}
  (h : t.refuses request.endpoint = some failure)

include h

theorem answer_of_refused (state : σ) : t.answer request state = (.error failure, state) := by
  rw [answer, h]

theorem event_of_refused : t.event request = .refused request := by
  rw [event, h]
  rfl

end Refused

/-- The same client, with a record of the requests sent in its state, the latest first. -/
def recorded : Transport (σ × List Request) where
  refuses := t.refuses
  send request state :=
    let (answer, state') := t.send request state.1
    (answer, (state', request :: state.2))
  pause milliseconds state := (t.pause milliseconds state.1, state.2)

end Transport

end JobKeeper
