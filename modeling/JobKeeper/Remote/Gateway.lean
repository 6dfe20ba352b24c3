/-
  File:      JobKeeper/Remote/Gateway.lean
  Subject:   The SQL gateway: sessions, statements submitted in them, and the results of these,
             asked for until they are ready.
-/
import JobKeeper.Json.Print
import JobKeeper.Json.Record
import JobKeeper.Log
import JobKeeper.Plan.Execution
import JobKeeper.Remote.Transport

namespace JobKeeper

open Json (Doc Record)

/-! ## 1. Reading answers -/

/-- What is said of a body that is not what was asked for. -/
def unreadable : String := "the body does not have the expected form"

/-- Reads a body with a reader of documents. -/
def readBody {α : Type} (endpoint body : String) (read : Doc → Option α) :
    Except RemoteError α :=
  match (Doc.ofText? body).bind read with
  | some a => .ok a
  | none => .error (.decode endpoint unreadable)

/-- The handle in a field of an answer: a text, or the text of any other value but `null`. -/
def handleField (answer : Json) (field endpoint : String) : Except RemoteError String :=
  match answer.get? field with
  | none => .error (.missingField endpoint field)
  | some .null => .error (.missingField endpoint field)
  | some value => .ok value.plainText

/-- The handle in a field of a body. -/
def readHandle (body field endpoint : String) : Except RemoteError String := do
  handleField (← readBody endpoint body (Doc.keep Json.deepest)) field endpoint

/-- The body of a result as it is sent: every field may be absent or `null`. -/
structure ResultBody where
  resultType : Option String
  results : Option Json
  jobId : Option Json

namespace ResultBody

def fieldNames : List String := ["resultType", "results", "jobID"]

/-- A value that may be `null`. -/
def optionalValue : Doc → Option (Option Json) := Record.nullable (Doc.keep (Json.deepest - 1))

/-- By position all three fields are needed; by name each may be left out. -/
def ofDoc? (doc : Doc) : Option ResultBody := do
  let r ← Record.ofDoc? fieldNames doc
  match doc with
  | .array items => if items.length < 3 then none
  | _ => pure ()
  return {
    resultType := ← r.optionalText? "resultType"
    results := ← r.read "results" none optionalValue
    jobId := ← r.read "jobID" none optionalValue }

end ResultBody

/-! ## 2. Polling once -/

/-- What one look at a result shows. -/
inductive Poll where
  | notReady
  | ready (result : OperationResult)

/-- The result type of a result that is not ready. -/
def notReadyType : String := "NOT_READY"

/-- What the body of a result says. The type is looked at first, and a result that is not ready
    needs nothing else. -/
def Poll.ofBody (endpoint : String) (b : ResultBody) : Except RemoteError Poll :=
  match b.resultType with
  | none => .error (.missingField endpoint "resultType")
  | some resultType =>
    if resultType = notReadyType then .ok .notReady
    else
      match b.results with
      | none => .error (.missingField endpoint "results")
      | some results => .ok (.ready ⟨resultType, results, b.jobId.map Json.plainText⟩)

/-! ## 3. The gateway -/

/-- How often a result is asked for, at least once, and how long to wait in between. -/
structure PollPolicy where
  attempts : Nat
  intervalMs : Nat
  attempts_pos : 1 ≤ attempts
  deriving DecidableEq

/-- The policy with so many attempts; zero counts as one. -/
def PollPolicy.of (attempts intervalMs : Nat) : PollPolicy :=
  ⟨max attempts 1, intervalMs, Nat.le_max_right attempts 1⟩

/-- A gateway at a base address without slashes at its end. -/
structure Gateway where
  baseUrl : String
  policy : PollPolicy

/-- The text without the slashes at its end. -/
def withoutTrailingSlashes (s : String) : String :=
  String.ofList (s.toList.reverse.dropWhile (· = '/')).reverse

/-- The gateway at a base address. -/
def Gateway.ofUrl (baseUrl : String) (policy : PollPolicy) : Gateway :=
  ⟨withoutTrailingSlashes baseUrl, policy⟩

/-- A session of a gateway. -/
structure Session where
  gateway : Gateway
  id : String

/-- A submitted statement; it stays with the session that it was submitted in. -/
structure Operation where
  session : Session
  id : String

namespace Gateway

def sessionsEndpoint (g : Gateway) : String := g.baseUrl ++ "/v1/sessions"

/-- What is logged when a session was opened. -/
def openedLine (id : String) : Log.Line := .info ("Opened SQL gateway session " ++ id)

/-- Opens a session. -/
def openSession {σ : Type} (g : Gateway) (t : Transport σ) (state : σ) :
    Exchange σ (Except GatewayError Session) :=
  (t.request .post g.sessionsEndpoint none state).mapResult fun answer =>
    match answer >>= fun body => readHandle body "sessionHandle" g.sessionsEndpoint with
    | .ok id => .ok ⟨g, id⟩
    | .error error => .error (.remote error)

end Gateway

namespace Session

def statementsEndpoint (s : Session) : String :=
  s.gateway.baseUrl ++ "/v1/sessions/" ++ s.id ++ "/statements"

/-- Submits a statement. -/
def submit {σ : Type} (s : Session) (t : Transport σ) (statement : String) (state : σ) :
    Exchange σ (Except GatewayError Operation) :=
  let payload := Json.fields [("statement", .string statement)]
  (t.request .post s.statementsEndpoint (some payload) state).mapResult fun answer =>
    match answer >>= fun body => readHandle body "operationHandle" s.statementsEndpoint with
    | .ok id => .ok ⟨s, id⟩
    | .error error => .error (.remote error)

/-- What is logged when a session is released. The gateway expires idle sessions by itself. -/
def releasedLine (s : Session) : Log.Line := .info ("Releasing SQL gateway session " ++ s.id)

end Session

namespace Operation

def resultEndpoint (o : Operation) (index : Nat) : String :=
  o.session.gateway.baseUrl ++ "/v1/sessions/" ++ o.session.id ++ "/operations/" ++ o.id
    ++ "/result/" ++ toString index

/-- Looks at a page of the result. -/
def poll {σ : Type} (o : Operation) (t : Transport σ) (index : Nat) (state : σ) :
    Exchange σ (Except RemoteError Poll) :=
  let endpoint := o.resultEndpoint index
  (t.request .get endpoint none state).mapResult fun answer => do
    Poll.ofBody endpoint (← readBody endpoint (← answer) ResultBody.ofDoc?)

/-- The error when the attempts are used up. -/
def timeout (o : Operation) : GatewayError :=
  .pollTimeout o.session.gateway.policy.attempts o.session.id o.id

/-- Looks at a page of the result until it is ready, so many times at most, and waits between two
    looks only. The first error ends it. -/
def await {σ : Type} (o : Operation) (t : Transport σ) (index : Nat) :
    Nat → σ → Exchange σ (Except GatewayError OperationResult)
  | 0, state => { result := .error o.timeout, state }
  | attempts + 1, state =>
    let look := o.poll t index state
    match look.result with
    | .error error => { look with result := .error (.remote error) }
    | .ok (.ready result) => { look with result := .ok result }
    | .ok .notReady =>
      if attempts = 0 then { look with result := .error o.timeout }
      else
        let interval := o.session.gateway.policy.intervalMs
        let later := o.await t index attempts (t.pause interval look.state)
        { later with trace := look.trace ++ .paused interval :: later.trace }

/-- A page of the result, in as many attempts as the gateway's policy allows. -/
def result {σ : Type} (o : Operation) (t : Transport σ) (index : Nat) (state : σ) :
    Exchange σ (Except GatewayError OperationResult) :=
  o.await t index o.session.gateway.policy.attempts state

end Operation

/-- Submits a statement and waits for the first page of its result. -/
def Session.execute {σ : Type} (s : Session) (t : Transport σ) (statement : String) (state : σ) :
    Exchange σ (Except GatewayError OperationResult) :=
  let submitted := s.submit t statement state
  match submitted.result with
  | .error error => { submitted with result := .error error }
  | .ok operation =>
    let awaited := operation.result t 0 submitted.state
    { awaited with trace := submitted.trace ++ awaited.trace }

end JobKeeper
