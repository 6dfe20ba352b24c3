/-
  File:      JobKeeper/Remote/Error.lean
  Subject:   What can go wrong when talking to a remote service, and the wording of it.
-/
namespace JobKeeper

/-! ## 1. Requests that were not answered -/

/-- Why a request got no answer: what failed, then what caused it, the nearest cause first. -/
structure TransportFailure where
  failure : String
  causes : List String := []
  deriving DecidableEq, Repr

/-! ## 2. Answers that cannot be used -/

/-- What went wrong between a request and the use of its answer. -/
inductive RemoteError where
  /-- There was no answer. -/
  | transport (endpoint : String) (failure : TransportFailure)
  /-- The answer has a status other than 200. -/
  | status (endpoint : String) (code : Nat) (body : String)
  /-- The body is not what was asked for. -/
  | decode (endpoint message : String)
  /-- The body lacks a field. -/
  | missingField (endpoint field : String)
  deriving DecidableEq, Repr

namespace RemoteError

def endpoint : RemoteError → String
  | .transport endpoint _ => endpoint
  | .status endpoint _ _ => endpoint
  | .decode endpoint _ => endpoint
  | .missingField endpoint _ => endpoint

/-- The wording of an error. -/
def message : RemoteError → String
  | .transport endpoint failure =>
    "cannot run the request at endpoint " ++ endpoint ++ ": " ++ failure.failure
  | .status endpoint code body =>
    "status code: " ++ toString code ++ ", response: '" ++ body ++ "' (endpoint " ++ endpoint ++ ")"
  | .decode endpoint message =>
    "unexpected response data at endpoint " ++ endpoint ++ ": " ++ message
  | .missingField endpoint field =>
    "cant find " ++ field ++ " field in response of endpoint " ++ endpoint

/-- The causes behind an error, the nearest first. -/
def causes : RemoteError → List String
  | .transport _ failure => failure.failure :: failure.causes
  | _ => []

end RemoteError

/-- What went wrong while a statement was run. -/
inductive GatewayError where
  | remote (error : RemoteError)
  /-- The result was not ready in as many attempts as there may be. -/
  | pollTimeout (attempts : Nat) (session operation : String)
  deriving DecidableEq, Repr

namespace GatewayError

/-- The wording of an error. -/
def message : GatewayError → String
  | .remote error => error.message
  | .pollTimeout attempts session operation =>
    "timeout while trying " ++ toString attempts ++ " times to get operation result. SessionID: "
      ++ session ++ ", OperationID: " ++ operation

/-- The causes behind an error, the nearest first. -/
def causes : GatewayError → List String
  | .remote error => error.causes
  | .pollTimeout _ _ _ => []

end GatewayError

end JobKeeper
