/-
  File:      JobKeeper/Web/Router.lean
  Subject:   The jobs API: which request gets which answer. It only reads, and pages of any origin
             may ask.
-/
import JobKeeper.Manager.Registry

namespace JobKeeper.Web

/-! ## 1. Requests and replies -/

/-- A request as far as the API looks at it. -/
structure Ask where
  method : String
  /-- The address, with or without scheme and host, and with its query if it has one. -/
  target : String

/-- An answer: the header fields that the API sets itself, and a body unless it is empty. -/
structure Reply where
  status : Nat
  headers : List (String × String)
  body : Option Json := none

/-! ## 2. Routes -/

/-- What can be read. -/
inductive Route where
  | all
  | running
  | failed
  deriving DecidableEq, Repr

namespace Route

def path : Route → String
  | .all => "/api/v1/jobs"
  | .running => "/api/v1/jobs/succeed"
  | .failed => "/api/v1/jobs/failed"

/-- The route of a path. A path is compared as it stands, escapes and all. -/
def ofPath? (path : String) : Option Route :=
  [all, running, failed].find? (·.path = path)

/-- The entries of a list as they are published. -/
def entries (es : List JobEntry) : Json := .array (es.map JobEntry.toJson)

/-- What is read at a route. -/
def read (r : Registry) : Route → Json
  | .all => .fields [("running", entries r.runningEntries), ("failed", entries r.failedEntries)]
  | .running => entries r.runningEntries
  | .failed => entries r.failedEntries

end Route

/-- What follows the host of an address with a scheme. -/
def afterHost? (target : List Char) : Option (List Char) :=
  let inScheme := fun (c : Char) => c.isAlphanum || c = '+' || c = '-' || c = '.'
  match target.dropWhile inScheme with
  | ':' :: '/' :: '/' :: rest => some (rest.dropWhile fun c => c ≠ '/' && c ≠ '?' && c ≠ '#')
  | _ => none

/-- The path of a target: what comes after the host, if there is one, and before a query or a
    fragment. The path of a host alone is a slash. -/
def pathOf (target : String) : String :=
  let pathChars := fun (cs : List Char) => cs.takeWhile fun c => c ≠ '?' && c ≠ '#'
  match afterHost? target.toList with
  | none => String.ofList (pathChars target.toList)
  | some rest =>
    match pathChars rest with
    | [] => "/"
    | path => String.ofList path

/-! ## 3. Answers -/

/-- Every origin may read any answer. -/
def anyOrigin : String × String := ("access-control-allow-origin", "*")

/-- The methods that a route knows. -/
def allowed : String × String := ("allow", "GET,HEAD")

/-- What a page of another origin may send. -/
def preflight : List (String × String) :=
  [anyOrigin, ("access-control-allow-methods", "GET,OPTIONS"),
    ("access-control-allow-headers", "*")]

/-- The answer to a request. Asking for the options succeeds at every path; asking for the head of
    an answer leaves out its body. -/
def answer (r : Registry) (ask : Ask) : Reply :=
  let route := Route.ofPath? (pathOf ask.target)
  if ask.method = "OPTIONS" then
    ⟨200, preflight ++ (if route.isSome then [allowed] else []), none⟩
  else
    match route with
    | none => ⟨404, [anyOrigin], none⟩
    | some route =>
      let headers := [anyOrigin, ("content-type", "application/json")]
      if ask.method = "GET" then ⟨200, headers, some (route.read r)⟩
      else if ask.method = "HEAD" then ⟨200, headers, none⟩
      else ⟨405, [anyOrigin, allowed], none⟩

end JobKeeper.Web
