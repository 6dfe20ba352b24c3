/-
  File:      JobKeeper/Url/Basic.lean
  Subject:   Absolute URLs: which texts are one, and the canonical text of each.

  A text is read the way browsers read addresses: blanks around it and line breaks in it do not
  count, a web address may have any number of slashes of either kind after its scheme, and its
  path is freed of dot segments.

  This is one reader of addresses, to run the program with. The rest of the library takes any.
-/
import JobKeeper.Url.Host

namespace JobKeeper

/-! ## 1. The type -/

/-- A URL in its parts, each of them in canonical form. -/
structure Url where
  scheme : String
  username : String := ""
  password : String := ""
  host : Option String := none
  /-- The port, if it is not the usual one of the scheme. -/
  port : Option Nat := none
  path : String := ""
  query : Option String := none
  fragment : Option String := none
  deriving DecidableEq, Repr

namespace Url

/-- The usual port of a scheme. -/
def defaultPort : String → Option Nat
  | "http" => some 80
  | "ws" => some 80
  | "https" => some 443
  | "wss" => some 443
  | "ftp" => some 21
  | _ => none

/-- Whether addresses of a scheme are read like web addresses. -/
def isSpecial (scheme : String) : Bool := (defaultPort scheme).isSome

/-- Whether the URL can be requested from a web server. -/
def isWeb (u : Url) : Bool := u.scheme = "http" || u.scheme = "https"

/-! ## 2. Pieces of the text -/

/-- The text without blanks and control characters at its ends and without line breaks and tabs
    anywhere. -/
def cleaned (s : String) : List Char :=
  let low := fun (c : Char) => c.toNat ≤ 0x20
  let ends := ((s.toList.dropWhile low).reverse.dropWhile low).reverse
  ends.filter fun c => c != '\t' && c != '\n' && c != '\r'

/-- The scheme in lower case and what follows its colon. -/
def splitScheme (cs : List Char) : Option (String × List Char) :=
  let inScheme := fun (c : Char) => c.isAlphanum || c = '+' || c = '-' || c = '.'
  match cs.takeWhile inScheme, cs.dropWhile inScheme with
  | c :: name, ':' :: rest =>
    if c.isAlpha then some (String.ofList ((c :: name).map Char.toLower), rest) else none
  | _, _ => none

/-- The text before the first of some characters, and the text from it on. -/
def splitAt (stop : Char → Bool) (cs : List Char) : List Char × List Char :=
  (cs.takeWhile (!stop ·), cs.dropWhile (!stop ·))

/-- The text before and after the last of a character. -/
def splitLast (c : Char) (cs : List Char) : Option (List Char × List Char) :=
  if cs.contains c then
    let after := (cs.reverse.takeWhile (· ≠ c)).reverse
    some (cs.take (cs.length - after.length - 1), after)
  else none

/-- Query and fragment of what follows a path. -/
def splitTail (special : Bool) (cs : List Char) : Option String × Option String :=
  let fragmentOf := fun (rest : List Char) =>
    match rest with
    | '#' :: f => some (String.ofList (encode fragmentSet f))
    | _ => none
  match cs with
  | '?' :: rest =>
    let (q, rest) := splitAt (· = '#') rest
    (some (String.ofList (encode (querySet special) q)), fragmentOf rest)
  | rest => (none, fragmentOf rest)

/-! ## 3. Paths -/

/-- Whether a segment is a single dot, plain or encoded. -/
def isDot (segment : String) : Bool := [".", "%2e"].contains (segment.map Char.toLower)

/-- Whether a segment is a double dot. -/
def isDoubleDot (segment : String) : Bool :=
  ["..", ".%2e", "%2e.", "%2e%2e"].contains (segment.map Char.toLower)

/-- The segments of a path without dot segments; `done` holds those before, the last one first. -/
def resolve (done : List String) : List String → List String
  | [] => done.reverse
  | [last] =>
    if isDoubleDot last then ("" :: done.drop 1).reverse
    else if isDot last then ("" :: done).reverse
    else (last :: done).reverse
  | segment :: rest =>
    if isDoubleDot segment then resolve (done.drop 1) rest
    else if isDot segment then resolve done rest
    else resolve (segment :: done) rest

/-- The segments between separators. -/
def segments (separator : Char → Bool) (cs : List Char) : List (List Char) :=
  cs.splitOnP separator

/-- The path that starts at the front of a text with a separator or is empty. -/
def pathText (special : Bool) (cs : List Char) : String :=
  let separator := fun (c : Char) => c = '/' || (special && c = '\\')
  let rest := match cs with
    | c :: rest => if separator c then rest else c :: rest
    | [] => []
  if cs.isEmpty && !special then ""
  else
    "/" ++ "/".intercalate
      (resolve [] ((segments separator rest).map fun s => String.ofList (encode pathSet s)))

/-! ## 4. Authorities -/

/-- A port, digits up to 65535 or nothing, and what follows it: only a path may, and only one that
    starts with a backslash, since other paths end the authority. -/
def portOf? (cs : List Char) : Except Error (Option Nat × List Char) :=
  let digits := cs.takeWhile Char.isDigit
  let after := cs.dropWhile Char.isDigit
  if !(after.isEmpty || after.head? = some '\\') then .error .invalidPort
  else if digits.isEmpty then .ok (none, after)
  else
    match digitsValue? 10 digits with
    | some n => if n ≤ 65535 then .ok (some n, after) else .error .invalidPort
    | none => .error .invalidPort

/-- Whether a colon at this place stands outside of brackets; gives host and port text. -/
def splitPort (inBrackets : Bool) : List Char → List Char × Option (List Char)
  | [] => ([], none)
  | c :: rest =>
    if c = ':' && !inBrackets then ([], some rest)
    else
      let inBrackets := if c = '[' then true else if c = ']' then false else inBrackets
      let (host, port) := splitPort inBrackets rest
      (c :: host, port)

/-- Whether an authority may go without a host: that of a web address may not, nor may one with a
    port or a user. A lone colon is no user, and nothing at all is none at the end of the text. -/
def mayLackHost (special atEnd : Bool) (user port : Option (List Char)) : Bool :=
  !special && port.isNone &&
    match user with
    | none => true
    | some [] => atEnd
    | some user => user = [':']

/-- The URL with user, host and port of its authority, and what of it belongs to the path. `atEnd`
    says that nothing follows the authority. -/
def withAuthority (u : Url) (special atEnd : Bool) (cs : List Char) :
    Except Error (Url × List Char) := do
  let (user, hostPort) := match splitLast '@' cs with
    | some (user, rest) => (some user, rest)
    | none => (none, cs)
  let (hostText, portText) := splitPort false hostPort
  if hostText.isEmpty && !mayLackHost special atEnd user portText then throw .emptyHost
  let host ← if special then webHost hostText else opaqueHost hostText
  let (port, after) ← portOf? (portText.getD [])
  let (name, password) := splitAt (· = ':') (user.getD [])
  let u := { u with
    username := String.ofList (encode userSet name)
    password := String.ofList (encode userSet (password.drop 1))
    host := some host
    port := if port = defaultPort u.scheme then none else port }
  return (u, after)

/-! ## 5. Whole URLs -/

/-- The URL of what follows a path. -/
def withPathAndTail (u : Url) (special : Bool) (cs : List Char) : Url :=
  let (path, tail) := splitAt (fun c => c = '?' || c = '#') cs
  let (query, fragment) := splitTail special tail
  { u with path := pathText special path, query, fragment }

/-- Whether a text is a drive letter with a colon or bar after it. -/
def isDrive : List Char → Bool
  | [c, d] => c.isAlpha && (d = ':' || d = '|')
  | _ => false

/-- A file address: its host, if it has one, has no port. -/
def fileUrl (cs : List Char) : Except Error Url := do
  let slash := fun (c : Char) => c = '/' || c = '\\'
  let u : Url := { scheme := "file" }
  match cs with
  | a :: b :: rest =>
    if slash a && slash b then
      let (host, rest') := splitAt (fun c => slash c || c = '?' || c = '#') rest
      if host.isEmpty then return { u with host := some "" }.withPathAndTail true rest'
      if isDrive host then return { u with host := some "" }.withPathAndTail true rest
      return { u with host := some (← webHost host) }.withPathAndTail true rest'
    else return u.withPathAndTail true cs
  | cs => return u.withPathAndTail true cs

/-- The URL of a text. -/
def parse (s : String) : Except Error Url := do
  match splitScheme (cleaned s) with
  | none => throw .relative
  | some (scheme, rest) =>
    let u : Url := { scheme }
    if scheme = "file" then fileUrl rest
    else if isSpecial scheme then
      let rest := rest.dropWhile fun c => c = '/' || c = '\\'
      let (authority, rest) :=
        splitAt (fun c => c = '/' || c = '\\' || c = '?' || c = '#') rest
      let (u, after) ← u.withAuthority true rest.isEmpty authority
      return u.withPathAndTail true (after ++ rest)
    else
      match rest with
      | '/' :: '/' :: rest =>
        let (authority, rest) := splitAt (fun c => c = '/' || c = '?' || c = '#') rest
        let (u, after) ← u.withAuthority false rest.isEmpty authority
        return u.withPathAndTail false (after ++ rest)
      | '/' :: _ => return u.withPathAndTail false rest
      | rest =>
        let (path, tail) := splitAt (fun c => c = '?' || c = '#') rest
        let (query, fragment) := splitTail false tail
        return { u with path := String.ofList (encode [] path), query, fragment }

/-- The canonical text of a URL. -/
def text (u : Url) : String :=
  let user :=
    if u.username = "" && u.password = "" then ""
    else u.username ++ (if u.password = "" then "" else ":" ++ u.password) ++ "@"
  let authority := match u.host with
    | none =>
      if u.scheme = "file" then "//"
      else if "//".toList.isPrefixOf u.path.toList then "/."
      else ""
    | some host =>
      "//" ++ user ++ host ++ match u.port with
        | none => ""
        | some port => ":" ++ toString port
  u.scheme ++ ":" ++ authority ++ u.path
    ++ (u.query.map ("?" ++ ·)).getD "" ++ (u.fragment.map ("#" ++ ·)).getD ""

/-- The scheme of an address, or what is said of a text that is none. -/
def readScheme (s : String) : Except String String :=
  match parse s with
  | .ok url => .ok url.scheme
  | .error error => .error error.message

end Url

end JobKeeper
