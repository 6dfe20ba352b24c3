/-
  File:      JobKeeper/Url/Host.lean
  Subject:   Hosts: domain names and addresses of both versions, in their canonical text.
-/
import JobKeeper.Url.Domain

namespace JobKeeper.Url

/-! ## 1. Causes -/

/-- Why a text is no URL. -/
inductive Error where
  | emptyHost
  | invalidDomain
  | invalidHostCharacter
  | invalidIpv4
  | invalidIpv6
  | invalidPort
  | relative
  deriving DecidableEq, Repr

/-- The wording of a cause. -/
def Error.message : Error → String
  | .emptyHost => "empty host"
  | .invalidDomain => "invalid international domain name"
  | .invalidHostCharacter => "invalid domain character"
  | .invalidIpv4 => "invalid IPv4 address"
  | .invalidIpv6 => "invalid IPv6 address"
  | .invalidPort => "invalid port number"
  | .relative => "relative URL without a base"

/-! ## 2. Addresses of version 4 -/

/-- The value of digits in a base. -/
def digitsValue? (base : Nat) (cs : List Char) : Option Nat :=
  cs.foldlM (fun n c => (Text.hexValue? c).bind fun d =>
    if d < base then some (n * base + d) else none) 0

/-- A part of an address: decimal, octal after `0`, hexadecimal after `0x`. -/
def ipv4Part? (cs : List Char) : Option Nat :=
  match cs with
  | [] => none
  | '0' :: 'x' :: rest => digitsValue? 16 rest
  | '0' :: 'X' :: rest => digitsValue? 16 rest
  | '0' :: rest => digitsValue? 8 rest
  | cs => digitsValue? 10 cs

/-- The labels of a name without an empty last one. -/
def significantLabels (name : List Char) : List (List Char) :=
  let parts := labels name
  if 1 < parts.length ∧ parts.getLast? = some [] then parts.dropLast else parts

/-- Whether a name ends in a number, and so has to be an address. -/
def endsInNumber (name : List Char) : Bool :=
  match (significantLabels name).getLast? with
  | none => false
  | some [] => false
  | some last => last.all Char.isDigit ||
    match last with
    | '0' :: x :: rest => (x = 'x' || x = 'X') && rest.all fun c => (Text.hexValue? c).isSome
    | _ => false

/-- The 32 bits of an address of up to four parts, of which the last fills what is left. -/
def ipv4? (name : List Char) : Option Nat := do
  let parts := significantLabels name
  if 4 < parts.length then none
  let numbers ← parts.mapM ipv4Part?
  let last ← numbers.getLast?
  let front := numbers.dropLast
  if front.any (255 < ·) then none
  if Nat.pow 256 (4 - front.length) ≤ last then none
  return front.zipIdx.foldl (fun n p => n + p.1 * Nat.pow 256 (3 - p.2)) last

/-- The text of 32 bits as four numbers. -/
def ipv4Text (n : Nat) : String :=
  toString (n / 0x1000000) ++ "." ++ toString (n / 0x10000 % 256) ++ "." ++ toString (n / 0x100 % 256)
    ++ "." ++ toString (n % 256)

/-! ## 3. Addresses of version 6 -/

/-- One group of up to four hexadecimal digits. -/
def ipv6Group? (cs : List Char) : Option Nat :=
  if cs.isEmpty || 4 < cs.length then none else digitsValue? 16 cs

/-- A version 4 address at the end of one of version 6, as two groups. -/
def ipv4Tail? (cs : List Char) : Option (List Nat) := do
  let parts := labels cs
  if parts.length ≠ 4 then none
  let numbers ← parts.mapM fun p =>
    if p.isEmpty || 3 < p.length || (p.head? = some '0' && p ≠ ['0']) then none
    else if p.all Char.isDigit then (digitsValue? 10 p).filter (· ≤ 255) else none
  match numbers with
  | [a, b, c, d] => return [a * 256 + b, c * 256 + d]
  | _ => none

/-- Groups between single colons; the last may be a version 4 address. -/
def ipv6Groups? : List (List Char) → Option (List Nat)
  | [] => some []
  | [last] => if last.contains '.' then ipv4Tail? last else (ipv6Group? last).map ([·])
  | g :: rest => do return (← ipv6Group? g) :: (← ipv6Groups? rest)

/-- The groups of a run of characters, none if it is empty. -/
def ipv6Run? (cs : List Char) : Option (List Nat) :=
  if cs.isEmpty then some [] else ipv6Groups? (cs.splitOn ':')

/-- The text before and after the first double colon. -/
def splitGap : List Char → List Char → Option (List Char × List Char)
  | _, [] => none
  | before, ':' :: ':' :: rest => some (before.reverse, rest)
  | before, c :: rest => splitGap (c :: before) rest

/-- The eight groups of an address. A double colon stands for one group of zeros or more. -/
def ipv6? (cs : List Char) : Option (List Nat) :=
  match splitGap [] cs with
  | none => (ipv6Run? cs).filter (·.length = 8)
  | some (before, after) => do
    if before.contains '.' then none
    let front ← ipv6Run? before
    let back ← ipv6Run? after
    if 7 < front.length + back.length then none
    return front ++ List.replicate (8 - front.length - back.length) 0 ++ back

/-- The length of the run of zeros at the front. -/
def zeroRun (groups : List Nat) : Nat := (groups.takeWhile (· = 0)).length

/-- The first of the longest runs of at least two zeros: where it starts and how long it is. -/
def longestZeros (groups : List Nat) : Option (Nat × Nat) :=
  (List.range groups.length).foldl
    (fun best i =>
      let n := zeroRun (groups.drop i)
      if 2 ≤ n && best.all (fun b => b.2 < n) then some (i, n) else best) none

/-- A group in lower-case digits without leading zeros. -/
def groupText (n : Nat) : String := String.ofList (Nat.toDigits 16 n)

/-- Groups with single colons between them. -/
def groupsText (groups : List Nat) : String := ":".intercalate (groups.map groupText)

/-- The text of an address, with the longest run of zeros left out. -/
def ipv6Text (groups : List Nat) : String :=
  match longestZeros groups with
  | none => "[" ++ groupsText groups ++ "]"
  | some (i, n) =>
    "[" ++ groupsText (groups.take i) ++ "::" ++ groupsText (groups.drop (i + n)) ++ "]"

/-! ## 4. Hosts -/

/-- The host of a web address. -/
def webHost (cs : List Char) : Except Error String :=
  match cs with
  | '[' :: rest =>
    if rest.getLast? = some ']' then
      match ipv6? rest.dropLast with
      | some groups => .ok (ipv6Text groups)
      | none => .error .invalidIpv6
    else .error .invalidIpv6
  | cs =>
    match (ofUtf8? (decode cs)).bind asciiDomain? with
    | none => .error .invalidDomain
    | some [] => .error .emptyHost
    | some name =>
      if endsInNumber name then
        match ipv4? name with
        | some n => .ok (ipv4Text n)
        | none => .error .invalidIpv4
      else .ok (String.ofList name)

/-- The host of any other address: kept as it is, apart from percent-encoding. -/
def opaqueHost (cs : List Char) : Except Error String :=
  match cs with
  | '[' :: rest =>
    if rest.getLast? = some ']' then
      match ipv6? rest.dropLast with
      | some groups => .ok (ipv6Text groups)
      | none => .error .invalidIpv6
    else .error .invalidIpv6
  | cs =>
    if cs.any forbiddenInHost then .error .invalidHostCharacter
    else .ok (String.ofList (encode [] cs))

end JobKeeper.Url
