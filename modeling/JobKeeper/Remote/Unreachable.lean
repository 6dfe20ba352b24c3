/-
  File:      JobKeeper/Remote/Unreachable.lean
  Subject:   A client to run the program with, where there is no network.

  It reads addresses as URLs, and takes requests to those of the web that are short enough and
  whose host has no character that a request cannot name. Every request that it takes fails.
-/
import JobKeeper.Remote.Transport
import JobKeeper.Url.Basic

namespace JobKeeper

namespace Url

/-! ## 1. Addresses of requests -/

/-- The URL as it is requested. User and password are not part of it. -/
def requested (u : Url) : Url := { u with username := "", password := "" }

/-- The most bytes that the address of a request may have. -/
def longestRequested : Nat := 65534

/-- Characters that a host may hold, but not the host of a request. -/
def neverRequested : List Char := ['"', '`', '\x7b', '\x7d']

/-- Whether a URL fits into a request. -/
def fitsRequest (u : Url) : Bool :=
  u.requested.text.utf8ByteSize ≤ longestRequested &&
    (u.host.getD "").toList.all fun c => !neverRequested.contains c

/-- The failure of a request that is not sent. -/
def unsent (u : Url) (cause : String) : TransportFailure :=
  ⟨"builder error for url (" ++ u.requested.text ++ ")", [cause]⟩

/-- Why an address cannot be requested. -/
def refusal (endpoint : String) : Option TransportFailure :=
  match parse endpoint with
  | .error error => some ⟨"builder error", [error.message]⟩
  | .ok url =>
    if !url.isWeb then some (url.unsent "URL scheme is not allowed")
    else if !url.fitsRequest then some (url.unsent "Parsed Url is not a valid Uri")
    else none

/-! ## 2. No network -/

/-- The failure of a request that finds no network. -/
def noNetwork (endpoint : String) : TransportFailure :=
  let place := match parse endpoint with
    | .error _ => ""
    | .ok url => " for url (" ++ url.requested.text ++ ")"
  ⟨"error sending request" ++ place,
    ["client error (Connect)", "tcp connect error", "Network is unreachable (os error 101)"]⟩

end Url

/-- The client of a place without a network: every request that it sends fails. -/
def Transport.unreachable {σ : Type} : Transport σ where
  refuses := Url.refusal
  send request state := (.error (Url.noNetwork request.endpoint), state)

end JobKeeper
