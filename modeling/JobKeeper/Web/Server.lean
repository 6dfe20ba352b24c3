/-
  File:      JobKeeper/Web/Server.lean
  Subject:   The jobs API as a component: it listens from its start to its shutdown.
-/
import JobKeeper.Lifecycle

namespace JobKeeper.Web

/-- What is logged when the server listens at an address. -/
def listeningLine (address : String) : Log.Line :=
  .info ("API Server running at http://" ++ address)

/-- The server at an address. `listen` opens the port, so that a port that is taken fails the start
    and not a request. -/
def server {σ : Type} (address : String) (listen : String → σ → Except String Unit × σ) :
    Component σ where
  call
    | .init, state => { logs := [.info "API Server Interface initializing..."], state }
    | .start, state =>
      match listen address state with
      | (.error failure, state) => { failure := some failure, state }
      | (.ok (), state) => { logs := [listeningLine address], state }
    | .shutdown, state => { logs := [.info "API Server Interface shutting down..."], state }

end JobKeeper.Web
