/-
  File:      JobKeeper/Remote/Hub.lean
  Subject:   The job hub, which lists the desired jobs of each kind; and the world that a pass
             talks to when jobs come from a hub and statements go to a gateway.
-/
import JobKeeper.Job.Wire
import JobKeeper.Manager.Pass
import JobKeeper.Remote.Gateway

namespace JobKeeper

/-- The addresses at which the hub lists its jobs. -/
structure Hub where
  behaviorEndpoint : String
  ruleEndpoint : String

namespace Hub

def endpoint (h : Hub) : JobKind → String
  | .behavior => h.behaviorEndpoint
  | .rule => h.ruleEndpoint

/-- The desired jobs of a kind, all of them or none. -/
def fetch {σ : Type} (h : Hub) (t : Transport σ) (kind : JobKind) (state : σ) :
    Exchange σ (Except RemoteError (List Job)) :=
  (t.request .get (h.endpoint kind) none state).mapResult fun answer => do
    readBody (h.endpoint kind) (← answer) (Job.listOfDoc? kind)

end Hub

/-- Jobs from a hub, statements to a session. -/
def World.live {σ : Type} (hub : Hub) (session : Session) (t : Transport σ) (now : σ → Instant) :
    World σ where
  execute statement state :=
    let e := session.execute t statement state
    (e.result, e.state)
  fetch kind state :=
    let e := hub.fetch t kind state
    (e.result, e.state)
  now := now

end JobKeeper
