/-
  File:      JobKeeper/Manager/Component.lean
  Subject:   The manager as a component: its first pass is due once it starts, and the session it
             submits to is released when it shuts down.
-/
import JobKeeper.Lifecycle
import JobKeeper.Remote.Error

namespace JobKeeper

/-- What the manager needs of the state that the components share. -/
structure ManagerHost (σ : Type) where
  /-- Notes that a pass is due. The start does not wait for it. -/
  schedule : σ → σ
  /-- Releases what statements are submitted to. -/
  release : σ → Except GatewayError Unit × List Log.Line × σ :=
    fun state => (.ok (), [], state)

/-- What is logged when the passes are planned. -/
def scheduledLine (intervalSecs : Nat) : Log.Line :=
  .info ("Reconciliation scheduled every " ++ toString intervalSecs ++ "s")

/-- The manager as a component. -/
def ManagerHost.component {σ : Type} (host : ManagerHost σ) : Component σ where
  call
    | .init, state => { state }
    | .start, state => { state := host.schedule state }
    | .shutdown, state =>
      match host.release state with
      | (.ok (), logs, state) => { logs, state }
      | (.error error, logs, state) => { failure := some error.message, logs, state }

end JobKeeper
