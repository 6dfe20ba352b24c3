/-
  File:      JobKeeper/Config.lean
  Subject:   The configuration: its fields with their defaults, reading it from YAML, and the rules
             that it must keep.

  What an address is is left to a reader of addresses, which gives the scheme of each.
-/
import JobKeeper.Remote.Hub
import JobKeeper.Yaml.Record

namespace JobKeeper

/-! ## 1. Fields -/

/-- Where the jobs API listens. -/
structure ApiAddress where
  host : String := "0.0.0.0"
  port : Nat := 9999
  deriving DecidableEq, Repr

/-- How the gateway is talked to. -/
structure GatewaySettings where
  url : String := "http://localhost:8083"
  requestTimeoutSecs : Nat := 60
  pollMaxAttempts : Nat := 5
  pollIntervalMs : Nat := 1000
  deriving DecidableEq, Repr

/-- Where the hub lists the jobs of either kind, if nothing else is said. -/
def defaultJobsEndpoint : String := "http://localhost:9090/api/v2/worker/stateless/jobs"

/-- The configuration of the service. -/
structure Config where
  api : ApiAddress := {}
  hub : Hub := ⟨defaultJobsEndpoint, defaultJobsEndpoint⟩
  gateway : GatewaySettings := {}
  groupId : String := ""
  reconcileIntervalSecs : Nat := 600
  retentionPasses : Nat := 6
  logLevel : String := "info"

/-- Why a text is no configuration. -/
inductive ConfigError where
  /-- It is no YAML, or a field has the wrong form. -/
  | malformed
  /-- The address in a field cannot be parsed. -/
  | invalidUrl (field value cause : String)
  /-- The address in a field has another scheme. -/
  | notWeb (field value : String)
  /-- The number in a field is zero. -/
  | zero (field : String)

namespace ConfigError

/-- The wording of an error. -/
def message : ConfigError → String
  | .malformed => "invalid configuration"
  | .invalidUrl field value _ => field ++ " is not a valid URL: " ++ value
  | .notWeb field value => field ++ " must be an http(s) URL, got " ++ value
  | .zero field => field ++ " must be at least 1"

/-- The causes behind an error. -/
def causes : ConfigError → List String
  | .invalidUrl _ _ cause => [cause]
  | _ => []

end ConfigError

namespace Config

/-- How passes are run. -/
def managerSettings (c : Config) : ManagerSettings := ⟨c.groupId, c.retentionPasses⟩

/-- How often results are asked for. -/
def pollPolicy (c : Config) : PollPolicy :=
  .of c.gateway.pollMaxAttempts c.gateway.pollIntervalMs

/-! ## 2. Reading -/

/-- The largest numbers of 16, 32 and 64 bits. -/
def limit16 : Nat := 0xFFFF
def limit32 : Nat := 0xFFFFFFFF
def limit64 : Nat := 0xFFFFFFFFFFFFFFFF

/-- The configuration in a YAML document. A field that is absent has its default, and one that
    nobody knows is not looked at. -/
def ofDocument? (d : Yaml.Document) : Option Config := do
  let root ← Yaml.Fields.ofRoot? d
    ["service", "endpoint", "flink_sql_gateway", "kafka_group_id", "manager", "logging"]
  let service ← root.record? "service" ["host", "port"]
  let endpoint ← root.record? "endpoint" ["behavior_get_job", "rule_get_job"]
  let gateway ← root.record? "flink_sql_gateway"
    ["url", "request_timeout_secs", "poll_max_attempts", "poll_interval_ms"]
  let manager ← root.record? "manager" ["reconcile_interval_secs", "failed_job_retention_passes"]
  let logging ← root.record? "logging" ["level"]
  let standard : Config := {}
  return {
    api :=
      { host := ← service.text? "host" standard.api.host
        port := ← service.unsigned? "port" limit16 standard.api.port }
    hub :=
      { behaviorEndpoint := ← endpoint.text? "behavior_get_job" defaultJobsEndpoint
        ruleEndpoint := ← endpoint.text? "rule_get_job" defaultJobsEndpoint }
    gateway :=
      { url := ← gateway.text? "url" standard.gateway.url
        requestTimeoutSecs :=
          ← gateway.unsigned? "request_timeout_secs" limit64 standard.gateway.requestTimeoutSecs
        pollMaxAttempts :=
          ← gateway.unsigned? "poll_max_attempts" limit32 standard.gateway.pollMaxAttempts
        pollIntervalMs :=
          ← gateway.unsigned? "poll_interval_ms" limit64 standard.gateway.pollIntervalMs }
    groupId := ← root.text? "kafka_group_id" standard.groupId
    reconcileIntervalSecs :=
      ← manager.unsigned? "reconcile_interval_secs" limit64 standard.reconcileIntervalSecs
    retentionPasses :=
      ← manager.unsigned? "failed_job_retention_passes" limit64 standard.retentionPasses
    logLevel := ← logging.text? "level" standard.logLevel }

/-! ## 3. Rules -/

/-- Gives the scheme of an address, in lower case, or says why a text is no address. -/
abbrev AddressReader := String → Except String String

/-- An address that is to be requested is one of the web. -/
def checkUrl (readScheme : AddressReader) (field value : String) : Except ConfigError Unit :=
  match readScheme value with
  | .error cause => .error (.invalidUrl field value cause)
  | .ok scheme =>
    if scheme = "http" ∨ scheme = "https" then .ok () else .error (.notWeb field value)

/-- A number that may not be zero. -/
def checkPositive (field : String) (n : Nat) : Except ConfigError Unit :=
  if n = 0 then .error (.zero field) else .ok ()

/-- The rules of a configuration; the first that is broken is reported. -/
def check (readScheme : AddressReader) (c : Config) : Except ConfigError Unit := do
  checkUrl readScheme "flink_sql_gateway.url" c.gateway.url
  checkUrl readScheme "endpoint.behavior_get_job" c.hub.behaviorEndpoint
  checkUrl readScheme "endpoint.rule_get_job" c.hub.ruleEndpoint
  checkPositive "flink_sql_gateway.poll_max_attempts" c.gateway.pollMaxAttempts
  checkPositive "flink_sql_gateway.request_timeout_secs" c.gateway.requestTimeoutSecs
  checkPositive "manager.reconcile_interval_secs" c.reconcileIntervalSecs

/-- The configuration of a text. A blank text says nothing, so everything has its default. -/
def ofText (readScheme : AddressReader) (s : String) : Except ConfigError Config := do
  let config ←
    if Text.isBlank s then pure {}
    else
      match (Yaml.Document.ofText? s).bind ofDocument? with
      | some config => pure config
      | none => throw .malformed
  config.check readScheme
  return config

end Config

end JobKeeper
