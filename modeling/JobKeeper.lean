import JobKeeper.Command.Run
import JobKeeper.Main
import JobKeeper.Web.Router
import JobKeeper.Proofs.Dict
import JobKeeper.Proofs.Except
import JobKeeper.Proofs.Plan.Run
import JobKeeper.Proofs.Manager.Permanence
import JobKeeper.Proofs.Manager.Overlap
import JobKeeper.Proofs.Manager.Pass
import JobKeeper.Proofs.Manager.Uninterrupted
import JobKeeper.Proofs.Manager.Course
import JobKeeper.Proofs.Manager.Logs
import JobKeeper.Proofs.Manager.Fate
import JobKeeper.Proofs.Manager.Absence
import JobKeeper.Proofs.Manager.Retention
import JobKeeper.Proofs.Manager.Isolation
import JobKeeper.Proofs.Manager.Balance
import JobKeeper.Proofs.Sql.Items
import JobKeeper.Proofs.Sql.Rendering
import JobKeeper.Proofs.Plan.AlertRow
import JobKeeper.Proofs.Manager.Ledger
import JobKeeper.Proofs.Remote.Answers
import JobKeeper.Proofs.Remote.Polling
import JobKeeper.Proofs.Sql.Faults
import JobKeeper.Proofs.Plan.Faults
import JobKeeper.Proofs.Plan.WellFormed
import JobKeeper.Proofs.Plan.Names
import JobKeeper.Proofs.Plan.BehaviorRow
import JobKeeper.Proofs.Manager.Unlisted
import JobKeeper.Proofs.Lifecycle
import JobKeeper.Proofs.Manager.Statements
import JobKeeper.Proofs.Json.Elements
import JobKeeper.Proofs.Job.Wire
import JobKeeper.Proofs.Command.Rendering
import JobKeeper.Proofs.Job.Tolerance
import JobKeeper.Proofs.Plan.Columns
import JobKeeper.Proofs.Job.RoundTrip
import JobKeeper.Proofs.Sql.Options
import JobKeeper.Proofs.Sql.Additions
import JobKeeper.Proofs.Sql.Grouping
import JobKeeper.Proofs.Command.Flags
import JobKeeper.Proofs.Remote.Listing
import JobKeeper.Proofs.Manager.Timeline
import JobKeeper.Proofs.Manager.Stamps
