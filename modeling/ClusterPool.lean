import ClusterPool.Names.Lookup
import ClusterPool.Script.Play
import ClusterPool.Proofs.Fleet
import ClusterPool.Proofs.Program.Alone
import ClusterPool.Proofs.Program.Crowd
import ClusterPool.Proofs.Tables
import ClusterPool.Proofs.Zone.Creation
import ClusterPool.Proofs.Zone.Division
import ClusterPool.Proofs.Zone.Reconciliation
import ClusterPool.Proofs.Zone.Reloading
import ClusterPool.Proofs.Zone.Ending
import ClusterPool.Proofs.Zone.Sending
import ClusterPool.Proofs.Zone.Course
import ClusterPool.Proofs.Zone.Ownership
import ClusterPool.Proofs.Zone.Agreement
import ClusterPool.Proofs.Zone.Coverage
import ClusterPool.Proofs.Zone.Routing
import ClusterPool.Proofs.Zone.Walk
import ClusterPool.Proofs.Zone.Continuity
import ClusterPool.Proofs.Grace
import ClusterPool.Proofs.Zone.Expiry
import ClusterPool.Proofs.Document.Spelling
import ClusterPool.Proofs.Program.Chronicle
import ClusterPool.Proofs.Program.Trace
import ClusterPool.Proofs.Program.Outcome
import ClusterPool.Proofs.Program.Pair
import ClusterPool.Proofs.Zone.Moments
import ClusterPool.Proofs.Zone.Custody
import ClusterPool.Proofs.Zone.Delivery
import ClusterPool.Proofs.Cycle
import ClusterPool.Proofs.Zone.Answers
import ClusterPool.Proofs.Zone.Changing
import ClusterPool.Proofs.Zone.Fairness
import ClusterPool.Proofs.Zone.Rescue
import ClusterPool.Proofs.Zone.Repeating
import ClusterPool.Proofs.Zone.Abandonment
import ClusterPool.Proofs.Zone.Discharge
import ClusterPool.Proofs.Zone.Counting
import ClusterPool.Proofs.Zone.Conservation
import ClusterPool.Proofs.Zone.Overlap
import ClusterPool.Proofs.Zone.Revising
import ClusterPool.Proofs.Zone.Closing
import ClusterPool.Proofs.Zone.Latecomers
import ClusterPool.Proofs.Zone.Observing
import ClusterPool.Proofs.Zone.Reporting
import ClusterPool.Proofs.Zone.Readiness
import ClusterPool.Proofs.Zone.Withholding
import ClusterPool.Proofs.Zone.Truncation
import ClusterPool.Proofs.Zone.Broadcasting
import ClusterPool.Proofs.Selection
import ClusterPool.Proofs.Selection.Reference
import ClusterPool.Proofs.Selection.Stability
import ClusterPool.Proofs.Selection.Separation
import ClusterPool.Proofs.Zone.Limiting
import ClusterPool.Proofs.Upkeep
import ClusterPool.Proofs.Stage.Turning
import ClusterPool.Proofs.Document.Reading
import ClusterPool.Proofs.Document.Skipping
import ClusterPool.Proofs.Document.Collecting
import ClusterPool.Proofs.Document.Legibility
import ClusterPool.Proofs.Document.RoundTrip
import ClusterPool.Proofs.Document.Truncation
import ClusterPool.Proofs.Timesheet
import ClusterPool.Proofs.Stage.Watching
import ClusterPool.Proofs.Stage.Playing
import ClusterPool.Proofs.Stage.Scheduling
import ClusterPool.Proofs.Stage.Answering
import ClusterPool.Proofs.Stage.Concluding
import ClusterPool.Proofs.Program.Stretches
import ClusterPool.Proofs.Program.Endurance
import ClusterPool.Proofs.Zone.Endurance
import ClusterPool.Proofs.Stage.Enduring
import ClusterPool.Proofs.Stage.Survival
import ClusterPool.Proofs.Throng
import ClusterPool.Proofs.Career
import ClusterPool.Proofs.Environment
