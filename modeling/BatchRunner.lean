import BatchRunner.CommandLine.Application
import BatchRunner.Machine.Launch
import BatchRunner.Main
import BatchRunner.Rehearsal
import BatchRunner.Scheduler
import BatchRunner.Proofs.Files.Tree
import BatchRunner.Proofs.Path
import BatchRunner.Proofs.Files.Walk
import BatchRunner.Proofs.Store.Artifact
import BatchRunner.Proofs.Store.Change
import BatchRunner.Proofs.Scheduler.History
import BatchRunner.Proofs.Scheduler.Chronicle
import BatchRunner.Proofs.Rehearsal
import BatchRunner.Proofs.Scheduler.Memoization
import BatchRunner.Proofs.Scheduler.Placeholder
import BatchRunner.Proofs.Exclusion.Table
import BatchRunner.Proofs.Scheduler.Calls
import BatchRunner.Proofs.Store.Site
import BatchRunner.Proofs.Store.Kept
import BatchRunner.Proofs.Scheduler.Turn
import BatchRunner.Proofs.Scheduler.Independence
import BatchRunner.Proofs.Supervision.Notice
import BatchRunner.Proofs.CommandLine.Startup
import BatchRunner.Proofs.Exclusion.Validation
import BatchRunner.Proofs.Report
import BatchRunner.Proofs.Selection
import BatchRunner.Proofs.Command
import BatchRunner.Proofs.Supervision.Group
import BatchRunner.Proofs.Path.Ancestors
import BatchRunner.Proofs.Files.Pruning
import BatchRunner.Proofs.Files.Hollow
import BatchRunner.Proofs.Store.Clean
import BatchRunner.Proofs.Scheduler.Forgetting
import BatchRunner.Proofs.Scheduler.Bypass
import BatchRunner.Proofs.Scheduler.Accounting
import BatchRunner.Proofs.CommandLine.Engine
import BatchRunner.Proofs.Json.Member
import BatchRunner.Proofs.CommandLine.Paths
