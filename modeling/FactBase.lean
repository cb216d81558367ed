import FactBase.Binary64.Decimal
import FactBase.Value.Json
import FactBase.Config.Load
import FactBase.Process
import FactBase.Query.Test
import FactBase.Stats
import FactBase.Session.Run
import FactBase.Session.Index
import FactBase.Session.Atoms
import FactBase.Session.Memory
import FactBase.Proofs.Pattern.History
import FactBase.Proofs.Pattern.Path
import FactBase.Proofs.Pattern.Walk
import FactBase.Proofs.Pattern.Matching
import FactBase.Proofs.Store.Arena
import FactBase.Proofs.Store.Threads
import FactBase.Proofs.Store.Consistent
import FactBase.Proofs.Store.Quiet
import FactBase.Proofs.Store.Attach
import FactBase.Proofs.Store.Step
import FactBase.Proofs.Process.Client
import FactBase.Proofs.Process.Operations
import FactBase.Proofs.Process.Guard
import FactBase.Proofs.Process.Consistency
import FactBase.Proofs.Pattern.Network
import FactBase.Proofs.Memory.Records
import FactBase.Proofs.Memory.Aloof
import FactBase.Proofs.Memory.Follows
import FactBase.Proofs.Memory.Mirrors
import FactBase.Proofs.Process.Courses
import FactBase.Proofs.Process.Distinct
import FactBase.Proofs.Process.Mirrors
import FactBase.Proofs.Query.Isolation
import FactBase.Proofs.Memory.Custody
import FactBase.Proofs.Process.Modify
import FactBase.Proofs.Process.Trail
import FactBase.Proofs.Process.Numbering
import FactBase.Proofs.Process.Windows
import FactBase.Proofs.Process.Holdings
import FactBase.Proofs.Store.Tending
import FactBase.Proofs.Process.Declined
import FactBase.Proofs.Process.Keepers
import FactBase.Proofs.Store.Templates
import FactBase.Proofs.Process.Schemas
import FactBase.Proofs.Process.Building
import FactBase.Proofs.Process.Templates
import FactBase.Proofs.Store.Balance
import FactBase.Proofs.Store.Breaking
import FactBase.Proofs.Process.Loans
import FactBase.Proofs.Process.Pins
import FactBase.Proofs.Pattern.Lenience
import FactBase.Proofs.Store.Untested
import FactBase.Proofs.Store.Lenience
import FactBase.Proofs.Process.Lenience
import FactBase.Proofs.Process.Alongside
import FactBase.Proofs.Index.Insertions
import FactBase.Proofs.Query.Enumeration
import FactBase.Proofs.Query.Halts
import FactBase.Proofs.Store.PinCounts
import FactBase.Proofs.Process.Attending
import FactBase.Proofs.Query.Actions
import FactBase.Proofs.Store.Contents
import FactBase.Proofs.Store.Schema
import FactBase.Proofs.Store.Schematic
import FactBase.Proofs.Store.Filling
import FactBase.Proofs.Store.Realm
import FactBase.Proofs.Slot.Ceiling
import FactBase.Proofs.Slot.Defaults
import FactBase.Proofs.Pattern.Splits
import FactBase.Proofs.Store.Housed
import FactBase.Proofs.Store.Staging
import FactBase.Proofs.Store.Twins
import FactBase.Proofs.Process.Twins
import FactBase.Proofs.Process.Modifying
import FactBase.Proofs.Store.Handles
import FactBase.Proofs.Store.Census
import FactBase.Proofs.Process.Census
import FactBase.Proofs.Pattern.Halting
import FactBase.Proofs.Store.Interrupted
import FactBase.Proofs.Process.Halting
import FactBase.Proofs.Store.Sweeping
import FactBase.Proofs.Process.Sweeping
import FactBase.Proofs.Value.Json
import FactBase.Proofs.Store.Ordered
import FactBase.Proofs.Process.Ordered
import FactBase.Proofs.Listener.Registry
import FactBase.Proofs.Store.Audience
import FactBase.Proofs.Process.Attention
import FactBase.Proofs.Process.Dispatch
import FactBase.Proofs.Process.Cursors
import FactBase.Proofs.Pattern.Failures
import FactBase.Proofs.Pattern.Intact
