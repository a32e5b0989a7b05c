import AgentGym.Lib.Dict
import AgentGym.Lib.Json
import AgentGym.Lib.Text
import AgentGym.Lib.Machine
import AgentGym.Lib.Ledger
import AgentGym.Core.Contracts
import AgentGym.World.Page
import AgentGym.World.Store
import AgentGym.World.Permission
import AgentGym.World.Routes
import AgentGym.World.Writes
import AgentGym.World.Coherent
import AgentGym.World.LostUpdate
import AgentGym.World.Confidential
import AgentGym.World.Acl
import AgentGym.Verifier.StateDiff
import AgentGym.Verifier.Predicates
import AgentGym.Verifier.PageEdit
import AgentGym.Verifier.Accepts
import AgentGym.Verifier.ExactBody
import AgentGym.Verifier.Witnessed
import AgentGym.Verifier.Partition
import AgentGym.Verifier.Raising
import AgentGym.Verifier.Oracle
import AgentGym.Lib.Steps
import AgentGym.Runner.Recorder
import AgentGym.Runner.Budgets
import AgentGym.Runtime.ReferenceAgent
import AgentGym.Runtime.Turns
import AgentGym.Runtime.Recording
import AgentGym.Runtime.Answers
import AgentGym.Runner.Executor
import AgentGym.Runner.Run
import AgentGym.Runner.Status
import AgentGym.Runner.Tools
import AgentGym.Runner.HumanEdit
import AgentGym.World.Fixtures
import AgentGym.Scenarios.Sections
import AgentGym.Scenarios.Common
import AgentGym.Scenarios.Families
import AgentGym.Scenarios.Staging
import AgentGym.Scenarios.Solvable
import AgentGym.Scenarios.Denied
import AgentGym.World.History
import AgentGym.World.Frame
import AgentGym.Scenarios.Histories
import AgentGym.Verifier.RoundTrip
import AgentGym.Runtime.Budgeted
import AgentGym.Runtime.Conversation
import AgentGym.Runner.Environ
import AgentGym.Storage.Index
import AgentGym.Lib.JsonText
import AgentGym.Lib.Lines
import AgentGym.Storage.Filesystem
import AgentGym.Storage.Sealed
import AgentGym.Storage.Reload
import AgentGym.Storage.Crash
import AgentGym.Runtime.Confined
import AgentGym.Runtime.Simulation
import AgentGym.Runner.Lifecycle
import AgentGym.Runner.Record
import AgentGym.Runner.Unlogged
import AgentGym.Runner.Ending
import AgentGym.Runner.Consistent
import AgentGym.World.Atomic
import AgentGym.World.Listing
import AgentGym.Verifier.FailClosed
import AgentGym.Scenarios.Overwrite
import AgentGym.Lib.Files
import AgentGym.Lib.FileChanges
import AgentGym.Lib.Framing
import AgentGym.Core.Package
import AgentGym.Core.Symlinks
import AgentGym.Core.Tree
import AgentGym.Core.PlainDirectory
import AgentGym.Core.Saving
import AgentGym.Core.Tampering
import AgentGym.Runtime.Artifacts
import AgentGym.World.Impersonation
import AgentGym.Runner.Declared
import AgentGym.Scenarios.SectionEdits
import AgentGym.Core.Layers
import AgentGym.Scenarios.Seeds
import AgentGym.Core.Splits
import AgentGym.Scenarios.Materialize
import AgentGym.Runner.Seeding
import AgentGym.Storage.Flushing
import AgentGym.Core.JsonSafe
import AgentGym.Storage.Persistable
import AgentGym.World.Process
import AgentGym.World.Children
import AgentGym.World.InProcess
import AgentGym.Runner.Session
import AgentGym.Runner.ProcessRun
import AgentGym.World.Rights
import AgentGym.Runner.Privilege
import AgentGym.Lib.Select
import AgentGym.Storage.Queries
import AgentGym.Lib.JsonPrefix
import AgentGym.Storage.Salvage
import AgentGym.Runner.Verdict
import AgentGym.Core.Freeze
import AgentGym.Core.Generation
import AgentGym.Runtime.Llm
import AgentGym.World.Alike
import AgentGym.Lib.JsonLoad
import AgentGym.Scenarios.Restaging
