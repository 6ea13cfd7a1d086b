import NetBridge.CommandLine
import NetBridge.CommandLine.Completion
import NetBridge.CommandLine.Help
import NetBridge.CommandLine.Output
import NetBridge.CommandLine.Run
import NetBridge.CommandLine.Usage
import NetBridge.Config
import NetBridge.Config.Document
import NetBridge.Config.Fault
import NetBridge.Config.Load
import NetBridge.Control
import NetBridge.ControlPlane
import NetBridge.Decimal.Binary64
import NetBridge.Dialogue
import NetBridge.Errno
import NetBridge.Error
import NetBridge.Ioctl.Host
import NetBridge.Ioctl.Payload
import NetBridge.Kernel
import NetBridge.Link.Flags
import NetBridge.Log.Directive
import NetBridge.Log.Event
import NetBridge.Log.Filter
import NetBridge.Log.Level
import NetBridge.Log.Line
import NetBridge.Log.Pattern
import NetBridge.Log.Reported
import NetBridge.Main
import NetBridge.Name
import NetBridge.Name.Field
import NetBridge.Name.Normalise
import NetBridge.Script
import NetBridge.Text.CaseTable
import NetBridge.Text.Character
import NetBridge.Text.ClassTable
import NetBridge.Text.Json
import NetBridge.Text.Lowercase
import NetBridge.Text.PrintTable
import NetBridge.Text.Quoted
import NetBridge.Toml.Document
import NetBridge.Toml.Number
import NetBridge.Toml.Quotation
import NetBridge.Toml.Tree
import NetBridge.Toml.Value
import NetBridge.Topology
import NetBridge.Topology.Action
import NetBridge.Topology.Declaration
import NetBridge.Proofs.Outcome
import NetBridge.Proofs.Session
import NetBridge.Proofs.Moments
import NetBridge.Proofs.Course
import NetBridge.Proofs.Failure
import NetBridge.Proofs.Blame
import NetBridge.Proofs.Compound
import NetBridge.Proofs.Custody
import NetBridge.Proofs.Audit
import NetBridge.Proofs.Yield
import NetBridge.Proofs.Kernel.Table
import NetBridge.Proofs.Kernel.WellFormed
import NetBridge.Proofs.Kernel.Invariant
import NetBridge.Proofs.Kernel.Origin
import NetBridge.Proofs.Kernel.Counters
import NetBridge.Proofs.Kernel.Growth
import NetBridge.Proofs.Kernel.Holdings
import NetBridge.Proofs.Kernel.Operations
import NetBridge.Proofs.Kernel.Listing
import NetBridge.Proofs.Kernel.Membership
import NetBridge.Proofs.Kernel.Destruction
import NetBridge.Proofs.Kernel.Sight
import NetBridge.Proofs.Kernel.Remainder
import NetBridge.Proofs.Kernel.ForcedDestruction
import NetBridge.Proofs.Topology.Difference
import NetBridge.Proofs.Config.Consistency
import NetBridge.Proofs.Topology.Steps
import NetBridge.Proofs.Topology.Atomicity
import NetBridge.Proofs.Topology.Growth
import NetBridge.Proofs.Kernel.Orphans
import NetBridge.Proofs.Kernel.Creation
import NetBridge.Proofs.Topology.Building
import NetBridge.Proofs.Topology.Comparison
import NetBridge.Proofs.Topology.Ordering
import NetBridge.Proofs.Topology.Drafting
import NetBridge.Proofs.Config.Loading
import NetBridge.Proofs.Topology.Resume
import NetBridge.Proofs.Kernel.Razing
import NetBridge.Proofs.Topology.Site
import NetBridge.Proofs.Topology.Undo
import NetBridge.Proofs.Topology.Demolition
import NetBridge.Proofs.Topology.Settling
import NetBridge.Proofs.Topology.Completion
import NetBridge.Proofs.Topology.Realisation
import NetBridge.Proofs.Name.Field
import NetBridge.Proofs.Kernel.Named
import NetBridge.Proofs.Kernel.Turns
import NetBridge.Proofs.Kernel.Roster
import NetBridge.Proofs.Ioctl.Payload
import NetBridge.Proofs.Ioctl.Interruption
import NetBridge.Proofs.Ioctl.Trace
import NetBridge.Proofs.Ioctl.Refinement
import NetBridge.Proofs.Ioctl.Session
import NetBridge.Proofs.Kernel.Attachment
import NetBridge.Proofs.Config.Precedence
import NetBridge.Proofs.Kernel.Snapshot
import NetBridge.Proofs.Name.Cut
import NetBridge.Proofs.Name.Decoding
import NetBridge.Proofs.Addressing
import NetBridge.Proofs.Ioctl.Cargo
import NetBridge.Proofs.Enumeration
import NetBridge.Proofs.Inquiry
import NetBridge.Proofs.LinkState
import NetBridge.Proofs.Topology.Changes
import NetBridge.Proofs.CommandLine.DryRun
