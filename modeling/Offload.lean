import Offload.Binary32
import Offload.Bitmap
import Offload.Block
import Offload.Block.Cells
import Offload.Progress
import Offload.Bytes
import Offload.CallError
import Offload.Canvas
import Offload.Coded
import Offload.DeviceTraits
import Offload.Driver.EntryPoint
import Offload.Driver.Parameter
import Offload.Driver.Request
import Offload.Fault
import Offload.Flags
import Offload.Host.Action
import Offload.Host.Compilation
import Offload.Host.Completion
import Offload.Host.Context
import Offload.Host.Discovery
import Offload.Host.Memory
import Offload.Host.Notice
import Offload.Host.Ownership
import Offload.Host.Query
import Offload.Host.Queue
import Offload.Image.Descriptor
import Offload.Image.Format
import Offload.Image.Region
import Offload.LittleEndian
import Offload.Loader
import Offload.NativeError
import Offload.Overlay
import Offload.Proofs.Absence
import Offload.Proofs.Acceptance
import Offload.Proofs.Accepted
import Offload.Proofs.Bearing
import Offload.Proofs.Buffers
import Offload.Proofs.Cancellation
import Offload.Proofs.Changes
import Offload.Proofs.Conduct
import Offload.Proofs.Decisions
import Offload.Proofs.Declarations
import Offload.Proofs.Deliveries
import Offload.Proofs.Descriptions
import Offload.Proofs.EventAnswers
import Offload.Proofs.EventGraph
import Offload.Proofs.EventStatus
import Offload.Proofs.FailedCalls
import Offload.Proofs.Faults
import Offload.Proofs.Bounds
import Offload.Proofs.Replies
import Offload.Proofs.Scanning
import Offload.Proofs.Endurance
import Offload.Proofs.Filing
import Offload.Proofs.Finality
import Offload.Proofs.Handles
import Offload.Proofs.ImageBounds
import Offload.Proofs.Inventory
import Offload.Proofs.Ledger
import Offload.Proofs.Mentions
import Offload.Proofs.Metadata
import Offload.Proofs.Patches
import Offload.Proofs.Products
import Offload.Proofs.Reach
import Offload.Proofs.Refusals
import Offload.Proofs.ReleasedOnce
import Offload.Proofs.Results
import Offload.Proofs.Runs
import Offload.Proofs.Service
import Offload.Proofs.Stewardship
import Offload.Proofs.Submissions
import Offload.Proofs.Survival
import Offload.Proofs.Transfers
import Offload.Proofs.Upkeep
import Offload.Proofs.WellFormed
import Offload.Proofs.WorkDialogues
import Offload.Proofs.Works
import Offload.Proofs.Wrappers
import Offload.Scalar
import Offload.Script
import Offload.Session.Allocation
import Offload.Session.Answer
import Offload.Session.Compilation
import Offload.Session.Controls
import Offload.Session.Discovery
import Offload.Session.Ownership
import Offload.Session.Queueing
import Offload.Session.Run
import Offload.Session.Slots
import Offload.Simulator.Creation
import Offload.Simulator.Dispatch
import Offload.Simulator.EventGraph
import Offload.Simulator.Information
import Offload.Simulator.Machine
import Offload.Simulator.Object
import Offload.Simulator.Source
import Offload.Simulator.Square
import Offload.Simulator.Store
import Offload.Simulator.Topology
import Offload.Simulator.Transfer
import Offload.Text.Blank
import Offload.Text.Written
import Offload.Text.Radix
import Offload.Text.Search
import Offload.Text.Utf8
import Offload.Proofs.Rectangles
import Offload.Proofs.Allocations
import Offload.Proofs.InitialContents
import Offload.Proofs.Programs
import Offload.Proofs.Squares
import Offload.Proofs.Squaring
import Offload.Proofs.Encoding
import Offload.Proofs.Questions
import Offload.Proofs.BuildLogs
import Offload.Proofs.Builds
import Offload.Proofs.Authored
import Offload.Proofs.Bitmaps
import Offload.Proofs.ProgramLife
import Offload.Proofs.Uploads
import Offload.Proofs.Dialogues
import Offload.Proofs.HostDialogues
import Offload.Proofs.Locality
import Offload.Proofs.Independence
import Offload.Proofs.Orders
import Offload.Proofs.Launches
import Offload.Proofs.Bindings
import Offload.Proofs.Waiting
import Offload.Proofs.Sharing
import Offload.Proofs.Statuses
import Offload.Proofs.Enumerations
import Offload.Proofs.Listings
import Offload.Proofs.Marshalling
import Offload.Proofs.Drawings
import Offload.Proofs.Phrases
import Offload.Proofs.ParameterTypes
import Offload.Proofs.TypedArguments
