import Conduit.Rehearsal.Run
import Conduit.Script.Containers
import Conduit.Script.Lines
import Conduit.Script.LocalTasks
import Conduit.Script.Loops
import Conduit.Script.Registers
import Conduit.Proofs.Chain.Linked
import Conduit.Proofs.Chain.Shortcut
import Conduit.Proofs.Chain.Edits
import Conduit.Proofs.Chain.History
import Conduit.Proofs.Chain.Search
import Conduit.Proofs.World.Bare
import Conduit.Proofs.World.Hosting
import Conduit.Proofs.Dispatch.Static
import Conduit.Proofs.Dispatch.Inbound
import Conduit.Proofs.Dispatch.Sink
import Conduit.Proofs.Dispatch.Outbound
import Conduit.Proofs.Dispatch.Freight
import Conduit.Proofs.World.Housing
import Conduit.Proofs.World.Assembly
import Conduit.Proofs.World.Replacement
import Conduit.Proofs.Buffer.Content
import Conduit.Proofs.Script.Safety
import Conduit.Proofs.Script.Composite
import Conduit.Proofs.Framing.Attempt
import Conduit.Proofs.Framing.Chunks
import Conduit.Proofs.Framing.Intake
import Conduit.Proofs.Framing.Decoding
import Conduit.Proofs.Codec.Watch
import Conduit.Proofs.Codec.Lines
import Conduit.Proofs.Codec.Stream
import Conduit.Proofs.Codec.Collector
import Conduit.Proofs.Framing.TextLines
import Conduit.Proofs.Codec.Text
import Conduit.Proofs.Codec.Writing
import Conduit.Proofs.Codec.RoundTrip
import Conduit.Proofs.Dispatch.Failure
import Conduit.Proofs.Dispatch.Posting
import Conduit.Proofs.Dispatch.Cascade
import Conduit.Proofs.Turn.Schedule
import Conduit.Proofs.Activation.Annals
import Conduit.Proofs.Lifecycle.Career
import Conduit.Proofs.Outside.Removed
import Conduit.Proofs.Buffer.Stream
import Conduit.Proofs.Framing.Drained
import Conduit.Proofs.Framing.Calls
import Conduit.Proofs.Script.Comparison
import Conduit.Proofs.Script.Sharing
import Conduit.Proofs.Promise.Honour
import Conduit.Proofs.Script.Queues
import Conduit.Proofs.Dispatch.Chores
import Conduit.Proofs.Executor.Bench
import Conduit.Proofs.Dispatch.Residue
import Conduit.Proofs.Script.Compaction
import Conduit.Proofs.Script.Views
import Conduit.Proofs.Script.Numbers
import Conduit.Proofs.Script.Scans
import Conduit.Proofs.Script.Growth
import Conduit.Proofs.Codec.Decoder
import Conduit.Proofs.Codec.Frames
