import Switchboard.Bus.Rehearsal
import Switchboard.Channel.Rehearsal
import Switchboard.Handler.Diagnostic
import Switchboard.Recovery.Calls
import Switchboard.Proofs.Channel.Delivery
import Switchboard.Sample.Parts
import Switchboard.Proofs.Dispatch.Provenance
import Switchboard.Proofs.Bus.Conformity
import Switchboard.Proofs.Bus.Shutdown
import Switchboard.Proofs.Recovery.Memory
import Switchboard.Proofs.Registry.Ambiguity
import Switchboard.Proofs.Json.Documents
import Switchboard.Proofs.Rpc.RoundTrip
import Switchboard.Proofs.Dispatch.Independence
import Switchboard.Proofs.Dispatch.Recovering
import Switchboard.Proofs.Dispatch.Scoping
import Switchboard.Proofs.Bus.Sessions
import Switchboard.Proofs.Bus.Ordering
import Switchboard.Proofs.Dispatch.Subscribing
import Switchboard.Proofs.Rpc.Shapes
import Switchboard.Proofs.Message.Requests
import Switchboard.Proofs.Bus.Overlap
import Switchboard.Proofs.Handler.Positions
import Switchboard.Proofs.Message.Drafts
import Switchboard.Proofs.Failure.Reports
import Switchboard.Proofs.Dispatch.Choosing
import Switchboard.Proofs.Handler.Numbering
import Switchboard.Proofs.Recovery.Sharing
import Switchboard.Proofs.Bus.Building
import Switchboard.Proofs.Config.Settings
import Switchboard.Proofs.Recovery.Hierarchy
