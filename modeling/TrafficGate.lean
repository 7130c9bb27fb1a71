import TrafficGate.Main
import TrafficGate.Metrics
import TrafficGate.Packet.Traversal
import TrafficGate.Room.Dispatch
import TrafficGate.Proofs.Gate.Posting
import TrafficGate.Proofs.Gate.Faults
import TrafficGate.Proofs.Gate.Restart
import TrafficGate.Proofs.Packet.Absence
import TrafficGate.Proofs.Declarations.RoundTrip
import TrafficGate.Proofs.Room.Pipeline
import TrafficGate.Proofs.Server.Sharing
import TrafficGate.Proofs.Room.Gating
import TrafficGate.Proofs.Packet.Route
import TrafficGate.Proofs.Packet.Decision
import TrafficGate.Proofs.Gate.History
import TrafficGate.Proofs.Declarations.Synchronization
import TrafficGate.Proofs.Store.Refinement
import TrafficGate.Proofs.Gate.Commutation
import TrafficGate.Proofs.Gate.Registration
import TrafficGate.Proofs.Gate.Writing
import TrafficGate.Proofs.Gate.Illegible
import TrafficGate.Proofs.Room.Asking
import TrafficGate.Proofs.Room.Telling
import TrafficGate.Proofs.Server.Accounting
import TrafficGate.Proofs.Address
import TrafficGate.Proofs.Chain
import TrafficGate.Proofs.Packet.Chains
import TrafficGate.Proofs.Gate.Sizes
import TrafficGate.Proofs.Chain.Placement
import TrafficGate.Proofs.Log.Precedence
import TrafficGate.Proofs.Packet.Text
import TrafficGate.Proofs.Category.Reading
import TrafficGate.Proofs.Room.Audience
