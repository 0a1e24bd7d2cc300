import RemoteDisk.Main
import RemoteDisk.Memory.View
import RemoteDisk.Proofs.Acts
import RemoteDisk.Proofs.Bare
import RemoteDisk.Proofs.Launch
import RemoteDisk.Proofs.Accounting
import RemoteDisk.Proofs.Bounds
import RemoteDisk.Proofs.FirstFailure
import RemoteDisk.Proofs.FlatDisk
import RemoteDisk.Proofs.Agreement
import RemoteDisk.Proofs.Leftovers
import RemoteDisk.Proofs.Coupling
import RemoteDisk.Proofs.Replies
import RemoteDisk.Proofs.Modes
import RemoteDisk.Proofs.Deliveries
import RemoteDisk.Interplay
import RemoteDisk.Proofs.Interplay
import RemoteDisk.Proofs.Stepwise
import RemoteDisk.Proofs.Rejections
import RemoteDisk.Proofs.Effects
import RemoteDisk.Proofs.Healthy
import RemoteDisk.Proofs.Clients
import RemoteDisk.Proofs.Steady
import RemoteDisk.Proofs.Endings
import RemoteDisk.Proofs.Outline
import RemoteDisk.Proofs.Peers
import RemoteDisk.Proofs.Hollow
import RemoteDisk.Proofs.Secrecy
import RemoteDisk.Proofs.Reads
import RemoteDisk.Proofs.Signals
import RemoteDisk.Proofs.Tiling
import RemoteDisk.Proofs.Leading
import RemoteDisk.Proofs.Resting
import RemoteDisk.Proofs.Bus
import RemoteDisk.Proofs.Patterns
import RemoteDisk.Proofs.Copies
import RemoteDisk.Proofs.Steps
import RemoteDisk.Proofs.SelfTest
import RemoteDisk.Proofs.Sectors
import RemoteDisk.Proofs.Checks
import RemoteDisk.Proofs.Starts
import RemoteDisk.Proofs.Traffic
import RemoteDisk.Proofs.Polling
import RemoteDisk.Proofs.Pauses
import RemoteDisk.Proofs.Diagnostics
import RemoteDisk.Proofs.Reports
import RemoteDisk.Proofs.Routing
import RemoteDisk.Proofs.Capacity
import RemoteDisk.Proofs.Plans
import RemoteDisk.Proofs.Deadlines
import RemoteDisk.Proofs.Dumps
