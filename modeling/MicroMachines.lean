import MicroMachines.Controller.Authorized
import MicroMachines.Vmm.Exits
import MicroMachines.Vmm.EarlyInterrupts
import MicroMachines.Vmm.Wakeups
import MicroMachines.Vmm.Interrupts
import MicroMachines.Vmm.Freshness
import MicroMachines.Vsock.HostToGuest
import MicroMachines.Vsock.Credit
import MicroMachines.Vsock.Window
import MicroMachines.Vsock.Handshake
import MicroMachines.Vsock.Signals
import MicroMachines.Block.Bounds
import MicroMachines.Exec.Agent
import MicroMachines.Cluster.Agreement
import MicroMachines.Cluster.Capacity
import MicroMachines.Cluster.Deletion
import MicroMachines.Exec.Answer
import MicroMachines.Exec.Reaper
import MicroMachines.Exec.Verdict
import MicroMachines.Controller.Naming
import MicroMachines.Cluster.Retries
import MicroMachines.Host.Sharing
import MicroMachines.Host.Addresses
import MicroMachines.Host.OwnFiles
import MicroMachines.HostAgent.SpecChain
import MicroMachines.Vmm.Retention
import MicroMachines.Boot.Segments
import MicroMachines.Vmm.Fingerprint
import MicroMachines.Host.ControlReply
import MicroMachines.Vmm.StorePaths
import MicroMachines.Vsock.Clients
import MicroMachines.Sandbox.Jailer
