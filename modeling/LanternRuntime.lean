import LanternRuntime.ProgLib.Prog
import LanternRuntime.ProgLib.Rules
import LanternRuntime.ProgLib.Session
import LanternRuntime.ProgLib.HandleTable
import LanternRuntime.Host.Types
import LanternRuntime.Host.State
import LanternRuntime.Host.Calls
import LanternRuntime.Host.Routing
import LanternRuntime.Host.Wire
import LanternRuntime.Host.Simulation
import LanternRuntime.Host.Denial
import LanternRuntime.Host.Ipc
import LanternRuntime.Host.Remote
import LanternRuntime.Host.Register
import LanternRuntime.Host.RoundTrip
import LanternRuntime.Platform.Arena
import LanternRuntime.ProgLib.Pool
import LanternRuntime.Platform.Kernel
import LanternRuntime.Platform.Mapping
import LanternRuntime.Platform.History
import LanternRuntime.Platform.Exhaustion
import LanternRuntime.Confined.Loading
import LanternRuntime.Confined.Program
import LanternRuntime.Confined.History
import LanternRuntime.Confined.Guest
import LanternRuntime.Confined.Effects
import LanternRuntime.Confined.Ordering
import LanternRuntime.Confined.Reference
import LanternRuntime.Confined.Wiring
import LanternRuntime.Host.Totality
import LanternRuntime.Confined.Linked
import LanternRuntime.Confined.Package
import LanternRuntime.Host.Hostile
import LanternRuntime.Host.Shapes
import LanternRuntime.Platform.Fallback
import LanternRuntime.ProgLib.Tiling
import LanternRuntime.Platform.Requests
import LanternRuntime.Platform.Race
import LanternRuntime.Platform.Entries
import LanternRuntime.Platform.Unmapping
import LanternRuntime.Confined.Sequence
import LanternRuntime.Confined.Probing
import LanternRuntime.Confined.Details
import LanternRuntime.Confined.Outcome
import LanternRuntime.Guests.Probe
import LanternRuntime.ProgLib.Text
import LanternRuntime.Guests.Reports
import LanternRuntime.Guests.Hosted
import LanternRuntime.Guests.Traffic
import LanternRuntime.ProgLib.Rely
import LanternRuntime.Guests.Honest
import LanternRuntime.ProgLib.Blocks
import LanternRuntime.ProgLib.Contract
import LanternRuntime.Platform.Memory
import LanternRuntime.Platform.Paging
import LanternRuntime.Platform.Bytes
import LanternRuntime.ProgLib.Linear
import LanternRuntime.Platform.Callers
import LanternRuntime.ProgLib.Credits
import LanternRuntime.Confined.Budget
import LanternRuntime.Confined.Reporting
import LanternRuntime.Confined.Blame
import LanternRuntime.Guests.Placement
import LanternRuntime.ProgLib.Protocols
import LanternRuntime.Confined.Dialogue
import LanternRuntime.ProgLib.Leases
import LanternRuntime.Guests.Leases
import LanternRuntime.Guests.Spared
import LanternRuntime.Host.Components
import LanternRuntime.Guests.Neighbours
