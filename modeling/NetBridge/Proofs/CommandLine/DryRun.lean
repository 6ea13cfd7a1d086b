import NetBridge.CommandLine.Run
import NetBridge.Proofs.Kernel.Holdings
import NetBridge.Proofs.Kernel.Listing
import NetBridge.Proofs.Topology.Atomicity
import NetBridge.Proofs.Topology.Changes

namespace NetBridge

namespace Kernel

variable {kernel : Kernel}

end Kernel

namespace CommandLine

open Dialogue NetBridge.Topology

variable {plane : ControlPlane σ} {state start : σ} {policy : NamePolicy}

section Execution

variable {plan : List Action} {final : σ} {cause : Error}

end Execution

end CommandLine

end NetBridge
