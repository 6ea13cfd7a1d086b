import NetBridge.Kernel
import NetBridge.Proofs.Outcome
import NetBridge.Topology

namespace NetBridge

/-- The operations that can be asked for. -/
inductive Intent where
  | normalise (text : String)
  | createBridge (text : String)
  | deleteBridge (text : String)
  | addInterface (bridge iface : String)
  | removeInterface (bridge iface : String)
  | listBridges
  | listInterfaces (text : String)
  | bridgeExists (text : String)
  | interfaceExists (text : String)
  | linkFlags (text : String)
  | setLinkUp (text : String) (up : Bool)
  | destroyBridge (text : String) (force : Bool)
  | snapshot (text : String)
  | snapshotAll
  | planUp (declared : List Declaration)
  | planDown (declared : List Declaration)
  | execute (plan : List Action)

@[reducible] def Intent.Result : Intent → Type
  | normalise _ => IfName
  | createBridge _ => Unit
  | deleteBridge _ => Unit
  | addInterface _ _ => Unit
  | removeInterface _ _ => Unit
  | listBridges => List String
  | listInterfaces _ => List String
  | bridgeExists _ => Bool
  | interfaceExists _ => Bool
  | linkFlags _ => LinkFlags
  | setLinkUp _ _ => Unit
  | destroyBridge _ _ => Unit
  | snapshot _ => Control.Snapshot
  | snapshotAll => List Control.Snapshot
  | planUp _ => List Action
  | planDown _ => List Action
  | execute _ => Unit

def Intent.procedure (policy : NamePolicy) : (intent : Intent) → Procedure intent.Result
  | normalise text => Control.name policy text
  | createBridge text => Control.createBridge policy text
  | deleteBridge text => Control.deleteBridge policy text
  | addInterface bridge iface => Control.addInterface policy bridge iface
  | removeInterface bridge iface => Control.removeInterface policy bridge iface
  | listBridges => Control.listBridges
  | listInterfaces text => Control.listInterfaces policy text
  | bridgeExists text => Control.bridgeExists policy text
  | interfaceExists text => Control.interfaceExists policy text
  | linkFlags text => Control.linkFlags policy text
  | setLinkUp text up => Control.setLinkUp policy text up
  | destroyBridge text force => Control.destroyBridge policy text force
  | snapshot text => Control.snapshot policy text
  | snapshotAll => Control.snapshotAll policy
  | planUp declared => Topology.planUp policy declared
  | planDown declared => Topology.planDown policy declared
  | execute plan => Topology.execute policy plan

/-- What can happen to a kernel beside the operations. A call is a single one, on any handle. -/
inductive Incident where
  | call (asked : Call)
  | addLink (name : String)
  | removeLink (name : String)
  | vanishDuringListing (name : String)
  | refuseHandles (refuse : Bool)
  | isUp (name : String)

@[reducible] def Incident.Outcome : Incident → Type
  | call asked => asked.Answer
  | addLink _ => Nat
  | removeLink _ => Unit
  | vanishDuringListing _ => Unit
  | refuseHandles _ => Unit
  | isUp _ => Bool

/-- What an incident tells, and the kernel after it. A new link tells its index. -/
def Incident.play : (incident : Incident) → Kernel → incident.Outcome × Kernel
  | call asked, kernel => kernel.answer asked
  | addLink name, kernel => ((kernel.addLink name).lastIndex, kernel.addLink name)
  | removeLink name, kernel => ((), kernel.removeLink name)
  | vanishDuringListing name, kernel => ((), kernel.vanishDuringListing name)
  | refuseHandles refuse, kernel => ((), kernel.refuseHandles refuse)
  | isUp name, kernel => (kernel.isUp name, kernel)

inductive Move where
  | operate (policy : NamePolicy) (intent : Intent)
  | happen (incident : Incident)

@[reducible] def Move.Outcome : Move → Type
  | operate _ intent => Except Error intent.Result
  | happen incident => incident.Outcome

namespace Kernel

def play : (move : Move) → Kernel → Course Kernel move.Outcome
  | .operate policy intent, kernel => (intent.procedure policy).run plane kernel
  | .happen incident, kernel => ⟨(incident.play kernel).1, (incident.play kernel).2, []⟩

def after (kernel : Kernel) (moves : List Move) : Kernel :=
  moves.foldl (fun kernel move => (kernel.play move).state) kernel

/-- The kernels that a session can lead to. -/
inductive Reachable : Kernel → Prop where
  | new : Reachable .new
  | move {kernel : Kernel} (before : Reachable kernel) (move : Move) :
      Reachable (kernel.play move).state

namespace Reachable

theorem after {kernel : Kernel} (before : Reachable kernel) (moves : List Move) :
    Reachable (kernel.after moves) := by
  induction moves generalizing kernel with
  | nil => exact before
  | cons first rest ih => exact ih (before.move first)

theorem incident {kernel : Kernel} (before : Reachable kernel) (incident : Incident) :
    Reachable (incident.play kernel).2 :=
  before.move (.happen incident)

theorem call {kernel : Kernel} (before : Reachable kernel) (call : Call) :
    Reachable (kernel.answer call).2 :=
  before.incident (.call call)

/-- Every procedure leads from a reachable kernel to a reachable one, one call after another. -/
theorem outcome {kernel : Kernel} (before : Reachable kernel) (p : Procedure α) :
    Reachable (p.outcome plane kernel).2 :=
  Procedure.outcome_preserves (fun call _ reached => reached.call call) p before

/-- What holds of the new kernel and is kept by every incident holds of every reachable kernel:
operations are sequences of calls. -/
theorem invariant {holds : Kernel → Prop} (initial : holds .new)
    (kept : ∀ (incident : Incident) (kernel : Kernel), holds kernel →
      holds (incident.play kernel).2)
    {kernel : Kernel} (reached : Reachable kernel) : holds kernel := by
  induction reached with
  | new => exact initial
  | move before move ih =>
    cases move with
    | happen incident => exact kept incident _ ih
    | operate policy intent =>
      exact Procedure.outcome_preserves (fun call kernel => kept (.call call) kernel)
        (intent.procedure policy) ih

end Reachable

end Kernel

end NetBridge
