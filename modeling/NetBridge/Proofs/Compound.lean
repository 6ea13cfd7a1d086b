import NetBridge.Proofs.Session

namespace NetBridge

/-- What holds of every look at the kernel, and is kept along a procedure. -/
structure Inquiring (policy : NamePolicy) (good : {α : Type} → Procedure α → Prop) : Prop where
  pure : ∀ {α : Type} (value : α), good (Pure.pure value)
  bind : ∀ {α β : Type} {p : Procedure α} {k : α → Procedure β},
    good p → (∀ value, good (k value)) → good (p >>= k)
  name : ∀ text, good (Control.name policy text)
  listBridges : good Control.listBridges
  listInterfaces : ∀ text, good (Control.listInterfaces policy text)
  interfaceExists : ∀ text, good (Control.interfaceExists policy text)
  linkFlags : ∀ text, good (Control.linkFlags policy text)

/-- What holds of every change of the kernel as well, and of declining to change it. -/
structure Operating (policy : NamePolicy) (good : {α : Type} → Procedure α → Prop) : Prop
    extends Inquiring policy good where
  createBridge : ∀ text, good (Control.createBridge policy text)
  deleteBridge : ∀ text, good (Control.deleteBridge policy text)
  addInterface : ∀ bridge iface, good (Control.addInterface policy bridge iface)
  removeInterface : ∀ bridge iface, good (Control.removeInterface policy bridge iface)
  setLinkUp : ∀ text up, good (Control.setLinkUp policy text up)
  decline : ∀ {α : Type} bridge members, good (throw (.bridgeBusy bridge members) : Procedure α)

namespace Inquiring

open Control NetBridge.Topology

variable {policy : NamePolicy} {good : {α : Type} → Procedure α → Prop}

theorem bridgeExists (inquiring : Inquiring policy good) (text : String) :
    good (bridgeExists policy text) :=
  inquiring.bind (inquiring.name text) fun _ =>
    inquiring.bind inquiring.listBridges fun _ => inquiring.pure _

theorem snapshot (inquiring : Inquiring policy good) (text : String) :
    good (snapshot policy text) :=
  inquiring.bind (inquiring.name text) fun bridge =>
    inquiring.bind (inquiring.listInterfaces bridge.text) fun _ => inquiring.pure _

theorem snapshots (inquiring : Inquiring policy good) (texts : List String) :
    good (snapshots policy texts) := by
  induction texts with
  | nil => exact inquiring.pure []
  | cons text rest ih =>
    exact inquiring.bind (inquiring.snapshot text) fun _ =>
      inquiring.bind ih fun _ => inquiring.pure _

theorem snapshotAll (inquiring : Inquiring policy good) : good (snapshotAll policy) :=
  inquiring.bind inquiring.listBridges inquiring.snapshots

theorem additions (inquiring : Inquiring policy good) (bridge : IfName) (live texts : List String) :
    good (additions policy bridge live texts) := by
  induction texts with
  | nil => exact inquiring.pure []
  | cons text rest ih =>
    refine inquiring.bind (inquiring.name text) fun iface => inquiring.bind ih fun later => ?_
    split <;> exact inquiring.pure _

theorem removals (inquiring : Inquiring policy good) (bridge : IfName) (live texts : List String) :
    good (removals policy bridge live texts) := by
  induction texts with
  | nil => exact inquiring.pure []
  | cons text rest ih =>
    refine inquiring.bind (inquiring.name text) fun iface => inquiring.bind ih fun later => ?_
    split <;> exact inquiring.pure _

theorem completion (inquiring : Inquiring policy good) (declared : Declaration) :
    good (completion policy declared) := by
  obtain ⟨text, members, up⟩ := declared
  refine inquiring.bind (inquiring.name text) fun bridge => ?_
  refine inquiring.bind (inquiring.bridgeExists bridge.text) fun present => ?_
  have adding (live : List String) := inquiring.additions bridge live members
  cases present with
  | false =>
    refine inquiring.bind (inquiring.pure []) fun live => inquiring.bind (adding live) fun _ => ?_
    cases up with
    | false => exact inquiring.bind (inquiring.pure []) fun _ => inquiring.pure _
    | true =>
      exact inquiring.bind (inquiring.pure [Action.linkUp bridge.text]) fun _ => inquiring.pure _
  | true =>
    refine inquiring.bind (inquiring.listInterfaces bridge.text) fun live =>
      inquiring.bind (adding live) fun _ => ?_
    cases up with
    | false => exact inquiring.bind (inquiring.pure []) fun _ => inquiring.pure _
    | true =>
      exact inquiring.bind (inquiring.linkFlags bridge.text) fun _ =>
        inquiring.bind (inquiring.pure _) fun _ => inquiring.pure _

theorem demolition (inquiring : Inquiring policy good) (declared : Declaration) :
    good (demolition policy declared) := by
  refine inquiring.bind (inquiring.name declared.name) fun bridge => ?_
  refine inquiring.bind (inquiring.bridgeExists bridge.text) fun present => ?_
  split
  · refine inquiring.bind (inquiring.listInterfaces bridge.text) fun live => ?_
    refine inquiring.bind (inquiring.removals bridge live _) fun removing => ?_
    exact inquiring.bind (inquiring.linkFlags bridge.text) fun _ => inquiring.pure _
  · exact inquiring.pure _

theorem planEach (inquiring : Inquiring policy good)
    {piece : Declaration → Procedure (List Action)} (each : ∀ declared, good (piece declared))
    (declared : List Declaration) : good (planEach piece declared) := by
  induction declared with
  | nil => exact inquiring.pure []
  | cons first rest ih =>
    exact inquiring.bind (each first) fun _ => inquiring.bind ih fun _ => inquiring.pure _

theorem planUp (inquiring : Inquiring policy good) (declared : List Declaration) :
    good (planUp policy declared) := inquiring.planEach inquiring.completion declared

theorem planDown (inquiring : Inquiring policy good) (declared : List Declaration) :
    good (planDown policy declared) := inquiring.planEach inquiring.demolition declared.reverse

end Inquiring

namespace Operating

open Control NetBridge.Topology

variable {policy : NamePolicy} {good : {α : Type} → Procedure α → Prop}

theorem destroyBridge (operating : Operating policy good) (text : String) (force : Bool) :
    good (destroyBridge policy text force) := by
  refine operating.bind (operating.listInterfaces text) fun members => ?_
  have forced : good (do
      Control.setLinkUp policy text false
      Control.deleteBridge policy text) :=
    operating.bind (operating.setLinkUp text false) fun _ => operating.deleteBridge text
  cases force with
  | false =>
    cases members with
    | nil => exact operating.deleteBridge text
    | cons first rest =>
      exact operating.bind (operating.decline _ _) fun _ => operating.deleteBridge text
  | true =>
    cases members with
    | nil => exact forced
    | cons first rest => exact forced

theorem perform (operating : Operating policy good) (action : Action) :
    good (perform policy action) := by
  cases action with
  | createBridge bridge => exact operating.createBridge bridge
  | addMember bridge iface => exact operating.addInterface bridge iface
  | linkUp name => exact operating.setLinkUp name true
  | removeMember bridge iface => exact operating.removeInterface bridge iface
  | linkDown name => exact operating.setLinkUp name false
  | deleteBridge bridge => exact operating.deleteBridge bridge

/-- All operations but the one that announces what it does. -/
theorem intent (operating : Operating policy good) (intent : Intent)
    (other : ∀ plan, intent ≠ .execute plan) : good (intent.procedure policy) := by
  cases intent with
  | normalise text => exact operating.name text
  | createBridge text => exact operating.createBridge text
  | deleteBridge text => exact operating.deleteBridge text
  | addInterface bridge iface => exact operating.addInterface bridge iface
  | removeInterface bridge iface => exact operating.removeInterface bridge iface
  | listBridges => exact operating.listBridges
  | listInterfaces text => exact operating.listInterfaces text
  | bridgeExists text => exact operating.bridgeExists text
  | interfaceExists text => exact operating.interfaceExists text
  | linkFlags text => exact operating.linkFlags text
  | setLinkUp text up => exact operating.setLinkUp text up
  | destroyBridge text force => exact operating.destroyBridge text force
  | snapshot text => exact operating.snapshot text
  | snapshotAll => exact operating.snapshotAll
  | planUp declared => exact operating.planUp declared
  | planDown declared => exact operating.planDown declared
  | execute plan => exact absurd rfl (other plan)

end Operating

end NetBridge
