import NetBridge.Control
import NetBridge.Topology.Declaration

/-!
Bringing the kernel in line with declared bridges. `planUp` and `planDown` compare declarations
with the live state and list the missing steps; `execute` carries a list of steps out, stopping at
the first that fails.
-/
namespace NetBridge.Topology

open Control Dialogue

/-- Steps that attach the declared members not yet among the live ones. -/
def additions (policy : NamePolicy) (bridge : IfName) (live : List String) :
    List String → Procedure (List Action)
  | [] => return []
  | text :: rest => do
    let iface ← name policy text
    let later ← additions policy bridge live rest
    if live.contains iface.text then return later
    else return .addMember bridge.text iface.text :: later

/-- Steps that detach the declared members found among the live ones. -/
def removals (policy : NamePolicy) (bridge : IfName) (live : List String) :
    List String → Procedure (List Action)
  | [] => return []
  | text :: rest => do
    let iface ← name policy text
    let later ← removals policy bridge live rest
    if live.contains iface.text then return .removeMember bridge.text iface.text :: later
    else return later

/-- Steps that complete one declared bridge: create it, attach its members, bring it up. -/
def completion (policy : NamePolicy) (declared : Declaration) : Procedure (List Action) := do
  let bridge ← name policy declared.name
  let present ← bridgeExists policy bridge.text
  let live ← if present then listInterfaces policy bridge.text else pure []
  let creating := if present then [] else [.createBridge bridge.text]
  let adding ← additions policy bridge live declared.members
  let rising ←
    if !declared.up then pure []
    else if !present then pure [.linkUp bridge.text]
    else do
      let flags ← linkFlags policy bridge.text
      pure (if flags.isUp then [] else [.linkUp bridge.text])
  return creating ++ adding ++ rising

/-- Steps that remove one declared bridge: detach its members, bring it down, delete it. -/
def demolition (policy : NamePolicy) (declared : Declaration) : Procedure (List Action) := do
  let bridge ← name policy declared.name
  if ← bridgeExists policy bridge.text then
    let live ← listInterfaces policy bridge.text
    let removing ← removals policy bridge live declared.members
    let flags ← linkFlags policy bridge.text
    let sinking := if flags.isUp then [.linkDown bridge.text] else []
    return removing ++ sinking ++ [.deleteBridge bridge.text]
  else return []

/-- The pieces planned for each declaration, joined in the order given. -/
def planEach (piece : Declaration → Procedure (List Action)) :
    List Declaration → Procedure (List Action)
  | [] => return []
  | declared :: rest => do
    let first ← piece declared
    return first ++ (← planEach piece rest)

/-- What is missing between the live state and the declarations, in order of declaration. -/
def planUp (policy : NamePolicy) (declared : List Declaration) : Procedure (List Action) :=
  planEach (completion policy) declared

/-- What tears the declared bridges down, last declared first. -/
def planDown (policy : NamePolicy) (declared : List Declaration) : Procedure (List Action) :=
  planEach (demolition policy) declared.reverse

def perform (policy : NamePolicy) : Action → Procedure Unit
  | .createBridge bridge => createBridge policy bridge
  | .addMember bridge iface => addInterface policy bridge iface
  | .linkUp name => setLinkUp policy name true
  | .removeMember bridge iface => removeInterface policy bridge iface
  | .linkDown name => setLinkUp policy name false
  | .deleteBridge bridge => deleteBridge policy bridge

/-- Carries out the steps in order, stopping at the first that fails. -/
def execute (policy : NamePolicy) : List Action → Procedure Unit
  | [] => return ()
  | action :: rest => do
    report (.applying action)
    perform policy action
    execute policy rest

end NetBridge.Topology
