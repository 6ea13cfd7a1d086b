import NetBridge.Dialogue
import NetBridge.Name.Normalise

/-!
Operations on bridges and links. Each is a procedure over the control plane: it names its devices
under a policy, takes a handle of its own, issues its requests and gives the handle back before it
ends, whether it succeeds or fails.
-/
namespace NetBridge.Control

open Dialogue

/-- Slots handed to the kernel for an enumeration. -/
def enumSlots : Nat := 1024

/-- One bridge and its members at one moment. -/
structure Snapshot where
  name : String
  interfaces : List String
deriving DecidableEq, Repr

/-! ## Names -/

/-- The name a text denotes; a text that denotes none is an error, and reported. -/
def name (policy : NamePolicy) (text : String) : Procedure IfName := ExceptT.mk do
  let named := normalise policy text
  reportAll named.events
  match named.result with
  | .ok name => return .ok name
  | .error fault =>
    report (.nameRejected text fault)
    return .error (.invalidName text fault)

/-- The name a text denotes and the index of the live interface of that name. -/
def resolve (policy : NamePolicy) (text : String) : Procedure (IfName × IfIndex) := do
  let iface ← name policy text
  match ← query (.nameToIndex iface) with
  | some index =>
    report (.interfaceResolved iface index.toNat)
    return (iface, index)
  | none =>
    report (.interfaceMissing iface)
    throw (.interfaceNotFound iface.text)

/-- The names behind the used slots, in slot order; an index without a name is left out. -/
def namesOf : List Int32 → Dialogue (List String)
  | [] => return []
  | slot :: rest =>
    match IfIndex.ofSlot? slot with
    | none => namesOf rest
    | some index => do
      match ← query (.indexToName index) with
      | some found => return found :: (← namesOf rest)
      | none =>
        report (.interfaceVanished index.toNat)
        namesOf rest

/-! ## Handles and requests -/

/-- Runs `body` on a fresh handle, which is given back however `body` ends. -/
def withHandle {α : Type} (refused : Errno → Dialogue Error) (body : Handle → Procedure α) :
    Procedure α := ExceptT.mk do
  match ← query .acquire with
  | .error cause => return .error (← refused cause)
  | .ok handle =>
    let result ← ExceptT.run (body handle)
    query (.release handle)
    return result

/-- Issues one request; `refused` turns its failure into an error. -/
def issue (handle : Handle) (request : Request) (refused : Errno → Dialogue Error) :
    Procedure request.Reply := ExceptT.mk do
  match ← query (.request handle request) with
  | .ok reply => return .ok reply
  | .error cause => return .error (← refused cause)

def noHandle (op : Operation) (dev : IfName) (cause : Errno) : Dialogue Error := do
  report (.handleRefused op dev cause)
  return .handleAcquisition (.errno cause)

def refusal (op : Operation) (dev : IfName) (cause : Errno) : Dialogue Error := do
  report (.requestRefused op dev cause)
  return .kernelOperation op dev.text (.errno cause)

/-! ## Bridges and their ports -/

/-- Creates a bridge: without members, and down. -/
def createBridge (policy : NamePolicy) (text : String) : Procedure Unit := do
  let bridge ← name policy text
  withHandle (noHandle .addBridge bridge) fun handle => do
    issue handle (.addBridge bridge) (refusal .addBridge bridge)
    report (.bridgeCreated bridge)

/-- Deletes a bridge; the kernel detaches what is still attached. -/
def deleteBridge (policy : NamePolicy) (text : String) : Procedure Unit := do
  let bridge ← name policy text
  withHandle (noHandle .deleteBridge bridge) fun handle => do
    issue handle (.deleteBridge bridge) (refusal .deleteBridge bridge)
    report (.bridgeDeleted bridge)

/-- Attaches an interface to a bridge. An interface that is not live is an error before any handle
is taken. -/
def addInterface (policy : NamePolicy) (bridgeText ifaceText : String) : Procedure Unit := do
  let bridge ← name policy bridgeText
  let (iface, index) ← resolve policy ifaceText
  withHandle (noHandle .addInterface bridge) fun handle => do
    issue handle (.addPort bridge index) fun cause => do
      report (.attachRefused iface bridge cause)
      return .portOperation .addInterface iface.text bridge.text (.errno cause)
    report (.interfaceAttached iface bridge)

def removeInterface (policy : NamePolicy) (bridgeText ifaceText : String) : Procedure Unit := do
  let bridge ← name policy bridgeText
  let (iface, index) ← resolve policy ifaceText
  withHandle (noHandle .removeInterface bridge) fun handle => do
    issue handle (.deletePort bridge index) fun cause => do
      report (.detachRefused iface bridge cause)
      return .portOperation .removeInterface iface.text bridge.text (.errno cause)
    report (.interfaceDetached iface bridge)

/-- The bridges in kernel order. No more than `enumSlots` are seen, whatever count is reported. -/
def listBridges : Procedure (List String) :=
  withHandle
    (fun cause => do
      report (.listingHandleRefused cause)
      return .handleAcquisition (.errno cause))
    fun handle => do
      let found ← issue handle (.bridgeIndices enumSlots) fun cause => do
        report (.enumerationRefused cause)
        return .kernelOperation .listBridges "*" (.errno cause)
      let seen := min found.count enumSlots
      if seen = enumSlots then report (.enumerationFull enumSlots)
      namesOf (firstSlots found.slots seen (Nat.min_le_right ..))

/-- The members of a bridge by port number. -/
def listInterfaces (policy : NamePolicy) (text : String) : Procedure (List String) := do
  let bridge ← name policy text
  withHandle (noHandle .listInterfaces bridge) fun handle => do
    let slots ← issue handle (.portIndices bridge enumSlots) (refusal .listInterfaces bridge)
    namesOf slots.toList

/-- Whether the text names a bridge that the listing shows. -/
def bridgeExists (policy : NamePolicy) (text : String) : Procedure Bool := do
  let bridge ← name policy text
  return (← listBridges).contains bridge.text

def interfaceExists (policy : NamePolicy) (text : String) : Procedure Bool := do
  let iface ← name policy text
  return (← query (.nameToIndex iface)).isSome

/-! ## Links -/

def linkFlags (policy : NamePolicy) (text : String) : Procedure LinkFlags := do
  let iface ← name policy text
  withHandle (noHandle .getLinkFlags iface) fun handle =>
    issue handle (.linkFlags iface) (refusal .getLinkFlags iface)

/-- Brings an interface up or down. The word read is written back with the up bit alone changed,
and not at all if it is as requested. -/
def setLinkUp (policy : NamePolicy) (text : String) (up : Bool) : Procedure Unit := do
  let iface ← name policy text
  withHandle (noHandle .setLinkFlags iface) fun handle => do
    let flags ← issue handle (.linkFlags iface) (refusal .getLinkFlags iface)
    if flags.isUp = up then report (.linkUnchanged iface up)
    else
      issue handle (.setLinkFlags iface (flags.setUp up)) (refusal .setLinkFlags iface)
      report (.linkChanged iface up)

/-! ## Whole bridges -/

/-- Destroys a bridge. Without force a bridge with members is left alone; with force it is brought
down first, because the kernel deletes no bridge that is up. -/
def destroyBridge (policy : NamePolicy) (text : String) (force : Bool) : Procedure Unit := do
  let members ← listInterfaces policy text
  if !members.isEmpty && !force then throw (.bridgeBusy text members)
  if force then setLinkUp policy text false
  deleteBridge policy text

def snapshot (policy : NamePolicy) (text : String) : Procedure Snapshot := do
  let bridge ← name policy text
  let interfaces ← listInterfaces policy bridge.text
  return ⟨bridge.text, interfaces⟩

def snapshots (policy : NamePolicy) : List String → Procedure (List Snapshot)
  | [] => return []
  | text :: rest => do
    let first ← snapshot policy text
    return first :: (← snapshots policy rest)

def snapshotAll (policy : NamePolicy) : Procedure (List Snapshot) := do
  snapshots policy (← listBridges)

end NetBridge.Control
