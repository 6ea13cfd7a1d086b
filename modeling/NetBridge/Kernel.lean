import NetBridge.ControlPlane

namespace NetBridge

structure Link where
  index : Nat
  name : String
  isBridge : Bool
  /-- Index of the bridge this link is a port of. -/
  master : Option Nat
  /-- Zero without a master. -/
  portNo : Nat
  flags : LinkFlags
deriving DecidableEq, Repr

namespace Link

def fresh (index : Nat) (name : String) (isBridge : Bool) : Link where
  index := index
  name := name
  isBridge := isBridge
  master := none
  portNo := 0
  flags := .union .broadcast .multicast

def detached (link : Link) : Link := { link with master := none, portNo := 0 }

def attached (link : Link) (bridge port : Nat) : Link :=
  { link with master := some bridge, portNo := port }

end Link

/-- The link table with its counters. Links stand in the order of their indices and keep them; no
index is given twice. -/
structure Kernel where
  lastIndex : Nat
  links : List Link
  openHandles : Nat
  acquired : Nat
  /-- Requests to change the table so far, granted or not. -/
  mutations : Nat
  refusesHandles : Bool
  /-- Names whose links disappear during the next enumeration. -/
  vanishing : List String
deriving DecidableEq, Repr

/-- The lowest number from one on that is not taken. -/
def lowestFree (taken : List Nat) : Nat := search taken.length 1
where
  search : Nat → Nat → Nat
    | 0, candidate => candidate
    | fuel + 1, candidate => if candidate ∈ taken then search fuel (candidate + 1) else candidate

namespace Kernel

/-- A kernel with nothing but the loopback interface. -/
def new : Kernel where
  lastIndex := 1
  links := [{ Link.fresh 1 "lo" false with flags := .union .up .loopback }]
  openHandles := 0
  acquired := 0
  mutations := 0
  refusesHandles := false
  vanishing := []

/-- The oldest live link of this name. -/
def find? (kernel : Kernel) (name : String) : Option Link :=
  kernel.links.find? fun link => link.name = name

def get? (kernel : Kernel) (index : Nat) : Option Link :=
  kernel.links.find? fun link => link.index = index

def bridge (kernel : Kernel) (name : String) : Except Errno Link :=
  match kernel.find? name with
  | none => .error .ENODEV
  | some link => if link.isBridge then .ok link else .error .EOPNOTSUPP

def portsOf (kernel : Kernel) (bridge : Nat) : List Link :=
  kernel.links.filter fun link => link.master = some bridge

def insert (kernel : Kernel) (name : String) (isBridge : Bool) : Kernel :=
  { kernel with
    lastIndex := kernel.lastIndex + 1
    links := kernel.links ++ [Link.fresh (kernel.lastIndex + 1) name isBridge] }

def modify (kernel : Kernel) (index : Nat) (change : Link → Link) : Kernel :=
  { kernel with
    links := kernel.links.map fun link => if link.index = index then change link else link }

/-- Drops the link of one index. Links attached to it keep pointing at it. -/
def erase (kernel : Kernel) (index : Nat) : Kernel :=
  { kernel with links := kernel.links.filter fun link => link.index ≠ index }

def detachAll (kernel : Kernel) (bridge : Nat) : Kernel :=
  { kernel with
    links := kernel.links.map fun link =>
      if link.master = some bridge then link.detached else link }

def addLink (kernel : Kernel) (name : String) : Kernel := kernel.insert name false

def removeLink (kernel : Kernel) (name : String) : Kernel :=
  match kernel.find? name with
  | some link => kernel.erase link.index
  | none => kernel

/-- Lets the interface of this name disappear during the next enumeration. -/
def vanishDuringListing (kernel : Kernel) (name : String) : Kernel :=
  { kernel with vanishing := kernel.vanishing ++ [name] }

def refuseHandles (kernel : Kernel) (refuse : Bool) : Kernel :=
  { kernel with refusesHandles := refuse }

def isUp (kernel : Kernel) (name : String) : Bool :=
  (kernel.find? name).any fun link => link.flags.isUp

def vanish (kernel : Kernel) : Kernel :=
  { kernel.vanishing.foldl removeLink kernel with vanishing := [] }

def acquire (kernel : Kernel) : Except Errno Handle × Kernel :=
  if kernel.refusesHandles then (.error .EMFILE, kernel)
  else
    (.ok ⟨kernel.acquired⟩,
      { kernel with openHandles := kernel.openHandles + 1, acquired := kernel.acquired + 1 })

def release (kernel : Kernel) : Kernel := { kernel with openHandles := kernel.openHandles - 1 }

def nameToIndex (kernel : Kernel) (name : String) : Option IfIndex :=
  (kernel.find? name).bind fun link => IfIndex.ofUInt32? (UInt32.ofNat link.index)

def indexToName (kernel : Kernel) (index : IfIndex) : Option String :=
  (kernel.get? index.toNat).map Link.name

def countMutation (kernel : Kernel) : Kernel := { kernel with mutations := kernel.mutations + 1 }

def addBridge (kernel : Kernel) (name : String) : Except Errno Kernel :=
  match kernel.find? name with
  | some _ => .error .EEXIST
  | none => .ok (kernel.insert name true)

def deleteBridge (kernel : Kernel) (name : String) : Except Errno Kernel :=
  match kernel.find? name with
  | none => .error .ENXIO
  | some link =>
    if !link.isBridge then .error .EPERM
    else if link.flags.isUp then .error .EBUSY
    else .ok ((kernel.erase link.index).detachAll link.index)

def addPort (kernel : Kernel) (bridgeName : String) (port : Nat) : Except Errno Kernel := do
  let br ← kernel.bridge bridgeName
  if br.index = port then throw .ELOOP
  match kernel.get? port with
  | none => throw .EINVAL
  | some link =>
    if link.master.isSome then throw .EBUSY
    let number := lowestFree ((kernel.portsOf br.index).map Link.portNo)
    return kernel.modify port fun link => link.attached br.index number

def deletePort (kernel : Kernel) (bridgeName : String) (port : Nat) : Except Errno Kernel := do
  let br ← kernel.bridge bridgeName
  match kernel.get? port with
  | none => throw .EINVAL
  | some link =>
    if link.master = some br.index then return kernel.modify port Link.detached
    else throw .EINVAL

/-- The indices of the bridges, oldest first, as far as they fit. -/
def bridgeSlots (kernel : Kernel) (capacity : Nat) : Enumeration capacity :=
  let bridges := (kernel.links.filter Link.isBridge).map Link.index
  ⟨min bridges.length capacity, fillSlots capacity (bridges.map Int32.ofNat)⟩

/-- The indices of a bridge's ports, each in the slot of its port number. -/
def portSlots (kernel : Kernel) (bridge capacity : Nat) : Vector Int32 capacity :=
  (kernel.portsOf bridge).foldl
    (fun slots link =>
      if inside : link.portNo < capacity then
        slots.set link.portNo (Int32.ofNat link.index) inside
      else slots)
    (Vector.replicate capacity 0)

def linkFlags (kernel : Kernel) (name : String) : Except Errno LinkFlags :=
  match kernel.find? name with
  | none => .error .ENODEV
  | some link => .ok link.flags

def setLinkFlags (kernel : Kernel) (name : String) (flags : LinkFlags) : Except Errno Kernel :=
  match kernel.find? name with
  | none => .error .ENODEV
  | some link => .ok (kernel.modify link.index fun link => { link with flags := flags })

/-- A request to change the table: counted, then carried out or refused without effect. -/
def mutate (kernel : Kernel) (request : Kernel → Except Errno Kernel) :
    Except Errno Unit × Kernel :=
  match request kernel.countMutation with
  | .ok after => (.ok (), after)
  | .error cause => (.error cause, kernel.countMutation)

def answerRequest : (request : Request) → Kernel → Except Errno request.Reply × Kernel
  | .addBridge name, kernel => kernel.mutate (·.addBridge name.text)
  | .deleteBridge name, kernel => kernel.mutate (·.deleteBridge name.text)
  | .addPort bridge port, kernel => kernel.mutate (·.addPort bridge.text port.toNat)
  | .deletePort bridge port, kernel => kernel.mutate (·.deletePort bridge.text port.toNat)
  | .bridgeIndices capacity, kernel => (.ok (kernel.bridgeSlots capacity), kernel.vanish)
  | .portIndices bridge capacity, kernel =>
    match kernel.bridge bridge.text with
    | .error cause => (.error cause, kernel)
    | .ok br => (.ok (kernel.portSlots br.index capacity), kernel.vanish)
  | .linkFlags name, kernel => (kernel.linkFlags name.text, kernel)
  | .setLinkFlags name flags, kernel => kernel.mutate (·.setLinkFlags name.text flags)

/-- One request on a handle of its own. -/
def once (kernel : Kernel) (request : Request) : Except Errno request.Reply × Kernel :=
  match kernel.acquire with
  | (.error cause, after) => (.error cause, after)
  | (.ok _, held) =>
    let (reply, after) := held.answerRequest request
    (reply, after.release)

def answer : (call : Call) → Kernel → call.Answer × Kernel
  | .acquire, kernel => kernel.acquire
  | .release _, kernel => ((), kernel.release)
  | .request _ request, kernel => kernel.answerRequest request
  | .nameToIndex name, kernel => (kernel.nameToIndex name.text, kernel)
  | .indexToName index, kernel => (kernel.indexToName index, kernel)

def plane : ControlPlane Kernel := ⟨answer⟩

end Kernel

end NetBridge
