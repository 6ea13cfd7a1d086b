import NetBridge.ControlPlane
import NetBridge.Name.Field

/-!
How a request travels through `ioctl`: its number, and the memory handed over with it. An interface
request is a name field followed by a union of twenty-four bytes, of which only the operand's bytes
are used; numbers are little-endian. `decode` reads a request back as the kernel does.
-/
namespace NetBridge.Ioctl

/-- The low bytes of a number, least significant first. -/
def littleEndian : Nat → Nat → List UInt8
  | 0, _ => []
  | width + 1, value => UInt8.ofNat value :: littleEndian width (value / 256)

def ofLittleEndian : List UInt8 → Nat
  | [] => 0
  | byte :: rest => byte.toNat + 256 * ofLittleEndian rest

inductive Command where
  | getInterfaceFlags
  | setInterfaceFlags
  | getBridges
  | addBridge
  | deleteBridge
  | addPort
  | deletePort
  | devicePrivate
deriving DecidableEq, Repr

def Command.number : Command → Nat
  | getInterfaceFlags => 0x8913
  | setInterfaceFlags => 0x8914
  | getBridges => 0x8940
  | addBridge => 0x89a0
  | deleteBridge => 0x89a1
  | addPort => 0x89a2
  | deletePort => 0x89a3
  | devicePrivate => 0x89f0

def getBridgesSelector : Nat := 1

def getPortListSelector : Nat := 7

/-- Bytes of the union in an interface request. -/
def unionSize : Nat := 24

def addressSize : Nat := 8

/-- A machine word: a number, or the address of the caller's slot buffer. -/
inductive Word where
  | number (value : Nat)
  | slotBuffer
deriving DecidableEq, Repr

inductive Payload where
  | bytes (data : List UInt8)
  | words (data : List Word)
  /-- An interface request whose union starts with the address of an array of words. -/
  | indirect (field : List UInt8) (data : List Word) (padding : List UInt8)
deriving DecidableEq, Repr

/-- A name field, an operand, and zeros up to the size of an interface request. -/
def interfaceRequest (name : IfName) (operand : List UInt8) : Payload :=
  .bytes (NameField.encode name ++ operand ++ List.replicate (unionSize - operand.length) 0)

def indexBytes (index : IfIndex) : List UInt8 := littleEndian 4 index.toNat

def flagBytes (flags : LinkFlags) : List UInt8 := littleEndian 2 flags.bits.toNat

def command : Request → Command
  | .addBridge _ => .addBridge
  | .deleteBridge _ => .deleteBridge
  | .addPort _ _ => .addPort
  | .deletePort _ _ => .deletePort
  | .bridgeIndices _ => .getBridges
  | .portIndices _ _ => .devicePrivate
  | .linkFlags _ => .getInterfaceFlags
  | .setLinkFlags _ _ => .setInterfaceFlags

def payload : Request → Payload
  | .addBridge name => .bytes (NameField.encode name)
  | .deleteBridge name => .bytes (NameField.encode name)
  | .addPort bridge port => interfaceRequest bridge (indexBytes port)
  | .deletePort bridge port => interfaceRequest bridge (indexBytes port)
  | .bridgeIndices capacity => .words [.number getBridgesSelector, .slotBuffer, .number capacity]
  | .portIndices bridge capacity =>
    .indirect (NameField.encode bridge)
      [.number getPortListSelector, .slotBuffer, .number capacity, .number 0]
      (List.replicate (unionSize - addressSize) 0)
  | .linkFlags name => interfaceRequest name (flagBytes ⟨0⟩)
  | .setLinkFlags name flags => interfaceRequest name (flagBytes flags)

/-- The name in the first sixteen bytes. -/
def nameOf? (data : List UInt8) : Option IfName :=
  (NameField.decode (data.take nameFieldSize)).bind fun text => (IfName.new text).toOption

def operandOf (width : Nat) (data : List UInt8) : List UInt8 :=
  (data.drop nameFieldSize).take width

def indexOf? (data : List UInt8) : Option IfIndex :=
  IfIndex.ofUInt32? (UInt32.ofNat (ofLittleEndian (operandOf 4 data)))

def flagsOf (data : List UInt8) : LinkFlags :=
  ⟨BitVec.ofNat 16 (ofLittleEndian (operandOf 2 data))⟩

/-- The request a command and its memory denote. -/
def decode? : Command → Payload → Option Request
  | .addBridge, .bytes data => (nameOf? data).map .addBridge
  | .deleteBridge, .bytes data => (nameOf? data).map .deleteBridge
  | .addPort, .bytes data => do return .addPort (← nameOf? data) (← indexOf? data)
  | .deletePort, .bytes data => do return .deletePort (← nameOf? data) (← indexOf? data)
  | .getBridges, .words [.number selector, .slotBuffer, .number capacity] =>
    if selector = getBridgesSelector then some (.bridgeIndices capacity) else none
  | .devicePrivate, .indirect field [.number selector, .slotBuffer, .number capacity, _] _ =>
    if selector = getPortListSelector then
      (nameOf? field).map fun bridge => .portIndices bridge capacity
    else none
  | .getInterfaceFlags, .bytes data => (nameOf? data).map .linkFlags
  | .setInterfaceFlags, .bytes data =>
    (nameOf? data).map fun name => .setLinkFlags name (flagsOf data)
  | _, _ => none

/-- What a granted request leaves behind: its return value, and the memory it wrote. -/
structure Written where
  value : Nat
  slots : List Int32
  flags : LinkFlags
deriving DecidableEq, Repr

/-- How the kernel hands a reply over. -/
def writeReply : (request : Request) → request.Reply → Written
  | .bridgeIndices _, found => ⟨found.count, found.slots.toList, ⟨0⟩⟩
  | .portIndices _ _, slots => ⟨0, slots.toList, ⟨0⟩⟩
  | .linkFlags _, flags => ⟨0, [], flags⟩
  | .addBridge _, _ => ⟨0, [], ⟨0⟩⟩
  | .deleteBridge _, _ => ⟨0, [], ⟨0⟩⟩
  | .addPort _ _, _ => ⟨0, [], ⟨0⟩⟩
  | .deletePort _ _, _ => ⟨0, [], ⟨0⟩⟩
  | .setLinkFlags _ _, _ => ⟨0, [], ⟨0⟩⟩

/-- How the caller reads the reply to its own request. -/
def readReply : (request : Request) → Written → request.Reply
  | .bridgeIndices capacity, written => ⟨written.value, fillSlots capacity written.slots⟩
  | .portIndices _ capacity, written => fillSlots capacity written.slots
  | .linkFlags _, written => written.flags
  | .addBridge _, _ => ()
  | .deleteBridge _, _ => ()
  | .addPort _ _, _ => ()
  | .deletePort _ _, _ => ()
  | .setLinkFlags _ _, _ => ()

end NetBridge.Ioctl
