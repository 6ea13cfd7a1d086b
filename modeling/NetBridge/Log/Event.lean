import NetBridge.Error
import NetBridge.Log.Level
import NetBridge.Topology.Action

namespace NetBridge

inductive FieldValue where
  | quoted (text : String)
  | plain (text : String)
  | truth (value : Bool)
  | number (value : Nat)
deriving DecidableEq, Repr

inductive Event where
  | nameTruncated (requested : String) (kept : IfName)
  | nameRejected (requested : String) (fault : NameFault)
  | interfaceResolved (iface : IfName) (index : Nat)
  | interfaceMissing (iface : IfName)
  | handleRefused (op : Operation) (dev : IfName) (cause : Errno)
  | listingHandleRefused (cause : Errno)
  | requestRefused (op : Operation) (dev : IfName) (cause : Errno)
  | enumerationRefused (cause : Errno)
  | attachRefused (iface bridge : IfName) (cause : Errno)
  | detachRefused (iface bridge : IfName) (cause : Errno)
  | enumerationFull (capacity : Nat)
  | interfaceVanished (index : Nat)
  | bridgeCreated (bridge : IfName)
  | bridgeDeleted (bridge : IfName)
  | interfaceAttached (iface bridge : IfName)
  | interfaceDetached (iface bridge : IfName)
  | linkUnchanged (iface : IfName) (up : Bool)
  | linkChanged (iface : IfName) (up : Bool)
  | applying (action : Action)
deriving DecidableEq, Repr

namespace Event

def level : Event → Level
  | nameTruncated .. => .warn
  | nameRejected .. => .error
  | interfaceResolved .. => .debug
  | interfaceMissing .. => .error
  | handleRefused .. => .error
  | listingHandleRefused .. => .error
  | requestRefused .. => .error
  | enumerationRefused .. => .error
  | attachRefused .. => .error
  | detachRefused .. => .error
  | enumerationFull .. => .debug
  | interfaceVanished .. => .debug
  | bridgeCreated .. => .info
  | bridgeDeleted .. => .info
  | interfaceAttached .. => .info
  | interfaceDetached .. => .info
  | linkUnchanged .. => .debug
  | linkChanged .. => .info
  | applying .. => .info

def message : Event → String
  | nameTruncated .. => "interface name truncated to fit IFNAMSIZ"
  | nameRejected .. => "rejected interface name"
  | interfaceResolved .. => "resolved interface"
  | interfaceMissing .. => "interface does not exist"
  | handleRefused .. => "failed to open control socket"
  | listingHandleRefused .. => "failed to open socket to get bridge interfaces"
  | requestRefused .. => "kernel rejected bridge request"
  | enumerationRefused .. => "failed to enumerate bridges"
  | attachRefused .. => "could not add interface into bridge"
  | detachRefused .. => "could not remove interface from bridge"
  | enumerationFull .. =>
    "bridge enumeration filled every slot, further bridges are not reported"
  | interfaceVanished .. => "interface vanished during enumeration"
  | bridgeCreated .. => "bridge created"
  | bridgeDeleted .. => "bridge deleted"
  | interfaceAttached .. => "interface added to bridge"
  | interfaceDetached .. => "interface removed from bridge"
  | linkUnchanged .. => "link already in requested state"
  | linkChanged .. => "link state changed"
  | applying .. => "applying"

def fields : Event → List (String × FieldValue)
  | nameTruncated requested kept =>
    [("requested", .quoted requested), ("truncated", .quoted kept.text)]
  | nameRejected requested fault =>
    [("requested", .quoted requested), ("error", .plain (fault.refusal requested))]
  | interfaceResolved iface index => [("iface", .plain iface.text), ("index", .number index)]
  | interfaceMissing iface => [("iface", .plain iface.text)]
  | handleRefused op dev cause | requestRefused op dev cause =>
    [("op", .plain op.text), ("dev", .plain dev.text), ("error", .plain cause.message)]
  | listingHandleRefused cause | enumerationRefused cause => [("error", .plain cause.message)]
  | attachRefused iface bridge cause | detachRefused iface bridge cause =>
    [("iface", .plain iface.text), ("bridge", .plain bridge.text), ("error", .plain cause.message)]
  | enumerationFull capacity => [("capacity", .number capacity)]
  | interfaceVanished index => [("index", .number index)]
  | bridgeCreated bridge | bridgeDeleted bridge => [("bridge", .plain bridge.text)]
  | interfaceAttached iface bridge | interfaceDetached iface bridge =>
    [("iface", .plain iface.text), ("bridge", .plain bridge.text)]
  | linkUnchanged iface up | linkChanged iface up =>
    [("iface", .plain iface.text), ("up", .truth up)]
  | applying action => [("action", .plain action.text)]

/-- The topic an event is filed under, for log filters. -/
def topic : Event → String
  | nameTruncated .. => "bridgewire::network::ifname"
  | applying .. => "bridgewire::topology"
  | _ => "bridgewire::network::bridge"

end Event

end NetBridge
