import NetBridge.Config.Fault
import NetBridge.Errno

namespace NetBridge

inductive Operation where
  | addBridge
  | deleteBridge
  | addInterface
  | removeInterface
  | listBridges
  | listInterfaces
  | getLinkFlags
  | setLinkFlags
deriving DecidableEq, Repr

namespace Operation

def text : Operation → String
  | addBridge => "add bridge"
  | deleteBridge => "delete bridge"
  | addInterface => "add interface"
  | removeInterface => "remove interface"
  | listBridges => "list bridges"
  | listInterfaces => "list interfaces"
  | getLinkFlags => "get link flags"
  | setLinkFlags => "set link flags"

/-- Joins the interface of a port operation to its bridge. -/
def preposition : Operation → String
  | addInterface => "into"
  | _ => "from"

end Operation

/-- Everything that can go wrong, with what is needed to say so. -/
inductive Error where
  | configRead (path : String) (source : SystemError)
  | configParse (fault : FormFault)
  | configValidation (fault : ConfigFault)
  | invalidName (name : String) (fault : NameFault)
  | handleAcquisition (source : SystemError)
  | interfaceNotFound (name : String)
  | kernelOperation (op : Operation) (name : String) (source : SystemError)
  | portOperation (op : Operation) (iface bridge : String) (source : SystemError)
  /-- The bridge has members and force was not given. -/
  | bridgeBusy (name : String) (members : List String)
deriving DecidableEq, Repr

namespace Error

def message : Error → String
  | configRead path source => s!"Failed to read config file '{path}': {source.message}"
  | configParse fault => s!"Failed to parse config: {fault.message}"
  | configValidation fault => s!"Config validation failed: {fault.message}"
  | invalidName name fault => fault.refusal name
  | handleAcquisition source => s!"Failed to open control socket: {source.message}"
  | interfaceNotFound name => s!"Interface '{name}' not found"
  | kernelOperation op name source => s!"Could not {op.text} '{name}': {source.message}"
  | portOperation op iface bridge source =>
    s!"Could not {op.text} '{iface}' {op.preposition} bridge '{bridge}': {source.message}"
  | bridgeBusy name members =>
    let listed := ", ".intercalate members
    s!"Bridge '{name}' has {members.length} member(s) attached: {listed}. " ++
      "Use --force to destroy anyway."

/-- The error number behind a failure of the operating system. -/
def errno? : Error → Option Errno
  | configRead _ source => source.errno?
  | handleAcquisition source => source.errno?
  | kernelOperation _ _ source => source.errno?
  | portOperation _ _ _ source => source.errno?
  | _ => none

end Error

end NetBridge
