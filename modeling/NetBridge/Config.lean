import NetBridge.Name.Normalise
import NetBridge.Topology.Declaration

/-!
Configurations and their consistency. A consistent configuration has a known log level, names that
the policy accepts, bridges of different names, no bridge among its own members, and no interface
among the members twice.
-/
namespace NetBridge

structure Config where
  policy : NamePolicy
  level : String
  bridges : List Declaration
deriving DecidableEq, Repr

namespace Config

def default : Config := ⟨.truncate, "info", []⟩

def admitName (policy : NamePolicy) (text : String) : Reported ConfigFault IfName :=
  (normalise policy text).mapError (.illNamed text)

/-- The members met so far, each with the bridge that declares it. -/
abbrev Owners := List (IfName × String)

def admitMembers (policy : NamePolicy) (bridge : String) (own : IfName) :
    List String → Owners → Reported ConfigFault Owners
  | [], owners => pure owners
  | text :: rest, owners => do
    let iface ← admitName policy text
    if iface = own then throw (.selfMember bridge)
    match owners.lookup iface with
    | some owner => throw (.sharedMember text owner bridge)
    | none => admitMembers policy bridge own rest ((iface, bridge) :: owners)

/-- Admits bridges in order of declaration; `taken` are the names of those before. -/
def admitBridges (policy : NamePolicy) :
    List Declaration → List IfName → Owners → Reported ConfigFault Unit
  | [], _, _ => pure ()
  | declared :: rest, taken, owners => do
    let bridge ← admitName policy declared.name
    if bridge ∈ taken then throw (.duplicateBridge declared.name)
    let owners ← admitMembers policy declared.name bridge declared.members owners
    admitBridges policy rest (bridge :: taken) owners

/-- Checks a configuration, reporting the names that are cut on the way. -/
def inspect (config : Config) : Reported ConfigFault Unit := do
  if (Level.ofText? config.level).isNone then throw (.unknownLevel config.level)
  admitBridges config.policy config.bridges [] []

def validate (config : Config) : Except ConfigFault Unit := config.inspect.result

end Config

end NetBridge
