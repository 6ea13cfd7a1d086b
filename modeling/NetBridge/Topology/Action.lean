namespace NetBridge

/-- One step of a plan. The texts are interface names. -/
inductive Action where
  | createBridge (bridge : String)
  | addMember (bridge iface : String)
  | linkUp (name : String)
  | removeMember (bridge iface : String)
  | linkDown (name : String)
  | deleteBridge (bridge : String)
deriving DecidableEq, Repr

def Action.text : Action → String
  | createBridge bridge => s!"create bridge {bridge}"
  | addMember bridge iface => s!"add {iface} to {bridge}"
  | linkUp name => s!"set {name} up"
  | removeMember bridge iface => s!"remove {iface} from {bridge}"
  | linkDown name => s!"set {name} down"
  | deleteBridge bridge => s!"delete bridge {bridge}"

end NetBridge
