namespace NetBridge

/-- A bridge as declared: names are texts that no policy has been applied to yet. -/
structure Declaration where
  name : String
  members : List String
  up : Bool
deriving DecidableEq, Repr

end NetBridge
