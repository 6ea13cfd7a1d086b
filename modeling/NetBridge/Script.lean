import NetBridge.ControlPlane

namespace NetBridge

/-- The replies still to be given to each kind of request, and fixed tables of names and indices. A
queue without replies grants its request with nothing in it. -/
structure Script where
  indices : List (String × Nat)
  names : List (Nat × String)
  acquisitions : List (Except Errno Unit)
  bridgeAdditions : List (Except Errno Unit)
  bridgeDeletions : List (Except Errno Unit)
  portAdditions : List (Except Errno Unit)
  portDeletions : List (Except Errno Unit)
  /-- Slots with the count reported for them, which need not agree. -/
  bridgeListings : List (Except Errno (List Int32 × Nat))
  portListings : List (Except Errno (List Int32))
  flagReadings : List (Except Errno LinkFlags)
  flagWritings : List (Except Errno Unit)

namespace Script

/-- The next reply of a queue, or `idle` when it is empty, and the rest of the queue. -/
def next {α : Type} (idle : α) : List (Except Errno α) → Except Errno α × List (Except Errno α)
  | [] => (.ok idle, [])
  | reply :: rest => (reply, rest)

def acquire (script : Script) : Except Errno Handle × Script :=
  let (reply, rest) := next () script.acquisitions
  (reply.map fun _ => ⟨0⟩, { script with acquisitions := rest })

def answerRequest : (request : Request) → Script → Except Errno request.Reply × Script
  | .addBridge _, script =>
    let (reply, rest) := next () script.bridgeAdditions
    (reply, { script with bridgeAdditions := rest })
  | .deleteBridge _, script =>
    let (reply, rest) := next () script.bridgeDeletions
    (reply, { script with bridgeDeletions := rest })
  | .addPort _ _, script =>
    let (reply, rest) := next () script.portAdditions
    (reply, { script with portAdditions := rest })
  | .deletePort _ _, script =>
    let (reply, rest) := next () script.portDeletions
    (reply, { script with portDeletions := rest })
  | .bridgeIndices capacity, script =>
    let (reply, rest) := next ([], 0) script.bridgeListings
    (reply.map fun (slots, count) => ⟨count, fillSlots capacity slots⟩,
      { script with bridgeListings := rest })
  | .portIndices _ capacity, script =>
    let (reply, rest) := next [] script.portListings
    (reply.map fun slots => fillSlots capacity slots, { script with portListings := rest })
  | .linkFlags _, script =>
    let (reply, rest) := next ⟨0⟩ script.flagReadings
    (reply, { script with flagReadings := rest })
  | .setLinkFlags _ _, script =>
    let (reply, rest) := next () script.flagWritings
    (reply, { script with flagWritings := rest })

/-- Index zero in the table counts as no interface. -/
def nameToIndex (script : Script) (name : IfName) : Option IfIndex :=
  (script.indices.lookup name.text).bind fun index => IfIndex.ofUInt32? (UInt32.ofNat index)

def indexToName (script : Script) (index : IfIndex) : Option String :=
  script.names.lookup index.toNat

def answer : (call : Call) → Script → call.Answer × Script
  | .acquire, script => script.acquire
  | .release _, script => ((), script)
  | .request _ request, script => script.answerRequest request
  | .nameToIndex name, script => (script.nameToIndex name, script)
  | .indexToName index, script => (script.indexToName index, script)

def plane : ControlPlane Script := ⟨answer⟩

end Script

end NetBridge
