import NetBridge.Errno
import NetBridge.Link.Flags
import NetBridge.Name

/-!
The control plane of the kernel's bridge table: what it can be asked, and the type of each answer.
A control plane hands out transient handles, resolves names and indices, and answers one request
at a time on a handle.
-/
namespace NetBridge

/-- An interface index; zero never names a live interface. -/
structure IfIndex where
  value : UInt32
  value_ne_zero : value ≠ 0
deriving DecidableEq, Repr

namespace IfIndex

def ofUInt32? (value : UInt32) : Option IfIndex :=
  if live : value ≠ 0 then some ⟨value, live⟩ else none

/-- The index written in an enumeration slot, if the slot is in use. -/
def ofSlot? (slot : Int32) : Option IfIndex :=
  if 0 < slot.toInt then ofUInt32? (UInt32.ofNat slot.toInt.toNat) else none

def toNat (index : IfIndex) : Nat := index.value.toNat

end IfIndex

/-- A transient handle on the control plane. -/
structure Handle where
  id : Nat
deriving DecidableEq, Repr

/-- The answer to a bridge enumeration: the count reported, and the buffer after the call. -/
structure Enumeration (capacity : Nat) where
  count : Nat
  slots : Vector Int32 capacity

/-- A buffer of `capacity` slots filled from the front, the rest zero. -/
def fillSlots (capacity : Nat) (values : List Int32) : Vector Int32 capacity :=
  ⟨((values ++ List.replicate capacity 0).take capacity).toArray, by simp⟩

/-- The slots in front of a limit that the buffer reaches. -/
def firstSlots {capacity : Nat} (slots : Vector Int32 capacity) (limit : Nat)
    (inside : limit ≤ capacity) : List Int32 :=
  List.ofFn fun position : Fin limit => slots.get (position.castLE inside)

theorem firstSlots_eq_take {capacity : Nat} (slots : Vector Int32 capacity) (limit : Nat)
    (inside : limit ≤ capacity) : firstSlots slots limit inside = slots.toList.take limit := by
  refine List.ext_getElem (by simp [firstSlots, inside]) fun position within _ => ?_
  simp [firstSlots, Vector.get]

/-- No more is read than the buffer holds, whatever count is reported. -/
theorem firstSlots_min {capacity : Nat} (slots : Vector Int32 capacity) (count : Nat) :
    firstSlots slots (min count capacity) (Nat.min_le_right ..) = slots.toList.take count := by
  have whole := List.take_eq_take_min (l := slots.toList) (i := count)
  rw [Vector.length_toList] at whole
  rw [firstSlots_eq_take, whole]

/-- One request on a handle. Enumerations are given a zeroed buffer of so many slots. -/
inductive Request where
  | addBridge (name : IfName)
  | deleteBridge (name : IfName)
  | addPort (bridge : IfName) (port : IfIndex)
  | deletePort (bridge : IfName) (port : IfIndex)
  | bridgeIndices (capacity : Nat)
  | portIndices (bridge : IfName) (capacity : Nat)
  | linkFlags (name : IfName)
  | setLinkFlags (name : IfName) (flags : LinkFlags)
deriving DecidableEq, Repr

@[reducible] def Request.Reply : Request → Type
  | addBridge _ => Unit
  | deleteBridge _ => Unit
  | addPort _ _ => Unit
  | deletePort _ _ => Unit
  | bridgeIndices capacity => Enumeration capacity
  | portIndices _ capacity => Vector Int32 capacity
  | linkFlags _ => LinkFlags
  | setLinkFlags _ _ => Unit

/-- Whether the request changes the bridge table when it is granted. -/
def Request.mutates : Request → Bool
  | addBridge _ => true
  | deleteBridge _ => true
  | addPort _ _ => true
  | deletePort _ _ => true
  | bridgeIndices _ => false
  | portIndices _ _ => false
  | linkFlags _ => false
  | setLinkFlags _ _ => true

inductive Call where
  | acquire
  | release (handle : Handle)
  | request (handle : Handle) (request : Request)
  | nameToIndex (name : IfName)
  | indexToName (index : IfIndex)
deriving DecidableEq, Repr

@[reducible] def Call.Answer : Call → Type
  | acquire => Except Errno Handle
  | release _ => Unit
  | request _ r => Except Errno r.Reply
  | nameToIndex _ => Option IfIndex
  | indexToName _ => Option String

/-- A control plane over states of type `σ`: it answers each call and moves to its next state. -/
structure ControlPlane (σ : Type) where
  answer : (call : Call) → σ → call.Answer × σ

end NetBridge
