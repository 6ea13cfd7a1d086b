import NetBridge.Ioctl.Payload
import NetBridge.Proofs.Name.Field

namespace NetBridge

namespace Ioctl

def byteRange : Nat → Nat
  | 0 => 1
  | width + 1 => 256 * byteRange width

theorem ofLittleEndian_littleEndian {width value : Nat} (small : value < byteRange width) :
    ofLittleEndian (littleEndian width value) = value := by
  induction width generalizing value with
  | zero =>
    obtain rfl : value = 0 := Nat.lt_one_iff.mp small
    rfl
  | succ width ih =>
    have shifted : value / 256 < byteRange width := Nat.div_lt_of_lt_mul small
    rw [littleEndian, ofLittleEndian, ih shifted, UInt8.toNat_ofNat']
    exact Nat.mod_add_div value 256

variable {name : IfName} {rest operand : List UInt8}

theorem nameOf?_encode_append (name : IfName) (rest : List UInt8) :
    nameOf? (NameField.encode name ++ rest) = some name := by
  have field : (NameField.encode name ++ rest).take nameFieldSize = NameField.encode name := by
    rw [List.take_append_of_le_length (Nat.le_of_eq (NameField.length_encode name).symm),
      List.take_of_length_le (Nat.le_of_eq (NameField.length_encode name))]
  rw [nameOf?, field, NameField.decode_encode, Option.bind_some, IfName.new, IfName.ofText_text]
  rfl

theorem nameOf?_encode (name : IfName) : nameOf? (NameField.encode name) = some name := by
  have whole := nameOf?_encode_append name []
  rwa [List.append_nil] at whole

theorem operandOf_encode_append (name : IfName) (operand rest : List UInt8) :
    operandOf operand.length (NameField.encode name ++ operand ++ rest) = operand := by
  rw [operandOf, List.append_assoc, List.drop_append_of_le_length
    (Nat.le_of_eq (NameField.length_encode name).symm), List.drop_of_length_le
    (Nat.le_of_eq (NameField.length_encode name)), List.nil_append,
    List.take_append_of_le_length (Nat.le_refl _), List.take_length]

theorem indexOf?_interfaceRequest (name : IfName) (index : IfIndex) (rest : List UInt8) :
    indexOf? (NameField.encode name ++ indexBytes index ++ rest) = some index := by
  have operand : operandOf 4 (NameField.encode name ++ indexBytes index ++ rest) =
      indexBytes index := operandOf_encode_append name (indexBytes index) rest
  have small : index.toNat < byteRange 4 := index.value.toNat_lt
  rw [indexOf?, operand, indexBytes, ofLittleEndian_littleEndian small]
  cases index with
  | mk value live => simp [IfIndex.toNat, IfIndex.ofUInt32?, live]

theorem flagsOf_interfaceRequest (name : IfName) (flags : LinkFlags) (rest : List UInt8) :
    flagsOf (NameField.encode name ++ flagBytes flags ++ rest) = flags := by
  have operand : operandOf 2 (NameField.encode name ++ flagBytes flags ++ rest) =
      flagBytes flags := operandOf_encode_append name (flagBytes flags) rest
  have small : flags.bits.toNat < byteRange 2 := flags.bits.isLt
  rw [flagsOf, operand, flagBytes, ofLittleEndian_littleEndian small, BitVec.ofNat_toNat,
    BitVec.setWidth_eq]

/-- The kernel reads the request that was meant. -/
theorem decode?_payload (request : Request) :
    decode? (command request) (payload request) = some request := by
  cases request with
  | addBridge name => simp [command, payload, decode?, nameOf?_encode]
  | deleteBridge name => simp [command, payload, decode?, nameOf?_encode]
  | addPort bridge port =>
    simp only [command, payload, interfaceRequest, decode?, indexOf?_interfaceRequest]
    rw [List.append_assoc, nameOf?_encode_append]
    rfl
  | deletePort bridge port =>
    simp only [command, payload, interfaceRequest, decode?, indexOf?_interfaceRequest]
    rw [List.append_assoc, nameOf?_encode_append]
    rfl
  | bridgeIndices capacity => rfl
  | portIndices bridge capacity => simp [command, payload, decode?, nameOf?_encode]
  | linkFlags name =>
    simp only [command, payload, interfaceRequest, decode?]
    rw [List.append_assoc, nameOf?_encode_append]
    rfl
  | setLinkFlags name flags =>
    simp only [command, payload, interfaceRequest, decode?, flagsOf_interfaceRequest]
    rw [List.append_assoc, nameOf?_encode_append]
    rfl

theorem fillSlots_toList {capacity : Nat} (slots : Vector Int32 capacity) :
    fillSlots capacity slots.toList = slots := by
  have full : (slots.toList ++ List.replicate capacity 0).take capacity = slots.toList := by
    have size : slots.toList.length = capacity := Vector.length_toList
    rw [List.take_append_of_le_length (Nat.le_of_eq size.symm),
      List.take_of_length_le (Nat.le_of_eq size)]
  refine Vector.toList_inj.mp ?_
  exact full

/-- The caller reads the reply that was given. -/
theorem readReply_writeReply (request : Request) (reply : request.Reply) :
    readReply request (writeReply request reply) = reply := by
  cases request with
  | addBridge name => rfl
  | deleteBridge name => rfl
  | addPort bridge port => rfl
  | deletePort bridge port => rfl
  | bridgeIndices capacity =>
    show Enumeration.mk reply.count (fillSlots capacity reply.slots.toList) = reply
    rw [fillSlots_toList]
  | portIndices bridge capacity => exact fillSlots_toList reply
  | linkFlags name => rfl
  | setLinkFlags name flags => rfl

end Ioctl

end NetBridge
