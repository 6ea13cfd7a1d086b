import NetBridge.Name

namespace NetBridge.NameField

def textBytes (text : String) : List UInt8 := text.toByteArray.data.toList

/-- The name's bytes, filled with zeros up to the size of the field. -/
def encode (name : IfName) : List UInt8 :=
  textBytes name.text ++ List.replicate (nameFieldSize - name.text.utf8ByteSize) 0

/-- The text before the first zero byte; none if it is empty or not UTF-8. -/
def decode (field : List UInt8) : Option String :=
  (String.fromUTF8? (field.takeWhile (· ≠ 0)).toByteArray).filter (· ≠ "")

theorem length_textBytes (text : String) : (textBytes text).length = text.utf8ByteSize := rfl

theorem length_encode (name : IfName) : (encode name).length = nameFieldSize := by
  have fits : name.text.utf8ByteSize ≤ nameFieldSize := Nat.le_trans name.size_le (by decide)
  simp only [encode, List.length_append, length_textBytes, List.length_replicate]
  omega

end NetBridge.NameField
