import NetBridge.Name.Field
import NetBridge.Proofs.Outcome

namespace NetBridge.NameField

private theorem field_ofNat_ne_zero {value : Nat} (positive : 0 < value) (small : value < 256) :
    UInt8.ofNat value ≠ 0 := by
  intro zero
  have whole : (UInt8.ofNat value).toNat = value := UInt8.toNat_ofNat_of_lt small
  rw [zero] at whole
  exact absurd whole (Nat.ne_of_lt positive)

/-- Every byte of a multi-byte encoding has its high bit set; a single byte is the character. -/
theorem utf8EncodeChar_ne_zero {c : Char} (visible : c ≠ '\x00') :
    ∀ byte ∈ String.utf8EncodeChar c, byte ≠ 0 := by
  have positive : 0 < c.val.toNat := by
    refine Nat.pos_of_ne_zero fun zero => ?_
    exact visible (Char.ext (UInt32.toNat_inj.mp zero))
  unfold String.utf8EncodeChar
  dsimp only
  split
  · simp only [List.mem_singleton, forall_eq]
    exact field_ofNat_ne_zero positive (by omega)
  · split
    · simp only [List.mem_cons, List.not_mem_nil, or_false, forall_eq_or_imp, forall_eq]
      exact ⟨field_ofNat_ne_zero (by omega) (by omega), field_ofNat_ne_zero (by omega) (by omega)⟩
    · split
      · simp only [List.mem_cons, List.not_mem_nil, or_false, forall_eq_or_imp, forall_eq]
        exact ⟨field_ofNat_ne_zero (by omega) (by omega),
          field_ofNat_ne_zero (by omega) (by omega), field_ofNat_ne_zero (by omega) (by omega)⟩
      · simp only [List.mem_cons, List.not_mem_nil, or_false, forall_eq_or_imp, forall_eq]
        exact ⟨field_ofNat_ne_zero (by omega) (by omega),
          field_ofNat_ne_zero (by omega) (by omega), field_ofNat_ne_zero (by omega) (by omega),
          field_ofNat_ne_zero (by omega) (by omega)⟩

theorem textBytes_eq_flatMap (text : String) :
    textBytes text = text.toList.flatMap String.utf8EncodeChar := by
  have whole : text.toByteArray = (text.toList.flatMap String.utf8EncodeChar).toByteArray := by
    conv => lhs; rw [← String.ofList_toList (s := text)]
    rw [String.toByteArray_ofList, List.utf8Encode]
  rw [textBytes, whole, List.data_toByteArray]

theorem textBytes_ne_zero {text : String} (clean : '\x00' ∉ text.toList) :
    ∀ byte ∈ textBytes text, byte ≠ 0 := by
  intro byte member
  rw [textBytes_eq_flatMap] at member
  obtain ⟨c, present, encoded⟩ := List.mem_flatMap.mp member
  exact utf8EncodeChar_ne_zero (fun nul => clean (nul ▸ present)) byte encoded

theorem fromUTF8?_textBytes (text : String) :
    String.fromUTF8? (textBytes text).toByteArray = some text := by
  have back : (textBytes text).toByteArray = text.toByteArray := by
    refine ByteArray.ext ?_
    rw [List.data_toByteArray, textBytes, Array.toArray_toList]
  rw [back]
  simp [String.fromUTF8?, text.isValidUTF8, String.fromUTF8]

/-- Zeros behind a name do not disturb it. -/
theorem decode_textBytes_append (name : IfName) (zeros : Nat) :
    decode (textBytes name.text ++ List.replicate zeros 0) = some name.text := by
  have visible : (textBytes name.text ++ List.replicate zeros 0).takeWhile (· ≠ 0) =
      textBytes name.text := by
    rw [List.takeWhile_append_of_pos, List.takeWhile_replicate]
    · simp
    · exact fun byte member => decide_eq_true (textBytes_ne_zero name.nul_not_mem byte member)
  rw [decode, visible, fromUTF8?_textBytes]
  simp [Option.filter, name.text_ne_empty]

theorem decode_encode (name : IfName) : decode (encode name) = some name.text :=
  decode_textBytes_append name _

end NetBridge.NameField
