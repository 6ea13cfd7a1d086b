import Mathlib.Data.List.TakeWhile
import NetBridge.Proofs.Name.Cut
import NetBridge.Proofs.Name.Field

namespace NetBridge.NameField

/-- The bytes of a field before its first zero, or all of them when there is none. -/
structure Shows (field bytes : List UInt8) : Prop where
  initial : bytes <+: field
  visible : 0 ∉ bytes
  stops : bytes = field ∨ bytes ++ [0] <+: field

/-- No zero comes before a byte other than zero. -/
def ZeroFilled (field : List UInt8) : Prop :=
  field.Pairwise fun earlier later => earlier = 0 → later = 0

instance (field : List UInt8) : Decidable (ZeroFilled field) :=
  inferInstanceAs (Decidable (field.Pairwise fun earlier later => earlier = 0 → later = 0))

variable {field bytes : List UInt8} {text : String}

theorem shows_takeWhile (field : List UInt8) : Shows field (field.takeWhile (· ≠ 0)) where
  initial := List.takeWhile_prefix _
  visible member := by simpa using List.mem_takeWhile_imp member
  stops := by
    have whole := List.takeWhile_append_dropWhile (p := (· ≠ 0)) (l := field)
    cases rest : field.dropWhile (· ≠ 0) with
    | nil =>
      rw [rest, List.append_nil] at whole
      exact .inl whole
    | cons byte others =>
      have stop := List.head?_dropWhile_not (· ≠ 0) field
      rw [rest] at stop whole
      obtain rfl : byte = 0 := by simpa using stop
      exact .inr ⟨others, by rw [List.append_assoc]; exact whole⟩

theorem Shows.takeWhile_eq (shows : Shows field bytes) : field.takeWhile (· ≠ 0) = bytes := by
  have clean : ∀ byte ∈ bytes, decide (byte ≠ 0) = true := by
    intro byte member
    exact decide_eq_true fun zero => shows.visible (zero ▸ member)
  rcases shows.stops with rfl | ⟨rest, rfl⟩
  · exact List.takeWhile_eq_self_iff.mpr clean
  · rw [List.append_assoc, List.takeWhile_append_of_pos clean]
    simp

/-- A field has a zero unless it shows all of its bytes. -/
theorem Shows.zero_mem_iff (shows : Shows field bytes) :
    0 ∈ field ↔ bytes.length < field.length := by
  constructor
  · intro zero
    refine Nat.lt_of_le_of_ne shows.initial.length_le fun same => shows.visible ?_
    rwa [shows.initial.eq_of_length same]
  · intro shorter
    rcases shows.stops with rfl | more
    · exact absurd shorter (Nat.lt_irrefl _)
    · exact more.subset (List.mem_append_right _ (List.mem_singleton_self 0))

theorem zeroFilled_append_replicate (clean : 0 ∉ bytes) (zeros : Nat) :
    ZeroFilled (bytes ++ List.replicate zeros 0) := by
  refine List.pairwise_append.mpr ⟨?_, ?_, ?_⟩
  · exact List.Pairwise.imp_of_mem (fun member _ _ zero => absurd (zero ▸ member) clean)
      (List.pairwise_of_forall fun _ _ => trivial)
  · exact List.pairwise_replicate.mpr (.inr fun zero => zero)
  · intro byte member _ _ zero
    exact absurd (zero ▸ member) clean

/-- What a field shows decides the field when only zeros follow. -/
theorem Shows.zeroFilled_iff (shows : Shows field bytes) :
    ZeroFilled field ↔ field = bytes ++ List.replicate (field.length - bytes.length) 0 := by
  constructor
  · intro filled
    rcases shows.stops with rfl | ⟨rest, rfl⟩
    · simp
    · rw [List.append_assoc] at filled ⊢
      obtain ⟨-, tail, -⟩ := List.pairwise_append.mp filled
      have zeros := (List.pairwise_cons.mp tail).1
      refine congrArg (bytes ++ ·) (List.eq_replicate_iff.mpr ⟨by simp, ?_⟩)
      intro byte member
      rcases List.mem_cons.mp member with same | later
      · exact same
      · exact zeros byte later rfl
  · intro same
    rw [same]
    exact zeroFilled_append_replicate shows.visible _

theorem fromUTF8?_eq_some_iff {bytes : ByteArray} :
    String.fromUTF8? bytes = some text ↔
      ∃ valid : bytes.IsValidUTF8, text = String.fromUTF8 bytes valid := by
  unfold String.fromUTF8?
  split
  · next valid => simp [valid, eq_comm]
  · next invalid => simp [invalid]

theorem textBytes_fromUTF8 (valid : bytes.toByteArray.IsValidUTF8) :
    textBytes (String.fromUTF8 bytes.toByteArray valid) = bytes := by
  show bytes.toByteArray.data.toList = bytes
  rw [List.data_toByteArray]

theorem textBytes_eq_nil_iff : textBytes text = [] ↔ text = "" := by
  rw [← List.length_eq_zero_iff, length_textBytes, String.utf8ByteSize_eq_zero_iff]

/-- A field is read as the text whose encoding it shows, unless it shows nothing. -/
theorem decode_eq_some_iff : decode field = some text ↔
    ∃ bytes, Shows field bytes ∧ bytes ≠ [] ∧
      ∃ valid : bytes.toByteArray.IsValidUTF8, text = String.fromUTF8 bytes.toByteArray valid := by
  rw [decode, Option.filter_eq_some_iff, fromUTF8?_eq_some_iff]
  constructor
  · rintro ⟨⟨valid, rfl⟩, present⟩
    refine ⟨_, shows_takeWhile field, fun none => ?_, valid, rfl⟩
    refine absurd (textBytes_eq_nil_iff.mp ?_) (of_decide_eq_true present)
    rw [textBytes_fromUTF8 valid]
    exact none
  · rintro ⟨bytes, shows, present, valid, rfl⟩
    obtain rfl := shows.takeWhile_eq
    refine ⟨⟨valid, rfl⟩, decide_eq_true fun none => present ?_⟩
    rw [← textBytes_fromUTF8 valid]
    exact textBytes_eq_nil_iff.mpr none

theorem shows_of_decode (read : decode field = some text) :
    Shows field (textBytes text) ∧ text ≠ "" := by
  obtain ⟨bytes, shows, present, valid, rfl⟩ := decode_eq_some_iff.mp read
  rw [Ne, ← textBytes_eq_nil_iff, textBytes_fromUTF8 valid]
  exact ⟨shows, present⟩

theorem nul_not_mem_of_shows (shows : Shows field (textBytes text)) : '\x00' ∉ text.toList := by
  intro nul
  refine shows.visible ?_
  rw [textBytes_eq_flatMap]
  exact List.mem_flatMap.mpr ⟨_, nul, List.mem_singleton_self 0⟩

theorem zeroFilled_encode (name : IfName) : ZeroFilled (encode name) :=
  zeroFilled_append_replicate
    (fun zero => textBytes_ne_zero name.nul_not_mem 0 zero rfl) _

theorem getLast?_encode (name : IfName) : (encode name).getLast? = some 0 := by
  have room : nameFieldSize - name.text.utf8ByteSize ≠ 0 := by
    have fits := name.size_le
    have limit : maxNameBytes + 1 = nameFieldSize := rfl
    omega
  rw [encode, List.getLast?_append, List.getLast?_replicate, if_neg room, Option.some_or]

theorem encode_injective : Function.Injective encode := by
  intro name other same
  have read := decode_encode name
  rw [same, decode_encode other] at read
  exact IfName.ext_text (Option.some.inj read).symm

/-- The text of a whole field is a name when the field has room for a zero. -/
theorem exists_new_iff_zero_mem (whole : field.length = nameFieldSize)
    (read : decode field = some text) : (∃ name, IfName.new text = .ok name) ↔ 0 ∈ field := by
  obtain ⟨shows, present⟩ := shows_of_decode read
  have limit : maxNameBytes + 1 = nameFieldSize := rfl
  rw [IfName.exists_new_iff, shows.zero_mem_iff, length_textBytes, whole]
  constructor
  · rintro ⟨-, -, fits⟩
    omega
  · exact fun shorter => ⟨present, nul_not_mem_of_shows shows, by omega⟩

/-- The name read from a field is written back to the same field when only zeros follow it. -/
theorem encode_eq_iff (whole : field.length = nameFieldSize) (read : decode field = some text)
    {name : IfName} (named : IfName.new text = .ok name) :
    encode name = field ↔ ZeroFilled field := by
  obtain ⟨shows, -⟩ := shows_of_decode read
  obtain ⟨-, rfl⟩ := IfName.new_eq_ok_iff.mp named
  rw [shows.zeroFilled_iff, whole, length_textBytes, encode, eq_comm]

/-- Writing a name to its field and reading the field are inverse to each other. A name fills its
field up with zeros, ends it with one and is read back. A field is read as the text that its bytes
before the first zero encode, if there are such bytes and they are UTF-8. What is read from a whole
field is a name when the field has a zero, and is written back to the same field when no other byte
follows a zero. -/
theorem encode_and_decode_inverse (name : IfName) (field : List UInt8) (text : String) :
    ((encode name).length = 16 ∧ (encode name).getLast? = some 0 ∧ ZeroFilled (encode name) ∧
      decode (encode name) = some name.text ∧ ∀ other, encode other = encode name → other = name) ∧
    (decode field = some text ↔ ∃ bytes, Shows field bytes ∧ bytes ≠ [] ∧
      ∃ valid : bytes.toByteArray.IsValidUTF8, text = String.fromUTF8 bytes.toByteArray valid) ∧
    (decode field = some text → text ≠ "" ∧ '\x00' ∉ text.toList ∧
      (field.length = 16 → ((∃ read, IfName.new text = .ok read) ↔ 0 ∈ field) ∧
        ∀ read, IfName.new text = .ok read → (encode read = field ↔ ZeroFilled field))) := by
  refine ⟨⟨length_encode name, getLast?_encode name, zeroFilled_encode name, decode_encode name,
    fun other same => encode_injective same⟩, decode_eq_some_iff, fun read => ?_⟩
  obtain ⟨shows, present⟩ := shows_of_decode read
  refine ⟨present, nul_not_mem_of_shows shows, fun whole => ?_⟩
  exact ⟨exists_new_iff_zero_mem whole read, fun _ => encode_eq_iff whole read⟩

/-- A field with a name, a zero, and what is left of a longer name. -/
theorem encode_and_decode_inverse_garbled :
    let field : List UInt8 := [0x62, 0x72, 0xc3, 0xa9, 0, 0x68, 0x30, 0, 0, 0, 0, 0, 0, 0, 0, 0]
    decode field = some "bré" ∧ ∃ name, IfName.new "bré" = .ok name ∧ encode name ≠ field := by
  intro field
  have read : decode field = some "bré" := by decide +kernel
  obtain ⟨-, -, reads⟩ := encode_and_decode_inverse ⟨"bré", by decide, by decide, by decide⟩
    field "bré"
  obtain ⟨-, -, whole⟩ := reads read
  obtain ⟨accepted, back⟩ := whole rfl
  obtain ⟨name, named⟩ := accepted.mpr (by decide)
  exact ⟨read, name, named, fun same => absurd ((back name named).mp same) (by decide)⟩

end NetBridge.NameField
