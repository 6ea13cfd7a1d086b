import NetBridge.Name.Normalise
import NetBridge.Proofs.Outcome

namespace NetBridge

/-- The longest beginning of a text in whole characters that fits the name field. -/
structure LongestFit (text short : String) : Prop where
  initial : short.toList <+: text.toList
  fits : short.utf8ByteSize ≤ maxNameBytes
  longest : ∀ other : String, other.toList <+: text.toList →
    other.utf8ByteSize ≤ maxNameBytes → other.toList <+: short.toList

/-- The last boundary between characters that is not behind the given byte. The search goes back byte
by byte; every text has a boundary at its start. -/
def lastBoundary (text : String) : Nat → Nat
  | 0 => 0
  | byte + 1 =>
    if String.Pos.Raw.isValid text ⟨byte + 1⟩ then byte + 1 else lastBoundary text byte

theorem isPrefix_fittingPrefix {budget : Nat} {chars other : List Char}
    (initial : other <+: chars) (fits : utf8Length other ≤ budget) :
    other <+: fittingPrefix budget chars := by
  induction chars generalizing budget other with
  | nil =>
    obtain rfl := List.prefix_nil.mp initial
    exact List.nil_prefix
  | cons c rest ih =>
    cases other with
    | nil => exact List.nil_prefix
    | cons first others =>
      obtain ⟨rfl, tail⟩ := List.cons_prefix_cons.mp initial
      rw [utf8Length] at fits
      rw [fittingPrefix, if_pos (by omega)]
      exact List.cons_prefix_cons.mpr ⟨rfl, ih tail (by omega)⟩

/-- The character that does not fit any more takes four bytes at most. -/
theorem lt_utf8Length_fittingPrefix {budget : Nat} {chars : List Char}
    (long : budget < utf8Length chars) :
    budget < utf8Length (fittingPrefix budget chars) + 4 := by
  induction chars generalizing budget with
  | nil => cases long
  | cons c rest ih =>
    rw [utf8Length] at long
    by_cases fits : c.utf8Size ≤ budget
    · have tail := @ih (budget - c.utf8Size) (by omega)
      rw [fittingPrefix, if_pos fits, utf8Length]
      omega
    · have wide := Char.utf8Size_le_four c
      omega

theorem utf8Length_toList (text : String) : utf8Length text.toList = text.utf8ByteSize := by
  rw [← utf8ByteSize_ofList, String.ofList_toList]

/-- What begins a text character by character begins it as a text. -/
theorem exists_append_of_isPrefix {text short : String} (initial : short.toList <+: text.toList) :
    ∃ rest, text = short ++ rest := by
  obtain ⟨rest, whole⟩ := initial
  refine ⟨String.ofList rest, ?_⟩
  rw [← String.toList_inj, String.toList_append, String.toList_ofList, whole]

/-- The cut of any text is its longest fit. -/
theorem longestFit_fittingPrefix (text : String) :
    LongestFit text (String.ofList (fittingPrefix maxNameBytes text.toList)) where
  initial := by
    rw [String.toList_ofList]
    exact fittingPrefix_isPrefix ..
  fits := by
    rw [utf8ByteSize_ofList]
    exact utf8Length_fittingPrefix ..
  longest other initial fits := by
    rw [String.toList_ofList]
    exact isPrefix_fittingPrefix initial (utf8Length_toList other ▸ fits)

namespace LongestFit

variable {text short other : String}

theorem unique (one : LongestFit text short) (two : LongestFit text other) : short = other := by
  have there := two.longest short one.initial one.fits
  have back := one.longest other two.initial two.fits
  exact String.toList_inj.mp (there.eq_of_length_le back.length_le)

theorem refl (fits : text.utf8ByteSize ≤ maxNameBytes) : LongestFit text text :=
  ⟨List.prefix_refl _, fits, fun _ initial _ => initial⟩

theorem twelve_le (fit : LongestFit text short) (long : maxNameBytes < text.utf8ByteSize) :
    12 ≤ short.utf8ByteSize := by
  rw [fit.unique (longestFit_fittingPrefix text), utf8ByteSize_ofList]
  have lost := lt_utf8Length_fittingPrefix (utf8Length_toList text ▸ long)
  have limit : maxNameBytes = 15 := rfl
  omega

end LongestFit

theorem lastBoundary_le (text : String) (byte : Nat) : lastBoundary text byte ≤ byte := by
  induction byte with
  | zero => exact Nat.le_refl 0
  | succ byte ih =>
    rw [lastBoundary]
    split
    · exact Nat.le_refl _
    · exact Nat.le_succ_of_le ih

theorem isValid_lastBoundary (text : String) (byte : Nat) :
    String.Pos.Raw.IsValid text ⟨lastBoundary text byte⟩ := by
  induction byte with
  | zero => exact String.Pos.Raw.isValid_zero
  | succ byte ih =>
    rw [lastBoundary]
    split
    · next boundary => exact String.Pos.Raw.isValid_eq_true_iff.mp boundary
    · exact ih

theorem le_lastBoundary {text : String} {byte position : Nat} (before : position ≤ byte)
    (boundary : String.Pos.Raw.IsValid text ⟨position⟩) : position ≤ lastBoundary text byte := by
  induction byte with
  | zero => exact before
  | succ byte ih =>
    rw [lastBoundary]
    split
    · exact before
    · next inside =>
      refine ih (Nat.le_of_lt_succ (Nat.lt_of_le_of_ne before ?_))
      rintro rfl
      exact inside (String.Pos.Raw.isValid_eq_true_iff.mpr boundary)

namespace LongestFit

variable {text short : String}

theorem size_eq (fit : LongestFit text short) :
    short.utf8ByteSize = lastBoundary text maxNameBytes := by
  apply Nat.le_antisymm
  · refine le_lastBoundary fit.fits (String.Pos.Raw.isValid_iff_exists_take_toList.mpr ?_)
    refine ⟨short.toList.length, ?_⟩
    rw [← List.prefix_iff_eq_take.mp fit.initial, String.ofList_toList]
  · obtain ⟨before, rest, split, ends⟩ :=
      String.Pos.Raw.isValid_iff_exists_append.mp (isValid_lastBoundary text maxNameBytes)
    have size : lastBoundary text maxNameBytes = before.utf8ByteSize :=
      congrArg String.Pos.Raw.byteIdx ends
    have initial : before.toList <+: text.toList := by
      rw [split, String.toList_append]
      exact List.prefix_append ..
    have fits : before.utf8ByteSize ≤ maxNameBytes := size ▸ lastBoundary_le ..
    obtain ⟨more, rfl⟩ := exists_append_of_isPrefix (fit.longest before initial fits)
    rw [size, String.utf8ByteSize_append]
    exact Nat.le_add_right ..

/-- The longest fit is what stands before the boundary that the search finds. -/
theorem bytes_eq (fit : LongestFit text short) :
    short.toByteArray = text.toByteArray.extract 0 (lastBoundary text maxNameBytes) := by
  obtain ⟨rest, split⟩ := exists_append_of_isPrefix fit.initial
  rw [← fit.size_eq, split, String.toByteArray_append]
  exact (ByteArray.extract_append_eq_left rfl).symm

end LongestFit

namespace IfName

/-- Cutting does nothing to a text that fits, so it serves for all. -/
theorem truncated_eq_cut {text : String} (present : text ≠ "") (clean : '\x00' ∉ text.toList) :
    truncated text = .ok (cut text present clean) := by
  by_cases fits : text.utf8ByteSize ≤ maxNameBytes
  · rw [truncated, ofText, dif_neg present, dif_neg clean, dif_pos fits]
    have whole := (LongestFit.refl fits).unique (longestFit_fittingPrefix text)
    exact congrArg Except.ok (ext_text whole)
  · rw [truncated, ofText, dif_neg present, dif_neg clean, dif_neg fits]

theorem usable_of_ofText {policy : NamePolicy} {text : String} {name : IfName}
    (named : ofText policy text = .ok name) : text ≠ "" ∧ '\x00' ∉ text.toList := by
  have present : text ≠ "" := by
    rintro rfl
    cases named
  refine ⟨present, fun nul => ?_⟩
  rw [ofText, dif_neg present, dif_pos nul] at named
  cases named

/-- A text denotes its longest fit, unless it is empty or holds a NUL anywhere. -/
theorem truncated_eq_ok_iff {text : String} {name : IfName} :
    truncated text = .ok name ↔
      (text ≠ "" ∧ '\x00' ∉ text.toList) ∧ LongestFit text name.text := by
  constructor
  · intro named
    have usable := usable_of_ofText named
    rw [truncated_eq_cut usable.1 usable.2] at named
    obtain rfl := Except.ok.inj named
    exact ⟨usable, longestFit_fittingPrefix text⟩
  · rintro ⟨⟨present, clean⟩, fit⟩
    rw [truncated_eq_cut present clean]
    exact congrArg Except.ok (ext_text ((longestFit_fittingPrefix text).unique fit))

theorem new_eq_ok_iff {text : String} {name : IfName} :
    new text = .ok name ↔ truncated text = .ok name ∧ name.text = text := by
  constructor
  · intro named
    obtain ⟨present, clean⟩ := usable_of_ofText named
    by_cases fits : text.utf8ByteSize ≤ maxNameBytes
    · rw [new, ofText, dif_neg present, dif_neg clean, dif_pos fits] at named
      obtain rfl := Except.ok.inj named
      exact ⟨ofText_text .truncate ⟨text, present, clean, fits⟩, rfl⟩
    · rw [new, ofText, dif_neg present, dif_neg clean, dif_neg fits] at named
      cases named
  · rintro ⟨-, rfl⟩
    exact ofText_text .reject name

theorem exists_new_iff {text : String} : (∃ name, new text = .ok name) ↔
    text ≠ "" ∧ '\x00' ∉ text.toList ∧ text.utf8ByteSize ≤ maxNameBytes := by
  constructor
  · rintro ⟨name, named⟩
    obtain ⟨-, rfl⟩ := new_eq_ok_iff.mp named
    exact ⟨name.text_ne_empty, name.nul_not_mem, name.size_le⟩
  · rintro ⟨present, clean, fits⟩
    exact ⟨_, ofText_text .reject ⟨text, present, clean, fits⟩⟩

theorem result_normalise (policy : NamePolicy) (text : String) :
    (normalise policy text).result = ofText policy text := by
  rw [normalise]
  cases ofText policy text <;> rfl

/-- A text is reported to be cut when it denotes a name and does not fit. -/
theorem nameTruncated_mem_iff {text : String} {name : IfName} :
    .nameTruncated text name ∈ (normalise .truncate text).events ↔
      truncated text = .ok name ∧ maxNameBytes < text.utf8ByteSize := by
  rw [normalise, truncated]
  cases ofText .truncate text with
  | error fault => simp
  | ok kept =>
    by_cases long : maxNameBytes < text.utf8ByteSize
    · simp [long, eq_comm]
    · simp [long]

/-- Read leniently, a text that is neither empty nor holds a NUL denotes its longest fit; one that is
too long keeps twelve bytes at least and gives a warning. Read strictly, a text denotes itself or
nothing. A name that was read is read as itself ever after. The way back to the boundary to cut at
ends before the start of the text. -/
theorem truncated_reads_longest_fit (text : String) :
    ((∃ name, truncated text = .ok name) ↔ text ≠ "" ∧ '\x00' ∉ text.toList) ∧
    (∀ name, truncated text = .ok name →
      LongestFit text name.text ∧ name.text ≠ "" ∧
      (maxNameBytes < text.utf8ByteSize → 12 ≤ name.text.utf8ByteSize) ∧
      name.text.toByteArray = text.toByteArray.extract 0 (lastBoundary text maxNameBytes)) ∧
    (normalise .truncate text).result = truncated text ∧
    ((∃ name, .nameTruncated text name ∈ (normalise .truncate text).events) ↔
      (∃ name, truncated text = .ok name) ∧ maxNameBytes < text.utf8ByteSize) ∧
    ((∃ name, new text = .ok name) ↔ ∃ name, truncated text = .ok name ∧ name.text = text) ∧
    (∀ policy name, ofText policy text = .ok name →
      ∀ again, ofText again name.text = .ok name) ∧
    (maxNameBytes < text.utf8ByteSize → 0 < lastBoundary text maxNameBytes) := by
  refine ⟨⟨?_, ?_⟩, ?_, result_normalise .truncate text, ?_, ?_, ?_, ?_⟩
  · exact fun ⟨name, named⟩ => usable_of_ofText named
  · exact fun ⟨present, clean⟩ => ⟨_, truncated_eq_cut present clean⟩
  · intro name named
    have fit := (truncated_eq_ok_iff.mp named).2
    exact ⟨fit, name.text_ne_empty, fit.twelve_le, fit.bytes_eq⟩
  · simp only [nameTruncated_mem_iff, exists_and_right]
  · exact exists_congr fun name => new_eq_ok_iff
  · exact fun _ name _ again => ofText_text again name
  · intro long
    have fit := longestFit_fittingPrefix text
    rw [← fit.size_eq]
    exact Nat.lt_of_lt_of_le (by decide) (fit.twelve_le long)

/-- A character that straddles the limit goes altogether. -/
theorem truncated_reads_longest_fit_straddling :
    (∃ name, truncated "abcdefghijklmné" = .ok name ∧ name.text = "abcdefghijklmn" ∧
      12 ≤ name.text.utf8ByteSize) ∧
    ∃ name, .nameTruncated "abcdefghijklmné" name ∈
      (normalise .truncate "abcdefghijklmné").events := by
  have long : maxNameBytes < "abcdefghijklmné".utf8ByteSize := by decide +kernel
  obtain ⟨usable, reads, -, warns, -, -, -⟩ := truncated_reads_longest_fit "abcdefghijklmné"
  obtain ⟨name, named⟩ := usable.mpr (by decide +kernel)
  obtain ⟨-, -, enough, bytes⟩ := reads name named
  refine ⟨⟨name, named, ?_, enough long⟩, warns.mpr ⟨⟨name, named⟩, long⟩⟩
  exact String.toByteArray_inj.mp (bytes.trans (by decide +kernel))

/-- A long text that is refused for its NUL gives no warning. -/
theorem long_text_without_warning :
    ¬ ((∃ name, .nameTruncated "aaaaaaaaaaaaaaaa\x00" name ∈
          (normalise .truncate "aaaaaaaaaaaaaaaa\x00").events) ↔
        maxNameBytes < "aaaaaaaaaaaaaaaa\x00".utf8ByteSize) := by
  intro claimed
  obtain ⟨name, warned⟩ := claimed.mpr (by decide +kernel)
  have named := (nameTruncated_mem_iff.mp warned).1
  exact (usable_of_ofText named).2 (by decide +kernel)

end IfName

end NetBridge
