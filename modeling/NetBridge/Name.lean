namespace NetBridge

/-- Bytes of the kernel's name field, terminator included. -/
def nameFieldSize : Nat := 16

/-- Longest usable name in UTF-8 bytes: the field less its terminator. -/
def maxNameBytes : Nat := nameFieldSize - 1

/-- What happens to a text that does not fit the name field. -/
inductive NamePolicy where
  | truncate
  | reject
deriving DecidableEq, Repr

inductive NameFault where
  | empty
  | containsNul
  | tooLong
  | described (words : String)
deriving DecidableEq, Repr

def NameFault.message : NameFault → String
  | .empty => "name is empty"
  | .containsNul => "name contains a NUL byte"
  | .tooLong => s!"name too long (max {maxNameBytes} chars)"
  | .described words => words

def NameFault.refusal (name : String) (fault : NameFault) : String :=
  s!"Invalid interface name '{name}': {fault.message}"

/-- The longest prefix made of whole characters that takes at most `budget` UTF-8 bytes. -/
def fittingPrefix : Nat → List Char → List Char
  | _, [] => []
  | budget, c :: rest =>
    if c.utf8Size ≤ budget then c :: fittingPrefix (budget - c.utf8Size) rest else []

def utf8Length : List Char → Nat
  | [] => 0
  | c :: rest => c.utf8Size + utf8Length rest

theorem utf8ByteSize_ofList (chars : List Char) :
    (String.ofList chars).utf8ByteSize = utf8Length chars := by
  induction chars with
  | nil => rfl
  | cons c rest ih =>
    simp only [String.utf8ByteSize, String.toByteArray_ofList, List.utf8Encode,
      List.size_toByteArray, List.flatMap_cons, List.length_append, String.length_utf8EncodeChar,
      utf8Length] at ih ⊢
    rw [ih]

theorem utf8Length_fittingPrefix (budget : Nat) (chars : List Char) :
    utf8Length (fittingPrefix budget chars) ≤ budget := by
  induction chars generalizing budget with
  | nil => exact Nat.zero_le _
  | cons c rest ih =>
    by_cases fits : c.utf8Size ≤ budget
    · have tail := ih (budget - c.utf8Size)
      simp only [fittingPrefix, fits, if_true, utf8Length]
      omega
    · simp [fittingPrefix, fits, utf8Length]

theorem fittingPrefix_isPrefix (budget : Nat) (chars : List Char) :
    fittingPrefix budget chars <+: chars := by
  induction chars generalizing budget with
  | nil => exact List.nil_prefix
  | cons c rest ih =>
    by_cases fits : c.utf8Size ≤ budget
    · simpa [fittingPrefix, fits] using ih (budget - c.utf8Size)
    · simp [fittingPrefix, fits]

/-- The first character fits any budget of four bytes, the widest encoding. -/
theorem fittingPrefix_ne_nil {budget : Nat} {chars : List Char} (room : 4 ≤ budget)
    (present : chars ≠ []) : fittingPrefix budget chars ≠ [] := by
  cases chars with
  | nil => exact absurd rfl present
  | cons c rest =>
    have fits : c.utf8Size ≤ budget := Nat.le_trans (Char.utf8Size_le_four c) room
    simp [fittingPrefix, fits]

/-- A non-empty interface name of at most fifteen UTF-8 bytes without NUL. -/
structure IfName where
  text : String
  text_ne_empty : text ≠ ""
  nul_not_mem : '\x00' ∉ text.toList
  size_le : text.utf8ByteSize ≤ maxNameBytes
deriving DecidableEq, Repr

namespace IfName

instance : ToString IfName := ⟨IfName.text⟩

theorem ext_text {a b : IfName} (same : a.text = b.text) : a = b := by
  cases a; cases b; simp_all

/-- The longest fitting prefix of a text that is neither empty nor holds a NUL. -/
def cut (text : String) (present : text ≠ "") (clean : '\x00' ∉ text.toList) : IfName where
  text := String.ofList (fittingPrefix maxNameBytes text.toList)
  text_ne_empty := by
    intro gone
    have chars := congrArg String.toList gone
    rw [String.toList_ofList] at chars
    refine fittingPrefix_ne_nil (by decide) ?_ chars
    intro none
    exact present (String.toList_inj.mp none)
  nul_not_mem := by
    rw [String.toList_ofList]
    exact fun found => clean ((fittingPrefix_isPrefix _ _).subset found)
  size_le := by
    rw [utf8ByteSize_ofList]
    exact utf8Length_fittingPrefix _ _

/-- The name that a text denotes under a policy. A text that fits denotes itself. -/
def ofText (policy : NamePolicy) (text : String) : Except NameFault IfName :=
  if present : text = "" then .error .empty
  else if clean : '\x00' ∈ text.toList then .error .containsNul
  else if fits : text.utf8ByteSize ≤ maxNameBytes then .ok ⟨text, present, clean, fits⟩
  else match policy with
    | .reject => .error .tooLong
    | .truncate => .ok (cut text present clean)

/-- Reads a name strictly: a text that does not fit is refused. -/
def new (text : String) : Except NameFault IfName := ofText .reject text

def truncated (text : String) : Except NameFault IfName := ofText .truncate text

end IfName

end NetBridge
