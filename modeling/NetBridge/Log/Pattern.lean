import NetBridge.Log.Level
import NetBridge.Text.Character

/-!
Patterns that the value of a span's field is compared with. Nothing here opens a span, so no pattern
is ever matched; all that counts is whether it can be read. A pattern stands in a list of directives
and between braces: it holds no comma, no equals sign and no closing brace, and whatever needs one
of them (counted repetitions, classes and code points in braces, conditions on what surrounds a
match) is refused. Classes that reach beyond ASCII are not known by name.
-/
namespace NetBridge.Pattern

/-- How a part of a pattern is read. -/
structure Mode where
  spaced : Bool
  caseless : Bool
  /-- The pattern is about characters, and otherwise about bytes. -/
  wide : Bool
deriving DecidableEq, Repr

namespace Mode

def initial : Mode := ⟨false, false, true⟩

/-- Drops blanks and comments. The flag says that a comment is being dropped, up to the end of its
line. -/
def dropBlanks : Bool → List Char → List Char
  | _, [] => []
  | true, c :: rest => dropBlanks (c ≠ '\n') rest
  | false, c :: rest =>
    if Character.isBlank c then dropBlanks false rest
    else if c = '#' then dropBlanks true rest
    else c :: rest

def skip (mode : Mode) (rest : List Char) : List Char :=
  if mode.spaced then dropBlanks false rest else rest

/-- What is taken to stand behind a dash. The sign of a comment is passed over, its text is not. -/
def behindDash (mode : Mode) (rest : List Char) : Option Char :=
  if mode.spaced then
    match rest.dropWhile Character.isBlank with
    | '#' :: rest => (rest.dropWhile Character.isBlank).head?
    | rest => rest.head?
  else rest.head?

/-- Whether the letters of a setting are known, each at most once, and whether those switched off
are named. -/
def isSetting (letters : List Char) : Bool :=
  letters.all (['i', 'm', 's', 'R', 'U', 'u', 'x', '-'].contains ·) &&
    letters.Nodup && letters.getLast? ≠ some '-'

/-- The mode after a setting: letters in front of the dash switch on, those behind it off. -/
def set (mode : Mode) (letters : List Char) : Mode :=
  let on := letters.takeWhile (· ≠ '-')
  let flag (letter : Char) (before : Bool) : Bool :=
    on.contains letter || (before && !letters.contains letter)
  ⟨flag 'x' mode.spaced, flag 'i' mode.caseless, flag 'u' mode.wide⟩

end Mode

inductive Part where
  /-- A character, perhaps written as a byte in two digits. -/
  | letter (c : Char) (asByte : Bool)
  /-- Digits, blanks, letters of words, or all but these. -/
  | kind (negated : Bool)
  | edge
  | wordEdge
  | any
deriving DecidableEq, Repr

namespace Part

/-- Whether a part can stand on its own. Neither the cases of a letter nor the kinds of characters
are known beyond ASCII, and bytes beyond ASCII are not characters. -/
def isReadable (mode : Mode) : Part → Bool
  | letter c asByte => if mode.wide then !mode.caseless else !(asByte && 0x80 ≤ c.toNat)
  | kind negated => !mode.wide && !negated
  | edge => true
  | wordEdge => !mode.wide
  | any => mode.wide

def isMember (mode : Mode) : Part → Bool
  | letter c _ => if mode.wide then !mode.caseless else c.toNat < 0x80
  | kind negated => !mode.wide && !negated
  | _ => false

def areEnds (mode : Mode) : Part → Part → Bool
  | letter first asByte, letter last asByte' =>
    (letter first asByte).isMember mode && (letter last asByte').isMember mode && first ≤ last
  | _, _ => false

end Part

def hexDigit? (c : Char) : Option Nat :=
  if c.isDigit then some (c.toNat - '0'.toNat)
  else if 'a' ≤ c && c ≤ 'f' then some (c.toNat - 'a'.toNat + 10)
  else if 'A' ≤ c && c ≤ 'F' then some (c.toNat - 'A'.toNat + 10)
  else none

/-- Reads a number of so many hexadecimal digits behind the value so far. -/
def hexadecimal? (mode : Mode) : Nat → Nat → List Char → Option (Nat × List Char)
  | 0, value, rest => some (value, rest)
  | more + 1, value, rest =>
    match mode.skip rest with
    | [] => none
    | c :: rest =>
      (hexDigit? c).bind fun digit => hexadecimal? mode more (value * 16 + digit) rest

def codePoint? (mode : Mode) (width : Nat) (rest : List Char) : Option (Part × List Char) :=
  (hexadecimal? mode width 0 rest).bind fun (code, rest) =>
    if code.isValidChar then some (.letter (Char.ofNat code) (width = 2), rest) else none

def escape? (mode : Mode) : List Char → Option (Part × List Char)
  | [] => none
  | c :: rest =>
    match c with
    | 'x' => codePoint? mode 2 rest
    | 'u' => codePoint? mode 4 rest
    | 'U' => codePoint? mode 8 rest
    | 'a' => some (.letter '\x07' false, rest)
    | 't' => some (.letter '\t' false, rest)
    | 'n' => some (.letter '\n' false, rest)
    | 'v' => some (.letter '\x0b' false, rest)
    | 'f' => some (.letter '\x0c' false, rest)
    | 'r' => some (.letter '\r' false, rest)
    | c =>
      if ['d', 's', 'w'].contains c then some (.kind false, rest)
      else if ['D', 'S', 'W'].contains c then some (.kind true, rest)
      else if ['A', 'z'].contains c then some (.edge, rest)
      else if ['b', 'B', '<', '>'].contains c then some (.wordEdge, rest)
      else if c.toNat < 0x80 && !c.isAlphanum then some (.letter c false, rest)
      else none

/-- The height of a list of parts that have these heights: a single part is not wrapped. -/
def joined : List Nat → Nat
  | [] => 0
  | [height] => height
  | heights => heights.foldl max 0 + 1

/-! ### Sets in brackets -/

/-- What is read of a set: the heights of its members since the last operator, the height of what
stands left of it, and whether nothing but dashes was met. -/
structure SetReading where
  members : List Nat
  left : Option Nat
  fresh : Bool
deriving DecidableEq, Repr

namespace SetReading

def empty : SetReading := ⟨[], none, true⟩

def add (height : Nat) (set : SetReading) : SetReading :=
  { set with members := height :: set.members, fresh := false }

def height (set : SetReading) : Nat :=
  match set.left with
  | none => joined set.members
  | some left => max left (joined set.members) + 1

def operate (set : SetReading) : SetReading := ⟨[], some set.height, false⟩

end SetReading

def setNames : List String :=
  ["alnum", "alpha", "ascii", "blank", "cntrl", "digit", "graph", "lower", "print", "punct",
    "space", "upper", "word", "xdigit"]

/-- Reads a named set behind its opening bracket, and says whether it is negated. -/
def namedSet? : List Char → Option (Bool × List Char)
  | ':' :: rest =>
    let (negated, rest) := match rest with
      | '^' :: rest => (true, rest)
      | rest => (false, rest)
    let name := rest.takeWhile (· ≠ ':')
    match rest.drop name.length with
    | ':' :: ']' :: rest =>
      if setNames.contains (String.ofList name) then some (negated, rest) else none
    | _ => none
  | _ => none

/-- Goes past the opening of a set behind its bracket, where it may be negated. A negated set of
bytes would hold bytes beyond ASCII. In a set whose letters stand for both cases only the empty set
and its negation can occur, and no case of a letter is missing from either. -/
def openedSet? (mode : Mode) (rest : List Char) : Option (List Char) :=
  match mode.skip rest with
  | '^' :: rest => if mode.wide then some rest else none
  | rest => some rest

def setPart? (mode : Mode) : List Char → Option (Part × List Char)
  | [] => none
  | '\\' :: rest => escape? mode rest
  | c :: rest => some (.letter c false, rest)

/-- Reads a member of a set, a part or a range. A dash in front of another dash or of the closing
bracket makes no range. -/
def member? (mode : Mode) (text : List Char) : Option (List Char) := do
  let (first, rest) ← setPart? mode text
  let single := if first.isMember mode then some rest else none
  match mode.skip rest with
  | '-' :: behind =>
    if mode.behindDash behind = some ']' || mode.behindDash behind = some '-' then single
    else
      let (last, rest) ← setPart? mode (mode.skip behind)
      if first.areEnds mode last then some rest else none
  | _ => single

/-- Reads a set up to its closing bracket and gives its height. A bracket in the first place is a
member, and so are dashes in front. -/
def set? (mode : Mode) :
    Nat → SetReading → List SetReading → List Char → Option (Nat × List Char)
  | 0, _, _, _ => none
  | fuel + 1, set, outer, text =>
    let dash := Part.letter '-' false
    match mode.skip text with
    | [] => none
    | '[' :: rest =>
      match namedSet? rest with
      | some (negated, rest) =>
        if (if mode.wide then !mode.caseless else !negated) then
          set? mode fuel (set.add 0) outer rest
        else none
      | none =>
        (openedSet? mode rest).bind fun rest => set? mode fuel .empty (set :: outer) rest
    | ']' :: rest =>
      if set.fresh && set.members.isEmpty then
        if dash.isMember mode then set? mode fuel (set.add 0) outer rest else none
      else
        match outer with
        | [] => some (set.height + 1, rest)
        | around :: outer => set? mode fuel (around.add (set.height + 1)) outer rest
    | c :: rest =>
      if set.fresh && c = '-' then
        if dash.isMember mode then
          set? mode fuel { set with members := 0 :: set.members } outer rest
        else none
      else if ['&', '-', '~'].contains c && rest.head? = some c then
        set? mode fuel set.operate outer (rest.drop 1)
      else (member? mode (c :: rest)).bind fun rest => set? mode fuel (set.add 0) outer rest

/-! ### Whole patterns -/

/-- What is read of the innermost open group: the heights of its last branch, latest first (none
for a setting), and those of the branches before it. -/
structure Group where
  items : List (Option Nat)
  branches : List Nat
deriving DecidableEq, Repr

namespace Group

def empty : Group := ⟨[], []⟩

def add (item : Option Nat) (group : Group) : Group := { group with items := item :: group.items }

def branchHeight (group : Group) : Nat := joined (group.items.map (·.getD 0))

def height (group : Group) : Nat := joined (group.branchHeight :: group.branches)

def branch (group : Group) : Group := ⟨[], group.branchHeight :: group.branches⟩

/-- Repeats the last part. Without one, or behind a setting, there is nothing to repeat. -/
def repeat? (group : Group) : Option Group :=
  match group.items with
  | some height :: items => some { group with items := some (height + 1) :: items }
  | _ => none

end Group

/-- What is read of a pattern: the mode, the innermost open group, those around it with the modes
that return when they go on, and the names given to groups. -/
structure Reading where
  mode : Mode
  group : Group
  outer : List (Mode × Group)
  names : List (List Char)
deriving DecidableEq, Repr

namespace Reading

def initial : Reading := ⟨.initial, .empty, [], []⟩

def add (item : Option Nat) (reading : Reading) : Reading :=
  { reading with group := reading.group.add item }

def enter (mode : Mode) (reading : Reading) : Reading :=
  { reading with mode, group := .empty, outer := (reading.mode, reading.group) :: reading.outer }

def leave? (reading : Reading) : Option Reading :=
  match reading.outer with
  | [] => none
  | (mode, around) :: outer =>
    some { reading with mode, group := around.add (some (reading.group.height + 1)), outer }

end Reading

def isGroupName : List Char → Bool
  | [] => false
  | c :: rest =>
    (c = '_' || Character.isAlphabetic c) &&
      rest.all fun c => ['_', '.', '[', ']'].contains c || Character.isAlphanumeric c

def namedGroup? (reading : Reading) (rest : List Char) : Option (Reading × List Char) :=
  let name := rest.takeWhile (· ≠ '>')
  match rest.drop name.length with
  | _ :: rest =>
    if isGroupName name && !reading.names.contains name then
      some ({ reading.enter reading.mode with names := name :: reading.names }, rest)
    else none
  | [] => none

/-- Reads what follows an opening parenthesis: a group, with a name or a mode of its own, or a mode
that holds from here to the end of the group around. -/
def opening? (reading : Reading) : List Char → Option (Reading × List Char)
  | '?' :: 'P' :: '<' :: rest => namedGroup? reading rest
  | '?' :: '<' :: rest => namedGroup? reading rest
  | '?' :: rest =>
    let letters := rest.takeWhile fun c => c ≠ ':' && c ≠ ')'
    if Mode.isSetting letters then
      let mode := reading.mode.set letters
      match rest.drop letters.length with
      | ':' :: rest => some (reading.enter mode, rest)
      | _ :: rest => if letters.isEmpty then none else some ({ reading.add none with mode }, rest)
      | [] => none
    else none
  | rest => some (reading.enter reading.mode, rest)

def part? (mode : Mode) : List Char → Option (Part × List Char)
  | [] => none
  | '\\' :: rest => escape? mode rest
  | '.' :: rest => some (.any, rest)
  | '^' :: rest => some (.edge, rest)
  | '$' :: rest => some (.edge, rest)
  | c :: rest => some (.letter c false, rest)

/-- Reads a pattern to its end and gives its height. -/
def read? : Nat → Reading → List Char → Option Nat
  | 0, _, _ => none
  | fuel + 1, reading, text =>
    match reading.mode.skip text with
    | [] => if reading.outer.isEmpty then some reading.group.height else none
    | '(' :: rest =>
      (opening? reading (reading.mode.skip rest)).bind fun (reading, rest) =>
        read? fuel reading rest
    | ')' :: rest => reading.leave?.bind fun reading => read? fuel reading rest
    | '|' :: rest => read? fuel { reading with group := reading.group.branch } rest
    | '\x7b' :: _ => none
    | '[' :: rest => do
      let rest ← openedSet? reading.mode rest
      let (height, rest) ← set? reading.mode (rest.length + 1) .empty [] rest
      read? fuel (reading.add (some height)) rest
    | c :: rest =>
      if ['?', '*', '+'].contains c then
        reading.group.repeat?.bind fun group =>
          read? fuel { reading with group } (if rest.head? = some '?' then rest.drop 1 else rest)
      else do
        let (part, rest) ← part? reading.mode (c :: rest)
        if part.isReadable reading.mode then read? fuel (reading.add (some 0)) rest else none

def maxHeight : Nat := 250

/-- Whether a pattern can be read and is not nested too deeply. -/
def isReadable (text : List Char) : Bool :=
  ((read? (text.length + 1) .initial text).filter (· ≤ maxHeight)).isSome

/-! ### Values -/

/-- Whether a text is digits with at most one point and perhaps an exponent. -/
def isUnsignedNumber (text : List Char) : Bool :=
  let whole := text.takeWhile Char.isDigit
  let rest := text.drop whole.length
  let fraction := match rest with
    | '.' :: rest => rest.takeWhile Char.isDigit
    | _ => []
  let rest := match rest with
    | '.' :: rest => rest.drop fraction.length
    | rest => rest
  let exponent := match rest with
    | [] => true
    | c :: rest =>
      let digits := match rest with
        | '+' :: rest => rest
        | '-' :: rest => rest
        | rest => rest
      (c = 'e' || c = 'E') && !digits.isEmpty && digits.all Char.isDigit
  !(whole ++ fraction).isEmpty && exponent

/-- Whether a text is a number, which may be infinite or undefined. -/
def isNumber (text : List Char) : Bool :=
  let unsigned := match text with
    | '+' :: rest => rest
    | '-' :: rest => rest
    | rest => rest
  isUnsignedNumber unsigned ||
    ["inf", "infinity", "nan"].contains (asciiLowercase (String.ofList unsigned))

/-- Whether a field can be compared with a text: as a number or by a pattern. -/
def isValue (text : List Char) : Bool := isNumber text || isReadable text

end NetBridge.Pattern
