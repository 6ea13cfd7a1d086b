import NetBridge.Log.Event
import NetBridge.Log.Pattern
import NetBridge.Text.Lowercase

/-!
Directives of a filter, each a level for some of the events: `topic[span{field=value}]=level`, of
which most may be missing. Blanks around a directive do not count for where its parts stand, yet
they stay in the text that the parts are cut from; so blanks in front shift every part.
-/
namespace NetBridge

/-- The directive a configured level amounts to. -/
def defaultDirective (level : String) (verbose : Bool) : String :=
  if verbose then "debug" else lowercase level

/-- Shows events up to a rank of severity (none of them for rank zero), as far as their topic
begins with `topic` and they have the field. -/
structure Directive where
  topic : Option String
  field : Option String
  rank : Nat
  /-- Holds only inside a span, and nothing here opens one. -/
  spanned : Bool
deriving DecidableEq, Repr

namespace Directive

/-- A stretch of a text, between two places counted in bytes. -/
structure Stretch where
  start : Nat
  stop : Nat
deriving DecidableEq, Repr

namespace Stretch

def ofChars (start : Nat) (chars : List Char) : Stretch :=
  ⟨start, start + (String.ofList chars).utf8ByteSize⟩

/-- The stretch of a text, unless it begins or ends inside a character. -/
def cut? (text : String) (stretch : Stretch) : Option String :=
  String.fromUTF8? (text.toUTF8.extract stretch.start stretch.stop)

end Stretch

inductive Layout where
  | word
  /-- Its parts, and where the level behind the equals sign begins. -/
  | parts (topic span field : Option Stretch) (level : Option Nat)
deriving DecidableEq, Repr

namespace Layout

/-- What follows the parts up to a place: nothing, or an equals sign and a level. -/
def close? (topic span field : Option Stretch) (place : Nat) : List Char → Option Layout
  | [] => some (.parts topic span field none)
  | '=' :: _ => some (.parts topic span field (some (place + 1)))
  | _ => none

/-- What follows the opening bracket of a span: its name, or a field in braces, or both. -/
def span? (topic : Option Stretch) (place : Nat) (rest : List Char) : Option Layout :=
  let chars := rest.takeWhile fun c => c ≠ ']' && c ≠ '\x7b'
  let name := Stretch.ofChars place chars
  match rest.drop chars.length with
  | ']' :: rest => close? topic (some name) none (name.stop + 1) rest
  | '\x7b' :: rest =>
    let fieldChars := rest.takeWhile (· ≠ '\x7d')
    let field := Stretch.ofChars (name.stop + 1) fieldChars
    let span := if chars.isEmpty then none else some name
    match rest.drop fieldChars.length with
    | '\x7d' :: ']' :: rest =>
      if fieldChars.isEmpty then none else close? topic span (some field) (field.stop + 2) rest
    | _ => none
  | _ => none

/-- Lays out a directive without the blanks around it. A topic begins with a letter, a digit, a
dash, a colon or an underscore. -/
def ofChars? (chars : List Char) : Option Layout :=
  let head := chars.takeWhile fun c => c ≠ '=' && c ≠ '['
  let topic := Stretch.ofChars 0 head
  match chars, chars.drop head.length with
  | [], _ => none
  | '[' :: rest, _ => span? none 1 rest
  | c :: _, rest =>
    if !(Character.isAlphanumeric c || c = '-' || c = ':' || c = '_') then none
    else match rest with
      | [] => some .word
      | '[' :: rest => span? (some topic) (topic.stop + 1) rest
      | rest => close? (some topic) none none topic.stop rest

end Layout

def default : Directive := ⟨none, none, Level.error.rank, false⟩

/-- A level as a rank; `off` and zero show nothing. -/
def rank? (text : String) : Option Nat :=
  match (unsignedValue? text).filter (· ≤ 5) with
  | some rank => some rank
  | none =>
    if text = "" then some Level.error.rank
    else if asciiLowercase text = "off" then some 0
    else (Level.ofName? text).map Level.rank

/-- The rank that begins at a place of a text. No level, or nothing at its place, means
everything. -/
def rankAt? (text : String) : Option Nat → Option Nat
  | none => some Level.trace.rank
  | some start =>
    (Stretch.cut? text ⟨start, text.utf8ByteSize⟩).bind fun level =>
      if level = "" then some Level.trace.rank else rank? level

def ofWord (word : String) : Directive :=
  match rank? word with
  | some rank => ⟨none, none, rank, false⟩
  | none => ⟨some word, none, Level.trace.rank, false⟩

/-- A field's name, and whether it is compared with a value, which must be readable. -/
def field? (text : String) : Option (String × Bool) :=
  let chars := text.toList
  let name := chars.takeWhile (· ≠ '=')
  match chars.drop name.length with
  | [] => some (String.ofList name, false)
  | _ :: value =>
    if Pattern.isValue (value.takeWhile (· ≠ '=')) then some (String.ofList name, true) else none

/-- Reads one directive. A field that is compared with a value belongs to spans only. -/
def ofText? (text : String) : Option Directive := do
  match ← Layout.ofChars? (Character.trim text.toList) with
  | .word => return ofWord text
  | .parts topic span field level =>
    let topic ← topic.mapM (Stretch.cut? text)
    let field ← field.mapM fun stretch => (stretch.cut? text).bind field?
    let rank ← rankAt? text level
    return ⟨topic, field.map Prod.fst, rank, span.isSome || field.any Prod.snd⟩

/-- Whether the directive has a say about an event. Every event has a message. -/
def concerns (d : Directive) (event : Event) : Bool :=
  !d.spanned &&
    d.topic.all (fun topic => topic.toList.isPrefixOf event.topic.toList) &&
    d.field.all fun field => field = "message" || (event.fields.lookup field).isSome

def topicWeight (d : Directive) : Nat := (d.topic.map fun topic => topic.utf8ByteSize + 1).getD 0

/-- Whether the second directive goes before the first one: it has the longer topic, or a topic of
the same length and a field that is missing in the first or comes later in the alphabet. -/
def yieldsTo (a b : Directive) : Bool :=
  a.topicWeight < b.topicWeight ||
    (a.topicWeight = b.topicWeight &&
      match a.field, b.field with
      | none, some _ => true
      | some field, some field' => field < field'
      | _, none => false)

end Directive

end NetBridge
