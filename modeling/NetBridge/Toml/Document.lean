import NetBridge.Toml.Number
import NetBridge.Toml.Tree

namespace NetBridge.Toml

/-- Values and keys nest less than this many levels deep. -/
def nestingLimit : Nat := 80

def isBareKeyChar (c : Char) : Bool := c.isAlphanum || c = '_' || c = '-'

def simpleKey? (rest : Rest) : Option (String × Rest) :=
  match rest with
  | '"' :: _ => quotedLine? rest
  | '\'' :: _ => quotedLine? rest
  | _ =>
    let bare := rest.takeWhile isBareKeyChar
    if bare.isEmpty then none else some (String.ofList bare, rest.drop bare.length)

def keyParts? : Nat → Rest → Option (List String × Rest)
  | 0, _ => none
  | fuel + 1, rest => do
    let (part, rest) ← simpleKey? (skipBlanks rest)
    match skipBlanks rest with
    | '.' :: rest =>
      let (more, rest) ← keyParts? fuel rest
      return (part :: more, rest)
    | rest => return ([part], rest)

/-- A key as the path to its table and its last part. -/
def key? (rest : Rest) : Option ((List String × String) × Rest) := do
  let (parts, rest) ← keyParts? (nestingLimit - 1) rest
  return ((parts.dropLast, ← parts.getLast?), rest)

/-- Skips blanks, line ends and comments between the items of an array. -/
def skipLines : Nat → Rest → Rest
  | 0, rest => rest
  | fuel + 1, rest =>
    match skipBlanks rest with
    | '\n' :: rest => skipLines fuel rest
    | '#' :: rest =>
      match skipComment ('#' :: rest) with
      | '\n' :: rest => skipLines fuel rest
      | _ => '#' :: rest
    | rest => rest

mutual

/-- A value, with `depth` levels of nesting left. -/
def value? (fuel depth : Nat) (rest : Rest) : Option (Value × Rest) :=
  match fuel with
  | 0 => none
  | fuel + 1 =>
    match rest with
    | '"' :: _ => (quotation? rest).map fun (text, rest) => (.string text, rest)
    | '\'' :: _ => (quotation? rest).map fun (text, rest) => (.string text, rest)
    | '[' :: rest =>
      match depth with
      | 0 => none
      | depth + 1 => (items? fuel depth rest).map fun (items, rest) => (.array items, rest)
    | '{' :: rest =>
      match depth with
      | 0 => none
      | depth + 1 => do
        let (fields, rest) ← match skipBlanks rest with
          | '}' :: rest => some ([], rest)
          | rest => pairs? fuel depth [] rest
        return (.table (fieldValues fields), rest)
    | 't' :: 'r' :: 'u' :: 'e' :: rest => some (.boolean true, rest)
    | 'f' :: 'a' :: 'l' :: 's' :: 'e' :: rest => some (.boolean false, rest)
    | rest => numeric? rest

/-- The items of an array up to its closing bracket; a comma may follow the last. -/
def items? (fuel depth : Nat) (rest : Rest) : Option (List Value × Rest) :=
  match fuel with
  | 0 => none
  | fuel + 1 =>
    match skipLines rest.length rest with
    | ']' :: rest => some ([], rest)
    | rest => do
      let (item, rest) ← value? fuel depth rest
      match skipLines rest.length rest with
      | ',' :: rest =>
        let (more, rest) ← items? fuel depth rest
        return (item :: more, rest)
      | ']' :: rest => return ([item], rest)
      | _ => none

/-- The pairs of an inline table up to its closing brace, added to the fields so far. They stand
on one line, and no comma follows the last. -/
def pairs? (fuel depth : Nat) (fields : Fields) (rest : Rest) : Option (Fields × Rest) :=
  match fuel with
  | 0 => none
  | fuel + 1 => do
    let ((path, key), rest) ← key? rest
    let rest ← char? '=' rest
    let (value, rest) ← value? fuel depth (skipBlanks rest)
    let fields ← assign key value true path fields
    match skipBlanks rest with
    | ',' :: rest => pairs? fuel depth fields rest
    | '}' :: rest => return (fields, rest)
    | _ => none

end

/-- What must follow a statement on its line: a comment at most. -/
def lineEnd? (rest : Rest) : Option Rest :=
  match skipComment (skipBlanks rest) with
  | [] => some []
  | '\n' :: rest => some rest
  | _ => none

/-- The document read so far, and the path of the table that pairs go to. -/
structure State where
  fields : Fields
  current : List String

/-- Reads one statement that is no comment and no empty line. -/
def statement? (state : State) : Rest → Option (State × Rest)
  | '[' :: '[' :: rest => do
    let ((path, key), rest) ← key? rest
    let rest ← lineEnd? (← char? ']' (← char? ']' rest))
    return (⟨← openElement path key state.fields, path ++ [key]⟩, rest)
  | '[' :: rest => do
    let ((path, key), rest) ← key? rest
    let rest ← lineEnd? (← char? ']' rest)
    return (⟨← openTable path key state.fields, path ++ [key]⟩, rest)
  | rest => do
    let ((path, key), rest) ← key? rest
    let rest ← char? '=' rest
    let (value, rest) ← value? (4 * rest.length + 4) (nestingLimit - 1) (skipBlanks rest)
    let rest ← lineEnd? rest
    let fields ← within (assign key value true path) state.current state.fields
    return ({ state with fields }, rest)

def statements? : Nat → State → Rest → Option Fields
  | 0, _, _ => none
  | fuel + 1, state, rest =>
    match skipBlanks rest with
    | [] => some state.fields
    | '\n' :: rest => statements? fuel state rest
    | '#' :: rest => do statements? fuel state (← lineEnd? ('#' :: rest))
    | rest => do
      let (state, rest) ← statement? state rest
      statements? fuel state rest

/-- The fields of a document, unless the text is not well-formed. A byte order mark in front is
skipped. -/
def parse? (text : String) : Option (List (String × Value)) :=
  let chars := joinLineEnds (match text.toList with
    | '\ufeff' :: rest => rest
    | chars => chars)
  (statements? (chars.length + 1) ⟨[], []⟩ chars).map fieldValues

end NetBridge.Toml
