import NetBridge.Control

namespace NetBridge.Json

def hexDigit (n : Nat) : Char :=
  if n < 10 then Char.ofNat ('0'.toNat + n) else Char.ofNat ('a'.toNat + (n - 10))

/-- One character inside a string literal. Quotes, backslashes and control characters are escaped;
everything else stands for itself. -/
def escape (c : Char) : List Char :=
  match c with
  | '"' => ['\\', '"']
  | '\\' => ['\\', '\\']
  | '\x08' => ['\\', 'b']
  | '\x0c' => ['\\', 'f']
  | '\n' => ['\\', 'n']
  | '\r' => ['\\', 'r']
  | '\t' => ['\\', 't']
  | c =>
    if c.toNat < 0x20 then
      ['\\', 'u', '0', '0', hexDigit (c.toNat / 16), hexDigit (c.toNat % 16)]
    else [c]

def literal (text : String) : String :=
  String.ofList ('"' :: text.toList.flatMap escape ++ ['"'])

/-- Values as far as snapshots need them; the keys of an object keep their order. -/
inductive Value where
  | text (value : String)
  | array (items : List Value)
  | object (fields : List (String × Value))

def Value.ofSnapshot (s : Control.Snapshot) : Value :=
  .object [("name", .text s.name), ("interfaces", .array (s.interfaces.map .text))]

def Value.ofSnapshots (s : List Control.Snapshot) : Value := .array (s.map .ofSnapshot)

mutual

/-- Text without any blank. -/
def compact : Value → String
  | .text value => literal value
  | .array items => "[" ++ ",".intercalate (compactItems items) ++ "]"
  | .object fields => "\x7b" ++ ",".intercalate (compactFields fields) ++ "\x7d"

def compactItems : List Value → List String
  | [] => []
  | item :: rest => compact item :: compactItems rest

def compactFields : List (String × Value) → List String
  | [] => []
  | (key, value) :: rest => (literal key ++ ":" ++ compact value) :: compactFields rest

end

/-- Items on lines of their own between an opening and a closing bracket, two blanks deeper than
the brackets; nothing between them if there are none. -/
def block (opening closing : String) (depth : Nat) (items : List String) : String :=
  let margin (depth : Nat) : String := String.ofList (List.replicate (2 * depth) ' ')
  if items.isEmpty then opening ++ closing
  else
    opening ++ "\n" ++ ",\n".intercalate (items.map (margin (depth + 1) ++ ·)) ++ "\n" ++
      margin depth ++ closing

mutual

/-- Text with one item a line, indented by two blanks for each level. -/
def pretty (depth : Nat) : Value → String
  | .text value => literal value
  | .array items => block "[" "]" depth (prettyItems (depth + 1) items)
  | .object fields => block "\x7b" "\x7d" depth (prettyFields (depth + 1) fields)

def prettyItems (depth : Nat) : List Value → List String
  | [] => []
  | item :: rest => pretty depth item :: prettyItems depth rest

def prettyFields (depth : Nat) : List (String × Value) → List String
  | [] => []
  | (key, value) :: rest =>
    (literal key ++ ": " ++ pretty depth value) :: prettyFields depth rest

end

end NetBridge.Json
