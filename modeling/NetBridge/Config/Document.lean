import NetBridge.Config
import NetBridge.Toml.Document

namespace NetBridge.Config

open Toml (Value)

/-- What a value is found to be. A moment counts as a map. -/
def found : Value → Found
  | .string text => .text text
  | .integer value => .integer value
  | .float value => .float value
  | .boolean value => .boolean value
  | .moment => .map
  | .array _ => .sequence
  | .tables _ => .sequence
  | .table _ => .map

def text? : Value → Except FormFault String
  | .string text => .ok text
  | value => .error (.wrongType (found value) "a string")

def truth? : Value → Except FormFault Bool
  | .boolean value => .ok value
  | value => .error (.wrongType (found value) "a boolean")

def items? : Value → Except FormFault (List Value)
  | .array items => .ok items
  | .tables elements => .ok (elements.map .table)
  | value => .error (.wrongType (found value) "a sequence")

def texts? (value : Value) : Except FormFault (List String) := do (← items? value).mapM text?

def variant? (name : String) : Except FormFault NamePolicy :=
  if name = "truncate" then .ok .truncate
  else if name = "reject" then .ok .reject
  else .error (.unknownVariant name)

/-- What stands behind the name of a choice must be empty. -/
def nothing? : Value → Except FormFault Unit
  | .table fields => if fields.isEmpty then .ok () else .error .choiceFields
  | .array items => if items.isEmpty then .ok () else .error .choiceFields
  | .tables elements => if elements.isEmpty then .ok () else .error .choiceElements
  | .string _ => .error (.choiceContent "string")
  | .integer _ => .error (.choiceContent "integer")
  | .float _ => .error (.choiceContent "float")
  | .boolean _ => .error (.choiceContent "boolean")
  | .moment => .error (.choiceContent "datetime")

/-- A policy by name, or as a table with the name as its only key. -/
def policy? : Value → Except FormFault NamePolicy
  | .string name => variant? name
  | .table [] => .error .emptyChoice
  | .table [(name, content)] => do
    let policy ← variant? name
    nothing? content
    return policy
  | .table _ => .error .severalChoices
  | _ => .error .noChoice

/-- The fields of a group, by name as in the document or in their own order as an array. -/
inductive Group where
  | named (fields : List (String × Value))
  | listed (items : List Value)

/-- A value as a group of fields. A moment has no field that any group knows. -/
def group? (expected : String) : Value → Except FormFault Group
  | .table fields => .ok (.named fields)
  | .array items => .ok (.listed items)
  | .tables elements => .ok (.listed (elements.map .table))
  | .moment => .ok (.named [])
  | value => .error (.wrongType (found value) expected)

def names? (value : Value) : Except FormFault NamePolicy := do
  match ← group? "struct NamesConfig" value with
  | .named fields =>
    fields.foldlM (fun policy (key, value) => if key = "policy" then policy? value else pure policy)
      default.policy
  | .listed [] => return default.policy
  | .listed (value :: _) => policy? value

def logging? (value : Value) : Except FormFault String := do
  match ← group? "struct LoggingConfig" value with
  | .named fields =>
    fields.foldlM (fun level (key, value) => if key = "level" then text? value else pure level)
      default.level
  | .listed [] => return default.level
  | .listed (value :: _) => text? value

structure Partial where
  name : Option String
  members : List String
  up : Bool

def declare (so : Partial) (key : String) (value : Value) : Except FormFault Partial := do
  if key = "name" then return { so with name := some (← text? value) }
  else if key = "members" then return { so with members := ← texts? value }
  else if key = "up" then return { so with up := ← truth? value }
  else return so

def declaration? (value : Value) : Except FormFault Declaration := do
  let none : Partial := ⟨none, [], false⟩
  let fields ← match ← group? "struct BridgeDef" value with
    | .named fields => pure fields
    | .listed [] => throw (.tooFewElements 0 "struct BridgeDef with 3 elements")
    | .listed items => pure (["name", "members", "up"].zip items)
  let read ← fields.foldlM (fun so (key, value) => declare so key value) none
  match read.name with
  | some name => return ⟨name, read.members, read.up⟩
  | .none => throw (.missingField "name")

def configure (config : Config) (key : String) (value : Value) : Except FormFault Config := do
  if key = "names" then return { config with policy := ← names? value }
  else if key = "logging" then return { config with level := ← logging? value }
  else if key = "bridges" then return { config with bridges := ← (← items? value).mapM declaration? }
  else throw (.unknownField key)

/-- The configuration a text denotes. -/
def ofText? (text : String) : Except FormFault Config :=
  match Toml.parse? text with
  | none => .error .illFormed
  | some fields => fields.foldlM (fun config (key, value) => configure config key value) default

end NetBridge.Config
