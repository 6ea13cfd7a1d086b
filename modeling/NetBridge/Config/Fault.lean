import NetBridge.Decimal.Binary64
import NetBridge.Name
import NetBridge.Text.Quoted

namespace NetBridge

inductive Found where
  | integer (value : Int)
  | float (value : Binary64)
  | boolean (value : Bool)
  | text (value : String)
  | sequence
  | map
deriving DecidableEq, Repr

def Found.message : Found → String
  | integer value => "integer `" ++ toString value ++ "`"
  | float value => "floating point `" ++ value.text ++ "`"
  | boolean value => "boolean `" ++ (if value then "true" else "false") ++ "`"
  | text value => "string " ++ quoted value
  | sequence => "sequence"
  | map => "map"

/-- Why a text is no configuration. -/
inductive FormFault where
  | illFormed
  | unknownField (name : String)
  | missingField (name : String)
  | wrongType (found : Found) (expected : String)
  | tooFewElements (count : Nat) (expected : String)
  | unknownVariant (name : String)
  /-- A choice is neither a text nor a table. -/
  | noChoice
  | emptyChoice
  | severalChoices
  /-- A choice takes nothing, but something other than a table was given. -/
  | choiceContent (kind : String)
  /-- A choice takes nothing, but a table with fields was given. -/
  | choiceFields
  /-- A choice takes nothing, but tables under headers of their own were given. -/
  | choiceElements
deriving DecidableEq, Repr

def FormFault.message : FormFault → String
  | illFormed => "syntax"
  | unknownField name =>
    "unknown field `" ++ name ++ "`, expected one of `names`, `logging`, `bridges`"
  | missingField name => "missing field `" ++ name ++ "`"
  | wrongType found expected => "invalid type: " ++ found.message ++ ", expected " ++ expected
  | tooFewElements count expected => s!"invalid length {count}, expected {expected}"
  | unknownVariant name => "unknown variant `" ++ name ++ "`, expected `truncate` or `reject`"
  | noChoice => "wanted string or table"
  | emptyChoice => "wanted exactly 1 element, found 0 elements"
  | severalChoices => "wanted exactly 1 element, more than 1 element"
  | choiceContent kind => "expected table, found " ++ kind
  | choiceFields => "expected empty table"
  | choiceElements => "expected empty array"

/-- Why a configuration was refused. Declared names appear as they were written. -/
inductive ConfigFault where
  | unknownLevel (level : String)
  | illNamed (name : String) (fault : NameFault)
  | duplicateBridge (name : String)
  | selfMember (bridge : String)
  | sharedMember (iface owner bridge : String)
  | described (words : String)
deriving DecidableEq, Repr

def ConfigFault.message : ConfigFault → String
  | unknownLevel level => s!"Unknown log level: {level}"
  | illNamed name fault => fault.refusal name
  | duplicateBridge name => s!"Duplicate bridge name: {name}"
  | selfMember bridge => s!"Bridge '{bridge}' lists itself as a member"
  | sharedMember iface owner bridge =>
    s!"Interface '{iface}' is a member of both '{owner}' and '{bridge}'"
  | described words => words

end NetBridge
