import NetBridge.Text.Json
import NetBridge.Topology.Declaration

namespace NetBridge.Output

/-- Lines, each with its line end. -/
def lines (texts : List String) : String := String.join (texts.map (· ++ "\n"))

/-- A text filled up with blanks to a width in characters. -/
def padTo (width : Nat) (text : String) : String :=
  text ++ String.ofList (List.replicate (width - text.length) ' ')

def nameColumn : Nat := 16

def row (s : Control.Snapshot) : String :=
  let members :=
    if s.interfaces.isEmpty then "(no members)" else ", ".intercalate s.interfaces
  padTo nameColumn s.name ++ " " ++ members

/-- Bridges as a table, or as JSON. -/
def bridges (json : Bool) (found : List Control.Snapshot) : String :=
  if json then lines [Json.pretty 0 (.ofSnapshots found)]
  else if found.isEmpty then lines ["No bridge interfaces found."]
  else lines ((padTo nameColumn "BRIDGE" ++ " INTERFACES") :: found.map row)

def planned (plan : List Action) : String :=
  lines ("Would apply:" :: plan.map fun action => "  " ++ action.text)

def applied (plan : List Action) : String :=
  lines (plan.map fun action => "Applied: " ++ action.text)

def nothingToDo : String := lines ["Nothing to do."]

def policyName : NamePolicy → String
  | .truncate => "Truncate"
  | .reject => "Reject"

def checked (policy : NamePolicy) (declared : List Declaration) : String :=
  lines
    (["Configuration is valid.", "  Name policy: " ++ policyName policy,
        s!"  Declared bridges: {declared.length}"] ++
      declared.map fun d => s!"    {d.name} ({d.members.length} member(s))")

end NetBridge.Output
