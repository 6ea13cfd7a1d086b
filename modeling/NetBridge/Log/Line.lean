import NetBridge.Log.Filter
import NetBridge.Text.Quoted

namespace NetBridge

def FieldValue.text : FieldValue → String
  | quoted text => NetBridge.quoted text
  | plain text => text
  | truth value => if value then "true" else "false"
  | number value => toString value

/-- Level, message, then each field as `key=value`. -/
def Event.line (event : Event) : String :=
  " ".intercalate
    (event.level.name :: event.message ::
      event.fields.map fun (key, value) => key ++ "=" ++ value.text)

def Filter.lines (filter : Filter) (events : List Event) : List String :=
  (events.filter filter.shows).map Event.line

end NetBridge
