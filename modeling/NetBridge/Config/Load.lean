import NetBridge.Config.Document

namespace NetBridge.Config

abbrev FileContent := Except SystemError (List UInt8)

/-- What texts mean as configurations. -/
abbrev Meaning := String → Except FormFault Config

/-- The text of a file, which must be UTF-8. -/
def fileText (content : FileContent) : Except SystemError String := do
  match String.fromUTF8? (← content).toByteArray with
  | some text => return text
  | none => throw (.described "stream did not contain valid UTF-8")

def loadAs (meaning : Meaning) (path : String) (content : FileContent) : Reported Error Config :=
  match fileText content with
  | .error source => throw (.configRead path source)
  | .ok text =>
    match meaning text with
    | .error fault => throw (.configParse fault)
    | .ok config => do
      config.inspect.mapError .configValidation
      return config

/-- The same, with the default configuration in place of a file that does not exist. -/
def loadOrDefaultAs (meaning : Meaning) (path : String) (content : FileContent) :
    Reported Error Config :=
  match content with
  | .error (.errno number) =>
    if number = .ENOENT then pure default else loadAs meaning path content
  | _ => loadAs meaning path content

def load : String → FileContent → Reported Error Config := loadAs ofText?

def loadOrDefault : String → FileContent → Reported Error Config := loadOrDefaultAs ofText?

end NetBridge.Config
