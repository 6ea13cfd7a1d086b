import NetBridge.CommandLine

namespace NetBridge.Output

def version : String := "0.1.0"

def usage : String := "Usage: bridgewire [--config FILE] [--verbose] COMMAND"

def commandForms : List String := [
  "addbr BRIDGE",
  "delbr [--force] BRIDGE",
  "addif BRIDGE IFACE",
  "delif BRIDGE IFACE",
  "show [--json] [BRIDGE]",
  "link IFACE up|down",
  "up [--dry-run]",
  "down [--dry-run]",
  "check",
  "completion bash|elvish|fish|powershell|zsh"]

def help : String :=
  "\n".intercalate (usage :: "" :: "Commands:" :: commandForms.map ("  " ++ ·)) ++ "\n"

def complaint : UsageError → String
  | .displayHelp => "help was asked for"
  | .displayVersion => "the version was asked for"
  | .helpInsteadOfNothing => "a command is required"
  | .missingSubcommand => "a command is required"
  | .invalidSubcommand => "unknown command"
  | .unknownArgument => "unexpected argument"
  | .missingArgument => "a required argument is missing"
  | .invalidValue => "an argument is missing its value or has an invalid one"
  | .surplusValue => "an option that takes no value was given one"
  | .repeatedArgument => "an option was given more than once"

/-- What is printed for arguments that are not run. -/
def instead : UsageError → String
  | .displayHelp => help
  | .helpInsteadOfNothing => help
  | .displayVersion => "bridgewire " ++ version ++ "\n"
  | fault => "error: " ++ complaint fault ++ "\n\n" ++ usage ++ "\n"

end NetBridge.Output
