import NetBridge.CommandLine

namespace NetBridge.Output

def commandWords : String := " ".intercalate CommandLine.subcommands

/-- A script that makes a shell complete the commands of the tool. -/
def completion : Shell → String
  | .bash => "complete -W \"" ++ commandWords ++ "\" bridgewire\n"
  | .zsh => "#compdef bridgewire\ncompadd " ++ commandWords ++ "\n"
  | .fish => "complete -c bridgewire -f -a \"" ++ commandWords ++ "\"\n"
  | .elvish =>
    "set edit:completion:arg-completer[bridgewire] = \x7b|@words| put " ++ commandWords ++ " \x7d\n"
  | .powershell =>
    "Register-ArgumentCompleter -Native -CommandName bridgewire -ScriptBlock \x7b -split \"" ++
      commandWords ++ "\" \x7d\n"

end NetBridge.Output
