import NetBridge.Text.Character
import NetBridge.Text.PrintTable

namespace NetBridge.Quoted

def hexDigits (n : Nat) : List Char := Nat.toDigits 16 n

def escape (c : Char) : List Char :=
  match c with
  | '"' => ['\\', '"']
  | '\\' => ['\\', '\\']
  | '\x00' => ['\\', '0']
  | '\t' => ['\\', 't']
  | '\n' => ['\\', 'n']
  | '\r' => ['\\', 'r']
  | c =>
    if Character.inRanges PrintTable.extending c.toNat ||
        Character.inRanges PrintTable.unprintable c.toNat then
      ['\\', 'u', '\x7b'] ++ hexDigits c.toNat ++ ['\x7d']
    else [c]

end NetBridge.Quoted

namespace NetBridge

/-- The text in quotes, with whatever would not show as itself escaped. -/
def quoted (text : String) : String :=
  String.ofList ('"' :: text.toList.flatMap Quoted.escape ++ ['"'])

end NetBridge
