import NetBridge.Text.CaseTable
import NetBridge.Text.Character

namespace NetBridge.Lowercase

def isCased (c : Char) : Bool := Character.inRanges CaseTable.cased c.toNat

def isCaseIgnorable (c : Char) : Bool := Character.inRanges CaseTable.caseIgnorable c.toNat

def lowerChar (c : Char) : Char :=
  let code := c.toNat
  let run? := CaseTable.lowercaseRuns.find? fun (first, last, step, _) =>
    first ≤ code && code ≤ last && (code - first) % step == 0
  match run? with
  | some (_, _, _, shift) => Char.ofNat (code + shift).toNat
  | none => c

/-- Whether a cased character comes first once ignorable ones are passed over. -/
def meetsCased (chars : List Char) : Bool :=
  match chars.dropWhile isCaseIgnorable with
  | [] => false
  | c :: _ => isCased c

/-- Lower case of a text whose characters before it are given, nearest first. -/
def lowerFrom : List Char → List Char → List Char
  | _, [] => []
  | before, c :: after =>
    let small :=
      if c = 'Σ' then (if meetsCased before && !meetsCased after then ['ς'] else ['σ'])
      else if c = 'İ' then ['i', '\u0307']
      else [lowerChar c]
    small ++ lowerFrom (c :: before) after

end NetBridge.Lowercase

namespace NetBridge

/-- Lower case of a text in any script. A capital sigma at the end of a word becomes a final one; a
dotted capital I keeps its dot as a mark of its own. -/
def lowercase (text : String) : String := String.ofList (Lowercase.lowerFrom [] text.toList)

end NetBridge
