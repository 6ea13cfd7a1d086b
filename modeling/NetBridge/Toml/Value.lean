import NetBridge.Decimal.Binary64

namespace NetBridge.Toml

inductive Value where
  | string (text : String)
  | integer (value : Int)
  | float (value : Binary64)
  | boolean (value : Bool)
  /-- A date, a time or both; which one does not matter here. -/
  | moment
  | array (items : List Value)
  /-- An array whose elements were written as tables under headers of their own. -/
  | tables (elements : List (List (String × Value)))
  | table (fields : List (String × Value))

abbrev Rest := List Char

def isBlank (c : Char) : Bool := c = ' ' || c = '\t'

def skipBlanks (rest : Rest) : Rest := rest.dropWhile isBlank

/-- Characters that may stand in a comment or a quoted text: a tab, or anything that is no control
character. -/
def isPrintable (c : Char) : Bool := c = '\t' || (0x20 ≤ c.toNat && c.toNat ≠ 0x7f)

/-- Reads a carriage return before a line feed as part of it. -/
def joinLineEnds : List Char → List Char
  | [] => []
  | '\r' :: '\n' :: rest => '\n' :: joinLineEnds rest
  | c :: rest => c :: joinLineEnds rest

def skipComment : Rest → Rest
  | '#' :: rest => rest.dropWhile isPrintable
  | rest => rest

end NetBridge.Toml
