import NetBridge.Text.ClassTable

namespace NetBridge.Character

/-- Whether a code point lies in one of the ranges, which hold both of their ends. -/
def inRanges (ranges : List (Nat × Nat)) (code : Nat) : Bool :=
  ranges.any fun (first, last) => first ≤ code && code ≤ last

def isBlank (c : Char) : Bool := inRanges ClassTable.blank c.toNat

def isAlphabetic (c : Char) : Bool := inRanges ClassTable.alphabetic c.toNat

def isNumeric (c : Char) : Bool := inRanges ClassTable.numeric c.toNat

def isAlphanumeric (c : Char) : Bool := isAlphabetic c || isNumeric c

def trim (chars : List Char) : List Char :=
  ((chars.dropWhile isBlank).reverse.dropWhile isBlank).reverse

end NetBridge.Character
