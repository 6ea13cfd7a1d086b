namespace NetBridge

/-- Severity, from the gravest down. -/
inductive Level where
  | error
  | warn
  | info
  | debug
  | trace
deriving DecidableEq, Repr

/-- The number that decimal digits denote. Any other character, or none at all, is refused. -/
def digitsValue? (chars : List Char) : Option Nat :=
  if chars.isEmpty then none
  else
    chars.foldl
      (fun value c => value.bind fun value =>
        if c.isDigit then some (value * 10 + (c.toNat - '0'.toNat)) else none)
      (some 0)

/-- A 64-bit unsigned number in decimal digits, with an optional plus sign. -/
def unsignedValue? (text : String) : Option Nat :=
  let value? := match text.toList with
    | '+' :: digits => digitsValue? digits
    | digits => digitsValue? digits
  value?.filter (· < UInt64.size)

def asciiLowercase (text : String) : String := String.ofList (text.toList.map Char.toLower)

namespace Level

def name : Level → String
  | error => "ERROR"
  | warn => "WARN"
  | info => "INFO"
  | debug => "DEBUG"
  | trace => "TRACE"

def rank : Level → Nat
  | error => 1
  | warn => 2
  | info => 3
  | debug => 4
  | trace => 5

def all : List Level := [error, warn, info, debug, trace]

def ofRank? (rank : Nat) : Option Level := all.find? fun level => level.rank = rank

def ofName? (text : String) : Option Level :=
  all.find? fun level => asciiLowercase level.name = asciiLowercase text

/-- Reads a level by name or rank. -/
def ofText? (text : String) : Option Level :=
  ((unsignedValue? text).bind ofRank?).or (ofName? text)

end Level

end NetBridge
