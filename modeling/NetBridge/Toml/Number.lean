import NetBridge.Toml.Quotation

namespace NetBridge.Toml

/-- Digits of some kind with single underscores between them. -/
def digits? (isDigit : Char → Bool) : Rest → Option (List Char × Rest)
  | [] => none
  | c :: rest => if isDigit c then some (more [c] rest) else none
where
  more (read : List Char) : Rest → List Char × Rest
    | '_' :: c :: rest =>
      if isDigit c then more (c :: read) rest else (read.reverse, '_' :: c :: rest)
    | c :: rest => if isDigit c then more (c :: read) rest else (read.reverse, c :: rest)
    | [] => (read.reverse, [])

def valueIn (base : Nat) (digits : List Char) : Nat :=
  digits.foldl (fun value c => value * base + (hexValue? c).getD 0) 0

/-- An optional sign; true for a minus. -/
def sign : Rest → Bool × Rest
  | '-' :: rest => (true, rest)
  | '+' :: rest => (false, rest)
  | rest => (false, rest)

/-- The whole part of a number: zero, or digits that do not begin with zero. -/
def whole? : Rest → Option (List Char × Rest)
  | '0' :: rest => some (['0'], rest)
  | rest => digits? Char.isDigit rest

/-- The fraction of a number, if one follows. A point without digits is refused. -/
def fraction? : Rest → Option (List Char × Rest)
  | '.' :: rest => digits? Char.isDigit rest
  | rest => some ([], rest)

def exponent? : Rest → Option (Option Int × Rest)
  | c :: rest =>
    if c = 'e' || c = 'E' then do
      let (negative, rest) := sign rest
      let (digits, rest) ← digits? Char.isDigit rest
      let size : Int := valueIn 10 digits
      return (some (if negative then -size else size), rest)
    else some (none, c :: rest)
  | [] => some (none, [])

def maxInteger : Nat := 9223372036854775807

def integer? (value : Int) : Option Value :=
  if -(maxInteger : Int) - 1 ≤ value && value ≤ maxInteger then some (.integer value) else none

def basedInteger? (base : Nat) (isDigit : Char → Bool) (rest : Rest) : Option (Value × Rest) := do
  let (digits, rest) ← digits? isDigit rest
  return (← integer? (valueIn base digits), rest)

/-- A decimal number: an integer unless a fraction or an exponent follows. Too large a number is
refused, unless it is negative and not an integer. -/
def decimal? (rest : Rest) : Option (Value × Rest) := do
  let (negative, rest) := sign rest
  let (whole, rest) ← whole? rest
  let (fraction, rest) ← fraction? rest
  let (power, rest) ← exponent? rest
  if fraction.isEmpty && power.isNone then
    let size : Int := valueIn 10 whole
    return (← integer? (if negative then -size else size), rest)
  else
    let value := Binary64.ofDecimal negative (valueIn 10 (whole ++ fraction))
      (power.getD 0 - fraction.length)
    if value = .infinite false then none else return (.float value, rest)

def number? : Rest → Option (Value × Rest)
  | '0' :: 'x' :: rest => basedInteger? 16 (fun c => (hexValue? c).isSome) rest
  | '0' :: 'o' :: rest => basedInteger? 8 (fun c => '0' ≤ c && c ≤ '7') rest
  | '0' :: 'b' :: rest => basedInteger? 2 (fun c => c = '0' || c = '1') rest
  | rest =>
    match sign rest with
    | (negative, 'i' :: 'n' :: 'f' :: rest) => some (.float (.infinite negative), rest)
    | (_, 'n' :: 'a' :: 'n' :: rest) => some (.float .nan, rest)
    | _ => decimal? rest

def fixed? (count low high : Nat) (rest : Rest) : Option (Nat × Rest) :=
  let digits := rest.take count
  let value := valueIn 10 digits
  if digits.length = count && digits.all Char.isDigit && low ≤ value && value ≤ high then
    some (value, rest.drop count)
  else none

def char? (expected : Char) : Rest → Option Rest
  | c :: rest => if c = expected then some rest else none
  | [] => none

def daysIn (year month : Nat) : Nat :=
  if month = 2 then
    if year % 4 = 0 && (year % 100 ≠ 0 || year % 400 = 0) then 29 else 28
  else if month = 4 || month = 6 || month = 9 || month = 11 then 30
  else 31

def date? (rest : Rest) : Option Rest := do
  let (year, rest) ← fixed? 4 0 9999 rest
  let rest ← char? '-' rest
  let (month, rest) ← fixed? 2 1 12 rest
  let rest ← char? '-' rest
  let (_, rest) ← fixed? 2 1 (daysIn year month) rest
  return rest

/-- A time of day, down to seconds or fractions of them. A minute may have a leap second. -/
def time? (rest : Rest) : Option Rest := do
  let (_, rest) ← fixed? 2 0 23 rest
  let rest ← char? ':' rest
  let (_, rest) ← fixed? 2 0 59 rest
  let rest ← char? ':' rest
  let (_, rest) ← fixed? 2 0 60 rest
  match rest with
  | '.' :: rest =>
    let fraction := rest.takeWhile Char.isDigit
    if fraction.isEmpty then none else return rest.drop fraction.length
  | rest => return rest

def offset? : Rest → Option Rest
  | c :: rest =>
    if c = 'Z' || c = 'z' then some rest
    else if c = '+' || c = '-' then do
      let (_, rest) ← fixed? 2 0 23 rest
      let rest ← char? ':' rest
      let (_, rest) ← fixed? 2 0 59 rest
      return rest
    else some (c :: rest)
  | [] => some []

def startsTime (rest : Rest) : Bool :=
  (rest.take 2).all Char.isDigit && rest[2]? = some ':'

def startsDate (rest : Rest) : Bool :=
  (rest.take 4).all Char.isDigit && rest[4]? = some '-'

/-- A date, with a time of day if one follows. -/
def dated? (rest : Rest) : Option Rest := do
  let rest ← date? rest
  match rest with
  | c :: after =>
    if (c = 'T' || c = 't' || c = ' ') && startsTime after then offset? (← time? after)
    else return rest
  | [] => return rest

def numeric? (rest : Rest) : Option (Value × Rest) :=
  if startsDate rest then (dated? rest).map fun rest => (.moment, rest)
  else if startsTime rest then (time? rest).map fun rest => (.moment, rest)
  else number? rest

end NetBridge.Toml
