namespace NetBridge

/-- A double-precision number. A finite one is `mantissa * 2 ^ exponent` with a mantissa below
`2 ^ 53`, and at least `2 ^ 52` unless the exponent is the least one. -/
inductive Binary64 where
  | finite (negative : Bool) (mantissa : Nat) (exponent : Int)
  | infinite (negative : Bool)
  | nan
deriving DecidableEq, Repr

namespace Binary64

def leastExponent : Int := -1074

def greatestExponent : Int := 971

/-- The least mantissa of a number that is not among the smallest, `2 ^ 52`. Twice that is more
than any mantissa. -/
def leastMantissa : Nat := 4503599627370496

/-- `base ^ exponent` as a numerator over a denominator. -/
def power (base : Nat) (exponent : Int) : Nat × Nat :=
  (Nat.pow base exponent.toNat, Nat.pow base (-exponent).toNat)

/-- The quotient rounded to the nearest integer, a tie to the even one. -/
def roundQuotient (num den : Nat) : Nat :=
  let below := num / den
  let twice := 2 * (num % den)
  if twice < den then below
  else if den < twice then below + 1
  else if below % 2 = 0 then below else below + 1

def ofQuotient (negative : Bool) (num den : Nat) : Binary64 :=
  let low : Int := (num.log2 : Int) - (den.log2 : Int) - 53
  let start := max low leastExponent
  let scaled (exponent : Int) : Nat × Nat :=
    let (up, down) := power 2 exponent
    (num * down, den * up)
  let exponent :=
    let (n, d) := scaled start
    if 2 * leastMantissa ≤ n / d then start + 1 else start
  let (n, d) := scaled exponent
  let mantissa := roundQuotient n d
  let (mantissa, exponent) :=
    if mantissa = 2 * leastMantissa then (leastMantissa, exponent + 1) else (mantissa, exponent)
  if greatestExponent < exponent then .infinite negative
  else .finite negative mantissa exponent

def digitCount (n : Nat) : Nat := (Nat.toDigits 10 n).length

def ofDecimal (negative : Bool) (digits : Nat) (exponent : Int) : Binary64 :=
  let magnitude := (digitCount digits : Int) + exponent
  if digits = 0 || magnitude < -330 then .finite negative 0 leastExponent
  else if 310 < magnitude then .infinite negative
  else
    let (up, down) := power 10 exponent
    ofQuotient negative (digits * up) down

/-- The place of the leading digit of a positive quotient: the least `p` with value below
`10 ^ p`. -/
def leadingPlace (num den : Nat) : Int :=
  if den ≤ num then digitCount (num / den)
  else search 400 0
where
  search : Nat → Nat → Int
    | 0, place => -(place : Int)
    | fuel + 1, place =>
      if den ≤ num * Nat.pow 10 (place + 1) then -(place : Int) else search fuel (place + 1)

def withoutFinalZero (digits : Nat) (exponent : Int) : Nat × Int :=
  if digits % 10 = 0 then (digits / 10, exponent + 1) else (digits, exponent)

/-- The shortest digits and their exponent that read back as `mantissa * 2 ^ exponent`, the
nearest to it if there are several, and of two as near the greater. -/
def shortest (mantissa : Nat) (exponent : Int) : Nat × Int :=
  let (up, down) := power 2 (exponent - 2)
  let value := 4 * mantissa * up
  let high := (4 * mantissa + 2) * up
  let narrow := mantissa = leastMantissa && leastExponent < exponent
  let low := (4 * mantissa - (if narrow then 1 else 2)) * up
  let closed := mantissa % 2 = 0
  let place := leadingPlace value down
  let candidate (count : Nat) : Option (Nat × Int) :=
    let unit : Int := place - count
    let (ten, tenth) := power 10 unit
    -- The grid point `n` stands for `n * ten / tenth`, the value for `value / down`.
    let scale := ten * down
    let below := value * tenth / scale
    let reads (n : Nat) : Bool :=
      let point := n * scale
      let floor := low * tenth
      let ceiling := high * tenth
      if closed then floor ≤ point && point ≤ ceiling else floor < point && point < ceiling
    let distance (n : Nat) : Nat :=
      max (n * scale) (value * tenth) - min (n * scale) (value * tenth)
    match reads below, reads (below + 1) with
    | true, true =>
      if distance below < distance (below + 1) then some (below, unit) else some (below + 1, unit)
    | true, false => some (below, unit)
    | false, true => some (below + 1, unit)
    | false, false => none
  -- The upper neighbour of a single nine is a ten.
  let (digits, unit) := ((List.range 17).findSome? fun i => candidate (i + 1)).getD (mantissa, 0)
  withoutFinalZero digits unit

/-- Digits written out in positional notation, without a point if there is no fraction. -/
def positional (digits : Nat) (exponent : Int) : List Char :=
  let written := Nat.toDigits 10 digits
  if 0 ≤ exponent then written ++ List.replicate exponent.toNat '0'
  else
    let places := (-exponent).toNat
    let padded := List.replicate (places + 1 - written.length) '0' ++ written
    let whole := padded.length - places
    padded.take whole ++ '.' :: padded.drop whole

/-- The shortest text that reads back, in positional notation and always with a fraction. -/
def text : Binary64 → String
  | .nan => "NaN"
  | .infinite negative => if negative then "-inf" else "inf"
  | .finite negative mantissa exponent =>
    let chars :=
      if mantissa = 0 then ['0']
      else
        let (digits, place) := shortest mantissa exponent
        positional digits place
    let chars := if chars.contains '.' then chars else chars ++ ['.', '0']
    String.ofList (if negative then '-' :: chars else chars)

end Binary64

end NetBridge
