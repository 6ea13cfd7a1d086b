import NetBridge.Toml.Value

namespace NetBridge.Toml

def hexValue? (c : Char) : Option Nat :=
  if c.isDigit then some (c.toNat - '0'.toNat)
  else if 'a' ≤ c && c ≤ 'f' then some (c.toNat - 'a'.toNat + 10)
  else if 'A' ≤ c && c ≤ 'F' then some (c.toNat - 'A'.toNat + 10)
  else none

/-- The character with this code, given in hexadecimal digits. Surrogates are no characters. -/
def scalar? (digits : List Char) : Option Char := do
  let code ← digits.foldlM (fun value c => return value * 16 + (← hexValue? c)) 0
  if code < 0xd800 || (0xdfff < code && code < 0x110000) then some (Char.ofNat code) else none

def shortEscape? : Char → Option Char
  | 'b' => some '\x08'
  | 't' => some '\t'
  | 'n' => some '\n'
  | 'f' => some '\x0c'
  | 'r' => some '\r'
  | '"' => some '"'
  | '\\' => some '\\'
  | _ => none

def escape? : Rest → Option (Char × Rest)
  | 'u' :: a :: b :: c :: d :: rest => (scalar? [a, b, c, d]).map (·, rest)
  | 'U' :: a :: b :: c :: d :: e :: f :: g :: h :: rest =>
    (scalar? [a, b, c, d, e, f, g, h]).map (·, rest)
  | c :: rest => (shortEscape? c).map (·, rest)
  | [] => none

def basic (fuel : Nat) (rest : Rest) : Option (List Char × Rest) :=
  match fuel, rest with
  | 0, _ => none
  | _, [] => none
  | _, '"' :: rest => some ([], rest)
  | fuel + 1, '\\' :: rest => do
    let (c, rest) ← escape? rest
    let (more, rest) ← basic fuel rest
    return (c :: more, rest)
  | fuel + 1, c :: rest => do
    if isPrintable c then
      let (more, rest) ← basic fuel rest
      return (c :: more, rest)
    else none

def literal : Rest → Option (List Char × Rest)
  | [] => none
  | '\'' :: rest => some ([], rest)
  | c :: rest =>
    if isPrintable c then (literal rest).map fun (more, rest) => (c :: more, rest) else none

/-- The inside of a basic text of several lines, up to its three closing quotes; one or two quotes
right before them belong to the text. A backslash at the end of a line takes away the blanks and
line ends that follow. -/
def basicLines (fuel : Nat) (rest : Rest) : Option (List Char × Rest) :=
  match fuel, rest with
  | 0, _ => none
  | _, [] => none
  | _, '"' :: '"' :: '"' :: '"' :: '"' :: rest => some (['"', '"'], rest)
  | _, '"' :: '"' :: '"' :: '"' :: rest => some (['"'], rest)
  | _, '"' :: '"' :: '"' :: rest => some ([], rest)
  | fuel + 1, '\\' :: rest =>
    match skipBlanks rest with
    | '\n' :: below => basicLines fuel (below.dropWhile fun c => isBlank c || c = '\n')
    | _ => do
      let (c, rest) ← escape? rest
      let (more, rest) ← basicLines fuel rest
      return (c :: more, rest)
  | fuel + 1, c :: rest => do
    if isPrintable c || c = '\n' then
      let (more, rest) ← basicLines fuel rest
      return (c :: more, rest)
    else none

/-- The inside of a literal text of several lines, up to its three closing quotes; one or two
quotes right before them belong to the text. -/
def literalLines : Rest → Option (List Char × Rest)
  | [] => none
  | '\'' :: '\'' :: '\'' :: '\'' :: '\'' :: rest => some (['\'', '\''], rest)
  | '\'' :: '\'' :: '\'' :: '\'' :: rest => some (['\''], rest)
  | '\'' :: '\'' :: '\'' :: rest => some ([], rest)
  | c :: rest =>
    if isPrintable c || c = '\n' then
      (literalLines rest).map fun (more, rest) => (c :: more, rest)
    else none

/-- A text right after its opening quotes does not begin with a line end. -/
def dropLineEnd : Rest → Rest
  | '\n' :: rest => rest
  | rest => rest

def quotedLine? : Rest → Option (String × Rest)
  | '"' :: rest => (basic (rest.length + 1) rest).map fun (cs, rest) => (String.ofList cs, rest)
  | '\'' :: rest => (literal rest).map fun (cs, rest) => (String.ofList cs, rest)
  | _ => none

def quotation? : Rest → Option (String × Rest)
  | '"' :: '"' :: '"' :: rest =>
    (basicLines (rest.length + 1) (dropLineEnd rest)).map fun (cs, rest) => (String.ofList cs, rest)
  | '\'' :: '\'' :: '\'' :: rest =>
    (literalLines (dropLineEnd rest)).map fun (cs, rest) => (String.ofList cs, rest)
  | rest => quotedLine? rest

end NetBridge.Toml
