/-!
Reading a command line against a grammar of options, positional values and subcommands. Words are
read from the left. A value is checked only when the next option or value is met, or at the end, so
that of two faults the one that is met first counts.
-/
namespace NetBridge

/-- How a command line can fail. Asking for help or for the version counts as well. -/
inductive UsageError where
  | displayHelp
  | displayVersion
  | helpInsteadOfNothing
  | missingSubcommand
  | invalidSubcommand
  | unknownArgument
  | missingArgument
  | invalidValue
  | surplusValue
  | repeatedArgument
deriving DecidableEq, Repr

/-- Help and version are no failures of the program. -/
def UsageError.exitCode : UsageError → Nat
  | displayHelp => 0
  | displayVersion => 0
  | _ => 2

namespace Usage

/-- An option: `--long`, and `-short` if it has a letter. -/
structure Flag where
  long : String
  short : Option Char
  takesValue : Bool
deriving DecidableEq, Repr

structure Slot where
  name : String
  required : Bool

/-- What one level of a command line may hold. -/
structure Grammar where
  flags : List Flag
  slots : List Slot
  /-- Whether a text is a value of the option or slot of this name. -/
  accepts : String → String → Bool
  subcommands : List String

/-- The options every level understands by itself. -/
def standardFlags : List Flag := [⟨"help", some 'h', false⟩, ⟨"version", some 'V', false⟩]

def helpWord : String := "help"

namespace Grammar

def allFlags (g : Grammar) : List Flag := g.flags ++ standardFlags

def longFlag? (g : Grammar) (name : String) : Option Flag :=
  g.allFlags.find? fun flag => flag.long = name

def shortFlag? (g : Grammar) (letter : Char) : Option Flag :=
  g.allFlags.find? fun flag => flag.short = some letter

def isSubcommand (g : Grammar) (word : String) : Bool :=
  !g.subcommands.isEmpty && (g.subcommands.contains word || word = helpWord)

end Grammar

/-- What has been read of one level. -/
structure Reading where
  given : List String
  values : List (String × String)
  /-- The option or slot met last, and its value once that is read. -/
  pending : Option (String × Option String)
  filled : Nat
  /-- Whether `--` was met; everything behind it is a positional value. -/
  escaped : Bool

namespace Reading

def start : Reading := ⟨[], [], none, 0, false⟩

def awaitsValue (r : Reading) : Bool := r.pending.any fun (_, value) => value.isNone

def take (g : Grammar) (r : Reading) (name value : String) : Except UsageError Reading :=
  if (r.values.lookup name).isSome then .error .repeatedArgument
  else if !g.accepts name value then .error .invalidValue
  else .ok { r with values := r.values ++ [(name, value)] }

def settle (g : Grammar) (r : Reading) : Except UsageError Reading :=
  match r.pending with
  | none => .ok r
  | some (_, none) => .error .invalidValue
  | some (name, some value) => take g { r with pending := none } name value

def meet (g : Grammar) (r : Reading) (flag : Flag) : Except UsageError Reading := do
  let r ← settle g r
  if flag.long = "help" then throw .displayHelp
  else if flag.long = "version" then throw .displayVersion
  else if r.given.contains flag.long then throw .repeatedArgument
  else return { r with given := flag.long :: r.given }

/-- Meets an option with a value, which may be attached or still to come. -/
def meetValued (g : Grammar) (r : Reading) (flag : Flag) (attached : Option String) :
    Except UsageError Reading := do
  let r ← settle g r
  match attached with
  | some value => take g r flag.long value
  | none => return { r with pending := some (flag.long, none) }

/-- Reads a word that begins with two hyphens, less these. -/
def long (g : Grammar) (r : Reading) (word : List Char) : Except UsageError Reading :=
  let name := word.takeWhile (· ≠ '=')
  let attached := match word.drop name.length with
    | [] => none
    | _ :: value => some (String.ofList value)
  match g.longFlag? (String.ofList name) with
  | none => .error .unknownArgument
  | some flag =>
    if flag.takesValue then meetValued g r flag attached
    else if attached.isSome then .error .surplusValue
    else meet g r flag

/-- Reads letters behind one hyphen. A letter with a value takes the rest of the word. -/
def short (g : Grammar) : Reading → List Char → Except UsageError Reading
  | r, [] => .ok r
  | r, letter :: rest =>
    match g.shortFlag? letter with
    | none => .error .unknownArgument
    | some flag =>
      if flag.takesValue then
        match rest with
        | [] => meetValued g r flag none
        | '=' :: value => meetValued g r flag (some (String.ofList value))
        | value => meetValued g r flag (some (String.ofList value))
      else do short g (← meet g r flag) rest

def plain (g : Grammar) (r : Reading) (word : String) : Except UsageError Reading :=
  match r.pending, r.escaped, g.slots[r.filled]? with
  | some (name, none), false, _ => .ok { r with pending := some (name, some word) }
  | _, _, some slot => do
    let r ← settle g r
    return { r with pending := some (slot.name, some word), filled := r.filled + 1 }
  | _, _, none =>
    if r.escaped && g.isSubcommand word then .error .unknownArgument
    else if g.subcommands.isEmpty then .error .unknownArgument
    else .error .invalidSubcommand

def word (g : Grammar) (r : Reading) (text : String) : Except UsageError Reading :=
  if r.escaped then plain g r text
  else match text.toList with
    | ['-', '-'] => .ok { r with escaped := true }
    | '-' :: '-' :: rest => long g r rest
    | '-' :: letter :: rest => short g r (letter :: rest)
    | _ => plain g r text

/-- Reads words up to the first subcommand, which is given with the words behind it. -/
def words (g : Grammar) : Reading → List String →
    Except UsageError (Reading × Option (String × List String))
  | r, [] => .ok (r, none)
  | r, text :: rest =>
    if !r.escaped && !r.awaitsValue && g.isSubcommand text then .ok (r, some (text, rest))
    else do words g (← word g r text) rest

def isIncomplete (g : Grammar) (r : Reading) : Bool :=
  g.slots.any fun slot => slot.required && (r.values.lookup slot.name).isNone

def value? (r : Reading) (name : String) : Option String := r.values.lookup name

def value (r : Reading) (name : String) : String := (r.value? name).getD ""

def has (r : Reading) (name : String) : Bool := r.given.contains name

end Reading

def readLeaf (g : Grammar) (args : List String) : Except UsageError Reading := do
  let (r, _) ← Reading.words g .start args
  let r ← r.settle g
  if r.isIncomplete g then throw .missingArgument
  return r

/-- The outcome of asking for help on some subcommand: only those of the outermost level exist. -/
def helpOn (g : Grammar) : List String → UsageError
  | [] => .displayHelp
  | [word] => if g.isSubcommand word then .displayHelp else .invalidSubcommand
  | _ => .invalidSubcommand

/-- Reads a level that needs a subcommand. `leaf` is the grammar of each subcommand; what follows
the subcommand is read before the values in front of it are checked. -/
def readRoot (g : Grammar) (leaf : String → Grammar) (args : List String) :
    Except UsageError (Reading × String × Reading) := do
  let (r, sub) ← Reading.words g .start args
  match sub with
  | some (name, rest) =>
    if name = helpWord then throw (helpOn g rest)
    let inner ← readLeaf (leaf name) rest
    let r ← r.settle g
    return (r, name, inner)
  | none =>
    let r ← r.settle g
    if r.given.isEmpty && r.values.isEmpty then throw .helpInsteadOfNothing
    else throw .missingSubcommand

end Usage

end NetBridge
