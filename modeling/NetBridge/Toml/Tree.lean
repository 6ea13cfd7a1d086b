import NetBridge.Toml.Value

namespace NetBridge.Toml

/-- A key's content while the document is being read. -/
inductive Node where
  | leaf (value : Value)
  /-- A table. It is implied until a header of its own is met, and dotted if a dotted key made
  it. -/
  | table (implied dotted : Bool) (fields : List (String × Node))
  | tables (elements : List (List (String × Node)))

abbrev Fields := List (String × Node)

/-- Replaces the content of a key in its place, or adds the key at the end. -/
def put (key : String) (node : Node) : Fields → Fields
  | [] => [(key, node)]
  | (other, old) :: rest =>
    if other = key then (key, node) :: rest else (other, old) :: put key node rest

def changeLast {α : Type} (change : α → Option α) : List α → Option (List α)
  | [] => none
  | [last] => (change last).map fun last => [last]
  | first :: rest => (changeLast change rest).map (first :: ·)

/-- Changes the table that a path of headers leads to. Missing tables are implied, and an array of
tables stands for its last element. -/
def within (change : Fields → Option Fields) : List String → Fields → Option Fields
  | [], fields => change fields
  | key :: path, fields => do
    let node ← match fields.lookup key with
      | none => (within change path []).map (.table true false)
      | some (.leaf _) => none
      | some (.table implied dotted inner) => (within change path inner).map (.table implied dotted)
      | some (.tables elements) => (changeLast (within change path) elements).map .tables
    return put key node fields

/-- Opens the table of a header. A table that was only implied moves to the end of its parent. -/
def openTable (path : List String) (key : String) (document : Fields) : Option Fields :=
  within (fun parent =>
    match parent.lookup key with
    | none => some (parent ++ [(key, .table false false [])])
    | some (.table true false inner) =>
      some (parent.filter (·.1 ≠ key) ++ [(key, .table false false inner)])
    | some _ => none) path document

def openElement (path : List String) (key : String) (document : Fields) : Option Fields :=
  within (fun parent =>
    match parent.lookup key with
    | none => some (parent ++ [(key, .tables [[]])])
    | some (.tables elements) => some (put key (.tables (elements ++ [[]])) parent)
    | some _ => none) path document

/-- Gives a value to a dotted key within a table. `dotted` says whether the table itself was made
by a dotted key; only such tables can be extended by longer keys. -/
def assign (key : String) (value : Value) : Bool → List String → Fields → Option Fields
  | extensible, [], fields =>
    if extensible && (fields.lookup key).isNone then some (fields ++ [(key, .leaf value)])
    else none
  | _, first :: path, fields => do
    let node ← match fields.lookup first with
      | none => (assign key value true path []).map (.table true true)
      | some (.leaf _) => none
      | some (.table true dotted inner) =>
        (assign key value dotted path inner).map (.table true dotted)
      | some (.table false _ _) => none
      | some (.tables elements) =>
        (changeLast (assign key value false path) elements).map .tables
    return put first node fields

mutual

def Node.value : Node → Value
  | .leaf value => value
  | .table _ _ fields => .table (fieldValues fields)
  | .tables elements => .tables (elementValues elements)

def fieldValues : List (String × Node) → List (String × Value)
  | [] => []
  | (key, node) :: rest => (key, node.value) :: fieldValues rest

def elementValues : List (List (String × Node)) → List (List (String × Value))
  | [] => []
  | fields :: rest => fieldValues fields :: elementValues rest

end

end NetBridge.Toml
