import NetBridge.Log.Directive

namespace NetBridge

structure Filter where
  directives : List Directive
deriving DecidableEq, Repr

namespace Filter

def pieces (text : String) : List String :=
  ((text.splitOn ",").filter (· ≠ ""))

/-- Reads a filter in which every directive must be readable. Without any it shows nothing. -/
def ofText? (text : String) : Option Filter :=
  ((pieces text).mapM Directive.ofText?).map Filter.mk

/-- Reads a filter and leaves out what is not readable. If nothing is left it shows errors. -/
def ofReadable (text : String) : Filter :=
  let directives := (pieces text).filterMap Directive.ofText?
  ⟨if directives.isEmpty then [.default] else directives⟩

def unreadable (text : String) : List String :=
  (pieces text).filter fun piece => (Directive.ofText? piece).isNone

/-- The directive that decides about an event: of those that concern it the one that yields to no
other, and the last of them. -/
def decisive? (filter : Filter) (event : Event) : Option Directive :=
  (filter.directives.filter fun d => d.concerns event).foldl
    (fun best d =>
      match best with
      | none => some d
      | some b => if d.yieldsTo b then some b else some d)
    none

def shows (filter : Filter) (event : Event) : Bool :=
  (filter.decisive? event).any fun d => event.level.rank ≤ d.rank

end Filter

end NetBridge
