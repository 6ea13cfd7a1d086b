import NetBridge.CommandLine.Usage

namespace NetBridge

/-- Shells that completion scripts are made for. -/
inductive Shell where
  | bash
  | elvish
  | fish
  | powershell
  | zsh
deriving DecidableEq, Repr

namespace Shell

def name : Shell → String
  | bash => "bash"
  | elvish => "elvish"
  | fish => "fish"
  | powershell => "powershell"
  | zsh => "zsh"

def all : List Shell := [bash, elvish, fish, powershell, zsh]

def ofName? (text : String) : Option Shell := all.find? fun shell => shell.name = text

end Shell

inductive Command where
  | addBridge (bridge : String)
  | deleteBridge (bridge : String) (force : Bool)
  | addInterface (bridge iface : String)
  | removeInterface (bridge iface : String)
  | show (bridge : Option String) (json : Bool)
  | link (iface : String) (up : Bool)
  | up (dryRun : Bool)
  | down (dryRun : Bool)
  | check
  | completion (shell : Shell)
deriving DecidableEq, Repr

structure CommandLine where
  config : String
  verbose : Bool
  command : Command
deriving DecidableEq, Repr

namespace CommandLine

open Usage

def defaultConfig : String := "bridgewire.toml"

/-- The words for an administrative state. -/
def linkState? : String → Option Bool
  | "up" => some true
  | "down" => some false
  | _ => none

/-- A path is not empty, and some values are words of a fixed set. -/
def accepts (name value : String) : Bool :=
  match name with
  | "config" => value ≠ ""
  | "state" => (linkState? value).isSome
  | "shell" => (Shell.ofName? value).isSome
  | _ => true

def subcommands : List String :=
  ["addbr", "delbr", "addif", "delif", "show", "link", "up", "down", "check", "completion"]

def root : Grammar where
  flags := [⟨"config", some 'c', true⟩, ⟨"verbose", some 'v', false⟩]
  slots := []
  accepts := accepts
  subcommands := subcommands

def leaf (name : String) : Grammar :=
  let required (name : String) : Slot := ⟨name, true⟩
  let (flags, slots) : List Flag × List Slot := match name with
    | "addbr" => ([], [required "bridge"])
    | "delbr" => ([⟨"force", some 'f', false⟩], [required "bridge"])
    | "addif" => ([], [required "bridge", required "iface"])
    | "delif" => ([], [required "bridge", required "iface"])
    | "show" => ([⟨"json", none, false⟩], [⟨"bridge", false⟩])
    | "link" => ([], [required "iface", required "state"])
    | "up" => ([⟨"dry-run", none, false⟩], [])
    | "down" => ([⟨"dry-run", none, false⟩], [])
    | "completion" => ([], [required "shell"])
    | _ => ([], [])
  { flags, slots, accepts, subcommands := [] }

def command? (name : String) (r : Reading) : Option Command :=
  match name with
  | "addbr" => some (.addBridge (r.value "bridge"))
  | "delbr" => some (.deleteBridge (r.value "bridge") (r.has "force"))
  | "addif" => some (.addInterface (r.value "bridge") (r.value "iface"))
  | "delif" => some (.removeInterface (r.value "bridge") (r.value "iface"))
  | "show" => some (.show (r.value? "bridge") (r.has "json"))
  | "link" => (linkState? (r.value "state")).map (.link (r.value "iface"))
  | "up" => some (.up (r.has "dry-run"))
  | "down" => some (.down (r.has "dry-run"))
  | "check" => some .check
  | "completion" => (Shell.ofName? (r.value "shell")).map .completion
  | _ => none

def parse (args : List String) : Except UsageError CommandLine := do
  let (outer, name, inner) ← readRoot root leaf args
  match command? name inner with
  | some command =>
    return ⟨(outer.value? "config").getD defaultConfig, outer.has "verbose", command⟩
  | none => throw .invalidSubcommand

end CommandLine

end NetBridge
