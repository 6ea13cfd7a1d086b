import NetBridge.CommandLine.Completion
import NetBridge.CommandLine.Output
import NetBridge.Config.Load
import NetBridge.Log.Line
import NetBridge.Topology

/-!
Running one command: read the configuration, carry the command out on a control plane, and say
what came of it. A dry run and a real run make the same plan; they differ in executing it.
-/
namespace NetBridge.CommandLine

open Control Dialogue

/-- Executes a plan, or shows it in a dry run. -/
def apply (policy : NamePolicy) (plan : List Action) (dryRun : Bool) : Procedure String := do
  if plan.isEmpty then return Output.nothingToDo
  else if dryRun then return Output.planned plan
  else
    Topology.execute policy plan
    return Output.applied plan

/-- A result known beforehand, with its events. -/
def replay {α : Type} (reported : Reported Error α) : Procedure α := ExceptT.mk do
  reportAll reported.events
  return reported.result

/-- Carries a command out and returns what it prints. `reload` is the configuration file read
once more. -/
def perform (config : Config) (reload : Reported Error Config) : Command → Procedure String
  | .addBridge bridge => do
    createBridge config.policy bridge
    return Output.lines [s!"Created bridge '{bridge}'"]
  | .deleteBridge bridge force => do
    destroyBridge config.policy bridge force
    return Output.lines [s!"Deleted bridge '{bridge}'"]
  | .addInterface bridge iface => do
    addInterface config.policy bridge iface
    return Output.lines [s!"Added '{iface}' to bridge '{bridge}'"]
  | .removeInterface bridge iface => do
    removeInterface config.policy bridge iface
    return Output.lines [s!"Removed '{iface}' from bridge '{bridge}'"]
  | .show (some bridge) json => do
    return Output.bridges json [← snapshot config.policy bridge]
  | .show none json => do
    return Output.bridges json (← snapshotAll config.policy)
  | .link iface up => do
    setLinkUp config.policy iface up
    let state := if up then "up" else "down"
    return Output.lines [s!"Set '{iface}' {state}"]
  | .up dryRun => do
    apply config.policy (← Topology.planUp config.policy config.bridges) dryRun
  | .down dryRun => do
    apply config.policy (← Topology.planDown config.policy config.bridges) dryRun
  | .check => do
    let config ← replay reload
    return Output.checked config.policy config.bridges
  | .completion shell => return Output.completion shell

/-- What a run leaves behind. Beside its output it says something about the filter (`notes`), then
writes the log, then describes its failure. -/
structure Report (σ : Type) where
  exitCode : Nat
  stdout : String
  notes : String
  log : List String
  failure : String
  state : σ

/-- The log filter: the one given for the environment if it can be read, else what the
configuration and the command line ask for. The texts are those of it that cannot be read. -/
def filterFor (config : Config) (verbose : Bool) (environment : Option String) :
    Filter × List String :=
  match environment.bind Filter.ofText? with
  | some filter => (filter, [])
  | none =>
    let directive := defaultDirective config.level verbose
    (.ofReadable directive, Filter.unreadable directive)

def failure (e : Error) : String := Output.lines ["Error: " ++ e.message]

/-- Runs a command line against a control plane. Completion scripts need no configuration; any
other command fails if the configuration does. -/
def run {σ : Type} (plane : ControlPlane σ) (line : CommandLine) (content : Config.FileContent)
    (environment : Option String) (state : σ) : Report σ :=
  match line.command with
  | .completion shell => ⟨0, Output.completion shell, "", [], "", state⟩
  | command =>
    match (Config.loadOrDefault line.config content).result with
    | .error e => ⟨1, "", "", [], failure e, state⟩
    | .ok config =>
      let (filter, unread) := filterFor config line.verbose environment
      let notes := Output.lines
        (unread.map fun text => "ignoring `" ++ text ++ "`: invalid filter directive")
      let course := (perform config (Config.load line.config content) command).run plane state
      let log := filter.lines course.events
      match course.value with
      | .ok text => ⟨0, text, notes, log, "", course.state⟩
      | .error e => ⟨1, "", notes, log, failure e, course.state⟩

end NetBridge.CommandLine
