import NetBridge.Proofs.Blame

namespace NetBridge

/-- The device that a request names, for a port its bridge. -/
def Request.name? : Request → Option IfName
  | addBridge name => some name
  | deleteBridge name => some name
  | addPort bridge _ => some bridge
  | deletePort bridge _ => some bridge
  | bridgeIndices _ => none
  | portIndices bridge _ => some bridge
  | linkFlags name => some name
  | setLinkFlags name _ => some name

theorem Request.name?_eq_some {request : Request} {name : IfName}
    (named : request.name? = some name) :
    request.device? = some name ∨ ∃ index, request.port? = some (name, index) := by
  cases request with
  | bridgeIndices capacity => cases named
  | addPort bridge port | deletePort bridge port =>
    cases named
    exact .inr ⟨port, rfl⟩
  | addBridge other | deleteBridge other | portIndices other capacity | linkFlags other
  | setLinkFlags other flags => exact .inl named

open Dialogue

/-- A course goes on after any other answer to one of its calls. -/
theorem Dialogue.plays_otherwise {d : Dialogue α} {before later : List Step} {call : Call}
    {answer : call.Answer} {value : α}
    (played : Plays d (before ++ .asked call answer :: later) value) (other : call.Answer) :
    ∃ rest result, Plays d (before ++ .asked call other :: rest) result := by
  induction d generalizing before with
  | done value =>
    obtain ⟨none, -⟩ := plays_done_iff.mp played
    cases List.append_eq_nil_iff.mp none |>.2
  | log event next ih =>
    obtain ⟨steps, same, played⟩ := plays_log_iff.mp played
    cases before with
    | nil => cases same
    | cons step before =>
      obtain ⟨rfl, rfl⟩ := List.cons.inj same
      obtain ⟨rest, result, continued⟩ := ih played
      exact ⟨rest, result, .log continued⟩
  | ask asked next ih =>
    obtain ⟨given, steps, same, played⟩ := plays_ask_iff.mp played
    cases before with
    | nil =>
      cases same
      -- Any control plane shows a way to go on; the kernel will do.
      exact ⟨_, _, .ask other (plays_run Kernel.plane (next other) .new)⟩
    | cons step before =>
      obtain ⟨rfl, rfl⟩ := List.cons.inj same
      obtain ⟨rest, result, continued⟩ := ih given played
      exact ⟨rest, result, .ask given continued⟩

theorem Leaves.heard_eq_nil {steps : List Step} (leaves : Leaves steps) :
    steps.filterMap Step.heard? = [] := by
  refine List.filterMap_eq_nil_iff.mpr fun step member => ?_
  cases step with
  | logged event => rfl
  | asked call answer =>
    obtain ⟨handle, rfl⟩ := leaves call (List.mem_filterMap.mpr ⟨_, member, rfl⟩)
    rfl

namespace Intent

variable {policy : NamePolicy} {intent : Intent}

theorem targets_subset {heard more : List String} (grown : heard ⊆ more) :
    intent.targets heard ⊆ intent.targets more := by
  cases intent with
  | snapshotAll => exact List.map_subset _ grown
  | _ => exact List.Subset.refl _

variable {before later : List Step} {handle : Handle} {request : Request}
  {answer : Except Errno request.Reply} {result : Except Error intent.Result}

/-- A request is about devices that are known when it is made. A port has the index to which the
operation's interface was resolved. -/
theorem about_of_request
    (played : Plays (ExceptT.run (intent.procedure policy))
      (before ++ .asked (.request handle request) answer :: later) result) :
    (∀ name, request.device? = some name → intent.About policy before name none) ∧
      ∀ bridge index, request.port? = some (bridge, index) →
        ∃ iface, intent.About policy before bridge (some iface) ∧
          .asked (.nameToIndex iface) (some index) ∈ before := by
  -- The same course up to this request, which is refused: the error names what it is about, and
  -- nothing is heard after it.
  obtain ⟨rest, error, refused⟩ := plays_otherwise played (.error .EPERM)
  have failed := Step.Fails.request handle request .EPERM
  have halts := Intent.halts refused
  have heard (leaves : Leaves rest) : intent.About policy
      (before ++ .asked (.request handle request) (.error .EPERM) :: rest) =
        intent.About policy before := by
    funext device iface
    simp only [About, List.filterMap_append, List.filterMap_cons, Step.heard?,
      leaves.heard_eq_nil, List.append_nil]
  generalize split : before ++ .asked (.request handle request) (.error .EPERM) :: rest = steps
    at halts heard
  generalize intent.About policy steps = about at halts heard
  cases halts with
  | smooth smooth own => exact absurd failed (smooth _ (by simp [← split]) request .EPERM)
  | broken smooth stuck leaves blamed =>
    obtain ⟨rfl, rfl, rfl⟩ := failure_unique split smooth leaves failed
    cases stuck
    rw [heard leaves] at blamed
    cases blamed with
    | listing capacity cause => exact ⟨nofun, nofun⟩
    | device cause device known =>
      refine ⟨fun name named => ?_, fun bridge index port => ?_⟩
      · obtain rfl := Option.some.inj (device.symm.trans named)
        exact known
      · cases request <;> cases device <;> cases port
    | port cause port known resolved =>
      refine ⟨fun name device => ?_, fun bridge index named => ?_⟩
      · cases request <;> cases port <;> cases device
      · cases port.symm.trans named
        exact ⟨_, known, resolved⟩

/-- The name in a request is denoted by a text that the operation was given. -/
theorem ofText_of_request
    (played : Plays (ExceptT.run (intent.procedure policy))
      (before ++ .asked (.request handle request) answer :: later) result)
    {name : IfName} (named : request.name? = some name) :
    ∃ target ∈ intent.targets (before.filterMap Step.heard?),
      IfName.ofText policy target.device = .ok name := by
  obtain ⟨devices, ports⟩ := about_of_request played
  rcases Request.name?_eq_some named with device | ⟨index, port⟩
  · obtain ⟨target, member, names⟩ := devices name device
    cases names with
    | device denotes => exact ⟨_, member, denotes⟩
  · obtain ⟨iface, ⟨target, member, names⟩, -⟩ := ports name index port
    cases names with
    | port denotes _ => exact ⟨_, member, denotes⟩

end Intent

end NetBridge
