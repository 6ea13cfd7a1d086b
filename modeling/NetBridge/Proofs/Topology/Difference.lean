import NetBridge.Proofs.Kernel.Sight
import NetBridge.Proofs.Topology.Blueprint
import NetBridge.Topology

namespace NetBridge

namespace Kernel

/-- What a step brings about is to be seen already. -/
def Achieved (kernel : Kernel) : Action → Prop
  | .createBridge bridge => kernel.ShowsBridge bridge
  | .addMember bridge iface => kernel.ShowsPort bridge iface
  | .linkUp name => kernel.ShowsUp name
  | .removeMember bridge iface => ¬ kernel.ShowsPort bridge iface
  | .linkDown name => ¬ kernel.ShowsUp name
  | .deleteBridge bridge => ¬ kernel.ShowsBridge bridge

instance (kernel : Kernel) : (action : Action) → Decidable (kernel.Achieved action)
  | .createBridge bridge => inferInstanceAs (Decidable (kernel.ShowsBridge bridge))
  | .addMember bridge iface => inferInstanceAs (Decidable (kernel.ShowsPort bridge iface))
  | .linkUp name => inferInstanceAs (Decidable (kernel.ShowsUp name))
  | .removeMember bridge iface => inferInstanceAs (Decidable (¬ kernel.ShowsPort bridge iface))
  | .linkDown name => inferInstanceAs (Decidable (¬ kernel.ShowsUp name))
  | .deleteBridge bridge => inferInstanceAs (Decidable (¬ kernel.ShowsBridge bridge))

/-- The steps that are still to be taken. -/
def pending (kernel : Kernel) (actions : List Action) : List Action :=
  actions.filter fun action => ¬ kernel.Achieved action

theorem pending_append (kernel : Kernel) (first second : List Action) :
    kernel.pending (first ++ second) = kernel.pending first ++ kernel.pending second :=
  List.filter_append ..

theorem pending_flatMap (kernel : Kernel) (blueprints : List Blueprint)
    (steps : Blueprint → List Action) :
    kernel.pending (blueprints.flatMap steps) =
      blueprints.flatMap fun blueprint => kernel.pending (steps blueprint) :=
  List.filter_flatMap ..

theorem achieved_congr {kernel other : Kernel} (same : other.links = kernel.links)
    (action : Action) : other.Achieved action ↔ kernel.Achieved action := by
  have shown : other.shownBridges = kernel.shownBridges := by
    simp only [shownBridges, bridges, same]
  cases action <;> simp only [Achieved, ShowsBridge, ShowsPort, ShowsUp, shown, same]

theorem pending_congr {kernel other : Kernel} (same : other.links = kernel.links)
    (actions : List Action) : other.pending actions = kernel.pending actions := by
  simp only [pending, achieved_congr same]

@[simp] theorem pending_tally (kernel : Kernel) (handles requests : Nat) (actions : List Action) :
    (kernel.tally handles requests).pending actions = kernel.pending actions := rfl

end Kernel

namespace Topology

open Blueprint Control Kernel

variable {kernel : Kernel} {policy : NamePolicy}

theorem outcome_additions (plane : ControlPlane σ) (state : σ) (bridge : IfName)
    (live : List String) {texts : List String} {ifaces : List IfName}
    (named : List.Forall₂ (fun text iface => IfName.ofText policy text = .ok iface) texts ifaces) :
    (additions policy bridge live texts).outcome plane state =
      (.ok ((ifaces.filter fun iface => iface.text ∉ live).map fun iface =>
        .addMember bridge.text iface.text), state) := by
  induction named with
  | nil => rfl
  | cons head tail ih =>
    rw [additions, Procedure.outcome_bind_ok _ _ (outcome_name_ok plane state head),
      Procedure.outcome_bind_ok _ _ ih]
    rename_i text iface texts ifaces
    by_cases present : iface.text ∈ live <;> simp [present]

theorem outcome_removals (plane : ControlPlane σ) (state : σ) (bridge : IfName)
    (live : List String) {texts : List String} {ifaces : List IfName}
    (named : List.Forall₂ (fun text iface => IfName.ofText policy text = .ok iface) texts ifaces) :
    (removals policy bridge live texts).outcome plane state =
      (.ok ((ifaces.filter fun iface => iface.text ∈ live).map fun iface =>
        .removeMember bridge.text iface.text), state) := by
  induction named with
  | nil => rfl
  | cons head tail ih =>
    rw [removals, Procedure.outcome_bind_ok _ _ (outcome_name_ok plane state head),
      Procedure.outcome_bind_ok _ _ ih]
    rename_i text iface texts ifaces
    by_cases present : iface.text ∈ live <;> simp [present]

theorem pending_building_of_absent {blueprint : Blueprint}
    (absent : ¬ kernel.ShowsBridge blueprint.name.text) :
    kernel.pending blueprint.building = blueprint.building := by
  refine List.filter_eq_self.mpr fun action member => ?_
  have bare : ¬ kernel.Achieved action := by
    rcases List.mem_append.mp member with early | late
    · rcases List.mem_cons.mp early with rfl | adding
      · exact absent
      · obtain ⟨iface, -, rfl⟩ := List.mem_map.mp adding
        exact fun shown => absent shown.bridge
    · split at late
      · obtain rfl := List.mem_singleton.mp late
        exact fun shown => absent shown.bridge
      · cases late
  simpa using bare

theorem pending_building_of_present {blueprint : Blueprint}
    (present : kernel.ShowsBridge blueprint.name.text) :
    kernel.pending blueprint.building =
      ((blueprint.members.filter fun iface =>
          ¬ kernel.ShowsPort blueprint.name.text iface.text).map fun iface =>
        .addMember blueprint.name.text iface.text) ++
      if blueprint.up ∧ ¬ kernel.ShowsUp blueprint.name.text then
        [.linkUp blueprint.name.text] else [] := by
  have created : kernel.Achieved (.createBridge blueprint.name.text) := present
  have joined (iface : IfName) : kernel.Achieved (.addMember blueprint.name.text iface.text) ↔
      kernel.ShowsPort blueprint.name.text iface.text := Iff.rfl
  have risen : kernel.Achieved (.linkUp blueprint.name.text) ↔
      kernel.ShowsUp blueprint.name.text := Iff.rfl
  rw [Blueprint.building, pending_append]
  congr 1
  · simp [pending, created, List.filter_map, Function.comp_def, joined]
  · by_cases up : blueprint.up = true <;>
      by_cases seen : kernel.ShowsUp blueprint.name.text <;> simp [pending, up, seen, risen]

theorem outcome_completion (ready : kernel.Ready) {declared : Declaration} {blueprint : Blueprint}
    (denoted : Denoted policy declared blueprint) :
    ∃ handles, (completion policy declared).outcome plane kernel =
      (.ok (kernel.pending blueprint.building), kernel.tally handles 0) := by
  rw [completion, Procedure.outcome_bind_ok _ _ (outcome_name_ok plane kernel denoted.name),
    Procedure.outcome_bind_ok _ _ (ready.bridgeExists_eq policy blueprint.name)]
  by_cases present : kernel.ShowsBridge blueprint.name.text
  · obtain ⟨live, ports, attached⟩ := (ready.tally 1 0).listInterfaces_eq policy present
    obtain ⟨flags, word, risen⟩ := (ready.tally 2 0).linkFlags_eq policy present
    have seenPort (iface : String) : iface ∈ live ↔ kernel.ShowsPort blueprint.name.text iface :=
      attached iface
    have seenUp : flags.isUp = true ↔ kernel.ShowsUp blueprint.name.text := risen
    simp only [present, decide_true, if_true]
    rw [Procedure.outcome_bind_ok _ _ ports, Procedure.outcome_bind_ok _ _
      (outcome_additions plane _ blueprint.name live denoted.members),
      pending_building_of_present present, denoted.up]
    cases up : blueprint.up
    · exact ⟨2, by simp [seenPort]⟩
    · refine ⟨3, ?_⟩
      simp only [Bool.not_true, Bool.false_eq_true, if_false]
      rw [tally_tally, Procedure.outcome_bind_ok _ _ word]
      by_cases raised : flags.isUp = true <;> simp [seenPort, ← seenUp, raised]
  · simp only [present, decide_false, Bool.false_eq_true, if_false]
    rw [Procedure.outcome_bind_ok _ _ (Procedure.outcome_pure plane _ _),
      Procedure.outcome_bind_ok _ _ (outcome_additions plane _ blueprint.name [] denoted.members),
      pending_building_of_absent present, denoted.up]
    refine ⟨1, ?_⟩
    cases up : blueprint.up <;> simp [Blueprint.building, up]

theorem pending_dismantling_of_absent {blueprint : Blueprint}
    (absent : ¬ kernel.ShowsBridge blueprint.name.text) :
    kernel.pending blueprint.dismantling = [] := by
  refine List.filter_eq_nil_iff.mpr fun action member => ?_
  have gone : kernel.Achieved action := by
    rcases List.mem_append.mp member with removing | late
    · obtain ⟨iface, -, rfl⟩ := List.mem_map.mp removing
      exact fun shown => absent shown.bridge
    · rcases List.mem_cons.mp late with rfl | last
      · exact fun shown => absent shown.bridge
      · obtain rfl := List.mem_singleton.mp last
        exact absent
  simpa using gone

theorem pending_dismantling_of_present {blueprint : Blueprint}
    (present : kernel.ShowsBridge blueprint.name.text) :
    kernel.pending blueprint.dismantling =
      ((blueprint.members.filter fun iface =>
          kernel.ShowsPort blueprint.name.text iface.text).map fun iface =>
        .removeMember blueprint.name.text iface.text) ++
      (if kernel.ShowsUp blueprint.name.text then [.linkDown blueprint.name.text] else []) ++
      [.deleteBridge blueprint.name.text] := by
  have standing : ¬ kernel.Achieved (.deleteBridge blueprint.name.text) := not_not.mpr present
  have joined (iface : IfName) : ¬ kernel.Achieved (.removeMember blueprint.name.text iface.text) ↔
      kernel.ShowsPort blueprint.name.text iface.text := not_not
  have risen : ¬ kernel.Achieved (.linkDown blueprint.name.text) ↔
      kernel.ShowsUp blueprint.name.text := not_not
  rw [Blueprint.dismantling, pending_append, List.append_assoc]
  congr 1
  · simp only [pending, List.filter_map, Function.comp_def, joined]
  · by_cases seen : kernel.ShowsUp blueprint.name.text <;>
      simp [pending, seen, risen, standing]

theorem pending_dismantling_congr {other : Kernel} {blueprint : Blueprint}
    (bridge : other.ShowsBridge blueprint.name.text ↔ kernel.ShowsBridge blueprint.name.text)
    (ports : ∀ iface ∈ blueprint.members, (other.ShowsPort blueprint.name.text iface.text ↔
      kernel.ShowsPort blueprint.name.text iface.text))
    (up : other.ShowsUp blueprint.name.text ↔ kernel.ShowsUp blueprint.name.text) :
    other.pending blueprint.dismantling = kernel.pending blueprint.dismantling := by
  refine List.filter_congr fun action member => ?_
  have agree : other.Achieved action ↔ kernel.Achieved action := by
    rcases List.mem_append.mp member with removing | late
    · obtain ⟨iface, mine, rfl⟩ := List.mem_map.mp removing
      exact not_congr (ports iface mine)
    · rcases List.mem_cons.mp late with rfl | last
      · exact not_congr up
      · obtain rfl := List.mem_singleton.mp last
        exact not_congr bridge
  simp only [agree]

theorem outcome_demolition (ready : kernel.Ready) {declared : Declaration} {blueprint : Blueprint}
    (denoted : Denoted policy declared blueprint) :
    ∃ handles, (demolition policy declared).outcome plane kernel =
      (.ok (kernel.pending blueprint.dismantling), kernel.tally handles 0) := by
  rw [demolition, Procedure.outcome_bind_ok _ _ (outcome_name_ok plane kernel denoted.name),
    Procedure.outcome_bind_ok _ _ (ready.bridgeExists_eq policy blueprint.name)]
  by_cases present : kernel.ShowsBridge blueprint.name.text
  · obtain ⟨live, ports, attached⟩ := (ready.tally 1 0).listInterfaces_eq policy present
    obtain ⟨flags, word, risen⟩ := (ready.tally 2 0).linkFlags_eq policy present
    have seenPort (iface : String) : iface ∈ live ↔ kernel.ShowsPort blueprint.name.text iface :=
      attached iface
    have seenUp : flags.isUp = true ↔ kernel.ShowsUp blueprint.name.text := risen
    simp only [present, decide_true, if_true]
    rw [Procedure.outcome_bind_ok _ _ ports, Procedure.outcome_bind_ok _ _
      (outcome_removals plane _ blueprint.name live denoted.members), tally_tally,
      Procedure.outcome_bind_ok _ _ word, pending_dismantling_of_present present]
    refine ⟨3, ?_⟩
    by_cases raised : flags.isUp = true <;> simp [seenPort, ← seenUp, raised]
  · simp only [present, decide_false, Bool.false_eq_true, if_false]
    rw [pending_dismantling_of_absent present]
    exact ⟨1, rfl⟩

/-- A plan made piece by piece: each piece is settled by its own declaration alone, because making
it changes nothing that a later piece looks at. -/
theorem outcome_planEach {piece : Declaration → Procedure (List Action)}
    {steps : Blueprint → List Action}
    (each : ∀ (kernel : Kernel) declared blueprint, kernel.Ready →
      Denoted policy declared blueprint → ∃ handles, (piece declared).outcome plane kernel =
        (.ok (kernel.pending (steps blueprint)), kernel.tally handles 0))
    (ready : kernel.Ready) {declared : List Declaration} {blueprints : List Blueprint}
    (denoted : Denotes policy declared blueprints) :
    ∃ handles, (planEach piece declared).outcome plane kernel =
      (.ok (kernel.pending (blueprints.flatMap steps)), kernel.tally handles 0) := by
  induction denoted generalizing kernel with
  | nil => exact ⟨0, rfl⟩
  | cons head tail ih =>
    obtain ⟨first, made⟩ := each kernel _ _ ready head
    obtain ⟨others, rest⟩ := ih (ready.tally first 0)
    refine ⟨first + others, ?_⟩
    rw [planEach, Procedure.outcome_bind_ok _ _ made, Procedure.outcome_bind_ok _ _ rest,
      List.flatMap_cons, pending_append, pending_tally, tally_tally]
    rfl

theorem outcome_planUp (ready : kernel.Ready) {declared : List Declaration}
    {blueprints : List Blueprint} (denoted : Denotes policy declared blueprints) :
    ∃ handles, (planUp policy declared).outcome plane kernel =
      (.ok (kernel.pending (blueprints.flatMap Blueprint.building)), kernel.tally handles 0) :=
  outcome_planEach (fun _ _ _ ready denoted => outcome_completion ready denoted) ready denoted

theorem outcome_planDown (ready : kernel.Ready) {declared : List Declaration}
    {blueprints : List Blueprint} (denoted : Denotes policy declared blueprints) :
    ∃ handles, (planDown policy declared).outcome plane kernel =
      (.ok (kernel.pending (blueprints.reverse.flatMap Blueprint.dismantling)),
        kernel.tally handles 0) :=
  outcome_planEach (fun _ _ _ ready denoted => outcome_demolition ready denoted) ready
    (List.rel_reverse denoted)

end Topology

end NetBridge
