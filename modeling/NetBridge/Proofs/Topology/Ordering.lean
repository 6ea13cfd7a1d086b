import Mathlib.Data.List.Flatten
import Mathlib.Data.List.Nodup
import NetBridge.Proofs.Outcome
import NetBridge.Proofs.Topology.Blueprint

namespace NetBridge

namespace Action

def names : Action → List String
  | createBridge bridge => [bridge]
  | addMember bridge iface => [bridge, iface]
  | linkUp name => [name]
  | removeMember bridge iface => [bridge, iface]
  | linkDown name => [name]
  | deleteBridge bridge => [bridge]

def created? : Action → Option String
  | createBridge bridge => some bridge
  | _ => none

def joined? : Action → Option String
  | addMember _ iface => some iface
  | _ => none

def raised? : Action → Option String
  | linkUp name => some name
  | _ => none

def deleted? : Action → Option String
  | deleteBridge bridge => some bridge
  | _ => none

/-- When a step has its turn among the steps on the same bridge, on the way up or on the way down. -/
def stage : Action → Nat
  | createBridge _ => 0
  | addMember _ _ => 1
  | linkUp _ => 2
  | removeMember _ _ => 0
  | linkDown _ => 1
  | deleteBridge _ => 2

theorem stage_le (action : Action) : action.stage ≤ 2 := by
  cases action <;> simp [stage]

/-- No policy changes a name of the step, and none refuses it. -/
def Canonical (action : Action) : Prop :=
  ∀ text ∈ action.names, ∀ policy, ∃ name, IfName.ofText policy text = .ok name ∧ name.text = text

theorem canonical_of_named {action : Action}
    (named : ∀ text ∈ action.names, ∃ name : IfName, name.text = text) : action.Canonical := by
  intro text given policy
  obtain ⟨name, rfl⟩ := named text given
  exact ⟨name, IfName.ofText_text policy name, rfl⟩

end Action

/-- On each bridge the steps come stage by stage. -/
def Staged (plan : List Action) : Prop :=
  plan.Pairwise fun earlier later => earlier.bridge = later.bridge → earlier.stage ≤ later.stage

/-- A plan on the way up: it names interfaces as they are, creates and raises no bridge twice and adds
no interface twice, and it creates a bridge before it adds members, and adds these before it raises
the bridge. -/
structure UpOrdered (plan : List Action) : Prop where
  canonical : ∀ action ∈ plan, action.Canonical
  created : (plan.filterMap Action.created?).Nodup
  joined : (plan.filterMap Action.joined?).Nodup
  raised : (plan.filterMap Action.raised?).Nodup
  staged : Staged plan

/-- A plan on the way down: it names interfaces as they are, deletes no bridge twice, and deletes it
after it removes its members and lowers it. -/
structure DownOrdered (plan : List Action) : Prop where
  canonical : ∀ action ∈ plan, action.Canonical
  deleted : (plan.filterMap Action.deleted?).Nodup
  staged : Staged plan

theorem UpOrdered.sublist {plan whole : List Action} (ordered : UpOrdered whole)
    (part : plan.Sublist whole) : UpOrdered plan where
  canonical action member := ordered.canonical action (part.subset member)
  created := ordered.created.sublist (part.filterMap _)
  joined := ordered.joined.sublist (part.filterMap _)
  raised := ordered.raised.sublist (part.filterMap _)
  staged := ordered.staged.sublist part

theorem DownOrdered.sublist {plan whole : List Action} (ordered : DownOrdered whole)
    (part : plan.Sublist whole) : DownOrdered plan where
  canonical action member := ordered.canonical action (part.subset member)
  deleted := ordered.deleted.sublist (part.filterMap _)
  staged := ordered.staged.sublist part

namespace Blueprint

variable {blueprints : List Blueprint}

theorem nodup_texts {names : List IfName} (distinct : names.Nodup) :
    (names.map IfName.text).Nodup := distinct.map fun _ _ => IfName.ext_text

/-- What is picked at most once for each bridge, under its name, is picked once for each name. -/
theorem nodup_picked {steps : Blueprint → List Action} {pick : Action → Option String}
    (distinct : (blueprints.map Blueprint.name).Nodup)
    (once : ∀ blueprint, ((steps blueprint).filterMap pick).Sublist [blueprint.name.text]) :
    ((blueprints.flatMap steps).filterMap pick).Nodup := by
  have each : ((blueprints.flatMap steps).filterMap pick).Sublist
      ((blueprints.map Blueprint.name).map IfName.text) := by
    rw [List.filterMap_flatMap, List.map_map, List.map_eq_flatMap]
    exact .flatMap_right blueprints fun blueprint _ => once blueprint
  exact (nodup_texts distinct).sublist each

/-- The steps on one bridge keep their order, those on different bridges may come in any. -/
theorem staged_flatMap {steps : Blueprint → List Action}
    (distinct : (blueprints.map Blueprint.name).Nodup)
    (own : ∀ blueprint, ∀ action ∈ steps blueprint, action.bridge = blueprint.name.text)
    (staged : ∀ blueprint, Staged (steps blueprint)) : Staged (blueprints.flatMap steps) := by
  refine List.pairwise_flatMap.mpr ⟨fun blueprint _ => staged blueprint, ?_⟩
  refine (List.pairwise_map.mp distinct).imp fun different earlier mine later theirs same => ?_
  rw [own _ earlier mine, own _ later theirs] at same
  exact absurd (IfName.ext_text same) different

theorem canonical_of_mem_building {blueprint : Blueprint} {action : Action}
    (member : action ∈ blueprint.building) : action.Canonical := by
  refine Action.canonical_of_named fun text given => ?_
  rcases List.mem_append.mp member with early | late
  · rcases List.mem_cons.mp early with rfl | adding
    · exact ⟨blueprint.name, (List.mem_singleton.mp given).symm⟩
    · obtain ⟨iface, -, rfl⟩ := List.mem_map.mp adding
      rcases List.mem_cons.mp given with rfl | last
      · exact ⟨blueprint.name, rfl⟩
      · exact ⟨iface, (List.mem_singleton.mp last).symm⟩
  · split at late
    · obtain rfl := List.mem_singleton.mp late
      exact ⟨blueprint.name, (List.mem_singleton.mp given).symm⟩
    · cases late

theorem staged_building (blueprint : Blueprint) : Staged blueprint.building := by
  have adding : Staged (blueprint.members.map fun iface =>
      .addMember blueprint.name.text iface.text) :=
    List.pairwise_map.mpr (List.pairwise_of_forall fun _ _ _ => Nat.le_refl _)
  have first : Staged (.createBridge blueprint.name.text ::
      blueprint.members.map fun iface => .addMember blueprint.name.text iface.text) :=
    List.pairwise_cons.mpr ⟨fun _ _ _ => Nat.zero_le _, adding⟩
  refine List.pairwise_append.mpr ⟨first, ?_, fun earlier _ later last _ => ?_⟩
  · split
    · exact List.pairwise_singleton _ _
    · exact List.Pairwise.nil
  · split at last
    · obtain rfl := List.mem_singleton.mp last
      exact earlier.stage_le
    · cases last

theorem joined_building (blueprint : Blueprint) :
    blueprint.building.filterMap Action.joined? = blueprint.members.map IfName.text := by
  cases up : blueprint.up <;>
    simp [building, up, Action.joined?, List.filterMap_cons, Function.comp_def]

theorem created_building (blueprint : Blueprint) :
    blueprint.building.filterMap Action.created? = [blueprint.name.text] := by
  cases up : blueprint.up <;>
    simp [building, up, Action.created?, List.filterMap_cons, Function.comp_def]

theorem raised_building (blueprint : Blueprint) :
    blueprint.building.filterMap Action.raised? =
      if blueprint.up then [blueprint.name.text] else [] := by
  cases up : blueprint.up <;>
    simp [building, up, Action.raised?, List.filterMap_cons, Function.comp_def]

theorem Consistent.upOrdered (consistent : Consistent blueprints) :
    UpOrdered (blueprints.flatMap building) where
  canonical action member := by
    obtain ⟨blueprint, -, mine⟩ := List.mem_flatMap.mp member
    exact canonical_of_mem_building mine
  created := by
    refine nodup_picked consistent.names fun blueprint => ?_
    rw [created_building]
  joined := by
    simp only [List.filterMap_flatMap, joined_building, ← List.map_flatMap]
    exact nodup_texts consistent.members
  raised := by
    refine nodup_picked consistent.names fun blueprint => ?_
    rw [raised_building]
    split
    · exact .refl _
    · exact List.nil_sublist _
  staged := staged_flatMap consistent.names (fun _ _ => bridge_of_mem_building) staged_building

theorem bridge_of_mem_dismantling {blueprint : Blueprint} {action : Action}
    (member : action ∈ blueprint.dismantling) : action.bridge = blueprint.name.text := by
  rcases List.mem_append.mp member with removing | late
  · obtain ⟨iface, -, rfl⟩ := List.mem_map.mp removing
    rfl
  · rcases List.mem_cons.mp late with rfl | last
    · rfl
    · obtain rfl := List.mem_singleton.mp last
      rfl

theorem canonical_of_mem_dismantling {blueprint : Blueprint} {action : Action}
    (member : action ∈ blueprint.dismantling) : action.Canonical := by
  refine Action.canonical_of_named fun text given => ?_
  rcases List.mem_append.mp member with removing | late
  · obtain ⟨iface, -, rfl⟩ := List.mem_map.mp removing
    rcases List.mem_cons.mp given with rfl | last
    · exact ⟨blueprint.name, rfl⟩
    · exact ⟨iface, (List.mem_singleton.mp last).symm⟩
  · rcases List.mem_cons.mp late with rfl | last
    · exact ⟨blueprint.name, (List.mem_singleton.mp given).symm⟩
    · obtain rfl := List.mem_singleton.mp last
      exact ⟨blueprint.name, (List.mem_singleton.mp given).symm⟩

theorem staged_dismantling (blueprint : Blueprint) : Staged blueprint.dismantling := by
  refine List.pairwise_append.mpr ⟨?_, ?_, fun earlier removing later _ _ => ?_⟩
  · exact List.pairwise_map.mpr (List.pairwise_of_forall fun _ _ _ => Nat.le_refl _)
  · exact List.pairwise_pair.mpr fun _ => Nat.le_succ 1
  · obtain ⟨iface, -, rfl⟩ := List.mem_map.mp removing
    exact Nat.zero_le _

theorem deleted_dismantling (blueprint : Blueprint) :
    blueprint.dismantling.filterMap Action.deleted? = [blueprint.name.text] := by
  simp [dismantling, Action.deleted?, List.filterMap_cons, Function.comp_def]

theorem downOrdered (distinct : (blueprints.map Blueprint.name).Nodup) :
    DownOrdered (blueprints.flatMap dismantling) where
  canonical action member := by
    obtain ⟨blueprint, -, mine⟩ := List.mem_flatMap.mp member
    exact canonical_of_mem_dismantling mine
  deleted := by
    refine nodup_picked distinct fun blueprint => ?_
    rw [deleted_dismantling]
  staged := staged_flatMap distinct (fun _ _ => bridge_of_mem_dismantling) staged_dismantling

end Blueprint

end NetBridge
