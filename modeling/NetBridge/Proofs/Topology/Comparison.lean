import NetBridge.Proofs.Topology.Difference
import NetBridge.Proofs.Topology.Growth
import NetBridge.Proofs.Kernel.Razing

namespace NetBridge

namespace Kernel

/-- A live link of this name has the live bridge of that name as its master. -/
def LivePort (kernel : Kernel) (name iface : String) : Prop :=
  ∃ bridge ∈ kernel.links, bridge.isBridge = true ∧ bridge.name = name ∧
    ∃ port ∈ kernel.links, port.master = some bridge.index ∧ port.name = iface

/-- A live bridge has this name, and it is up. -/
def LiveUp (kernel : Kernel) (name : String) : Prop :=
  ∃ bridge ∈ kernel.links, bridge.isBridge = true ∧ bridge.name = name ∧ bridge.flags.isUp = true

instance (kernel : Kernel) (name : String) : Decidable (kernel.LiveBridge name) :=
  inferInstanceAs (Decidable (∃ bridge ∈ kernel.links, bridge.isBridge = true ∧ bridge.name = name))

instance (kernel : Kernel) (name iface : String) : Decidable (kernel.LivePort name iface) :=
  inferInstanceAs (Decidable (∃ bridge ∈ kernel.links, bridge.isBridge = true ∧ bridge.name = name ∧
    ∃ port ∈ kernel.links, port.master = some bridge.index ∧ port.name = iface))

instance (kernel : Kernel) (name : String) : Decidable (kernel.LiveUp name) :=
  inferInstanceAs (Decidable (∃ bridge ∈ kernel.links, bridge.isBridge = true ∧
    bridge.name = name ∧ bridge.flags.isUp = true))

/-- What the link table lacks of a declared bridge. -/
def shortfall (kernel : Kernel) (blueprint : Blueprint) : List Action :=
  (if kernel.LiveBridge blueprint.name.text then [] else [.createBridge blueprint.name.text]) ++
  ((blueprint.members.filter fun iface =>
      ¬ kernel.LivePort blueprint.name.text iface.text).map fun iface =>
    .addMember blueprint.name.text iface.text) ++
  if blueprint.up ∧ ¬ kernel.LiveUp blueprint.name.text then [.linkUp blueprint.name.text] else []

/-- What the link table has of a declared bridge. -/
def remnant (kernel : Kernel) (blueprint : Blueprint) : List Action :=
  if kernel.LiveBridge blueprint.name.text then
    ((blueprint.members.filter fun iface =>
        kernel.LivePort blueprint.name.text iface.text).map fun iface =>
      .removeMember blueprint.name.text iface.text) ++
    (if kernel.LiveUp blueprint.name.text then [.linkDown blueprint.name.text] else []) ++
    [.deleteBridge blueprint.name.text]
  else []

namespace InView

variable {kernel : Kernel} {name iface : String}

theorem showsBridge_iff (view : kernel.InView) :
    kernel.ShowsBridge name ↔ kernel.LiveBridge name := showsBridge_iff_of_fits view.bridges

theorem showsPort_iff (view : kernel.InView) :
    kernel.ShowsPort name iface ↔ kernel.LivePort name iface := by
  rw [showsPort_iff_of_fits view.bridges]
  refine exists_congr fun bridge => and_congr_right fun live => and_congr_right fun kind =>
    and_congr_right fun named => exists_congr fun port => and_congr_right fun member => ?_
  exact and_congr_right fun owned => and_iff_right (view.ports port member)

theorem showsUp_iff (view : kernel.InView) : kernel.ShowsUp name ↔ kernel.LiveUp name :=
  showsUp_iff_of_fits view.bridges

theorem pending_building (view : kernel.InView) (blueprint : Blueprint) :
    kernel.pending blueprint.building = kernel.shortfall blueprint := by
  have created : kernel.Achieved (.createBridge blueprint.name.text) ↔
      kernel.LiveBridge blueprint.name.text := view.showsBridge_iff
  have joined (iface : IfName) : kernel.Achieved (.addMember blueprint.name.text iface.text) ↔
      kernel.LivePort blueprint.name.text iface.text := view.showsPort_iff
  have risen : kernel.Achieved (.linkUp blueprint.name.text) ↔
      kernel.LiveUp blueprint.name.text := view.showsUp_iff
  rw [Blueprint.building, shortfall, ← List.singleton_append, pending_append, pending_append]
  congr 1
  · congr 1
    · by_cases live : kernel.LiveBridge blueprint.name.text <;> simp [pending, created, live]
    · simp only [pending, List.filter_map, Function.comp_def, joined]
  · by_cases up : blueprint.up = true <;>
      by_cases live : kernel.LiveUp blueprint.name.text <;> simp [pending, up, risen, live]

theorem pending_dismantling (view : kernel.InView) (blueprint : Blueprint) :
    kernel.pending blueprint.dismantling = kernel.remnant blueprint := by
  by_cases present : kernel.ShowsBridge blueprint.name.text
  · rw [Topology.pending_dismantling_of_present present, remnant,
      if_pos (view.showsBridge_iff.mp present)]
    simp only [view.showsPort_iff, view.showsUp_iff]
  · rw [Topology.pending_dismantling_of_absent present, remnant,
      if_neg (mt view.showsBridge_iff.mpr present)]

end InView

end Kernel

namespace Topology

open Blueprint Control Kernel

variable {kernel : Kernel}

/-- A plan to bring declared bridges up is what the link table lacks of them, in order of
declaration; a plan to take them down is what the table has of them, last declared first. Neither
planner does anything to the kernel but take handles. -/
theorem plans_eq_difference (reached : kernel.Reachable) (granted : kernel.refusesHandles = false)
    (quiet : kernel.vanishing = []) (few : kernel.lastIndex < slotBound) (view : kernel.InView)
    (policy : NamePolicy) (declared : List Declaration)
    (valid : ∀ declaration ∈ declared, ∀ text ∈ declaration.name :: declaration.members,
      ∃ name, IfName.ofText policy text = .ok name) :
    ∃ blueprints, Denotes policy declared blueprints ∧
      (∃ handles, (planUp policy declared).outcome plane kernel =
        (.ok (blueprints.flatMap kernel.shortfall), kernel.tally handles 0)) ∧
      ∃ handles, (planDown policy declared).outcome plane kernel =
        (.ok (blueprints.reverse.flatMap kernel.remnant), kernel.tally handles 0) := by
  obtain ⟨blueprints, denoted⟩ := exists_denotes valid
  have ready : kernel.Ready := ⟨reached.wellFormed, granted, quiet, few⟩
  obtain ⟨more, up⟩ := outcome_planUp ready denoted
  obtain ⟨other, down⟩ := outcome_planDown ready denoted
  rw [pending_flatMap] at up down
  simp only [view.pending_building] at up
  simp only [view.pending_dismantling] at down
  exact ⟨blueprints, denoted, ⟨more, up⟩, ⟨other, down⟩⟩

/-- A bridge with one of two members, and a plain link that has the name of another bridge. -/
def halfBuilt : List Move :=
  [.happen (.addLink "eth0"), .happen (.addLink "eth1"), .happen (.addLink "br1"),
    .operate .truncate (.createBridge "br0"), .operate .truncate (.addInterface "br0" "eth0"),
    .operate .truncate (.setLinkUp "br0" true)]

theorem plans_eq_difference_half_built :
    ∃ blueprints, Denotes .truncate [⟨"br0", ["eth0", "eth1"], true⟩, ⟨"br1", [], true⟩] blueprints ∧
      blueprints.flatMap (Kernel.new.after halfBuilt).shortfall =
        [.addMember "br0" "eth1", .createBridge "br1", .linkUp "br1"] ∧
      blueprints.reverse.flatMap (Kernel.new.after halfBuilt).remnant =
        [.removeMember "br0" "eth0", .linkDown "br0", .deleteBridge "br0"] := by
  have named (iface : IfName) : ∃ name, IfName.ofText .truncate iface.text = .ok name :=
    ⟨iface, IfName.ofText_text .truncate iface⟩
  obtain ⟨blueprints, denoted, ⟨_, up⟩, _, down⟩ := plans_eq_difference
    (Reachable.new.after halfBuilt) (by decide +kernel) (by decide +kernel) (by decide +kernel)
    ⟨by decide +kernel, by decide +kernel⟩ .truncate
    [⟨"br0", ["eth0", "eth1"], true⟩, ⟨"br1", [], true⟩] (by
      refine List.forall_mem_cons.mpr ⟨?_, List.forall_mem_singleton.mpr ?_⟩
      · exact List.forall_mem_cons.mpr ⟨named ⟨"br0", by decide, by decide, by decide⟩,
          List.forall_mem_cons.mpr ⟨named ⟨"eth0", by decide, by decide, by decide⟩,
            List.forall_mem_singleton.mpr (named ⟨"eth1", by decide, by decide, by decide⟩)⟩⟩
      · exact List.forall_mem_singleton.mpr (named ⟨"br1", by decide, by decide, by decide⟩))
  have raised : ((planUp .truncate [⟨"br0", ["eth0", "eth1"], true⟩, ⟨"br1", [], true⟩]).outcome
      plane (Kernel.new.after halfBuilt)).1 =
      .ok [.addMember "br0" "eth1", .createBridge "br1", .linkUp "br1"] := by decide +kernel
  have razed : ((planDown .truncate [⟨"br0", ["eth0", "eth1"], true⟩, ⟨"br1", [], true⟩]).outcome
      plane (Kernel.new.after halfBuilt)).1 =
      .ok [.removeMember "br0" "eth0", .linkDown "br0", .deleteBridge "br0"] := by decide +kernel
  exact ⟨blueprints, denoted, Except.ok.inj ((congrArg Prod.fst up).symm.trans raised),
    Except.ok.inj ((congrArg Prod.fst down).symm.trans razed)⟩

end Topology

end NetBridge
