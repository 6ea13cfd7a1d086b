import Mathlib.Data.List.Nodup
import NetBridge.Proofs.Config.Consistency
import NetBridge.Proofs.Kernel.Razing
import NetBridge.Proofs.Topology.Site

/-! Tearing declared bridges down, whatever stands. The plan is made of what is seen at first and
carried out on tables that its own steps have changed; each bridge taken apart leaves what is
planned for the others as it was. -/

namespace NetBridge

/-- The names of the declared bridges under the policy; a text that denotes none is left out. -/
def Config.bridgeNames (config : Config) : List String :=
  config.bridges.filterMap fun declared =>
    (IfName.ofText config.policy declared.name).toOption.map IfName.text

namespace Blueprint

def names (blueprints : List Blueprint) : List String :=
  blueprints.map fun blueprint => blueprint.name.text

theorem bridgeNames_eq {config : Config} {blueprints : List Blueprint}
    (denoted : Denotes config.policy config.bridges blueprints) :
    config.bridgeNames = names blueprints := by
  have named (declared : List Declaration) (blueprints : List Blueprint)
      (denoted : Denotes config.policy declared blueprints) :
      (declared.filterMap fun declared =>
        (IfName.ofText config.policy declared.name).toOption.map IfName.text) =
        names blueprints := by
    induction denoted with
    | nil => rfl
    | cons head tail ih =>
      rw [List.filterMap_cons, head.name, ih]
      rfl
  exact named config.bridges blueprints denoted

/-- Bridges that can be taken apart in any order: all of different names, and none of them a member
of itself or of another. -/
structure Separate (blueprints : List Blueprint) : Prop where
  names : (names blueprints).Nodup
  members : ∀ blueprint ∈ blueprints, blueprint.members.Nodup
  apart : ∀ blueprint ∈ blueprints, ∀ iface ∈ blueprint.members,
    iface.text ∉ Blueprint.names blueprints

theorem Separate.of_consistent {blueprints : List Blueprint} (consistent : Consistent blueprints)
    (apart : ∀ blueprint ∈ blueprints, ∀ iface ∈ blueprint.members,
      iface.text ∉ Blueprint.names blueprints) : Separate blueprints where
  names := by
    have texts := consistent.names.map (f := IfName.text) fun _ _ => IfName.ext_text
    rwa [List.map_map] at texts
  members blueprint member :=
    (List.nodup_flatMap.mp consistent.members).1 blueprint member
  apart := apart

theorem Separate.reverse {blueprints : List Blueprint} (separate : Separate blueprints) :
    Separate blueprints.reverse where
  names := by
    rw [Blueprint.names, List.map_reverse]
    exact List.nodup_reverse.mpr separate.names
  members blueprint member := separate.members blueprint (List.mem_reverse.mp member)
  apart blueprint member iface mine := by
    rw [Blueprint.names, List.map_reverse, List.mem_reverse]
    exact separate.apart blueprint (List.mem_reverse.mp member) iface mine

theorem separate_cons {first : Blueprint} {rest : List Blueprint}
    (separate : Separate (first :: rest)) :
    first.name ∉ first.members ∧ Separate rest ∧ ∀ blueprint ∈ rest,
      blueprint.name.text ≠ first.name.text ∧
        ∀ iface ∈ blueprint.members, iface.text ≠ first.name.text := by
  obtain ⟨once, distinct⟩ := List.nodup_cons.mp separate.names
  obtain ⟨mine, theirs⟩ := List.forall_mem_cons.mp separate.apart
  refine ⟨fun itself => mine first.name itself (List.mem_cons_self ..), ⟨distinct, ?_, ?_⟩,
    fun blueprint member => ⟨fun same => once ?_, ?_⟩⟩
  · exact fun blueprint member => separate.members blueprint (List.mem_cons_of_mem _ member)
  · exact fun blueprint member iface inside =>
      List.not_mem_of_not_mem_cons (theirs blueprint member iface inside)
  · exact List.mem_map.mpr ⟨blueprint, member, same⟩
  · exact fun iface inside => List.ne_of_not_mem_cons (theirs blueprint member iface inside)

end Blueprint

namespace Kernel

/-- A kernel in which every bridge is listed and every link is looked up by its own name. -/
structure Distinct (kernel : Kernel) : Prop where
  ready : kernel.Ready
  fits : kernel.bridges.length ≤ Control.enumSlots
  names : (kernel.links.map Link.name).Nodup

namespace Distinct

variable {kernel after : Kernel} {link : Link}

theorem find?_name (distinct : kernel.Distinct) (member : link ∈ kernel.links) :
    kernel.find? link.name = some link := by
  cases found : kernel.find? link.name with
  | none => exact absurd rfl (find?_eq_none_iff.mp found link member)
  | some other =>
    exact congrArg some (List.inj_on_of_nodup_map distinct.names (mem_of_find? found) member
      (name_of_find? found))

theorem razed (distinct : kernel.Distinct) {names : List String} (ready : after.Ready)
    (left : after.links = razed names kernel.links) : after.Distinct where
  ready := ready
  fits := Nat.le_trans (bridges_razed left) distinct.fits
  names := by
    rw [left]
    exact distinct.names.sublist (map_name_razed names kernel.links)

end Distinct

end Kernel

namespace Topology

open Blueprint Control Kernel

variable (policy : NamePolicy) {kernel after : Kernel}

/-- What is planned for one bridge is not affected by the end of others, none of which is among its
members. -/
theorem pending_dismantling_razed (distinct : kernel.Distinct) {names : List String}
    (left : after.links = razed names kernel.links) {blueprint : Blueprint}
    (other : blueprint.name.text ∉ names)
    (apart : ∀ iface ∈ blueprint.members, iface.text ∉ names) :
    after.pending blueprint.dismantling = kernel.pending blueprint.dismantling :=
  pending_dismantling_congr (showsBridge_razed distinct.fits left other)
    (fun iface mine => showsPort_razed distinct.fits left other distinct.ready.valid
      (apart iface mine))
    (showsUp_razed distinct.fits left other)

/-- Where every bridge is listed, the plan for one takes it away and nothing else. -/
theorem execute_dismantling_razes (distinct : kernel.Distinct) {blueprint : Blueprint}
    (members : blueprint.members.Nodup) (apart : blueprint.name ∉ blueprint.members) :
    ∃ after, (execute policy (kernel.pending blueprint.dismantling)).outcome plane kernel =
        (.ok (), after) ∧
      after.Ready ∧ after.links = razed [blueprint.name.text] kernel.links ∧
      after.lastIndex = kernel.lastIndex ∧ after.openHandles = kernel.openHandles := by
  by_cases shown : kernel.ShowsBridge blueprint.name.text
  · obtain ⟨bridge, listed, named, found, kind⟩ := shown.found distinct.ready.valid
    obtain ⟨live, -⟩ := mem_of_mem_shownBridges listed
    have site : Site kernel blueprint.name bridge.index bridge.flags.isUp
        (kernel.without bridge.index) := ⟨distinct.ready, ⟨bridge, found, rfl, kind, rfl⟩, rfl⟩
    have gone := named ▸ distinct.ready.valid.razed_singleton live kind
    rw [gone]
    refine execute_dismantling policy site distinct.fits members apart fun iface _ seen => ?_
    obtain ⟨owner, other, same, port, member, owned, -, called⟩ := seen
    obtain rfl := distinct.ready.valid.eq_of_shown other listed (same.trans named.symm)
    exact ⟨port, called ▸ distinct.find?_name member, owned⟩
  · have absent : ∀ link ∈ kernel.links, ¬ link.Doomed [blueprint.name.text] := by
      rintro link member ⟨kind, named⟩
      exact shown ((showsBridge_iff_of_fits distinct.fits).mpr
        ⟨link, member, kind, List.mem_singleton.mp named⟩)
    rw [pending_dismantling_of_absent shown, razed_of_absent absent]
    exact ⟨kernel, rfl, distinct.ready, rfl, rfl, rfl⟩

/-- The run lemma: every step planned at first can be taken when it is reached. -/
theorem execute_demolition (distinct : kernel.Distinct) {blueprints : List Blueprint}
    (separate : Separate blueprints) :
    ∃ after, (execute policy (kernel.pending (blueprints.flatMap dismantling))).outcome plane
        kernel = (.ok (), after) ∧
      after.Ready ∧ after.links = razed (names blueprints) kernel.links ∧
      after.lastIndex = kernel.lastIndex ∧ after.openHandles = kernel.openHandles := by
  induction blueprints generalizing kernel with
  | nil =>
    have spared : ∀ link ∈ kernel.links, ¬ link.Doomed [] := fun _ _ doomed => nomatch doomed.2
    exact ⟨kernel, rfl, distinct.ready, (razed_of_absent spared).symm, rfl, rfl⟩
  | cons first rest ih =>
    obtain ⟨apart, others, clear⟩ := separate_cons separate
    obtain ⟨middle, removing, ready, gone, last, handles⟩ := execute_dismantling_razes policy
      distinct (separate.members first (List.mem_cons_self ..)) apart
    -- What was planned for the others is what would be planned for them now.
    have planned : middle.pending (rest.flatMap dismantling) =
        kernel.pending (rest.flatMap dismantling) := by
      simp only [pending, List.filter_flatMap]
      refine List.flatMap_congr fun blueprint member => ?_
      obtain ⟨other, strangers⟩ := clear blueprint member
      exact pending_dismantling_razed distinct gone (fun same => other (List.mem_singleton.mp same))
        fun iface mine same => strangers iface mine (List.mem_singleton.mp same)
    obtain ⟨after, done, finalReady, left, still, kept⟩ := ih (distinct.razed ready gone) others
    refine ⟨after, ?_, finalReady, ?_, still.trans last, kept.trans handles⟩
    · rw [List.flatMap_cons, pending_append, ← planned]
      exact (execute_append_ok_iff plane kernel).mpr ⟨middle, removing, done⟩
    · rw [left, gone]
      exact razed_razed first.name.text (names rest) kernel.links

/-- Where no two links share a name, every bridge is listed and no declared bridge is a declared
member, tearing a configuration down always completes: the declared bridges are gone, every port of
theirs is free, nothing else has changed, and nothing is left to plan. -/
theorem down_razes {kernel : Kernel} {config : Config} (reached : kernel.Reachable)
    (granted : kernel.refusesHandles = false) (quiet : kernel.vanishing = [])
    (few : kernel.lastIndex < slotBound) (distinct : (kernel.links.map Link.name).Nodup)
    (fits : kernel.bridges.length ≤ enumSlots) (accepted : config.validate = .ok ())
    (apart : ∀ declared ∈ config.bridges, ∀ text ∈ declared.members, ∀ iface,
      IfName.ofText config.policy text = .ok iface → iface.text ∉ config.bridgeNames) :
    ∃ down surveyed final,
      (planDown config.policy config.bridges).outcome plane kernel = (.ok down, surveyed) ∧
      (execute config.policy down).outcome plane surveyed = (.ok (), final) ∧
      final = { kernel with
        links := razed config.bridgeNames kernel.links
        acquired := final.acquired
        mutations := final.mutations } ∧
      ((planDown config.policy config.bridges).outcome plane final).1 = .ok [] := by
  obtain ⟨-, blueprints, denoted, consistent⟩ := Config.validate_eq_ok_iff.mp accepted
  have declaredNames := bridgeNames_eq denoted
  have ready : kernel.Ready := ⟨reached.wellFormed, granted, quiet, few⟩
  have separate : Separate blueprints := by
    refine .of_consistent consistent fun blueprint member iface mine => ?_
    obtain ⟨declared, listed, denotes⟩ := exists_of_mem_right denoted member
    obtain ⟨text, written, named⟩ := exists_of_mem_right denotes.members mine
    exact declaredNames ▸ apart declared listed text written iface named
  obtain ⟨handles, planned⟩ := outcome_planDown ready denoted
  have start : (kernel.tally handles 0).Distinct := ⟨ready.tally handles 0, fits, distinct⟩
  obtain ⟨final, done, finalReady, left, last, held⟩ :=
    execute_demolition config.policy start separate.reverse
  have ordered : razed (names blueprints.reverse) kernel.links =
      razed config.bridgeNames kernel.links := by
    refine razed_congr (fun name => ?_) kernel.links
    rw [declaredNames, names, List.map_reverse, List.mem_reverse, names]
  obtain ⟨more, again⟩ := outcome_planDown finalReady denoted
  refine ⟨_, _, final, planned, done, ?_, ?_⟩
  · have refusals := finalReady.granted.trans granted.symm
    have vanishing := finalReady.quiet.trans quiet.symm
    have links := left.trans ordered
    cases final
    cases links
    cases last
    cases held
    cases refusals
    cases vanishing
    rfl
  · have nothing : final.pending (blueprints.reverse.flatMap dismantling) = [] := by
      simp only [pending, List.filter_flatMap, List.flatMap_eq_nil_iff]
      intro blueprint member
      exact pending_dismantling_of_absent
        (not_showsBridge_razed left (List.mem_map_of_mem member))
    rw [again, nothing]

/-- A member that is not declared is let go as well, and a plain link of a declared name stays. -/
theorem down_razes_undeclared_member :
    ∃ kernel down final,
      kernel = Kernel.new.after [.happen (.addLink "eth0"), .happen (.addLink "eth1"),
        .happen (.addLink "br1"), .operate .truncate (.createBridge "br0"),
        .operate .truncate (.addInterface "br0" "eth0"),
        .operate .truncate (.addInterface "br0" "eth1"), .operate .truncate (.setLinkUp "br0" true)] ∧
      ((planDown .truncate [⟨"br0", ["eth0"], true⟩, ⟨"br1", [], true⟩]).outcome plane kernel).1 =
        .ok down ∧
      (execute .truncate down).outcome plane
        ((planDown .truncate [⟨"br0", ["eth0"], true⟩, ⟨"br1", [], true⟩]).outcome plane kernel).2 =
        (.ok (), final) ∧
      final.links = (Kernel.new.after [.happen (.addLink "eth0"), .happen (.addLink "eth1"),
        .happen (.addLink "br1")]).links := by
  have apart : ∀ iface, IfName.ofText .truncate "eth0" = .ok iface → iface.text ∉ ["br0", "br1"] := by
    intro iface named
    have text : (IfName.ofText .truncate "eth0").map IfName.text = .ok "eth0" := by decide +kernel
    rw [named] at text
    rw [show iface.text = "eth0" from Except.ok.inj text]
    decide
  have bridgeNames : Config.bridgeNames ⟨.truncate, "info", [⟨"br0", ["eth0"], true⟩,
      ⟨"br1", [], true⟩]⟩ = ["br0", "br1"] := by decide +kernel
  obtain ⟨down, surveyed, final, planned, done, same, -⟩ := down_razes
    (Reachable.new.after [.happen (.addLink "eth0"), .happen (.addLink "eth1"),
      .happen (.addLink "br1"), .operate .truncate (.createBridge "br0"),
      .operate .truncate (.addInterface "br0" "eth0"),
      .operate .truncate (.addInterface "br0" "eth1"), .operate .truncate (.setLinkUp "br0" true)])
    (by decide +kernel) (by decide +kernel) (by decide +kernel) (by decide +kernel)
    (by decide +kernel)
    (by decide +kernel : Config.validate ⟨.truncate, "info", [⟨"br0", ["eth0"], true⟩,
      ⟨"br1", [], true⟩]⟩ = .ok ())
    (List.forall_mem_cons.mpr ⟨List.forall_mem_singleton.mpr (bridgeNames ▸ apart),
      List.forall_mem_singleton.mpr nofun⟩)
  refine ⟨_, down, final, rfl, congrArg Prod.fst planned, ?_, ?_⟩
  · rw [planned]
    exact done
  · rw [same]
    dsimp only
    decide +kernel

end Topology

end NetBridge
