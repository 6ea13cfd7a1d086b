import NetBridge.Proofs.Kernel.Orphans
import NetBridge.Proofs.Topology.Atomicity

namespace NetBridge.Kernel

open Control

variable {kernel after : Kernel} {policy : NamePolicy} {text : String} {name : IfName}

theorem portSlots_of_portless {bridge : Nat} (portless : kernel.portsOf bridge = [])
    (capacity : Nat) : kernel.portSlots bridge capacity = Vector.replicate capacity 0 := by
  rw [portSlots, portless]
  rfl

/-- The listing is empty, whatever disappears during it. -/
theorem outcome_listInterfaces_portless (granted : kernel.refusesHandles = false)
    (named : IfName.ofText policy text = .ok name) {bridge : Link}
    (opened : kernel.bridge name.text = .ok bridge) (portless : kernel.portsOf bridge.index = []) :
    (listInterfaces policy text).outcome plane kernel = (.ok [], kernel.vanish.tally 1 0) := by
  have unnamed : (List.replicate enumSlots 0).filterMap kernel.vanish.nameOfSlot = [] := by
    refine List.filterMap_eq_nil_iff.mpr fun slot member => ?_
    rw [List.eq_of_mem_replicate member, nameOfSlot_zero]
  rw [outcome_listInterfaces_slots granted named, opened]
  dsimp only
  rw [portSlots_of_portless portless, Vector.toList_replicate, unnamed]

/-- No link points at an index before it is given, not even one whose bridge is gone. -/
theorem WellFormed.portsOf_insert (valid : kernel.WellFormed) (name : String) (isBridge : Bool) :
    (kernel.insert name isBridge).portsOf (kernel.lastIndex + 1) = [] := by
  refine List.eq_nil_iff_forall_not_mem.mpr fun port listed => ?_
  obtain ⟨member, owned⟩ := mem_portsOf.mp listed
  rcases List.mem_append.mp member with old | new
  · have low := (valid.sound port old).master_le _ owned
    exact absurd low (Nat.not_succ_le_self _)
  · obtain rfl := List.mem_singleton.mp new
    cases owned

/-- A bridge that is created is down and has no ports and no master, whatever links of its name
there were before. Its listing is empty, its index is beyond every index and every master in the
table, and all other links are as they were. -/
theorem created_bridge_is_bare (reached : kernel.Reachable)
    (created : (createBridge policy text).outcome plane kernel = (.ok (), after)) :
    ∃ name bridge, IfName.ofText policy text = .ok name ∧ bridge.name = name.text ∧
      bridge.isBridge = true ∧ after.links = kernel.links ++ [bridge] ∧
      after.find? name.text = some bridge ∧
      (∀ link ∈ after.links, link.master ≠ some bridge.index) ∧
      (∀ policy text, IfName.ofText policy text = .ok name →
        ∃ listed, (listInterfaces policy text).outcome plane after = (.ok [], listed)) ∧
      bridge.flags.isUp = false ∧ bridge.master = none ∧
      ∀ link ∈ kernel.links, link.index < bridge.index ∧
        ∀ master, link.master = some master → master < bridge.index := by
  have valid := reached.wellFormed
  have performed : (Topology.perform policy (.createBridge text)).outcome plane kernel =
    (.ok (), after) := created
  have granted := granted_of_perform performed
  obtain ⟨name, named, free, rfl⟩ := (createBridge_ok_iff granted).mp created
  have portless := valid.portsOf_insert name.text true
  have found := find?_insert_self free true
  refine ⟨name, Link.fresh (kernel.lastIndex + 1) name.text true, named, rfl, rfl, rfl, found,
    ?_, ?_, Link.isUp_fresh .., rfl, ?_⟩
  · intro link member owned
    have port := mem_portsOf.mpr ⟨member, owned⟩
    exact absurd port (List.eq_nil_iff_forall_not_mem.mp portless link)
  · intro policy text denoted
    exact ⟨_, outcome_listInterfaces_portless granted denoted
      (bridge_eq_ok_iff.mpr ⟨found, rfl⟩) portless⟩
  · intro link member
    have sound := valid.sound link member
    exact ⟨Nat.lt_succ_of_le sound.index_le, fun master owned =>
      Nat.lt_succ_of_le (sound.master_le master owned)⟩

/-- The port of an unplugged bridge is not one of the new bridge of that name. -/
theorem created_bridge_is_bare_replugged :
    ∃ after bridge, (createBridge .truncate "br0").outcome plane (Kernel.new.after unplugging) =
        (.ok (), after) ∧
      after.links = [{ Link.fresh 1 "lo" false with flags := .union .up .loopback },
        (Link.fresh 2 "eth0" false).attached 3 1, bridge] ∧
      (∀ link ∈ after.links, link.master ≠ some bridge.index) ∧ 3 < bridge.index ∧
      ∃ listed, (listInterfaces .reject "br0").outcome plane after = (.ok [], listed) := by
  have done : ((createBridge .truncate "br0").outcome plane (Kernel.new.after unplugging)).1 =
      .ok () := by decide +kernel
  have before : (Kernel.new.after unplugging).links =
      [{ Link.fresh 1 "lo" false with flags := .union .up .loopback },
        (Link.fresh 2 "eth0" false).attached 3 1] := by decide +kernel
  have created := Prod.ext done rfl
  obtain ⟨name, bridge, named, -, -, links, -, portless, lists, -, -, beyond⟩ :=
    created_bridge_is_bare (Reachable.new.after unplugging) created
  rw [before] at links beyond
  have dangling := (beyond ((Link.fresh 2 "eth0" false).attached 3 1) (by simp)).2 3 rfl
  have same : IfName.ofText .reject "br0" = .ok name := by
    have both : IfName.ofText .reject "br0" = IfName.ofText .truncate "br0" := by decide
    exact both.trans named
  exact ⟨_, bridge, created, links, portless, dangling, lists .reject "br0" same⟩

end NetBridge.Kernel
