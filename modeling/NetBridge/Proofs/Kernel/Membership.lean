import NetBridge.Proofs.Kernel.Listing
import NetBridge.Proofs.Kernel.Origin
import NetBridge.Proofs.Moments

namespace NetBridge.Kernel

open Control

variable {kernel : Kernel}

theorem pairwise_listedPorts (kernel : Kernel) (bridge : Nat) :
    (kernel.listedPorts bridge).Pairwise fun a b => a.portNo < b.portNo := by
  refine List.pairwise_lt_range.filterMap _ fun low high below a foundA b foundB => ?_
  obtain ⟨-, -, rfl⟩ := mem_of_portAt? foundA
  obtain ⟨-, -, rfl⟩ := mem_of_portAt? foundB
  exact below

/-- The smallest positive number that no member of the bridge has. -/
structure LowestUnused (kernel : Kernel) (bridge number : Nat) : Prop where
  positive : 0 < number
  unused : ∀ port ∈ kernel.links, port.master = some bridge → port.portNo ≠ number
  least : ∀ other, 0 < other →
    (∀ port ∈ kernel.links, port.master = some bridge → port.portNo ≠ other) → number ≤ other

theorem lowestUnused_freeNumber (kernel : Kernel) (bridge : Nat) :
    kernel.LowestUnused bridge (kernel.freeNumber bridge) where
  positive := freeNumber_pos kernel bridge
  unused port member owned := freeNumber_unused kernel bridge port (mem_portsOf.mpr ⟨member, owned⟩)
  least other positive unused := by
    refine Nat.le_of_not_lt fun below => ?_
    obtain ⟨port, member, same⟩ := List.mem_map.mp (mem_of_lt_lowestFree positive below)
    obtain ⟨live, owned⟩ := mem_portsOf.mp member
    exact unused port live owned same

theorem WellFormed.nodup_portsOf (valid : kernel.WellFormed) (bridge : Nat) :
    (kernel.portsOf bridge).Nodup := by
  refine (valid.ordered.filter _).imp fun before same => ?_
  exact Nat.lt_irrefl _ (same ▸ before)

/-- A link that joins a bridge comes on top of those that are its members already. -/
theorem WellFormed.length_portsOf_attached (valid : kernel.WellFormed) {port : Link}
    (member : port ∈ kernel.links) (free : port.master = none) (bridge number : Nat) :
    (kernel.portsOf bridge).length + 1 ≤
      ((kernel.modify port.index (Link.attached · bridge number)).portsOf bridge).length := by
  have fresh : port.attached bridge number ∉ kernel.portsOf bridge := by
    intro present
    have same := valid.eq_of_index (mem_portsOf.mp present).1 member rfl
    have owned : port.master = some bridge := same ▸ rfl
    rw [free] at owned
    cases owned
  have grown : port.attached bridge number :: kernel.portsOf bridge ⊆
      (kernel.modify port.index (Link.attached · bridge number)).portsOf bridge := by
    intro link present
    rcases List.mem_cons.mp present with rfl | old
    · exact mem_portsOf.mpr ⟨List.mem_map.mpr ⟨port, member, if_pos rfl⟩, rfl⟩
    · obtain ⟨live, owned⟩ := mem_portsOf.mp old
      have other : link.index ≠ port.index := by
        intro same
        obtain rfl := valid.eq_of_index live member same
        rw [free] at owned
        cases owned
      exact mem_portsOf.mpr ⟨List.mem_map.mpr ⟨link, live, if_neg other⟩, owned⟩
  exact (List.nodup_cons.mpr ⟨fresh, valid.nodup_portsOf bridge⟩).length_le_of_subset grown

/-- The number of a new member is at most the number of members it makes. -/
theorem WellFormed.freeNumber_le_length (valid : kernel.WellFormed) {port : Link}
    (member : port ∈ kernel.links) (free : port.master = none) (bridge : Nat) :
    kernel.freeNumber bridge ≤ ((kernel.modify port.index
      (Link.attached · bridge (kernel.freeNumber bridge))).portsOf bridge).length :=
  Nat.le_trans (freeNumber_le kernel bridge) (valid.length_portsOf_attached member free bridge _)

/-- No member of the bridge has a number above the limit. -/
def NumberedTo (kernel : Kernel) (bridge limit : Nat) : Prop :=
  ∀ port ∈ kernel.links, port.master = some bridge → port.portNo ≤ limit

theorem NumberedTo.play {bridge limit : Nat} (numbered : kernel.NumberedTo bridge limit)
    (valid : kernel.WellFormed) (incident : Incident)
    (few : ((incident.play kernel).2.portsOf bridge).length ≤ limit) :
    (incident.play kernel).2.NumberedTo bridge limit := by
  intro port live owned
  cases valid.origin_play incident live with
  | kept member flags => exact (numbered _ member owned :)
  | freed member => cases owned
  | attached member free _ _ done =>
    obtain rfl := Option.some.inj owned
    refine Nat.le_trans (valid.freeNumber_le_length member free _) ?_
    rwa [portsOf, done, ← portsOf] at few
  | created name => cases owned
  | added name => cases owned

/-- The numbers of a bridge never exceed the most members it had at once. -/
theorem numberedTo_after {bridge limit : Nat} (moves : List Move)
    (few : ∀ moment ∈ moments moves .new, (moment.portsOf bridge).length ≤ limit) :
    (Kernel.new.after moves).NumberedTo bridge limit := by
  have initial : Kernel.new.WellFormed ∧ Kernel.new.NumberedTo bridge limit := by
    refine ⟨.new, fun port live owned => ?_⟩
    obtain rfl := List.mem_singleton.mp live
    cases owned
  have kept (incident : Incident) (kernel : Kernel)
      (before : kernel.WellFormed ∧ kernel.NumberedTo bridge limit)
      (allowed : ((incident.play kernel).2.portsOf bridge).length ≤ limit) :
      (incident.play kernel).2.WellFormed ∧ (incident.play kernel).2.NumberedTo bridge limit :=
    ⟨before.1.play incident, before.2.play before.1 incident allowed⟩
  exact (holds_after kept moves initial few).2

theorem WellFormed.addPort_numbers (valid : kernel.WellFormed) {name : IfName} {port : IfIndex}
    {after : Kernel} (granted : kernel.answerRequest (.addPort name port) = (.ok (), after)) :
    ∃ bridge link number, kernel.find? name.text = some bridge ∧ bridge.isBridge = true ∧
      kernel.get? port.toNat = some link ∧ kernel.LowestUnused bridge.index number ∧
      after.get? port.toNat = some (link.attached bridge.index number) ∧
      number ≤ (after.portsOf bridge.index).length := by
  rcases kernel.mutate_cases (·.addPort name.text port.toNat) with
    ⟨changed, attached, done⟩ | ⟨cause, -, refused⟩
  · obtain ⟨-, rfl⟩ := Prod.mk.inj (done.symm.trans granted)
    obtain ⟨bridge, link, found, kind, -, located, free, rfl⟩ := addPort_eq_ok_iff.mp attached
    have live := mem_of_get? located
    have indexed := index_of_get? located
    refine ⟨bridge, link, kernel.freeNumber bridge.index, found, kind, located,
      lowestUnused_freeNumber kernel bridge.index, ?_, ?_⟩
    · rw [modify_eq_change, get?_change ((Link.Keeps.attached _ _).only _)]
      exact (congrArg _ located).trans (congrArg some (Link.only_of_eq indexed))
    · rw [← indexed]
      exact valid.freeNumber_le_length live free bridge.index
  · have both := refused.symm.trans granted
    cases both

/-- After any session, the listing of a live bridge gives the names of its members whose number fits
the enumeration, each once and by increasing number, and does nothing else but take a handle; and if
the bridge always had fewer members than the enumeration has slots, none is left out. For a new member
gets the lowest number that is free on its bridge, and this is no larger than the number of members. -/
theorem listing_shows_members (moves : List Move) :
    let kernel := Kernel.new.after moves
    (kernel.refusesHandles = false → kernel.vanishing = [] → kernel.lastIndex < slotBound →
      ∀ bridge ∈ kernel.links, bridge.isBridge = true →
        ∃ (name : IfName) (ports : List Link), name.text = bridge.name ∧
          (∀ policy text, IfName.ofText policy text = .ok name →
            (listInterfaces policy text).outcome plane kernel =
              (.ok (ports.map Link.name), kernel.tally 1 0)) ∧
          ports.Pairwise (fun a b => a.portNo < b.portNo) ∧
          (∀ port, port ∈ ports ↔
            port ∈ kernel.links ∧ port.master = some bridge.index ∧ port.portNo < enumSlots) ∧
          ((∀ moment ∈ moments moves .new, (moment.portsOf bridge.index).length ≤ 1023) →
            ∀ port ∈ kernel.links, port.master = some bridge.index → port ∈ ports)) ∧
    ∀ name port after, kernel.answerRequest (.addPort name port) = (.ok (), after) →
      ∃ bridge link number, kernel.find? name.text = some bridge ∧ bridge.isBridge = true ∧
        kernel.get? port.toNat = some link ∧ kernel.LowestUnused bridge.index number ∧
        after.get? port.toNat = some (link.attached bridge.index number) ∧
        number ≤ (after.portsOf bridge.index).length := by
  intro kernel
  have reached : kernel.Reachable := Reachable.new.after moves
  have valid := reached.wellFormed
  refine ⟨fun granted quiet few bridge live kind => ?_, fun name port after => valid.addPort_numbers⟩
  obtain ⟨name, same⟩ := reached.bridgesNamed bridge live kind
  refine ⟨name, kernel.listedPorts bridge.index, same, ?_, pairwise_listedPorts kernel bridge.index,
    fun port => valid.mem_listedPorts, ?_⟩
  · intro policy text named
    have ready : kernel.Ready := ⟨valid, granted, quiet, few⟩
    have opened : kernel.bridge name.text = .ok bridge :=
      bridge_eq_ok_iff.mpr ⟨same ▸ valid.find?_bridge bridge live kind, kind⟩
    rw [ready.outcome_listInterfaces named, opened, map_listedPorts]
  · intro always port member owned
    have numbered := numberedTo_after moves always port member owned
    exact valid.mem_listedPorts.mpr ⟨member, owned, Nat.lt_succ_of_le numbered⟩

/-- A session in which a member takes over the number of one that left. -/
def reusing : List Move :=
  [.happen (.addLink "eth0"), .happen (.addLink "eth1"), .happen (.addLink "eth2"),
    .operate .truncate (.createBridge "br0"), .operate .truncate (.addInterface "br0" "eth0"),
    .operate .truncate (.addInterface "br0" "eth1"),
    .operate .truncate (.removeInterface "br0" "eth0"),
    .operate .truncate (.addInterface "br0" "eth2")]

theorem listing_shows_members_reused :
    let name : IfName := ⟨"br0", by decide, by decide, by decide⟩
    ∃ (ports : List Link) (after : Kernel),
      (listInterfaces .truncate "br0").outcome plane (Kernel.new.after reusing) =
        (.ok (ports.map Link.name), (Kernel.new.after reusing).tally 1 0) ∧
      ports.Pairwise (fun a b => a.portNo < b.portNo) ∧
      (∀ port ∈ (Kernel.new.after reusing).links, port.master = some 5 → port ∈ ports) ∧
      (Kernel.new.after reusing).answerRequest (.addPort name ⟨2, by decide⟩) = (.ok (), after) ∧
      ∃ number, (Kernel.new.after reusing).LowestUnused 5 number ∧
        number ≤ (after.portsOf 5).length := by
  intro name
  have few : ∀ moment ∈ moments reusing .new, (moment.portsOf 5).length ≤ 1023 := by
    decide +kernel
  have found : (Kernel.new.after reusing).find? "br0" =
      some ⟨5, "br0", true, none, 0, .union .broadcast .multicast⟩ := by decide +kernel
  have granted : ((Kernel.new.after reusing).answerRequest (.addPort name ⟨2, by decide⟩)).1 =
      .ok () := by decide +kernel
  obtain ⟨shows, numbers⟩ := listing_shows_members reusing
  obtain ⟨other, ports, same, listed, sorted, -, complete⟩ := shows (by decide +kernel)
    (by decide +kernel) (by decide +kernel) _ (mem_of_find? found) rfl
  obtain rfl : other = name := IfName.ext_text same
  obtain ⟨bridge, link, number, located, -, -, lowest, -, bound⟩ :=
    numbers name ⟨2, by decide⟩ _ (Prod.ext granted rfl)
  obtain rfl := Option.some.inj (found.symm.trans located)
  exact ⟨ports, _, listed .truncate "br0" (IfName.ofText_text .truncate name), sorted,
    complete few, Prod.ext granted rfl, number, lowest, bound⟩

end NetBridge.Kernel
