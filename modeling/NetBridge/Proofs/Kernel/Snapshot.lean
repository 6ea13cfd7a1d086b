import Mathlib.Data.List.Nodup
import NetBridge.Proofs.Kernel.Membership

namespace NetBridge.Kernel

open Control

variable {kernel : Kernel} {policy : NamePolicy}

theorem refusesHandles_vanish (kernel : Kernel) :
    kernel.vanish.refusesHandles = kernel.refusesHandles := by
  obtain ⟨left, -, gone⟩ := kernel.vanish_eq
  rw [gone]

/-- After an enumeration nothing is left to disappear. -/
theorem WellFormed.ready_vanish (valid : kernel.WellFormed) (granted : kernel.refusesHandles = false)
    (few : kernel.lastIndex < slotBound) : kernel.vanish.Ready where
  valid := valid.vanish
  granted := kernel.refusesHandles_vanish.trans granted
  quiet := rfl
  few := by rwa [lastIndex_vanish]

/-- The bridges that the listing has room for and that do not disappear meanwhile. -/
def listedBridges (kernel : Kernel) : List Link :=
  kernel.shownBridges.filterMap fun bridge => kernel.vanish.get? bridge.index

theorem WellFormed.mem_listedBridges (valid : kernel.WellFormed) {bridge : Link}
    (listed : bridge ∈ kernel.listedBridges) :
    bridge ∈ kernel.vanish.links ∧ bridge.isBridge = true := by
  obtain ⟨shown, member, found⟩ := List.mem_filterMap.mp listed
  obtain ⟨live, kind⟩ := mem_of_mem_shownBridges member
  have left := mem_of_get? found
  obtain rfl := valid.eq_of_index (links_vanish_subset kernel left) live (index_of_get? found)
  exact ⟨left, kind⟩

theorem WellFormed.pairwise_listedBridges (valid : kernel.WellFormed) :
    kernel.listedBridges.Pairwise fun a b => a.index < b.index := by
  have shown : kernel.shownBridges.Pairwise fun a b => a.index < b.index :=
    (valid.ordered.filter _).sublist (List.take_sublist ..)
  refine shown.filterMap _ fun first second before a foundA b foundB => ?_
  rwa [index_of_get? foundA, index_of_get? foundB]

theorem outcome_listBridges_listed (granted : kernel.refusesHandles = false)
    (valid : kernel.WellFormed) (few : kernel.lastIndex < slotBound) :
    listBridges.outcome plane kernel =
      (.ok (kernel.listedBridges.map Link.name), kernel.vanish.tally 1 0) := by
  rw [outcome_listBridges_vanish granted valid few, listedBridges, List.map_filterMap]

theorem shownPorts_tally (kernel : Kernel) (handles requests bridge : Nat) :
    (kernel.tally handles requests).shownPorts bridge = kernel.shownPorts bridge := rfl

def portrait (kernel : Kernel) (bridge : Link) : Snapshot :=
  ⟨bridge.name, kernel.shownPorts bridge.index⟩

theorem Ready.outcome_listInterfaces_live (ready : kernel.Ready) (named : kernel.BridgesNamed)
    {bridge : Link} (live : bridge ∈ kernel.links) (kind : bridge.isBridge = true) :
    (listInterfaces policy bridge.name).outcome plane kernel =
      (.ok (kernel.shownPorts bridge.index), kernel.tally 1 0) := by
  obtain ⟨name, same⟩ := named bridge live kind
  have opened : kernel.bridge name.text = .ok bridge :=
    bridge_eq_ok_iff.mpr ⟨same ▸ ready.valid.find?_bridge bridge live kind, kind⟩
  rw [← same, ready.outcome_listInterfaces (IfName.ofText_text policy name), opened]

theorem Ready.outcome_snapshot (ready : kernel.Ready) (named : kernel.BridgesNamed) {bridge : Link}
    (live : bridge ∈ kernel.links) (kind : bridge.isBridge = true) :
    (snapshot policy bridge.name).outcome plane kernel =
      (.ok (kernel.portrait bridge), kernel.tally 1 0) := by
  have listed : (listInterfaces policy bridge.name).outcome plane kernel = _ :=
    ready.outcome_listInterfaces_live named live kind
  obtain ⟨name, same⟩ := named bridge live kind
  rw [← same] at listed
  rw [← same, snapshot, Procedure.outcome_bind_ok _ _
    (outcome_name_ok plane kernel (IfName.ofText_text policy name)),
    Procedure.outcome_bind_ok _ _ listed, portrait, ← same]
  rfl

theorem Ready.outcome_snapshots (ready : kernel.Ready) (named : kernel.BridgesNamed)
    {bridges : List Link} (live : ∀ bridge ∈ bridges, bridge ∈ kernel.links ∧ bridge.isBridge = true) :
    (snapshots policy (bridges.map Link.name)).outcome plane kernel =
      (.ok (bridges.map kernel.portrait), kernel.tally bridges.length 0) := by
  induction bridges generalizing kernel with
  | nil => rfl
  | cons bridge rest ih =>
    obtain ⟨here, later⟩ := List.forall_mem_cons.mp live
    rw [List.map_cons, snapshots, Procedure.outcome_bind_ok _ _
      (ready.outcome_snapshot named here.1 here.2),
      Procedure.outcome_bind_ok _ _ (ih (ready.tally 1 0) named later), tally_tally]
    rw [Nat.add_comm, ← List.length_cons]
    rfl

/-- Snapshots of all bridges are those of the bridges listed, at the moment after the listing. -/
theorem outcome_snapshotAll (granted : kernel.refusesHandles = false) (valid : kernel.WellFormed)
    (few : kernel.lastIndex < slotBound) (named : kernel.vanish.BridgesNamed) :
    (snapshotAll policy).outcome plane kernel =
      (.ok (kernel.listedBridges.map kernel.vanish.portrait),
        (kernel.vanish.tally 1 0).tally kernel.listedBridges.length 0) := by
  have ready := (valid.ready_vanish granted few).tally 1 0
  rw [snapshotAll, Procedure.outcome_bind_ok _ _ (outcome_listBridges_listed granted valid few),
    ready.outcome_snapshots named fun _ => valid.mem_listedBridges]
  rfl

/-- A link is a port of one bridge, under one number. -/
theorem WellFormed.nodup_flatMap_listedPorts (valid : kernel.WellFormed) {bridges : List Link}
    (apart : bridges.Pairwise fun a b => a.index < b.index) :
    (bridges.flatMap fun bridge => kernel.listedPorts bridge.index).Nodup := by
  refine List.nodup_flatMap.mpr ⟨fun bridge _ => ?_, apart.imp fun before port first second => ?_⟩
  · exact (pairwise_listedPorts kernel bridge.index).imp fun before same =>
      Nat.ne_of_lt before (congrArg Link.portNo same)
  · obtain ⟨-, one, -⟩ := valid.mem_listedPorts.mp first
    obtain ⟨-, two, -⟩ := valid.mem_listedPorts.mp second
    exact Nat.ne_of_lt before (Option.some.inj (one.symm.trans two))

theorem WellFormed.nodup_portraits (valid : kernel.WellFormed)
    (distinct : ∀ a ∈ kernel.links, ∀ b ∈ kernel.links, a.name = b.name → a = b)
    {bridges : List Link} (apart : bridges.Pairwise fun a b => a.index < b.index) :
    ((bridges.map kernel.portrait).flatMap Snapshot.interfaces).Nodup := by
  have ports : (bridges.map kernel.portrait).flatMap Snapshot.interfaces =
      (bridges.flatMap fun bridge => kernel.listedPorts bridge.index).map Link.name := by
    rw [List.flatMap_map, List.map_flatMap]
    refine List.flatMap_congr fun bridge _ => ?_
    rw [map_listedPorts, portrait]
  have live : ∀ port ∈ bridges.flatMap fun bridge => kernel.listedPorts bridge.index,
      port ∈ kernel.links := by
    intro port member
    obtain ⟨bridge, -, listed⟩ := List.mem_flatMap.mp member
    exact (valid.mem_listedPorts.mp listed).1
  rw [ports]
  refine (valid.nodup_flatMap_listedPorts apart).map_on fun a memberA b memberB same => ?_
  exact distinct a (live a memberA) b (live b memberB) same

/-- Where handles are granted, snapshots of all bridges are always had, whatever disappears meanwhile.
They are of the bridges that a listing would have named, with the members that each has after the
listing, and nothing changes beyond what the listing changes; where no two links share a name, no
interface is in them twice. -/
theorem snapshots_partition (reached : kernel.Reachable) (granted : kernel.refusesHandles = false)
    (few : kernel.lastIndex < slotBound) (policy : NamePolicy) :
    ∃ (entries : List Snapshot) (listed : Kernel),
      (snapshotAll policy).outcome plane kernel = (.ok entries, listed.tally entries.length 0) ∧
      listBridges.outcome plane kernel = (.ok (entries.map Snapshot.name), listed) ∧
      (∀ entry ∈ entries, ∀ policy, ∃ later,
        (listInterfaces policy entry.name).outcome plane listed = (.ok entry.interfaces, later)) ∧
      ((kernel.links.map Link.name).Nodup → (entries.flatMap Snapshot.interfaces).Nodup) := by
  have valid := reached.wellFormed
  have settled : (listBridges.outcome plane kernel).2.Reachable := reached.outcome _
  rw [outcome_listBridges_listed granted valid few] at settled
  have named : kernel.vanish.BridgesNamed := settled.bridgesNamed
  have ready := valid.ready_vanish granted few
  refine ⟨kernel.listedBridges.map kernel.vanish.portrait, kernel.vanish.tally 1 0, ?_, ?_, ?_, ?_⟩
  · rw [outcome_snapshotAll granted valid few named, List.length_map]
  · rw [outcome_listBridges_listed granted valid few, List.map_map]
    rfl
  · intro entry member policy
    obtain ⟨bridge, listed, rfl⟩ := List.mem_map.mp member
    obtain ⟨live, kind⟩ := valid.mem_listedBridges listed
    have shown : (listInterfaces policy bridge.name).outcome plane _ = _ :=
      (ready.tally 1 0).outcome_listInterfaces_live named live kind
    rw [shownPorts_tally] at shown
    dsimp only [portrait]
    exact ⟨_, shown⟩
  · intro distinct
    refine valid.vanish.nodup_portraits (fun a left b right same => ?_) valid.pairwise_listedBridges
    exact List.inj_on_of_nodup_map distinct (links_vanish_subset kernel left)
      (links_vanish_subset kernel right) same

/-- A bridge and a port of another disappear during the listing; the bridge leaves a port behind that
belongs to none any more. -/
def dwindling : List Move :=
  [.happen (.addLink "eth0"), .happen (.addLink "eth1"), .happen (.addLink "eth2"),
    .operate .truncate (.createBridge "br0"), .operate .truncate (.createBridge "br1"),
    .operate .truncate (.createBridge "br2"), .operate .truncate (.addInterface "br0" "eth0"),
    .operate .truncate (.addInterface "br1" "eth1"), .operate .truncate (.addInterface "br0" "eth2"),
    .happen (.vanishDuringListing "br1"), .happen (.vanishDuringListing "eth0")]

theorem snapshots_partition_dwindling :
    ∃ (entries : List Snapshot) (listed : Kernel),
      (snapshotAll .reject).outcome plane (Kernel.new.after dwindling) =
        (.ok entries, listed.tally entries.length 0) ∧
      listBridges.outcome plane (Kernel.new.after dwindling) = (.ok ["br0", "br2"], listed) ∧
      entries = [⟨"br0", ["eth2"]⟩, ⟨"br2", []⟩] ∧
      (entries.flatMap Snapshot.interfaces).Nodup := by
  obtain ⟨entries, listed, shown, names, -, once⟩ := snapshots_partition
    (Reachable.new.after dwindling) (by decide +kernel) (by decide +kernel) .reject
  have result : ((snapshotAll .reject).outcome plane (Kernel.new.after dwindling)).1 =
      .ok [⟨"br0", ["eth2"]⟩, ⟨"br2", []⟩] := by decide +kernel
  obtain rfl : entries = [⟨"br0", ["eth2"]⟩, ⟨"br2", []⟩] := by
    rw [shown] at result
    exact Except.ok.inj result
  exact ⟨_, listed, shown, names, rfl, once (by decide +kernel)⟩

end NetBridge.Kernel
