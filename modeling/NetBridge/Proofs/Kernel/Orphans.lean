import NetBridge.Proofs.Kernel.Attachment
import NetBridge.Proofs.Kernel.Listing
import NetBridge.Proofs.Kernel.Origin
import NetBridge.Proofs.Moments

namespace NetBridge.Kernel

open Control

/-- A live link that points at a bridge which is gone. -/
structure Orphan (kernel : Kernel) (link : Link) (master : Nat) : Prop where
  live : link ∈ kernel.links
  owned : link.master = some master
  gone : kernel.get? master = none

/-- The index of the bridge is spent, and the link is live as it was but for its flags, or gone. -/
structure Stuck (kernel : Kernel) (link : Link) (master : Nat) : Prop where
  valid : kernel.WellFormed
  owned : link.master = some master
  index_le : link.index ≤ kernel.lastIndex
  master_le : master ≤ kernel.lastIndex
  gone : ∀ other ∈ kernel.links, other.index ≠ master
  kept : ∀ now ∈ kernel.links, now.index = link.index → ∃ flags, now = { link with flags := flags }

variable {kernel : Kernel} {link : Link} {master : Nat}

theorem lastIndex_le_play (kernel : Kernel) (incident : Incident) :
    kernel.lastIndex ≤ (incident.play kernel).2.lastIndex := by
  cases incident with
  | call asked => exact kernel.lastIndex_le_answer asked
  | addLink name => exact Nat.le_succ _
  | removeLink name =>
    obtain ⟨left, -, removed⟩ := kernel.removeLink_eq name
    exact Nat.le_of_eq (congrArg lastIndex removed).symm
  | vanishDuringListing name => exact Nat.le_refl _
  | refuseHandles refuse => exact Nat.le_refl _
  | isUp name => exact Nat.le_refl _

theorem slot_injective {a b : Nat} (smallA : a < UInt32.size) (smallB : b < UInt32.size)
    (same : Int32.ofNat a = Int32.ofNat b) : a = b := by
  have words : UInt32.ofNat a = UInt32.ofNat b := congrArg Int32.toUInt32 same
  calc
    a = (UInt32.ofNat a).toNat := (UInt32.toNat_ofNat_of_lt smallA).symm
    _ = (UInt32.ofNat b).toNat := congrArg UInt32.toNat words
    _ = b := UInt32.toNat_ofNat_of_lt smallB

theorem Orphan.stuck (orphan : kernel.Orphan link master) (valid : kernel.WellFormed) :
    kernel.Stuck link master where
  valid := valid
  owned := orphan.owned
  index_le := (valid.sound link orphan.live).index_le
  master_le := (valid.sound link orphan.live).master_le master orphan.owned
  gone := get?_eq_none_iff.mp orphan.gone
  kept _ live same := ⟨link.flags, valid.eq_of_index live orphan.live same⟩

namespace Stuck

/-- Only a bridge that is live lets a link go, and only a link without a master becomes a port. -/
theorem play (stuck : kernel.Stuck link master) (incident : Incident) :
    (incident.play kernel).2.Stuck link master where
  valid := stuck.valid.play incident
  owned := stuck.owned
  index_le := Nat.le_trans stuck.index_le (kernel.lastIndex_le_play incident)
  master_le := Nat.le_trans stuck.master_le (kernel.lastIndex_le_play incident)
  gone other live same := by
    cases stuck.valid.origin_play incident live with
    | kept member flags => exact stuck.gone _ member same
    | freed member => exact stuck.gone _ member same
    | attached member => exact stuck.gone _ member same
    -- A new index is above all that were given, and so is not that of the bridge.
    | created name free => exact absurd (same ▸ stuck.master_le) (Nat.not_succ_le_self _)
    | added name => exact absurd (same ▸ stuck.master_le) (Nat.not_succ_le_self _)
  kept now live same := by
    cases stuck.valid.origin_play incident live with
    | kept member flags =>
      obtain ⟨_, rfl⟩ := stuck.kept _ member same
      exact ⟨flags, rfl⟩
    | freed member bridge kind owned =>
      obtain ⟨_, rfl⟩ := stuck.kept _ member same
      have dead := Option.some.inj (owned.symm.trans stuck.owned)
      exact absurd dead (stuck.gone _ bridge)
    | attached member free =>
      obtain ⟨_, rfl⟩ := stuck.kept _ member same
      cases free.symm.trans stuck.owned
    | created name free => exact absurd (same ▸ stuck.index_le) (Nat.not_succ_le_self _)
    | added name => exact absurd (same ▸ stuck.index_le) (Nat.not_succ_le_self _)

theorem countMutation (stuck : kernel.Stuck link master) : kernel.countMutation.Stuck link master :=
  { stuck with valid := stuck.valid.congr rfl rfl }

variable (stuck : kernel.Stuck link master) {now bridge : Link}
include stuck

theorem foreign (live : now ∈ kernel.links) (same : now.index = link.index)
    (member : bridge ∈ kernel.links) : now.master ≠ some bridge.index := by
  obtain ⟨_, rfl⟩ := stuck.kept now live same
  intro owned
  have dead := Option.some.inj (owned.symm.trans stuck.owned)
  exact stuck.gone bridge member dead

/-- Every used slot of a listing is that of another link. -/
theorem mem_portSlots (member : bridge ∈ kernel.links) {capacity : Nat} {slot : Int32}
    (reported : slot ∈ (kernel.portSlots bridge.index capacity).toList) :
    slot = 0 ∨ ∃ port ∈ kernel.links, port.index ≠ link.index ∧ slot = Int32.ofNat port.index := by
  rw [stuck.valid.toList_portSlots] at reported
  obtain ⟨number, -, rfl⟩ := List.mem_map.mp reported
  unfold slotOf
  cases found : kernel.portAt? bridge.index number with
  | none => exact .inl rfl
  | some port =>
    obtain ⟨live, owned, -⟩ := mem_of_portAt? found
    exact .inr ⟨port, live, fun same => stuck.foreign live same member owned, rfl⟩

theorem not_mem_portSlots (live : now ∈ kernel.links) (same : now.index = link.index)
    (words : kernel.lastIndex < UInt32.size) (member : bridge ∈ kernel.links) (capacity : Nat) :
    Int32.ofNat link.index ∉ (kernel.portSlots bridge.index capacity).toList := by
  intro reported
  have low {other : Link} (live : other ∈ kernel.links) : other.index < UInt32.size :=
    Nat.lt_of_le_of_lt (stuck.valid.sound other live).index_le words
  have zero : Int32.ofNat link.index ≠ Int32.ofNat 0 := by
    rw [← same]
    exact fun null => Nat.ne_of_gt (stuck.valid.sound now live).index_pos
      (slot_injective (low live) (by decide) null)
  rcases stuck.mem_portSlots member reported with null | ⟨port, present, other, shared⟩
  · exact zero null
  · exact other (slot_injective (same ▸ low live) (low present) shared).symm

theorem addPort_refused (live : now ∈ kernel.links) (same : now.index = link.index)
    {name : String} (opened : kernel.bridge name = .ok bridge) (other : bridge.index ≠ link.index) :
    kernel.addPort name link.index = .error .EBUSY := by
  have located := stuck.valid.get?_index live
  have occupied : now.master.isSome := by
    obtain ⟨_, rfl⟩ := stuck.kept now live same
    exact Option.isSome_of_mem stuck.owned
  rw [← same] at other ⊢
  rw [addPort_eq_admits located, admits, opened]
  simp only [if_neg other, if_pos occupied]
  rfl

theorem deletePort_refused (live : now ∈ kernel.links) (same : now.index = link.index)
    {name : String} (opened : kernel.bridge name = .ok bridge) :
    kernel.deletePort name link.index = .error .EINVAL := by
  have located := stuck.valid.get?_index live
  have member := mem_of_find? (bridge_eq_ok_iff.mp opened).1
  rw [← same, deletePort, opened]
  simp only [bind, Except.bind, located, if_neg (stuck.foreign live same member)]
  rfl

end Stuck

/-- The ports of the bridge are let go, and every other bridge that was live still is. -/
theorem orphan_of_deleteBridge {name : IfName}
    (orphan : (kernel.answerRequest (.deleteBridge name)).2.Orphan link master) :
    kernel.Orphan link master := by
  rcases kernel.mutate_cases (·.deleteBridge name.text) with
    ⟨after, granted, done⟩ | ⟨cause, -, done⟩
  · obtain ⟨bridge, -, -, -, rfl⟩ := deleteBridge_eq_ok_iff.mp granted
    obtain ⟨live, owned, gone⟩ := (congrArg (·.2.Orphan link master) done).mp orphan
    obtain ⟨old, left, rfl⟩ := List.mem_map.mp live
    rw [detachAll_eq_change, get?_change (.freed _), Option.map_eq_none_iff,
      get?_eq_none_iff] at gone
    by_cases port : old.master = some bridge.index
    · rw [if_pos port] at owned
      cases owned
    · rw [if_neg port] at owned ⊢
      refine ⟨(List.mem_filter.mp left).1, owned, get?_eq_none_iff.mpr fun other member same => ?_⟩
      have apart : other.index ≠ bridge.index := by
        rw [same]
        exact fun shared => port (owned.trans (congrArg some shared))
      exact gone other (List.mem_filter.mpr ⟨member, by simpa using apart⟩) same
  · obtain ⟨live, owned, gone⟩ := (congrArg (·.2.Orphan link master) done).mp orphan
    exact ⟨live, owned, gone⟩

/-- A link whose bridge was unplugged keeps its master and its port number for as long as it is
live, in the middle of an operation too: no listing of a bridge reports it, for another bridge it
is busy, and no bridge can let it go. The index of its bridge is never live again. A bridge that is
deleted leaves no such link behind. -/
theorem orphans_stay_stuck (reached : kernel.Reachable) :
    (∀ link master, kernel.Orphan link master → ∀ moves, ∀ later ∈ moments moves kernel,
      later.get? master = none ∧
      ∀ now ∈ later.links, now.index = link.index →
        now.master = some master ∧ now.portNo = link.portNo ∧
        (∀ name capacity slots after,
          later.answerRequest (.portIndices name capacity) = (.ok slots, after) →
          (∀ slot ∈ slots.toList, slot = 0 ∨ ∃ port ∈ later.links,
            port.index ≠ link.index ∧ slot = Int32.ofNat port.index) ∧
          (later.lastIndex < UInt32.size → Int32.ofNat link.index ∉ slots.toList)) ∧
        ∀ (name : IfName) (bridge : Link) (port : IfIndex), later.bridge name.text = .ok bridge →
          port.toNat = link.index →
          (bridge.index ≠ link.index →
            later.answerRequest (.addPort name port) = (.error .EBUSY, later.countMutation)) ∧
          later.answerRequest (.deletePort name port) = (.error .EINVAL, later.countMutation)) ∧
    ∀ name link master, (kernel.answerRequest (.deleteBridge name)).2.Orphan link master →
      kernel.Orphan link master := by
  refine ⟨fun link master orphan moves later passed => ?_,
    fun name link master => orphan_of_deleteBridge⟩
  have kept (incident : Incident) (kernel : Kernel) (before : kernel.Stuck link master) :
      (incident.play kernel).2.Stuck link master := before.play incident
  have stuck := forall_mem_moments kept moves (orphan.stuck reached.wellFormed) later passed
  refine ⟨get?_eq_none_iff.mpr stuck.gone, fun now live same => ?_⟩
  have same_port : now.master = some master ∧ now.portNo = link.portNo := by
    obtain ⟨_, rfl⟩ := stuck.kept now live same
    exact ⟨stuck.owned, rfl⟩
  refine ⟨same_port.1, same_port.2, fun name capacity slots after listed => ?_,
    fun name bridge port opened indexed => ⟨fun other => ?_, ?_⟩⟩
  · rcases later.portIndices_cases name capacity with ⟨bridge, opened, done⟩ | ⟨cause, -, done⟩
    · obtain ⟨reply, -⟩ := Prod.mk.inj (done.symm.trans listed)
      obtain rfl := Except.ok.inj reply
      have member := mem_of_find? (bridge_eq_ok_iff.mp opened).1
      exact ⟨fun slot => stuck.mem_portSlots member,
        fun words => stuck.not_mem_portSlots live same words member capacity⟩
    · cases done.symm.trans listed
  · have busy := stuck.countMutation.addPort_refused live same opened other
    rw [answerRequest, mutate, indexed, busy]
  · have foreign := stuck.countMutation.deletePort_refused live same opened
    rw [answerRequest, mutate, indexed, foreign]

/-- The bridge of a port is unplugged, and the port keeps pointing at it. -/
def unplugging : List Move :=
  [.happen (.addLink "eth0"), .operate .truncate (.createBridge "br0"),
    .operate .truncate (.addInterface "br0" "eth0"), .happen (.removeLink "br0")]

/-- A new bridge takes the name; the port can be brought up, but is out of reach as a port. -/
def replacing : List Move :=
  [.operate .truncate (.createBridge "br0"), .operate .truncate (.addInterface "br0" "eth0"),
    .operate .truncate (.removeInterface "br0" "eth0"),
    .operate .truncate (.setLinkUp "eth0" true)]

theorem orphans_stay_stuck_replaced :
    let later := (Kernel.new.after unplugging).after replacing
    let bridge : IfName := ⟨"br0", by decide, by decide, by decide⟩
    let eth0 : Link := { (Link.fresh 2 "eth0" false).attached 3 1 with
      flags := (LinkFlags.union .broadcast .multicast).setUp true }
    eth0 ∈ later.links ∧ later.get? 3 = none ∧
    later.answerRequest (.addPort bridge ⟨2, by decide⟩) = (.error .EBUSY, later.countMutation) ∧
    later.answerRequest (.deletePort bridge ⟨2, by decide⟩) =
      (.error .EINVAL, later.countMutation) ∧
    ∀ name link master,
      ((Kernel.new.after unplugging).answerRequest (.deleteBridge name)).2.Orphan link master →
      (Kernel.new.after unplugging).Orphan link master := by
  intro later bridge eth0
  have orphan :
      (Kernel.new.after unplugging).Orphan ((Link.fresh 2 "eth0" false).attached 3 1) 3 := by
    constructor <;> decide +kernel
  have live : eth0 ∈ later.links := by decide +kernel
  have opened : later.bridge "br0" = .ok (Link.fresh 4 "br0" true) := by decide +kernel
  obtain ⟨stays, freed⟩ := orphans_stay_stuck (Reachable.new.after unplugging)
  obtain ⟨gone, each⟩ := stays _ 3 orphan replacing later (mem_moments_after replacing _)
  obtain ⟨-, -, -, stuck⟩ := each eth0 live rfl
  obtain ⟨busy, foreign⟩ := stuck bridge _ ⟨2, by decide⟩ opened rfl
  exact ⟨live, gone, busy (by decide), foreign, freed⟩

end NetBridge.Kernel
