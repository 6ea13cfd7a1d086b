import NetBridge.Proofs.Kernel.Requests
import NetBridge.Proofs.Kernel.WellFormed

namespace NetBridge

/-- An index below the bound survives the passage through the word of a lookup. -/
theorem IfIndex.ofUInt32?_ofNat {index : Nat} (positive : 0 < index) (small : index < UInt32.size) :
    ∃ found, IfIndex.ofUInt32? (UInt32.ofNat index) = some found ∧ found.toNat = index := by
  have whole : (UInt32.ofNat index).toNat = index := UInt32.toNat_ofNat_of_lt small
  have live : UInt32.ofNat index ≠ 0 := by
    intro zero
    rw [zero] at whole
    exact absurd whole (Nat.ne_of_lt positive)
  exact ⟨⟨UInt32.ofNat index, live⟩, by simp [IfIndex.ofUInt32?, live], whole⟩

namespace Kernel

namespace WellFormed

variable {kernel : Kernel}

theorem removeLink (valid : kernel.WellFormed) (name : String) :
    (kernel.removeLink name).WellFormed := by
  unfold Kernel.removeLink
  split
  · exact valid.erase _
  · exact valid

theorem vanish (valid : kernel.WellFormed) : kernel.vanish.WellFormed := by
  have dropped (names : List String) : (names.foldl Kernel.removeLink kernel).WellFormed := by
    induction names generalizing kernel with
    | nil => exact valid
    | cons name rest ih => exact ih (valid.removeLink name)
  exact (dropped kernel.vanishing).congr rfl rfl

/-- A request to change the table keeps the invariant if it does so whenever it is granted. -/
theorem mutate (valid : kernel.WellFormed) {request : Kernel → Except Errno Kernel}
    (kept : ∀ before after, before.WellFormed → request before = .ok after → after.WellFormed) :
    (kernel.mutate request).2.WellFormed := by
  have counted : kernel.countMutation.WellFormed := valid.congr rfl rfl
  rcases kernel.mutate_cases request with ⟨after, granted, done⟩ | ⟨cause, refused, done⟩
  · rw [done]
    exact kept _ after counted granted
  · rw [done]
    exact counted

theorem answerRequest (valid : kernel.WellFormed) (request : Request) :
    (kernel.answerRequest request).2.WellFormed := by
  cases request with
  | addBridge name =>
    refine valid.mutate fun before after valid granted => ?_
    obtain ⟨free, rfl⟩ := addBridge_eq_ok_iff.mp granted
    exact valid.insert fun _ => free
  | deleteBridge name =>
    refine valid.mutate fun before after valid granted => ?_
    obtain ⟨link, -, -, -, rfl⟩ := deleteBridge_eq_ok_iff.mp granted
    exact (valid.erase link.index).detachAll link.index
  | addPort name port =>
    refine valid.mutate fun before after valid granted => ?_
    obtain ⟨bridge, link, found, kind, other, -, -, rfl⟩ := addPort_eq_ok_iff.mp granted
    exact valid.modify_attached (mem_of_find? found) kind other (freeNumber_pos _ _)
      (freeNumber_unused _ _)
  | deletePort name port =>
    refine valid.mutate fun before after valid granted => ?_
    obtain ⟨bridge, link, -, -, -, -, rfl⟩ := deletePort_eq_ok_iff.mp granted
    exact valid.modify_detached _
  | bridgeIndices capacity => exact valid.vanish
  | portIndices name capacity =>
    rcases kernel.portIndices_cases name capacity with ⟨_, -, done⟩ | ⟨_, -, done⟩
    · rw [done]
      exact valid.vanish
    · rw [done]
      exact valid
  | linkFlags name => exact valid
  | setLinkFlags name flags =>
    refine valid.mutate fun before after valid granted => ?_
    obtain ⟨link, -, rfl⟩ := setLinkFlags_eq_ok_iff.mp granted
    exact valid.modify_flags link.index flags

theorem answer (valid : kernel.WellFormed) (call : Call) : (kernel.answer call).2.WellFormed := by
  cases call with
  | acquire =>
    rcases kernel.acquire_cases with ⟨-, done⟩ | ⟨-, done⟩
    · rw [Kernel.answer, done]
      exact valid.congr rfl rfl
    · rw [Kernel.answer, done]
      exact valid
  | release handle => exact valid.congr rfl rfl
  | request handle request => exact valid.answerRequest request
  | nameToIndex name => exact valid
  | indexToName index => exact valid

theorem play (valid : kernel.WellFormed) (incident : Incident) :
    (incident.play kernel).2.WellFormed := by
  cases incident with
  | call asked => exact valid.answer asked
  | addLink name => exact valid.insert nofun
  | removeLink name => exact valid.removeLink name
  | vanishDuringListing name => exact valid.congr rfl rfl
  | refuseHandles refuse => exact valid.congr rfl rfl
  | isUp name => exact valid

end WellFormed

theorem Reachable.wellFormed {kernel : Kernel} (reached : kernel.Reachable) : kernel.WellFormed :=
  reached.invariant WellFormed.new fun incident _ valid => valid.play incident

section LastIndex

variable (kernel : Kernel)

theorem lastIndex_vanish : kernel.vanish.lastIndex = kernel.lastIndex := by
  obtain ⟨left, -, gone⟩ := kernel.vanish_eq
  rw [gone]

theorem lastIndex_le_mutate {request : Kernel → Except Errno Kernel}
    (grows : ∀ before after, request before = .ok after → before.lastIndex ≤ after.lastIndex) :
    kernel.lastIndex ≤ (kernel.mutate request).2.lastIndex := by
  rcases kernel.mutate_cases request with ⟨after, granted, done⟩ | ⟨cause, refused, done⟩
  · rw [done]
    exact grows kernel.countMutation after granted
  · rw [done]
    exact Nat.le_refl _

theorem lastIndex_le_answerRequest (request : Request) :
    kernel.lastIndex ≤ (kernel.answerRequest request).2.lastIndex := by
  cases request with
  | addBridge name =>
    refine kernel.lastIndex_le_mutate fun before after granted => ?_
    obtain ⟨-, rfl⟩ := addBridge_eq_ok_iff.mp granted
    exact Nat.le_succ _
  | deleteBridge name =>
    refine kernel.lastIndex_le_mutate fun before after granted => ?_
    obtain ⟨link, -, -, -, rfl⟩ := deleteBridge_eq_ok_iff.mp granted
    exact Nat.le_refl _
  | addPort name port =>
    refine kernel.lastIndex_le_mutate fun before after granted => ?_
    obtain ⟨bridge, link, -, -, -, -, -, rfl⟩ := addPort_eq_ok_iff.mp granted
    exact Nat.le_refl _
  | deletePort name port =>
    refine kernel.lastIndex_le_mutate fun before after granted => ?_
    obtain ⟨bridge, link, -, -, -, -, rfl⟩ := deletePort_eq_ok_iff.mp granted
    exact Nat.le_refl _
  | bridgeIndices capacity => exact Nat.le_of_eq (lastIndex_vanish kernel).symm
  | portIndices name capacity =>
    rcases kernel.portIndices_cases name capacity with ⟨_, -, done⟩ | ⟨_, -, done⟩
    · exact Nat.le_of_eq ((congrArg (·.2.lastIndex) done).trans (lastIndex_vanish kernel)).symm
    · exact Nat.le_of_eq (congrArg (·.2.lastIndex) done).symm
  | linkFlags name => exact Nat.le_refl _
  | setLinkFlags name flags =>
    refine kernel.lastIndex_le_mutate fun before after granted => ?_
    obtain ⟨link, -, rfl⟩ := setLinkFlags_eq_ok_iff.mp granted
    exact Nat.le_refl _

theorem lastIndex_le_answer (call : Call) : kernel.lastIndex ≤ (kernel.answer call).2.lastIndex := by
  cases call with
  | acquire =>
    rcases kernel.acquire_cases with ⟨-, done⟩ | ⟨-, done⟩ <;>
      exact Nat.le_of_eq (congrArg (·.2.lastIndex) done).symm
  | release handle => exact Nat.le_refl _
  | request handle request => exact kernel.lastIndex_le_answerRequest request
  | nameToIndex name => exact Nat.le_refl _
  | indexToName index => exact Nat.le_refl _

theorem lastIndex_le_outcome (p : Procedure α) :
    kernel.lastIndex ≤ (p.outcome plane kernel).2.lastIndex := by
  have kept : ∀ (call : Call) (state : Kernel), kernel.lastIndex ≤ state.lastIndex →
      kernel.lastIndex ≤ (plane.answer call state).2.lastIndex :=
    fun call state bound => Nat.le_trans bound (state.lastIndex_le_answer call)
  exact Procedure.outcome_preserves kept p (Nat.le_refl _)

end LastIndex

theorem WellFormed.ofUInt32?_index {kernel : Kernel} (valid : kernel.WellFormed)
    (few : kernel.lastIndex < UInt32.size) {link : Link} (member : link ∈ kernel.links) :
    ∃ index, IfIndex.ofUInt32? (UInt32.ofNat link.index) = some index ∧
      index.toNat = link.index :=
  IfIndex.ofUInt32?_ofNat (valid.sound link member).index_pos
    (Nat.lt_of_le_of_lt (valid.sound link member).index_le few)

/-- Only the index of the link itself has to be low. -/
theorem WellFormed.nameToIndex_of_lt {kernel : Kernel} (valid : kernel.WellFormed) {name : String}
    {link : Link} (found : kernel.find? name = some link) (small : link.index < UInt32.size) :
    ∃ index, kernel.nameToIndex name = some index ∧ index.toNat = link.index := by
  obtain ⟨index, word, same⟩ :=
    IfIndex.ofUInt32?_ofNat (valid.sound link (mem_of_find? found)).index_pos small
  exact ⟨index, by rw [Kernel.nameToIndex, found]; exact word, same⟩

theorem WellFormed.nameToIndex_eq {kernel : Kernel} (valid : kernel.WellFormed)
    (few : kernel.lastIndex < UInt32.size) {name : String} {link : Link}
    (found : kernel.find? name = some link) :
    ∃ index, kernel.nameToIndex name = some index ∧ index.toNat = link.index :=
  valid.nameToIndex_of_lt found
    (Nat.lt_of_le_of_lt (valid.sound link (mem_of_find? found)).index_le few)

/-- In every session: indices and masters are in the range given, and no link is its own master;
a port number is zero exactly without a master; two ports of one bridge have different numbers; a
master that is live is a bridge; and live bridges have different names, each of which is looked up
to its bridge whatever plain links carry it. -/
theorem representation_invariant {kernel : Kernel} (reached : kernel.Reachable) :
    (kernel.links.Pairwise fun a b => a.index < b.index) ∧
    (∀ link ∈ kernel.links, 1 ≤ link.index ∧ link.index ≤ kernel.lastIndex ∧
      link.master ≠ some link.index ∧
      ∀ master, link.master = some master → 1 ≤ master ∧ master ≤ kernel.lastIndex) ∧
    (∀ link ∈ kernel.links, link.portNo = 0 ↔ link.master = none) ∧
    (∀ a ∈ kernel.links, ∀ b ∈ kernel.links, a.index ≠ b.index →
      ∀ master, a.master = some master → b.master = some master → a.portNo ≠ b.portNo) ∧
    (∀ port ∈ kernel.links, ∀ bridge ∈ kernel.links, port.master = some bridge.index →
      bridge.isBridge = true) ∧
    (∀ a ∈ kernel.links, ∀ b ∈ kernel.links, a.index ≠ b.index →
      a.isBridge = true → b.isBridge = true → a.name ≠ b.name) ∧
    ∀ bridge ∈ kernel.links, bridge.isBridge = true →
      kernel.find? bridge.name = some bridge ∧
      (kernel.lastIndex < UInt32.size →
        ∃ index, kernel.nameToIndex bridge.name = some index ∧ index.toNat = bridge.index) := by
  have valid := reached.wellFormed
  refine ⟨valid.ordered, ?_, ?_, ?_, valid.master_isBridge, ?_, ?_⟩
  · intro link member
    have sound := valid.sound link member
    exact ⟨sound.index_pos, sound.index_le, sound.master_ne, fun master same =>
      ⟨sound.master_pos master same, sound.master_le master same⟩⟩
  · exact fun link member => (valid.sound link member).portNo_eq_zero_iff
  · intro a ha b hb different master masterA masterB samePort
    have owned : a.master ≠ none := by simp [masterA]
    have same := valid.port_unique a ha b hb owned (masterA.trans masterB.symm) samePort
    exact different (congrArg Link.index same)
  · intro a ha b hb different kindA kindB sameName
    exact different (congrArg Link.index (valid.bridge_unique ha hb kindA kindB sameName))
  · intro bridge member kind
    have found := valid.find?_bridge bridge member kind
    exact ⟨found, fun few => valid.nameToIndex_eq few found⟩

/-- A plain link that takes the name of a bridge later does not hide the bridge. -/
theorem representation_invariant_shadowed :
    (Kernel.new.after [.happen (.addLink "eth0"), .operate .truncate (.createBridge "br0"),
      .operate .truncate (.addInterface "br0" "eth0"), .happen (.addLink "br0")]).find? "br0" =
      some (Link.fresh 3 "br0" true) := by
  obtain ⟨-, -, -, -, -, -, lookup⟩ := representation_invariant
    (Reachable.new.after [.happen (.addLink "eth0"), .operate .truncate (.createBridge "br0"),
      .operate .truncate (.addInterface "br0" "eth0"), .happen (.addLink "br0")])
  exact (lookup (Link.fresh 3 "br0" true) (by decide +kernel) rfl).1

end Kernel

end NetBridge
