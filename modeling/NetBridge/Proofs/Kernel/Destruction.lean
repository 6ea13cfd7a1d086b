import NetBridge.Proofs.Kernel.Listing

namespace NetBridge.Kernel

open Control

variable {kernel : Kernel} {policy : NamePolicy} {bridge : Link} {text : String} {name : IfName}

theorem Ready.outcome_destroyBridge (ready : kernel.Ready)
    (named : IfName.ofText policy text = .ok name) (found : kernel.find? name.text = some bridge)
    (kind : bridge.isBridge = true) :
    (destroyBridge policy text false).outcome plane kernel =
      if kernel.shownPorts bridge.index ≠ [] then
        (.error (.bridgeBusy text (kernel.shownPorts bridge.index)), kernel.tally 1 0)
      else if bridge.flags.isUp then
        (.error (.kernelOperation .deleteBridge name.text (.errno .EBUSY)), kernel.tally 2 1)
      else (.ok (), ((kernel.erase bridge.index).detachAll bridge.index).tally 2 1) := by
  have listed : (listInterfaces policy text).outcome plane kernel =
      (.ok (kernel.shownPorts bridge.index), kernel.tally 1 0) := by
    rw [ready.outcome_listInterfaces named, bridge_eq_ok_iff.mpr ⟨found, kind⟩]
  rw [destroyBridge, Procedure.outcome_bind_ok _ _ listed]
  cases kernel.shownPorts bridge.index with
  | cons first rest => rfl
  | nil =>
    have unforced := outcome_deleteBridge (ready.tally 1 0).granted named
    rw [Kernel.deleteBridge, find?_tally, found] at unforced
    dsimp only at unforced
    rw [kind] at unforced
    refine unforced.trans ?_
    cases bridge.flags.isUp <;> rfl

theorem WellFormed.shownPorts_ne_nil_iff (valid : kernel.WellFormed) (bridge : Nat) :
    kernel.shownPorts bridge ≠ [] ↔
      ∃ port ∈ kernel.links, port.master = some bridge ∧ port.portNo < enumSlots := by
  constructor
  · intro some
    obtain ⟨name, shown⟩ := List.exists_mem_of_ne_nil _ some
    obtain ⟨port, member, owned, inside, -⟩ := valid.mem_shownPorts.mp shown
    exact ⟨port, member, owned, inside⟩
  · rintro ⟨port, member, owned, inside⟩
    exact List.ne_nil_of_mem (valid.mem_shownPorts.mpr ⟨port, member, owned, inside, rfl⟩)

theorem lowestFree_range' (count : Nat) : lowestFree (List.range' 1 count) = count + 1 := by
  have free := lowestFree_not_mem (List.range' 1 count)
  have positive := lowestFree_pos (List.range' 1 count)
  rw [List.mem_range'_1] at free
  rcases Nat.lt_or_ge (count + 1) (lowestFree (List.range' 1 count)) with above | below
  · have taken := mem_of_lt_lowestFree (Nat.succ_pos count) above
    rw [List.mem_range'_1] at taken
    omega
  · omega

theorem WellFormed.links_insert_modify (valid : kernel.WellFormed) (name : String) (isBridge : Bool)
    (f : Link → Link) :
    ((kernel.insert name isBridge).modify (kernel.lastIndex + 1) f).links =
      kernel.links ++ [f (Link.fresh (kernel.lastIndex + 1) name isBridge)] := by
  have older : kernel.links.map (Link.only (kernel.lastIndex + 1) f) = kernel.links := by
    refine (List.map_congr_left fun link member => ?_).trans (List.map_id _)
    have bound := (valid.sound link member).index_le
    exact Link.only_of_ne (by omega)
  have newest : Link.only (kernel.lastIndex + 1) f (Link.fresh (kernel.lastIndex + 1) name isBridge) =
      f (Link.fresh (kernel.lastIndex + 1) name isBridge) := Link.only_of_eq rfl
  simp only [modify_eq_change, Kernel.change, Kernel.insert, List.map_append, older,
    List.map_singleton, newest]

theorem WellFormed.portsOf_detached (valid : kernel.WellFormed) {bridge : Nat} {port : Link}
    {rest : List Link} (ports : kernel.portsOf bridge = port :: rest) :
    (kernel.modify port.index Link.detached).portsOf bridge = rest := by
  have owned : ∀ link ∈ port :: rest, link.master = some bridge := by
    intro link member
    rw [← ports] at member
    exact (mem_portsOf.mp member).2
  have ordered : (port :: rest).Pairwise fun a b => a.index < b.index :=
    ports ▸ valid.ordered.filter _
  obtain ⟨later, -⟩ := List.pairwise_cons.mp ordered
  have apart : ∀ link ∈ rest, link.index ≠ port.index :=
    fun link member => (Nat.ne_of_lt (later link member)).symm
  have still (link : Link) : (Link.only port.index Link.detached link).master = some bridge ↔
      link.master = some bridge ∧ link.index ≠ port.index := by
    by_cases same : link.index = port.index
    · rw [Link.only_of_eq same]
      simp [Link.detached, same]
    · rw [Link.only_of_ne same]
      simp [same]
  calc (kernel.modify port.index Link.detached).portsOf bridge
    _ = (((kernel.portsOf bridge).filter fun link => link.index ≠ port.index).map
          (Link.only port.index Link.detached)) := by
        simp only [portsOf, modify_eq_change, Kernel.change, List.filter_map, List.filter_filter,
          Function.comp_def, still, Bool.decide_and, Bool.and_comm]
    _ = rest.map (Link.only port.index Link.detached) := by
        have others : rest.filter (fun link => link.index ≠ port.index) = rest :=
          List.filter_eq_self.mpr fun link member => by simpa using apart link member
        rw [ports, List.filter_cons_of_neg (by simp), others]
    _ = rest := (List.map_congr_left fun link member => Link.only_of_ne (apart link member)).trans
        (List.map_id _)

theorem Reachable.mutation (before : kernel.Reachable) {request : Request}
    {change : Kernel → Except Errno Kernel} (mutates : Mutates request change) {after : Kernel}
    (granted : change kernel.countMutation = .ok after) : after.Reachable := by
  have reached := before.call (.request ⟨0⟩ request)
  rw [answer, mutates.after, mutate, granted] at reached
  exact reached

theorem WellFormed.exists_index (valid : kernel.WellFormed) (few : kernel.lastIndex < UInt32.size)
    {link : Link} (member : link ∈ kernel.links) :
    ∃ index : IfIndex, index.toNat = link.index ∧ kernel.get? index.toNat = some link := by
  obtain ⟨index, -, same⟩ := valid.ofUInt32?_index few member
  exact ⟨index, same, same ▸ valid.get?_index member⟩

theorem Reachable.addPort (before : kernel.Reachable) (few : kernel.lastIndex < UInt32.size)
    {port : Link} (found : kernel.find? name.text = some bridge) (kind : bridge.isBridge = true)
    (member : port ∈ kernel.links) (other : bridge.index ≠ port.index)
    (free : port.master = none) :
    ((kernel.modify port.index
      (Link.attached · bridge.index (kernel.freeNumber bridge.index))).tally 0 1).Reachable := by
  obtain ⟨index, same, located⟩ := before.wellFormed.exists_index few member
  have reached := before.mutation (.addPort name index)
    (addPort_eq_ok_iff.mpr ⟨bridge, port, found, kind, same ▸ other, located, free, rfl⟩)
  rw [same] at reached
  exact reached

theorem Reachable.deletePort (before : kernel.Reachable) (few : kernel.lastIndex < UInt32.size)
    {port : Link} (found : kernel.find? name.text = some bridge) (kind : bridge.isBridge = true)
    (member : port ∈ kernel.links) (owned : port.master = some bridge.index) :
    ((kernel.modify port.index Link.detached).tally 0 1).Reachable := by
  obtain ⟨index, same, located⟩ := before.wellFormed.exists_index few member
  have reached := before.mutation (.deletePort name index)
    (deletePort_eq_ok_iff.mpr ⟨bridge, port, found, kind, located, owned, rfl⟩)
  rw [same] at reached
  exact reached

/-- A bridge that is down, with ports of these numbers in the order of their indices. -/
structure Crowd (kernel : Kernel) (name : IfName) (numbers : List Nat) : Prop where
  reached : kernel.Reachable
  granted : kernel.refusesHandles = false
  quiet : kernel.vanishing = []
  owner : ∃ bridge, kernel.find? name.text = some bridge ∧ bridge.isBridge = true ∧
    bridge.flags.isUp = false ∧ (kernel.portsOf bridge.index).map Link.portNo = numbers

namespace Crowd

theorem start (name : IfName) (free : Kernel.new.find? name.text = none) :
    Crowd ((Kernel.new.insert name.text true).tally 0 1) name [] := by
  have reached : ((Kernel.new.insert name.text true).tally 0 1).Reachable :=
    Reachable.new.mutation (.addBridge name) (addBridge_eq_ok_iff.mpr ⟨free, rfl⟩)
  exact ⟨reached, rfl, rfl, _, find?_insert_self free true, rfl, Link.isUp_fresh .., rfl⟩

/-- A new link joins under the next number. -/
theorem join {count : Nat} (crowd : Crowd kernel name (List.range' 1 count))
    (few : kernel.lastIndex + 1 < UInt32.size) :
    ∃ after, Crowd after name (List.range' 1 (count + 1)) ∧
      after.lastIndex = kernel.lastIndex + 1 := by
  obtain ⟨bridge, found, kind, down, numbers⟩ := crowd.owner
  have valid := crowd.reached.wellFormed
  have bound := (valid.sound bridge (mem_of_find? found)).index_le
  have older := find?_insert_of_some found "eth0" false
  have newest : Link.fresh (kernel.lastIndex + 1) "eth0" false ∈
      (kernel.insert "eth0" false).links := List.mem_append_right _ (List.mem_singleton_self _)
  have other : bridge.index ≠ kernel.lastIndex + 1 := by omega
  have number : (kernel.insert "eth0" false).freeNumber bridge.index = count + 1 := by
    have ports : (kernel.insert "eth0" false).portsOf bridge.index = kernel.portsOf bridge.index := by
      simp [portsOf, Kernel.insert, Link.fresh]
    rw [freeNumber, ports, numbers, lowestFree_range']
  have plugged : (kernel.insert "eth0" false).Reachable := crowd.reached.incident (.addLink "eth0")
  have reached : (((kernel.insert "eth0" false).modify (kernel.lastIndex + 1)
      (Link.attached · bridge.index (count + 1))).tally 0 1).Reachable :=
    number ▸ plugged.addPort few older kind newest other rfl
  have links := valid.links_insert_modify "eth0" false (Link.attached · bridge.index (count + 1))
  refine ⟨_, ⟨reached, crowd.granted, crowd.quiet, bridge, ?_, kind, down, ?_⟩, rfl⟩
  · rw [find?_tally, find?, links, List.find?_append, ← find?, found, Option.some_or]
  · rw [portsOf, links_tally, links, List.filter_append, List.map_append, ← portsOf, numbers,
      List.range'_1_concat]
    simp [Link.attached, Link.fresh, Nat.add_comm]

theorem leave {first : Nat} {rest : List Nat} (crowd : Crowd kernel name (first :: rest))
    (few : kernel.lastIndex < UInt32.size) :
    ∃ after, Crowd after name rest ∧ after.lastIndex = kernel.lastIndex := by
  obtain ⟨bridge, found, kind, down, numbers⟩ := crowd.owner
  have valid := crowd.reached.wellFormed
  obtain ⟨port, others, ports, -, left⟩ := List.map_eq_cons_iff.mp numbers
  obtain ⟨member, owned⟩ := mem_portsOf.mp (ports ▸ List.mem_cons_self .. : port ∈ _)
  have reached := crowd.reached.deletePort few found kind member owned
  have itself : bridge.index ≠ port.index := by
    intro same
    obtain rfl := valid.eq_of_index (mem_of_find? found) member same
    exact (valid.sound bridge member).master_ne owned
  have still : (kernel.modify port.index Link.detached).find? name.text = some bridge := by
    rw [modify_eq_change, find?_change (Link.Keeps.detached.only port.index), found,
      Option.map_some, Link.only_of_ne itself]
  refine ⟨_, ⟨reached, crowd.granted, crowd.quiet, bridge, still, kind, down, ?_⟩, rfl⟩
  refine (congrArg (List.map Link.portNo) (valid.portsOf_detached ports)).trans left

theorem many {last : Nat} (start : Crowd kernel name []) (first : kernel.lastIndex = last)
    (count : Nat) (few : last + count < UInt32.size) :
    ∃ after, Crowd after name (List.range' 1 count) ∧ after.lastIndex = last + count := by
  induction count with
  | zero => exact ⟨kernel, start, first⟩
  | succ count ih =>
    obtain ⟨middle, crowd, reached⟩ := ih (by omega)
    obtain ⟨after, more, next⟩ := crowd.join (by omega)
    exact ⟨after, more, by omega⟩

theorem fewer {numbers : List Nat} (crowd : Crowd kernel name numbers)
    (few : kernel.lastIndex < UInt32.size) (count : Nat) :
    ∃ after, Crowd after name (numbers.drop count) ∧ after.lastIndex = kernel.lastIndex := by
  induction count generalizing kernel numbers with
  | zero => exact ⟨kernel, crowd, rfl⟩
  | succ count ih =>
    cases numbers with
    | nil => exact ⟨kernel, crowd, rfl⟩
    | cons first rest =>
      obtain ⟨middle, left, same⟩ := crowd.leave few
      obtain ⟨after, done, last⟩ := ih left (same ▸ few)
      exact ⟨after, done, last.trans same⟩

/-- A bridge can have a single port under any number: those before it came first and are gone. -/
theorem alone (name : IfName) (free : Kernel.new.find? name.text = none) (number : Nat)
    (few : number + 3 < UInt32.size) :
    ∃ kernel, Crowd kernel name [number + 1] ∧ kernel.lastIndex = number + 3 := by
  obtain ⟨full, crowd, last⟩ := (start name free).many rfl (number + 1) (by
    show 2 + (number + 1) < UInt32.size
    omega)
  have index : full.lastIndex = number + 3 := last.trans (Nat.add_comm 2 (number + 1))
  obtain ⟨kernel, left, same⟩ := crowd.fewer (by omega) number
  rw [List.drop_range', Nat.add_sub_cancel_left, Nat.mul_one, Nat.add_comm] at left
  exact ⟨kernel, left, same.trans index⟩

end Crowd

/-- Without force a bridge is refused as busy, with the members shown and nothing changed, exactly
when its listing shows a member. A bridge whose ports are all beyond the listing is deleted like one
without ports, unless it is up, when the kernel refuses. -/
theorem destroyBridge_unforced (reached : kernel.Reachable)
    (granted : kernel.refusesHandles = false) (quiet : kernel.vanishing = [])
    (few : kernel.lastIndex < slotBound) (named : IfName.ofText policy text = .ok name)
    (live : bridge ∈ kernel.links) (kind : bridge.isBridge = true)
    (called : bridge.name = name.text) :
    ((∃ port ∈ kernel.links, port.master = some bridge.index ∧ port.portNo < enumSlots) →
      ∃ members, (destroyBridge policy text false).outcome plane kernel =
          (.error (.bridgeBusy text members), kernel.tally 1 0) ∧
        ∀ member, member ∈ members ↔ ∃ port ∈ kernel.links, port.master = some bridge.index ∧
          port.portNo < enumSlots ∧ port.name = member) ∧
    ((∀ port ∈ kernel.links, port.master = some bridge.index → enumSlots ≤ port.portNo) →
      (destroyBridge policy text false).outcome plane kernel =
        if bridge.flags.isUp then
          (.error (.kernelOperation .deleteBridge name.text (.errno .EBUSY)), kernel.tally 2 1)
        else (.ok (), ((kernel.erase bridge.index).detachAll bridge.index).tally 2 1)) := by
  have valid := reached.wellFormed
  have ready : kernel.Ready := ⟨valid, granted, quiet, few⟩
  have found : kernel.find? name.text = some bridge := called ▸ valid.find?_bridge bridge live kind
  rw [ready.outcome_destroyBridge named found kind]
  constructor
  · intro seen
    refine ⟨kernel.shownPorts bridge.index, ?_, fun member => valid.mem_shownPorts⟩
    rw [if_pos ((valid.shownPorts_ne_nil_iff bridge.index).mpr seen)]
  · intro unseen
    refine if_neg fun shown => ?_
    obtain ⟨port, member, owned, inside⟩ := (valid.shownPorts_ne_nil_iff bridge.index).mp shown
    exact Nat.not_lt.mpr (unseen port member owned) inside

/-- A bridge with one member stays. -/
theorem destroyBridge_unforced_one_member :
    ∃ members, (destroyBridge .truncate "br0" false).outcome plane
        (Kernel.new.after [.happen (.addLink "eth0"), .operate .truncate (.createBridge "br0"),
          .operate .truncate (.addInterface "br0" "eth0")]) =
      (.error (.bridgeBusy "br0" members),
        (Kernel.new.after [.happen (.addLink "eth0"), .operate .truncate (.createBridge "br0"),
          .operate .truncate (.addInterface "br0" "eth0")]).tally 1 0) := by
  obtain ⟨busy, -⟩ := destroyBridge_unforced
    (Reachable.new.after [.happen (.addLink "eth0"), .operate .truncate (.createBridge "br0"),
      .operate .truncate (.addInterface "br0" "eth0")]) (by decide +kernel) (by decide +kernel)
    (by decide +kernel) (IfName.ofText_text .truncate ⟨"br0", by decide, by decide, by decide⟩)
    (by decide +kernel : Link.fresh 3 "br0" true ∈ _) rfl rfl
  obtain ⟨members, refused, -⟩ := busy (by decide +kernel)
  exact ⟨members, refused⟩

/-- A bridge with a member that its listing does not show is destroyed without force: as many members
as the listing has room for take the numbers up to the capacity, and all but the last leave. -/
theorem destroyBridge_unseen_member :
    ¬ ∀ (kernel : Kernel) (policy : NamePolicy) (text : String) (name : IfName) (bridge : Link),
      kernel.Reachable → kernel.refusesHandles = false → kernel.vanishing = [] →
      kernel.lastIndex < slotBound → IfName.ofText policy text = .ok name →
      bridge ∈ kernel.links → bridge.isBridge = true → bridge.name = name.text →
      (∃ port ∈ kernel.links, port.master = some bridge.index) →
      ∃ members after, (destroyBridge policy text false).outcome plane kernel =
          (.error (.bridgeBusy text members), after) ∧
        after.links = kernel.links ∧ after.mutations = kernel.mutations := by
  intro promised
  obtain ⟨kernel, crowd, last⟩ := Crowd.alone ⟨"br0", by decide, by decide, by decide⟩ (by decide)
    (enumSlots - 1) (by decide)
  obtain ⟨bridge, found, kind, down, numbers⟩ := crowd.owner
  obtain ⟨port, ports, number⟩ := List.map_eq_singleton_iff.mp numbers
  have attached := mem_portsOf.mp (ports ▸ List.mem_singleton_self port : port ∈ _)
  have few : kernel.lastIndex < slotBound := by
    rw [last]
    decide
  have named := IfName.ofText_text .truncate ⟨"br0", by decide, by decide, by decide⟩
  have live := mem_of_find? found
  have called := name_of_find? found
  obtain ⟨-, destroyed⟩ := destroyBridge_unforced crowd.reached crowd.granted crowd.quiet few named
    live kind called
  have unseen : ∀ other ∈ kernel.links, other.master = some bridge.index →
      enumSlots ≤ other.portNo := by
    intro other member owned
    have single := mem_portsOf.mpr ⟨member, owned⟩
    rw [ports] at single
    obtain rfl := List.mem_singleton.mp single
    exact Nat.le_of_eq number.symm
  obtain ⟨members, after, refused, -⟩ := promised kernel .truncate _ _ bridge crowd.reached
    crowd.granted crowd.quiet few named live kind called ⟨port, attached⟩
  rw [destroyed unseen, down] at refused
  cases refused

end NetBridge.Kernel
