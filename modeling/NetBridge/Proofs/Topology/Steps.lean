import NetBridge.Proofs.Kernel.Listing
import NetBridge.Topology

namespace NetBridge.Topology

open Control Kernel

variable {kernel after : Kernel} {policy : NamePolicy}

theorem perform_createBridge_ok_iff (granted : kernel.refusesHandles = false) {bridge : IfName} :
    (perform policy (.createBridge bridge.text)).outcome plane kernel = (.ok (), after) ↔
      kernel.find? bridge.text = none ∧ after = (kernel.insert bridge.text true).tally 1 1 := by
  rw [perform, createBridge_ok_iff granted, IfName.ofText_text]
  simp only [Except.ok.injEq, exists_eq_left']

/-- Whatever indices are given later, a free link of a low index can be attached. -/
theorem perform_addMember_ok (granted : kernel.refusesHandles = false) (valid : kernel.WellFormed)
    {bridge iface : IfName} {owner link : Link} (found : kernel.find? bridge.text = some owner)
    (kind : owner.isBridge = true) (here : kernel.find? iface.text = some link)
    (small : link.index < UInt32.size) (other : owner.index ≠ link.index)
    (free : link.master = none) :
    (perform policy (.addMember bridge.text iface.text)).outcome plane kernel =
      (.ok (), (kernel.modify link.index
        (Link.attached · owner.index (kernel.freeNumber owner.index))).tally 1 1) := by
  obtain ⟨index, resolved, same⟩ := valid.nameToIndex_of_lt here small
  have located := valid.get?_index (mem_of_find? here)
  have added : kernel.addPort bridge.text index.toNat = .ok _ :=
    addPort_eq_ok_iff.mpr ⟨owner, link, found, kind, same ▸ other, same ▸ located, free, rfl⟩
  rw [perform, outcome_addInterface granted (IfName.ofText_text policy bridge)
    (IfName.ofText_text policy iface), resolved]
  dsimp only
  rw [added, same]

/-- The step attaches the link that the member's name is looked up to, as long as indices fit the
word of a lookup. -/
theorem perform_addMember_eq_ok_iff (granted : kernel.refusesHandles = false)
    (valid : kernel.WellFormed) (words : kernel.lastIndex < UInt32.size) {bridge iface : IfName} :
    (perform policy (.addMember bridge.text iface.text)).outcome plane kernel = (.ok (), after) ↔
      ∃ owner link, kernel.find? bridge.text = some owner ∧ owner.isBridge = true ∧
        kernel.find? iface.text = some link ∧ owner.index ≠ link.index ∧ link.master = none ∧
        after = (kernel.modify link.index
          (Link.attached · owner.index (kernel.freeNumber owner.index))).tally 1 1 := by
  constructor
  · intro done
    rw [perform, outcome_addInterface granted (IfName.ofText_text policy bridge)
      (IfName.ofText_text policy iface)] at done
    cases found : kernel.find? iface.text with
    | none =>
      rw [nameToIndex, found] at done
      cases done
    | some link =>
      obtain ⟨index, resolved, same⟩ := valid.nameToIndex_eq words found
      have located := valid.get?_index (mem_of_find? found)
      simp only [resolved, same] at done
      split at done
      · next added =>
        obtain ⟨owner, port, opened, kind, other, here, free, rfl⟩ := addPort_eq_ok_iff.mp added
        obtain rfl := Option.some.inj (located.symm.trans here)
        exact ⟨owner, link, opened, kind, rfl, other, free, (congrArg Prod.snd done).symm⟩
      · cases done
  · rintro ⟨owner, link, found, kind, here, other, free, rfl⟩
    have small := (valid.sound link (mem_of_find? here)).index_le
    exact perform_addMember_ok granted valid found kind here (Nat.lt_of_le_of_lt small words) other
      free

theorem perform_addMember_ok_iff (ready : kernel.Ready) {bridge iface : IfName} :
    (perform policy (.addMember bridge.text iface.text)).outcome plane kernel = (.ok (), after) ↔
      ∃ owner link, kernel.find? bridge.text = some owner ∧ owner.isBridge = true ∧
        kernel.find? iface.text = some link ∧ owner.index ≠ link.index ∧ link.master = none ∧
        after = (kernel.modify link.index
          (Link.attached · owner.index (kernel.freeNumber owner.index))).tally 1 1 :=
  perform_addMember_eq_ok_iff ready.granted ready.valid (Nat.lt_trans ready.few (by decide))

/-- The step detaches the link that the member's name is looked up to. -/
theorem perform_removeMember_ok_iff (ready : kernel.Ready) {bridge iface : IfName} :
    (perform policy (.removeMember bridge.text iface.text)).outcome plane kernel = (.ok (), after) ↔
      ∃ owner link, kernel.find? bridge.text = some owner ∧ owner.isBridge = true ∧
        kernel.find? iface.text = some link ∧ link.master = some owner.index ∧
        after = (kernel.modify link.index Link.detached).tally 1 1 := by
  rw [perform, outcome_removeInterface ready.granted (IfName.ofText_text policy bridge)
    (IfName.ofText_text policy iface)]
  cases found : kernel.find? iface.text with
  | none =>
    rw [nameToIndex, found]
    simp
  | some link =>
    obtain ⟨index, resolved, same⟩ :=
      ready.valid.nameToIndex_eq (Nat.lt_trans ready.few (by decide)) found
    have located := ready.valid.get?_index (mem_of_find? found)
    simp only [resolved, same]
    constructor
    · intro done
      split at done
      · next removed =>
        obtain ⟨owner, port, opened, kind, here, owned, rfl⟩ := deletePort_eq_ok_iff.mp removed
        obtain rfl := Option.some.inj (located.symm.trans here)
        exact ⟨owner, link, opened, kind, rfl, owned, (congrArg Prod.snd done).symm⟩
      · cases done
    · rintro ⟨owner, port, opened, kind, here, owned, rfl⟩
      obtain rfl := Option.some.inj here
      rw [deletePort_eq_ok_iff.mpr ⟨owner, link, opened, kind, located, owned, rfl⟩]

theorem setLinkUp_ok_iff (granted : kernel.refusesHandles = false) {name : IfName} {up : Bool} :
    (setLinkUp policy name.text up).outcome plane kernel = (.ok (), after) ↔
      ∃ link, kernel.find? name.text = some link ∧
        after = if link.flags.isUp = up then kernel.tally 1 0
          else (kernel.modify link.index fun other =>
            { other with flags := link.flags.setUp up }).tally 1 1 := by
  rw [outcome_setLinkUp granted (IfName.ofText_text policy name)]
  cases kernel.find? name.text with
  | none => simp
  | some link =>
    constructor
    · exact fun done => ⟨link, rfl, (congrArg Prod.snd done).symm⟩
    · rintro ⟨other, same, rfl⟩
      obtain rfl := Option.some.inj same
      rfl

theorem perform_deleteBridge_ok_iff (granted : kernel.refusesHandles = false) {bridge : IfName} :
    (perform policy (.deleteBridge bridge.text)).outcome plane kernel = (.ok (), after) ↔
      ∃ link, kernel.find? bridge.text = some link ∧ link.isBridge = true ∧
        link.flags.isUp = false ∧
        after = ((kernel.erase link.index).detachAll link.index).tally 1 1 := by
  rw [perform, deleteBridge_ok_iff granted, IfName.ofText_text]
  simp only [Except.ok.injEq, exists_and_left, exists_eq_left']

theorem perform_harmless (granted : kernel.refusesHandles = false) (action : Action) :
    Harmless (perform policy action) kernel := by
  cases action with
  | createBridge bridge => exact .createBridge granted bridge
  | addMember bridge iface => exact .addInterface granted bridge iface
  | linkUp name => exact .setLinkUp granted name true
  | removeMember bridge iface => exact .removeInterface granted bridge iface
  | linkDown name => exact .setLinkUp granted name false
  | deleteBridge bridge => exact .deleteBridge granted bridge

section Execute

variable (plane : ControlPlane σ) (state : σ) {final : σ}

theorem execute_cons (action : Action) (rest : List Action) :
    (execute policy (action :: rest)).outcome plane state =
      match (perform policy action).outcome plane state with
      | (.ok _, middle) => (execute policy rest).outcome plane middle
      | (.error cause, middle) => (.error cause, middle) := by
  rw [execute, Procedure.outcome_report_bind, Procedure.outcome_bind]
  rcases (perform policy action).outcome plane state with ⟨cause | done, middle⟩ <;> rfl

theorem execute_cons_ok_iff {action : Action} {rest : List Action} :
    (execute policy (action :: rest)).outcome plane state = (.ok (), final) ↔
      ∃ middle, (perform policy action).outcome plane state = (.ok (), middle) ∧
        (execute policy rest).outcome plane middle = (.ok (), final) := by
  rw [execute_cons]
  rcases (perform policy action).outcome plane state with ⟨cause | done, middle⟩
  · simp
  · simp

theorem execute_append_ok_iff {first second : List Action} :
    (execute policy (first ++ second)).outcome plane state = (.ok (), final) ↔
      ∃ middle, (execute policy first).outcome plane state = (.ok (), middle) ∧
        (execute policy second).outcome plane middle = (.ok (), final) := by
  induction first generalizing state with
  | nil =>
    constructor
    · exact fun done => ⟨state, rfl, done⟩
    · rintro ⟨middle, start, done⟩
      obtain rfl := congrArg Prod.snd start
      exact done
  | cons action rest ih =>
    rw [List.cons_append, execute_cons_ok_iff]
    constructor
    · rintro ⟨next, step, later⟩
      obtain ⟨middle, others, done⟩ := (ih next).mp later
      exact ⟨middle, (execute_cons_ok_iff plane state).mpr ⟨next, step, others⟩, done⟩
    · rintro ⟨middle, start, done⟩
      obtain ⟨next, step, others⟩ := (execute_cons_ok_iff plane state).mp start
      exact ⟨next, step, (ih next).mpr ⟨middle, others, done⟩⟩

/-- A plan that fails was carried out up to one of its steps, and that step failed. -/
theorem execute_error {plan : List Action} {cause : Error}
    (failed : (execute policy plan).outcome plane state = (.error cause, final)) :
    ∃ k, ∃ inside : k < plan.length, ∃ middle,
      (execute policy (plan.take k)).outcome plane state = (.ok (), middle) ∧
      (perform policy plan[k]).outcome plane middle = (.error cause, final) := by
  induction plan generalizing state with
  | nil => cases failed
  | cons action rest ih =>
    rw [execute_cons] at failed
    cases step : (perform policy action).outcome plane state with
    | mk result middle =>
      rw [step] at failed
      cases result with
      | error reason => exact ⟨0, Nat.succ_pos _, state, rfl, step.trans failed⟩
      | ok done =>
        obtain ⟨k, inside, last, before, stuck⟩ := ih middle failed
        refine ⟨k + 1, Nat.succ_lt_succ inside, last, ?_, stuck⟩
        exact (execute_cons_ok_iff plane state).mpr ⟨middle, step, before⟩

end Execute

end NetBridge.Topology
