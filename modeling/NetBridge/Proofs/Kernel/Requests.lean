import NetBridge.Proofs.Kernel.Table

namespace NetBridge.Kernel

variable {kernel after : Kernel} {name : String}

/-- The number the next port of a bridge gets. -/
def freeNumber (kernel : Kernel) (bridge : Nat) : Nat :=
  lowestFree ((kernel.portsOf bridge).map Link.portNo)

theorem freeNumber_pos (kernel : Kernel) (bridge : Nat) : 0 < kernel.freeNumber bridge :=
  lowestFree_pos _

theorem freeNumber_unused (kernel : Kernel) (bridge : Nat) :
    ∀ port ∈ kernel.portsOf bridge, port.portNo ≠ kernel.freeNumber bridge :=
  fun _ member same => lowestFree_not_mem _ (List.mem_map.mpr ⟨_, member, same⟩)

theorem freeNumber_le (kernel : Kernel) (bridge : Nat) :
    kernel.freeNumber bridge ≤ (kernel.portsOf bridge).length + 1 := by
  have bound := lowestFree_le ((kernel.portsOf bridge).map Link.portNo)
  rwa [List.length_map] at bound

theorem addBridge_eq_ok_iff : kernel.addBridge name = .ok after ↔
    kernel.find? name = none ∧ after = kernel.insert name true := by
  unfold addBridge
  cases kernel.find? name with
  | none => simp only [Except.ok.injEq, true_and]; exact eq_comm
  | some link => simp

theorem deleteBridge_eq_ok_iff : kernel.deleteBridge name = .ok after ↔
    ∃ link, kernel.find? name = some link ∧ link.isBridge = true ∧ link.flags.isUp = false ∧
      after = (kernel.erase link.index).detachAll link.index := by
  constructor
  · intro granted
    unfold deleteBridge at granted
    split at granted
    · cases granted
    · rename_i link found
      split at granted
      · cases granted
      · rename_i kind
        split at granted
        · cases granted
        · rename_i down
          exact ⟨link, found, by simpa using kind, by simpa using down, (Except.ok.inj granted).symm⟩
  · rintro ⟨link, found, kind, down, rfl⟩
    simp [deleteBridge, found, kind, down]

theorem addPort_eq_ok_iff {port : Nat} : kernel.addPort name port = .ok after ↔
    ∃ bridge link, kernel.find? name = some bridge ∧ bridge.isBridge = true ∧
      bridge.index ≠ port ∧ kernel.get? port = some link ∧ link.master = none ∧
      after = kernel.modify port (Link.attached · bridge.index (kernel.freeNumber bridge.index)) := by
  constructor
  · intro granted
    unfold addPort at granted
    cases opened : kernel.bridge name with
    | error cause => rw [opened] at granted; cases granted
    | ok bridge =>
      obtain ⟨found, kind⟩ := bridge_eq_ok_iff.mp opened
      by_cases loop : bridge.index = port
      · simp [opened, loop, bind, Except.bind] at granted
      cases located : kernel.get? port with
      | none => simp [opened, loop, located, bind, Except.bind] at granted
      | some link =>
        cases owner : link.master with
        | some master => simp [opened, loop, located, owner, bind, Except.bind] at granted
        | none =>
          simp only [opened, loop, located, owner, bind, Except.bind, pure, Except.pure, if_false,
            Option.isSome_none, Bool.false_eq_true, Except.ok.injEq] at granted
          exact ⟨bridge, link, found, kind, loop, rfl, owner, granted.symm⟩
  · rintro ⟨bridge, link, found, kind, loop, located, owner, rfl⟩
    have opened := bridge_eq_ok_iff.mpr ⟨found, kind⟩
    simp [addPort, opened, loop, located, owner, bind, Except.bind, pure, Except.pure, freeNumber]

theorem deletePort_eq_ok_iff {port : Nat} : kernel.deletePort name port = .ok after ↔
    ∃ bridge link, kernel.find? name = some bridge ∧ bridge.isBridge = true ∧
      kernel.get? port = some link ∧ link.master = some bridge.index ∧
      after = kernel.modify port Link.detached := by
  constructor
  · intro granted
    unfold deletePort at granted
    cases opened : kernel.bridge name with
    | error cause => rw [opened] at granted; cases granted
    | ok bridge =>
      obtain ⟨found, kind⟩ := bridge_eq_ok_iff.mp opened
      cases located : kernel.get? port with
      | none => simp [opened, located, bind, Except.bind] at granted
      | some link =>
        by_cases owned : link.master = some bridge.index
        · simp only [opened, located, owned, bind, Except.bind, pure, Except.pure, if_true,
            Except.ok.injEq] at granted
          exact ⟨bridge, link, found, kind, rfl, owned, granted.symm⟩
        · simp [opened, located, owned, bind, Except.bind] at granted
  · rintro ⟨bridge, link, found, kind, located, owned, rfl⟩
    have opened := bridge_eq_ok_iff.mpr ⟨found, kind⟩
    simp [deletePort, opened, located, owned, bind, Except.bind, pure, Except.pure]

theorem setLinkFlags_eq_ok_iff {flags : LinkFlags} :
    kernel.setLinkFlags name flags = .ok after ↔
      ∃ link, kernel.find? name = some link ∧
        after = kernel.modify link.index fun link => { link with flags := flags } := by
  unfold setLinkFlags
  cases kernel.find? name with
  | none => simp
  | some link =>
    simp only [Except.ok.injEq, Option.some.injEq, exists_eq_left']
    exact eq_comm

theorem acquire_cases (kernel : Kernel) :
    (kernel.refusesHandles = false ∧ kernel.acquire = (.ok ⟨kernel.acquired⟩, { kernel with
      openHandles := kernel.openHandles + 1
      acquired := kernel.acquired + 1 })) ∨
    (kernel.refusesHandles = true ∧ kernel.acquire = (.error .EMFILE, kernel)) := by
  unfold acquire
  cases kernel.refusesHandles with
  | false => exact .inl ⟨rfl, rfl⟩
  | true => exact .inr ⟨rfl, rfl⟩

/-- The ports of a bridge are listed, and what was to disappear disappears; or the name is refused,
and nothing happens. -/
theorem portIndices_cases (kernel : Kernel) (name : IfName) (capacity : Nat) :
    (∃ bridge, kernel.bridge name.text = .ok bridge ∧
      kernel.answerRequest (.portIndices name capacity) =
        (.ok (kernel.portSlots bridge.index capacity), kernel.vanish)) ∨
      ∃ cause, kernel.bridge name.text = .error cause ∧
        kernel.answerRequest (.portIndices name capacity) = (.error cause, kernel) := by
  cases opened : kernel.bridge name.text with
  | ok bridge => exact .inl ⟨bridge, rfl, by rw [answerRequest, opened]⟩
  | error cause => exact .inr ⟨cause, rfl, by rw [answerRequest, opened]⟩

theorem mutate_cases (kernel : Kernel) (request : Kernel → Except Errno Kernel) :
    (∃ after, request kernel.countMutation = .ok after ∧ kernel.mutate request = (.ok (), after)) ∨
      ∃ cause, request kernel.countMutation = .error cause ∧
        kernel.mutate request = (.error cause, kernel.countMutation) := by
  unfold mutate
  cases request kernel.countMutation with
  | ok after => exact .inl ⟨after, rfl, rfl⟩
  | error cause => exact .inr ⟨cause, rfl, rfl⟩

end NetBridge.Kernel
