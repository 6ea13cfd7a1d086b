import NetBridge.Ioctl.Host
import NetBridge.Proofs.Ioctl.Payload

namespace NetBridge.Ioctl

def interruption (command : Command) : Fault := ⟨.ioctl command.number, .EINTR⟩

theorem Command.number_inj {a b : Command} (same : a.number = b.number) : a = b := by
  cases a <;> cases b <;> first | rfl | (exact absurd same (by decide))

def Syscall.interrupted (command : Command) : Syscall → Bool
  | ioctl issued _ (.error cause) => issued = command ∧ cause = .EINTR
  | _ => false

namespace Host

section TakeFault

variable {target : FaultTarget} {faults others : List Fault} {cause : Errno}

theorem takeFault_eq_none_iff :
    takeFault target faults = none ↔ ∀ fault ∈ faults, fault.target ≠ target := by
  induction faults with
  | nil => simp [takeFault]
  | cons fault rest ih =>
    by_cases hit : fault.target = target
    · simp [takeFault, hit]
    · simp [takeFault, hit, ih]

theorem takeFault_eq_some (taken : takeFault target faults = some (cause, others)) :
    ∃ front back, faults = front ++ ⟨target, cause⟩ :: back ∧ others = front ++ back := by
  induction faults generalizing others with
  | nil => cases taken
  | cons fault rest ih =>
    by_cases hit : fault.target = target
    · rw [takeFault, if_pos hit] at taken
      cases taken
      exact ⟨[], rest, by rw [← hit]; rfl, rfl⟩
    · rw [takeFault, if_neg hit] at taken
      obtain ⟨⟨found, left⟩, below, same⟩ := Option.map_eq_some_iff.mp taken
      cases same
      obtain ⟨front, back, rfl, rfl⟩ := ih below
      exact ⟨fault :: front, back, rfl, rfl⟩

end TakeFault

/-- The reply to a request and the host after it, when the queue holds nothing for its command. -/
def deliver (host : Host) (command : Command) (payload : Payload) : Except Errno Written × Host :=
  let (reply, kernel) := serve host.kernel command payload
  (reply, { host with kernel }.record (.ioctl command payload (reply.map Written.value)))

/-- Records so many issues of a request that were interrupted. -/
def recordInterrupted (host : Host) (command : Command) (payload : Payload) (attempts : Nat) :
    Host :=
  { host with
    history := List.replicate attempts (.ioctl command payload (.error .EINTR)) ++ host.history }

theorem ioctl_of_none {host : Host} {command : Command} {payload : Payload}
    (clear : takeFault (.ioctl command.number) host.faults = none) :
    host.ioctl command payload = host.deliver command payload := by
  rw [ioctl]
  split
  · rename_i cause others taken
    rw [clear] at taken
    cases taken
  · unfold deliver
    rcases serve host.kernel command payload with ⟨_ | _, kernel⟩ <;> rfl

theorem ioctl_of_interrupted {host : Host} {command : Command} {payload : Payload}
    {others : List Fault}
    (taken : takeFault (.ioctl command.number) host.faults = some (.EINTR, others)) :
    host.ioctl command payload =
      ({ host with faults := others }.record (.ioctl command payload (.error .EINTR))).ioctl
        command payload := by
  rw [ioctl]
  split
  · rename_i cause left found
    rw [taken] at found
    cases found
    rfl
  · rename_i clear
    rw [taken] at clear
    cases clear

/-- The whole course of one request: every interruption queued for its command is met by one more
issue with the same memory, and then the kernel is reached, once. -/
theorem ioctl_eq (command : Command) (payload : Payload) {host : Host}
    (signals : ∀ fault ∈ host.faults, fault.target = .ioctl command.number →
      fault = interruption command) :
    host.ioctl command payload =
      ({ host with faults := host.faults.filter (· ≠ interruption command) }.recordInterrupted
        command payload (host.faults.count (interruption command))).deliver command payload := by
  generalize size : host.faults.length = n
  induction n using Nat.strongRecOn generalizing host with
  | _ n ih =>
    cases taken : takeFault (.ioctl command.number) host.faults with
    | none =>
      have clear : interruption command ∉ host.faults := fun member =>
        takeFault_eq_none_iff.mp taken _ member rfl
      have kept : host.faults.filter (· ≠ interruption command) = host.faults :=
        List.filter_eq_self.mpr fun fault member =>
          decide_eq_true fun same => clear (same ▸ member)
      rw [ioctl_of_none taken, kept, List.count_eq_zero.mpr clear]
      rfl
    | some found =>
      obtain ⟨cause, others⟩ := found
      obtain ⟨front, back, queue, rest⟩ := takeFault_eq_some taken
      have member : (⟨.ioctl command.number, cause⟩ : Fault) ∈ host.faults := by simp [queue]
      obtain rfl : cause = .EINTR := congrArg Fault.cause (signals _ member rfl)
      have shorter := length_of_takeFault taken
      have count : host.faults.count (interruption command) =
          others.count (interruption command) + 1 := by
        simp [queue, rest, interruption, Nat.add_assoc]
      have kept : host.faults.filter (· ≠ interruption command) =
          others.filter (· ≠ interruption command) := by
        simp [queue, rest, interruption]
      rw [ioctl_of_interrupted taken, count, kept]
      have left : others ⊆ host.faults := by
        rw [queue, rest]
        exact ((List.sublist_cons_self _ back).append_left front).subset
      rw [ih others.length (by omega) (fun fault present => signals fault (left present)) rfl]
      simp only [recordInterrupted, record, List.replicate_succ', List.append_assoc,
        List.singleton_append]

end Host

end NetBridge.Ioctl
