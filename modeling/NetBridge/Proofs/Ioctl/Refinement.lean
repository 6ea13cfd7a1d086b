import NetBridge.Proofs.Ioctl.Interruption
import NetBridge.Proofs.Ioctl.Trace
import NetBridge.Proofs.Kernel.Named

namespace NetBridge.Ioctl

namespace Host

/-- The host can fail no request but by signals, and its kernel names its links. -/
structure Transparent (host : Host) : Prop where
  signals : ∀ fault ∈ host.faults, ∃ command, fault = interruption command
  unaltered : host.rawNames = []
  named : host.kernel.Named

theorem Transparent.new : new.Transparent := ⟨nofun, rfl, .new⟩

/-- The interruptions of a command, those that were met and those in the queue. -/
def interruptions (host : Host) (command : Command) : Nat :=
  host.history.countP (Syscall.interrupted command) + host.faults.count (interruption command)

/-- From one host to another by system calls that the steps can take, with every signal met or
still in the queue. -/
structure Advances (host : Host) (steps : List Step) (after : Host) : Prop where
  transparent : after.Transparent
  traced : ∃ calls, Trace steps calls ∧ after.history = calls.reverse ++ host.history
  accounted : ∀ command, after.interruptions command = host.interruptions command

namespace Advances

variable {host middle after : Host} {steps further : List Step}

theorem refl (transparent : host.Transparent) : Advances host [] host :=
  ⟨transparent, ⟨[], .nil, rfl⟩, fun _ => rfl⟩

theorem trans (first : Advances host steps middle) (second : Advances middle further after) :
    Advances host (steps ++ further) after := by
  obtain ⟨front, traced, record⟩ := first.traced
  obtain ⟨back, continued, grown⟩ := second.traced
  refine ⟨second.transparent, ⟨front ++ back, traced.append continued, ?_⟩, fun command => ?_⟩
  · rw [grown, record, List.reverse_append, List.append_assoc]
  · rw [second.accounted, first.accounted]

theorem logged (transparent : host.Transparent) (event : Event) :
    Advances host [.logged event] host :=
  ⟨transparent, ⟨[], .cons (.logged event) .nil, rfl⟩, fun _ => rfl⟩

theorem single {step : Step} {call : Syscall} (issued : Issued step [call])
    (uninterrupted : ∀ command, call.interrupted command = false) (kernel : Kernel)
    (transparent : host.Transparent) (named : kernel.Named) :
    Advances host [step] ({ host with kernel }.record call) where
  transparent := ⟨transparent.signals, transparent.unaltered, named⟩
  traced := ⟨[call], .cons issued .nil, rfl⟩
  accounted command := by
    simp [interruptions, record, uninterrupted]

end Advances

theorem serve_payload (kernel : Kernel) (request : Request) :
    serve kernel (command request) (payload request) =
      ((kernel.answerRequest request).1.map (writeReply request),
        (kernel.answerRequest request).2) := by
  rw [serve, decode?_payload]
  dsimp only
  rcases kernel.answerRequest request with ⟨_ | _, after⟩ <;> rfl

/-- A request to the host: what the kernel answers, after every interruption queued for it. -/
theorem answer_request {host : Host} (transparent : host.Transparent) (handle : Handle)
    (request : Request) :
    host.answer (.request handle request) =
      ((host.kernel.answerRequest request).1,
        { host with
          kernel := (host.kernel.answerRequest request).2
          faults := host.faults.filter (· ≠ interruption (command request))
          history := .ioctl (command request) (payload request)
            ((host.kernel.answerRequest request).1.map fun reply =>
              (writeReply request reply).value) ::
            (List.replicate (host.faults.count (interruption (command request)))
              (.ioctl (command request) (payload request) (.error .EINTR)) ++ host.history) }) := by
  have signals : ∀ fault ∈ host.faults, fault.target = .ioctl (command request).number →
      fault = interruption (command request) := by
    intro fault member same
    obtain ⟨command, rfl⟩ := transparent.signals fault member
    rw [Command.number_inj (FaultTarget.ioctl.inj same)]
  rw [answer, ioctl_eq (command request) (payload request) signals, deliver]
  simp only [recordInterrupted, serve_payload, record]
  rcases host.kernel.answerRequest request with ⟨cause | reply, after⟩
  · rfl
  · simp only [Except.map, readReply_writeReply]

/-- The interruptions that a request meets move from the queue to the history. -/
theorem interruptions_request {host : Host} (transparent : host.Transparent) (handle : Handle)
    (request : Request) (other : Command) :
    (host.answer (.request handle request)).2.interruptions other = host.interruptions other := by
  have reached : Syscall.interrupted other (.ioctl (command request) (payload request)
      ((host.kernel.answerRequest request).1.map fun reply =>
        (writeReply request reply).value)) = false := by
    have answered := host.kernel.answerRequest_ne_interrupted request
    cases answer : (host.kernel.answerRequest request).1 with
    | ok reply => rfl
    | error cause =>
      have signal : cause ≠ .EINTR := fun same => answered (answer.trans (congrArg _ same))
      exact decide_eq_false fun both => signal both.2
  rw [answer_request transparent]
  simp only [interruptions, List.countP_cons, reached, List.countP_append, List.countP_replicate]
  by_cases same : command request = other
  · subst same
    have spent : (host.faults.filter (· ≠ interruption (command request))).count
        (interruption (command request)) = 0 :=
      List.count_eq_zero.mpr fun member => by simpa using (List.mem_filter.mp member).2
    rw [spent]
    simp [Syscall.interrupted]
    omega
  · have different : interruption other ≠ interruption (command request) := fun equal =>
      same (Command.number_inj (FaultTarget.ioctl.inj (congrArg Fault.target equal.symm)))
    rw [List.count_filter (by simpa using different)]
    simp [Syscall.interrupted, same]

/-- A request takes one more system call than it meets interruptions. -/
theorem advances_request {host : Host} (transparent : host.Transparent) (handle : Handle)
    (request : Request) :
    Advances host [.asked (.request handle request) (host.kernel.answerRequest request).1]
      (host.answer (.request handle request)).2 := by
  have accounted := interruptions_request transparent handle request
  have answered := host.kernel.answerRequest_ne_interrupted request
  have named := transparent.named.answerRequest request
  rw [answer_request transparent] at accounted ⊢
  refine ⟨⟨?_, transparent.unaltered, named⟩, ⟨_, .cons (.requested handle request _ answered
    (host.faults.count (interruption (command request)))) .nil, ?_⟩, accounted⟩
  · exact fun fault member => transparent.signals fault (List.mem_filter.mp member).1
  · simp

theorem indexToName_eq {host : Host} (transparent : host.Transparent) (index : IfIndex) :
    host.indexToName index =
      (host.kernel.indexToName index,
        host.record (.indexToName index
          ((host.kernel.indexToName index).map NameField.textBytes))) := by
  rw [indexToName, rawName, transparent.unaltered]
  cases found : host.kernel.indexToName index with
  | none => simp
  | some text =>
    obtain ⟨name, rfl⟩ := transparent.named.indexToName found
    have fits : (NameField.textBytes name.text).length ≤ nameFieldSize :=
      Nat.le_trans name.size_le (by decide)
    simp [List.take_of_length_le fits, NameField.decode_textBytes_append]

/-- One call is answered alike by the host and by its kernel, and changes the kernel alike. -/
theorem answer_refines {host : Host} (transparent : host.Transparent) (call : Call) :
    (host.answer call).1 = (host.kernel.answer call).1 ∧
      (host.answer call).2.kernel = (host.kernel.answer call).2 ∧
      Advances host [.asked call (host.kernel.answer call).1] (host.answer call).2 := by
  have named := transparent.named.answer call
  cases call with
  | acquire =>
    have clear : takeFault .socket host.faults = none := by
      refine takeFault_eq_none_iff.mpr fun fault member => ?_
      obtain ⟨command, rfl⟩ := transparent.signals fault member
      exact nofun
    show host.socket.1 = host.kernel.acquire.1 ∧ host.socket.2.kernel = host.kernel.acquire.2 ∧
      Advances host [.asked .acquire host.kernel.acquire.1] host.socket.2
    change host.kernel.acquire.2.Named at named
    rw [socket, clear]
    generalize host.kernel.acquire = reply at named ⊢
    obtain ⟨cause | handle, after⟩ := reply
    · exact ⟨rfl, rfl, .single (.refused cause) (fun _ => rfl) after transparent named⟩
    · exact ⟨rfl, rfl, .single (.granted handle) (fun _ => rfl) after transparent named⟩
  | release handle =>
    exact ⟨rfl, rfl, .single (.released handle) (fun _ => rfl) _ transparent named⟩
  | request handle request =>
    refine ⟨?_, ?_, advances_request transparent handle request⟩ <;>
      rw [answer_request transparent] <;> rfl
  | nameToIndex name =>
    exact ⟨rfl, rfl, .single (.nameToIndex name _) (fun _ => rfl) _ transparent named⟩
  | indexToName index =>
    show (host.indexToName index).1 = _ ∧ (host.indexToName index).2.kernel = _ ∧
      Advances host _ (host.indexToName index).2
    rw [indexToName_eq transparent]
    exact ⟨rfl, rfl, .single (.indexToName index _) (fun _ => rfl) _ transparent named⟩

/-- A dialogue takes the same course over the host as over its kernel. -/
theorem run_refines {host : Host} (transparent : host.Transparent) (d : Dialogue α) :
    (d.run plane host).value = (d.run Kernel.plane host.kernel).value ∧
      (d.run plane host).steps = (d.run Kernel.plane host.kernel).steps ∧
      (d.run plane host).state.kernel = (d.run Kernel.plane host.kernel).state ∧
      Advances host (d.run Kernel.plane host.kernel).steps (d.run plane host).state := by
  induction d generalizing host with
  | done value => exact ⟨rfl, rfl, rfl, .refl transparent⟩
  | log event next ih =>
    obtain ⟨value, steps, kernel, advances⟩ := ih transparent
    refine ⟨value, ?_, kernel, (Advances.logged transparent event).trans advances⟩
    exact congrArg (_ :: ·) steps
  | ask call next ih =>
    obtain ⟨answered, changed, first⟩ := answer_refines transparent call
    have first_step : (Dialogue.ask call next).run plane host =
        let rest := (next (host.kernel.answer call).1).run plane (host.answer call).2
        { rest with steps := .asked call (host.kernel.answer call).1 :: rest.steps } := by
      rw [← answered]
      rfl
    obtain ⟨value, steps, kernel, advances⟩ := ih (host.kernel.answer call).1 first.transparent
    rw [changed] at value steps kernel advances
    rw [first_step]
    exact ⟨value, congrArg (_ :: ·) steps, kernel, first.trans advances⟩

end Host

end NetBridge.Ioctl
