import NetBridge.Proofs.Ioctl.Refinement
import Mathlib.Data.List.Count

namespace NetBridge.Ioctl

namespace Host

def interrupt (host : Host) (signals : List Command) : Host :=
  { host with faults := host.faults ++ signals.map interruption }

/-- A move on the host. Incidents happen to the kernel, not through system calls. -/
def play : (move : Move) → Host → Course Host move.Outcome
  | .operate policy intent, host => (intent.procedure policy).run plane host
  | .happen incident, host =>
    let (outcome, kernel) := incident.play host.kernel
    ⟨outcome, { host with kernel }, []⟩

/-- The turns of a session. Each move comes with the signals that are queued before it. -/
def turns : List (List Command × Move) → Host → List Turn
  | [], _ => []
  | (signals, move) :: rest, host =>
    let course := (host.interrupt signals).play move
    ⟨move, course.value, course.steps⟩ :: turns rest course.state

def after (host : Host) (schedule : List (List Command × Move)) : Host :=
  schedule.foldl (fun host entry => ((host.interrupt entry.1).play entry.2).state) host

theorem after_cons (host : Host) (signals : List Command) (move : Move)
    (rest : List (List Command × Move)) :
    host.after ((signals, move) :: rest) =
      ((host.interrupt signals).play move).state.after rest := rfl

theorem Transparent.interrupt {host : Host} (transparent : host.Transparent)
    (signals : List Command) : (host.interrupt signals).Transparent := by
  refine ⟨fun fault member => ?_, transparent.unaltered, transparent.named⟩
  rcases List.mem_append.mp member with old | fresh
  · exact transparent.signals fault old
  · obtain ⟨command, -, rfl⟩ := List.mem_map.mp fresh
    exact ⟨command, rfl⟩

theorem interruptions_interrupt (host : Host) (signals : List Command) (command : Command) :
    (host.interrupt signals).interruptions command =
      host.interruptions command + signals.count command := by
  have injective : Function.Injective interruption := fun _ _ same =>
    Command.number_inj (FaultTarget.ioctl.inj (congrArg Fault.target same))
  simp only [interruptions, interrupt, List.count_append,
    List.count_map_of_injective signals interruption injective, Nat.add_assoc]

theorem play_refines {host : Host} (transparent : host.Transparent) (move : Move)
    (nameable : ∀ text, move = .happen (.addLink text) → ∃ name : IfName, name.text = text) :
    (host.play move).value = (host.kernel.play move).value ∧
      (host.play move).steps = (host.kernel.play move).steps ∧
      (host.play move).state.kernel = (host.kernel.play move).state ∧
      Advances host (host.kernel.play move).steps (host.play move).state := by
  cases move with
  | operate policy intent =>
    exact run_refines transparent (ExceptT.run (intent.procedure policy))
  | happen incident =>
    have named := transparent.named.play incident fun text same =>
      nameable text (congrArg Move.happen same)
    exact ⟨rfl, rfl, rfl, ⟨⟨transparent.signals, transparent.unaltered, named⟩,
      ⟨[], .nil, rfl⟩, fun _ => rfl⟩⟩

/-- A session comes to the same on the host as on its kernel, and its system calls are those of
its steps; the signals queued are those that were met and those that are still waiting. -/
theorem session_refines (schedule : List (List Command × Move)) {host : Host}
    (transparent : host.Transparent)
    (nameable : ∀ text, .happen (.addLink text) ∈ schedule.map Prod.snd →
      ∃ name : IfName, name.text = text) :
    turns schedule host = Kernel.turns (schedule.map Prod.snd) host.kernel ∧
      (host.after schedule).kernel = host.kernel.after (schedule.map Prod.snd) ∧
      (∃ calls, Trace ((turns schedule host).flatMap Turn.steps) calls ∧
        (host.after schedule).history = calls.reverse ++ host.history) ∧
      ∀ command, (host.after schedule).interruptions command =
        host.interruptions command + (schedule.flatMap Prod.fst).count command := by
  induction schedule generalizing host with
  | nil => exact ⟨rfl, rfl, ⟨[], .nil, rfl⟩, fun _ => rfl⟩
  | cons entry rest ih =>
    obtain ⟨signals, move⟩ := entry
    obtain ⟨value, steps, kernel, advances⟩ := play_refines (transparent.interrupt signals) move
      fun text same => nameable text (same ▸ List.mem_cons_self)
    obtain ⟨first, traced, record⟩ := advances.traced
    obtain ⟨later, left, ⟨calls, continued, grown⟩, accounted⟩ := ih advances.transparent
      fun text member => nameable text (List.mem_cons_of_mem _ member)
    rw [kernel] at later left
    refine ⟨?_, left, ⟨first ++ calls, ?_, ?_⟩, fun command => ?_⟩
    · rw [turns, List.map_cons, Kernel.turns, value, steps, later]
      rfl
    · rw [turns, List.flatMap_cons, steps]
      exact traced.append continued
    · rw [after_cons, grown, record, List.reverse_append, List.append_assoc]
      rfl
    · rw [after_cons, accounted, advances.accounted, interruptions_interrupt, List.flatMap_cons,
        List.count_append, Nat.add_assoc]

end Host

/-- The kernel behind system calls does what the kernel alone does: in every session whose links
have names of interfaces, and whatever signals interrupt the requests, every move has the same
outcome and leaves the same kernel, counters included. The system calls are those of the steps,
each signal met adding one issue more with the same memory, so that the requests reach the kernel
in order, each once, and so are they counted. -/
theorem refines_kernel (schedule : List (List Command × Move))
    (nameable : ∀ text, .happen (.addLink text) ∈ schedule.map Prod.snd →
      ∃ name : IfName, name.text = text) :
    Host.turns schedule .new = Kernel.turns (schedule.map Prod.snd) .new ∧
      (Host.new.after schedule).kernel = Kernel.new.after (schedule.map Prod.snd) ∧
      Trace ((Host.turns schedule .new).flatMap Turn.steps)
        (Host.new.after schedule).history.reverse ∧
      (Host.new.after schedule).history.reverse.filterMap delivered? =
        ((Host.turns schedule .new).flatMap Turn.steps).filterMap Step.request? ∧
      (Host.new.after schedule).kernel.mutations =
        ((Host.new.after schedule).history.reverse.filterMap delivered?).countP Request.mutates +
          ((schedule.map Prod.snd).filterMap Move.request?).countP Request.mutates ∧
      ∀ command, (Host.new.after schedule).history.countP (Syscall.interrupted command) +
        (Host.new.after schedule).faults.count (interruption command) =
          (schedule.flatMap Prod.fst).count command := by
  obtain ⟨turns, kernel, ⟨calls, trace, record⟩, accounted⟩ :=
    Host.session_refines schedule Host.Transparent.new nameable
  have whole : (Host.new.after schedule).history.reverse = calls := by
    rw [record, show Host.new.history = [] from rfl, List.append_nil, List.reverse_reverse]
  have alike : Host.turns schedule .new = Kernel.turns (schedule.map Prod.snd) .new := turns
  have counted := Kernel.mutations_after (schedule.map Prod.snd) .new
  rw [← alike, ← trace.delivered, show Kernel.new.mutations = 0 from rfl, Nat.zero_add] at counted
  refine ⟨alike, kernel, whole ▸ trace, whole ▸ trace.delivered, ?_, fun command => ?_⟩
  · rw [whole, kernel]
    exact counted
  · exact (accounted command).trans (Nat.zero_add _)

/-- A bridge gets its port while three signals interrupt the requests. -/
def interruptedSession : List (List Command × Move) := [
  ([], .happen (.addLink "eth0")),
  ([.addBridge, .addPort, .addBridge], .operate .reject (.createBridge "br0")),
  ([], .operate .reject (.addInterface "br0" "eth0"))]

theorem refines_kernel_interrupted :
    (Host.new.after interruptedSession).kernel.links =
      [{ Link.fresh 1 "lo" false with flags := .union .up .loopback },
        { Link.fresh 2 "eth0" false with master := some 3, portNo := 1 },
        Link.fresh 3 "br0" true] ∧
      (Host.new.after interruptedSession).kernel.mutations = 2 ∧
      (Host.new.after interruptedSession).history.reverse.filterMap delivered? =
        [.addBridge ⟨"br0", by decide, by decide, by decide⟩,
          .addPort ⟨"br0", by decide, by decide, by decide⟩ ⟨2, by decide⟩] := by
  have nameable : ∀ text, .happen (.addLink text) ∈ interruptedSession.map Prod.snd →
      ∃ name : IfName, name.text = text := by
    intro text member
    obtain rfl : text = "eth0" := by simpa [interruptedSession] using member
    exact ⟨⟨"eth0", by decide, by decide, by decide⟩, rfl⟩
  obtain ⟨turns, kernel, -, delivered, -, -⟩ := refines_kernel interruptedSession nameable
  rw [delivered, turns, kernel]
  decide +kernel

end NetBridge.Ioctl
