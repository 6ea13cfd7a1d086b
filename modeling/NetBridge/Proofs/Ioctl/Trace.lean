import NetBridge.Proofs.Ioctl.Payload
import NetBridge.Proofs.Kernel.Turns
import NetBridge.Ioctl.Host

namespace NetBridge.Ioctl

/-- The system calls that a step can take. A request is issued any number of times in vain, always
with the same memory, before the issue that the kernel answers. -/
inductive Issued : Step → List Syscall → Prop where
  | logged (event : Event) : Issued (.logged event) []
  | granted (handle : Handle) : Issued (.asked .acquire (.ok handle)) [.socket controlSocket none]
  | refused (cause : Errno) :
      Issued (.asked .acquire (.error cause)) [.socket controlSocket (some cause)]
  | released (handle : Handle) : Issued (.asked (.release handle) ()) [.close]
  | requested (handle : Handle) (request : Request) (answer : Except Errno request.Reply)
      (answered : answer ≠ .error .EINTR) (attempts : Nat) :
      Issued (.asked (.request handle request) answer)
        (List.replicate attempts (.ioctl (command request) (payload request) (.error .EINTR)) ++
          [.ioctl (command request) (payload request)
            (answer.map fun reply => (writeReply request reply).value)])
  | nameToIndex (name : IfName) (index : Option IfIndex) :
      Issued (.asked (.nameToIndex name) index) [.nameToIndex name index]
  | indexToName (index : IfIndex) (text : Option String) :
      Issued (.asked (.indexToName index) text)
        [.indexToName index (text.map NameField.textBytes)]

inductive Trace : List Step → List Syscall → Prop where
  | nil : Trace [] []
  | cons {step : Step} {steps : List Step} {first rest : List Syscall} (issued : Issued step first)
      (later : Trace steps rest) : Trace (step :: steps) (first ++ rest)

theorem Trace.append {steps further : List Step} {first rest : List Syscall}
    (front : Trace steps first) (back : Trace further rest) :
    Trace (steps ++ further) (first ++ rest) := by
  induction front with
  | nil => exact back
  | cons issued later ih =>
    rw [List.append_assoc]
    exact .cons issued ih

/-- The request that a system call brings to the kernel. An interrupted one brings none. -/
def delivered? : Syscall → Option Request
  | .ioctl command payload (.ok _) => decode? command payload
  | .ioctl command payload (.error cause) =>
    if cause = .EINTR then none else decode? command payload
  | _ => none

theorem Issued.delivered {step : Step} {calls : List Syscall} (issued : Issued step calls) :
    calls.filterMap delivered? = step.request?.toList := by
  cases issued with
  | logged event => rfl
  | granted handle => rfl
  | refused cause => rfl
  | released handle => rfl
  | requested handle request answer answered attempts =>
    have lost : (List.replicate attempts
        (Syscall.ioctl (command request) (payload request) (.error .EINTR))).filterMap delivered? =
          [] := by
      rw [List.filterMap_replicate_of_none rfl]
    have reached : delivered? (.ioctl (command request) (payload request)
        (answer.map fun reply => (writeReply request reply).value)) = some request := by
      cases answer with
      | ok reply => exact decode?_payload request
      | error cause =>
        have other : cause ≠ .EINTR := fun same => answered (congrArg _ same)
        show (if cause = .EINTR then _ else _) = _
        rw [if_neg other]
        exact decode?_payload request
    rw [List.filterMap_append, lost, List.nil_append, List.filterMap_cons, reached]
    rfl
  | nameToIndex name index => rfl
  | indexToName index text => rfl

/-- What is delivered are the requests of the course, each once and in order. -/
theorem Trace.delivered {steps : List Step} {calls : List Syscall} (trace : Trace steps calls) :
    calls.filterMap delivered? = steps.filterMap Step.request? := by
  induction trace with
  | nil => rfl
  | cons issued later ih =>
    rw [List.filterMap_append, ih, issued.delivered, filterMap_request?_cons]

end NetBridge.Ioctl
