import NetBridge.Ioctl.Payload
import NetBridge.Kernel

/-!
The control plane that reaches a kernel through system calls. Every handle is a datagram socket,
every request an `ioctl` on it; a request interrupted by a signal is issued again. Behind the
system calls stands the in-memory kernel, and faults can be queued in front of it.
-/
namespace NetBridge.Ioctl

/-- What a socket is opened as. -/
structure SocketKind where
  domain : Nat
  type : Nat
  protocol : Nat
deriving DecidableEq, Repr

/-- An internet datagram socket that is closed on exec. -/
def controlSocket : SocketKind := ⟨2, 2 + 0o2000000, 0⟩

inductive FaultTarget where
  | socket
  | ioctl (number : Nat)
deriving DecidableEq, Repr

/-- A failure that meets the next call of its kind before it reaches the kernel. -/
structure Fault where
  target : FaultTarget
  cause : Errno
deriving DecidableEq, Repr

/-- One system call with its outcome. -/
inductive Syscall where
  | socket (kind : SocketKind) (failure : Option Errno)
  | close
  | ioctl (command : Command) (payload : Payload) (outcome : Except Errno Nat)
  | nameToIndex (name : IfName) (index : Option IfIndex)
  | indexToName (index : IfIndex) (name : Option (List UInt8))
deriving Repr

/-- The kernel with what stands in front of it. -/
structure Host where
  kernel : Kernel
  faults : List Fault
  /-- Raw names returned for an index in place of the kernel's own; the latest counts. -/
  rawNames : List (IfIndex × List UInt8)
  /-- The system calls made, latest first. -/
  history : List Syscall

namespace Host

def new : Host := ⟨.new, [], [], []⟩

/-- Removes the oldest fault for a target. -/
def takeFault (target : FaultTarget) : List Fault → Option (Errno × List Fault)
  | [] => none
  | fault :: rest =>
    if fault.target = target then some (fault.cause, rest)
    else (takeFault target rest).map fun (cause, others) => (cause, fault :: others)

theorem length_of_takeFault {target : FaultTarget} {faults others : List Fault} {cause : Errno}
    (taken : takeFault target faults = some (cause, others)) :
    others.length + 1 = faults.length := by
  induction faults generalizing others with
  | nil => simp [takeFault] at taken
  | cons fault rest ih =>
    by_cases hit : fault.target = target
    · simp only [takeFault, hit, if_true, Option.some.injEq, Prod.mk.injEq] at taken
      simp [← taken.2]
    · simp only [takeFault, hit, if_false, Option.map_eq_some_iff] at taken
      obtain ⟨⟨found, left⟩, below, same⟩ := taken
      cases same
      simp [ih below]

def record (host : Host) (call : Syscall) : Host :=
  { host with history := call :: host.history }

def socket (host : Host) : Except Errno Handle × Host :=
  match takeFault .socket host.faults with
  | some (cause, others) =>
    (.error cause, { host with faults := others }.record (.socket controlSocket (some cause)))
  | none =>
    match host.kernel.acquire with
    | (.ok handle, kernel) =>
      (.ok handle, { host with kernel }.record (.socket controlSocket none))
    | (.error cause, kernel) =>
      (.error cause, { host with kernel }.record (.socket controlSocket (some cause)))

def close (host : Host) : Host :=
  { host with kernel := host.kernel.release }.record .close

/-- The kernel's side of a request: read it, carry it out, write the reply. -/
def serve (kernel : Kernel) (command : Command) (payload : Payload) :
    Except Errno Written × Kernel :=
  match decode? command payload with
  | none => (.error .EINVAL, kernel)
  | some request =>
    match kernel.answerRequest request with
    | (.ok reply, after) => (.ok (writeReply request reply), after)
    | (.error cause, after) => (.error cause, after)

/-- Issues an `ioctl`, again for every interruption. Only queued faults interrupt. -/
def ioctl (host : Host) (command : Command) (payload : Payload) :
    Except Errno Written × Host :=
  match _taken : takeFault (.ioctl command.number) host.faults with
  | some (cause, others) =>
    let after := { host with faults := others }.record (.ioctl command payload (.error cause))
    if cause = .EINTR then ioctl after command payload else (.error cause, after)
  | none =>
    match serve host.kernel command payload with
    | (.ok written, kernel) =>
      (.ok written, { host with kernel }.record (.ioctl command payload (.ok written.value)))
    | (.error cause, kernel) =>
      (.error cause, { host with kernel }.record (.ioctl command payload (.error cause)))
termination_by host.faults.length
decreasing_by
  have shorter := length_of_takeFault _taken
  simp only [record]
  omega

def nameToIndex (host : Host) (name : IfName) : Option IfIndex × Host :=
  let index := host.kernel.nameToIndex name.text
  (index, host.record (.nameToIndex name index))

/-- The kernel's bytes for an index, as far as they are known. -/
def rawName (host : Host) (index : IfIndex) : Option (List UInt8) :=
  match host.rawNames.lookup index with
  | some bytes => some bytes
  | none => (host.kernel.indexToName index).map NameField.textBytes

/-- Resolves an index through a name field: what exceeds the field is lost, and an empty or
undecodable field is no name. -/
def indexToName (host : Host) (index : IfIndex) : Option String × Host :=
  let bytes := host.rawName index
  let field := bytes.map fun bytes =>
    bytes.take nameFieldSize ++ List.replicate (nameFieldSize - bytes.length) 0
  (field.bind NameField.decode, host.record (.indexToName index bytes))

def answer : (call : Call) → Host → call.Answer × Host
  | .acquire, host => host.socket
  | .release _, host => ((), host.close)
  | .request _ request, host =>
    match host.ioctl (command request) (payload request) with
    | (.ok written, after) => (.ok (readReply request written), after)
    | (.error cause, after) => (.error cause, after)
  | .nameToIndex name, host => host.nameToIndex name
  | .indexToName index, host => host.indexToName index

/-- The kernel behind system calls, as a control plane. -/
def plane : ControlPlane Host := ⟨answer⟩

end Host

end NetBridge.Ioctl
