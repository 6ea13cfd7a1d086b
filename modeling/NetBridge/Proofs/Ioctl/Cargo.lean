import Mathlib.Tactic.SplitIfs
import NetBridge.Proofs.Addressing
import NetBridge.Proofs.Ioctl.Session

namespace NetBridge.Ioctl

/-- What is to be found in a block of memory: a name at its start, and a number of so many bytes
behind the name field. -/
structure Cargo where
  name : IfName
  width : Nat
  operand : Nat
  size : Nat

/-- The cargo of a request about one device or one port. -/
def cargo? : Request → Option Cargo
  | .addBridge name => some ⟨name, 0, 0, 16⟩
  | .deleteBridge name => some ⟨name, 0, 0, 16⟩
  | .addPort bridge port => some ⟨bridge, 4, port.toNat, 40⟩
  | .deletePort bridge port => some ⟨bridge, 4, port.toNat, 40⟩
  | .linkFlags name => some ⟨name, 2, 0, 40⟩
  | .setLinkFlags name flags => some ⟨name, 2, flags.bits.toNat, 40⟩
  | .bridgeIndices _ => none
  | .portIndices _ _ => none

/-- The memory yields the cargo, and every byte that belongs neither to the name nor to the number
is zero. -/
structure Carries (data : List UInt8) (cargo : Cargo) : Prop where
  size : data.length = cargo.size
  name : nameOf? data = some cargo.name
  operand : ofLittleEndian (operandOf cargo.width data) = cargo.operand
  zero : ∀ position byte, data[position]? = some byte → cargo.name.text.utf8ByteSize ≤ position →
    position < nameFieldSize ∨ nameFieldSize + cargo.width ≤ position → byte = 0

theorem length_littleEndian (width value : Nat) : (littleEndian width value).length = width := by
  induction width generalizing value with
  | zero => rfl
  | succ width ih => rw [littleEndian, List.length_cons, ih]

/-- A name field, a number, and zeros behind it. -/
theorem carries_append (name : IfName) {width value : Nat} (small : value < byteRange width)
    (padding : Nat) :
    Carries (NameField.encode name ++ littleEndian width value ++ List.replicate padding 0)
      ⟨name, width, value, nameFieldSize + width + padding⟩ where
  size := by
    simp [NameField.length_encode, length_littleEndian, Nat.add_assoc]
  name := by
    rw [List.append_assoc]
    exact nameOf?_encode_append name _
  operand := by
    have placed := operandOf_encode_append name (littleEndian width value)
      (List.replicate padding 0)
    rw [length_littleEndian] at placed
    show ofLittleEndian (operandOf width _) = value
    rw [placed, ofLittleEndian_littleEndian small]
  zero := by
    intro position byte found behind outside
    dsimp only at behind outside
    have fits : name.text.utf8ByteSize ≤ nameFieldSize := Nat.le_trans name.size_le (by decide)
    simp only [NameField.encode, List.getElem?_append, List.getElem?_replicate, List.length_append,
      NameField.length_textBytes, List.length_replicate, length_littleEndian] at found
    split_ifs at found <;> first | omega | exact (Option.some.inj found).symm

theorem carries_payload {request : Request} {cargo : Cargo}
    (carried : cargo? request = some cargo) :
    ∃ data, payload request = .bytes data ∧ Carries data cargo := by
  have bare (name : IfName) : Carries (NameField.encode name) ⟨name, 0, 0, 16⟩ := by
    have whole := carries_append name (show 0 < byteRange 0 from Nat.one_pos) 0
    rwa [littleEndian, List.append_nil, List.replicate_zero, List.append_nil] at whole
  have port (bridge : IfName) (index : IfIndex) :
      ∃ data, interfaceRequest bridge (indexBytes index) = .bytes data ∧
        Carries data ⟨bridge, 4, index.toNat, 40⟩ :=
    ⟨_, rfl, carries_append bridge index.value.toNat_lt _⟩
  have link (name : IfName) (flags : LinkFlags) :
      ∃ data, interfaceRequest name (flagBytes flags) = .bytes data ∧
        Carries data ⟨name, 2, flags.bits.toNat, 40⟩ :=
    ⟨_, rfl, carries_append name flags.bits.isLt _⟩
  cases request with
  | addBridge name | deleteBridge name =>
    cases carried
    exact ⟨_, rfl, bare name⟩
  | addPort bridge index | deletePort bridge index =>
    cases carried
    exact port bridge index
  | linkFlags name =>
    cases carried
    exact link name ⟨0⟩
  | setLinkFlags name flags =>
    cases carried
    exact link name flags
  | bridgeIndices capacity => cases carried
  | portIndices bridge capacity => cases carried

/-- Requests of one number with the same memory are the same request. -/
theorem payload_injective {request other : Request}
    (number : (command request).number = (command other).number)
    (memory : payload request = payload other) : request = other := by
  have meant := decode?_payload request
  rw [Command.number_inj number, memory, decode?_payload other] at meant
  exact (Option.some.inj meant).symm

/-- The command and the memory of a system call that issues a request. -/
def Syscall.issue? : Syscall → Option (Command × Payload)
  | .ioctl command payload _ => some (command, payload)
  | _ => none

/-- One host follows another by system calls that issue no requests but those of the steps. -/
def Issues (host : Host) (steps : List Step) (after : Host) : Prop :=
  ∃ calls, after.history = calls ++ host.history ∧
    ∀ issued ∈ calls.filterMap Syscall.issue?, ∃ request ∈ steps.filterMap Step.request?,
      issued = (command request, payload request)

namespace Issues

variable {host middle after : Host} {steps further : List Step}

theorem refl (host : Host) : Issues host [] host := ⟨[], rfl, nofun⟩

theorem trans (first : Issues host steps middle) (second : Issues middle further after) :
    Issues host (steps ++ further) after := by
  obtain ⟨front, record, issues⟩ := first
  obtain ⟨back, grown, later⟩ := second
  refine ⟨back ++ front, by rw [grown, record, List.append_assoc], fun issued member => ?_⟩
  rw [List.filterMap_append] at member ⊢
  rcases List.mem_append.mp member with new | old
  · obtain ⟨request, asked, same⟩ := later issued new
    exact ⟨request, List.mem_append_right _ asked, same⟩
  · obtain ⟨request, asked, same⟩ := issues issued old
    exact ⟨request, List.mem_append_left _ asked, same⟩

/-- A step that takes one system call, which issues no request. -/
theorem single {call : Syscall} (other : call.issue? = none)
    (grown : after.history = call :: host.history) : Issues host steps after := by
  refine ⟨[call], grown, fun issued member => ?_⟩
  rw [List.filterMap_cons, other] at member
  cases member

end Issues

namespace Host

/-- However often a request is interrupted and whatever fails it, its memory is the same. -/
theorem history_ioctl (host : Host) (command : Command) (payload : Payload) :
    ∃ outcomes, (host.ioctl command payload).2.history =
      List.map (Syscall.ioctl command payload) outcomes ++ host.history := by
  fun_induction ioctl host command payload with
  | case1 host others taken after ih =>
    obtain ⟨outcomes, record⟩ := ih
    refine ⟨outcomes ++ [.error .EINTR], ?_⟩
    rw [record, List.map_append, List.append_assoc]
    rfl
  | case2 host cause others taken after other => exact ⟨[.error cause], rfl⟩
  | case3 host clear written kernel served => exact ⟨[.ok written.value], rfl⟩
  | case4 host clear cause kernel served => exact ⟨[.error cause], rfl⟩

theorem issues_answer (host : Host) (call : Call) :
    Issues host [.asked call (host.answer call).1] (host.answer call).2 := by
  cases call with
  | acquire =>
    show Issues host [.asked .acquire host.socket.1] host.socket.2
    rw [socket]
    split
    · exact .single rfl rfl
    · split <;> exact .single rfl rfl
  | release handle => exact .single rfl rfl
  | request handle request =>
    obtain ⟨outcomes, record⟩ := host.history_ioctl (command request) (payload request)
    refine ⟨outcomes.map (.ioctl (command request) (payload request)), ?_, fun issued member =>
      ⟨request, List.mem_singleton_self _, ?_⟩⟩
    · rw [← record, answer]
      rcases host.ioctl (command request) (payload request) with ⟨_ | _, after⟩ <;> rfl
    · simp only [List.filterMap_map, List.mem_filterMap, Function.comp_apply,
        Syscall.issue?] at member
      obtain ⟨outcome, -, same⟩ := member
      exact (Option.some.inj same).symm
  | nameToIndex name => exact .single rfl rfl
  | indexToName index => exact .single rfl rfl

theorem issues_run (d : Dialogue α) (host : Host) :
    Issues host (d.run plane host).steps (d.run plane host).state := by
  induction d generalizing host with
  | done value => exact .refl host
  | log event next ih => exact ih host
  | ask call next ih => exact (host.issues_answer call).trans (ih _ (host.answer call).2)

/-- A session issues the requests of its steps and no others. -/
theorem issues_after (schedule : List (List Command × Move)) (host : Host) :
    Issues host ((turns schedule host).flatMap Turn.steps) (host.after schedule) := by
  induction schedule generalizing host with
  | nil => exact .refl host
  | cons entry rest ih =>
    obtain ⟨signals, move⟩ := entry
    have played : Issues host ((host.interrupt signals).play move).steps
        ((host.interrupt signals).play move).state := by
      cases move with
      | operate policy intent =>
        exact issues_run (ExceptT.run (intent.procedure policy)) (host.interrupt signals)
      | happen incident => exact .refl host
    exact played.trans (ih _)

/-- Only operations make requests, each on a course of its own. -/
theorem plays_of_mem_turns {schedule : List (List Command × Move)} {host : Host} {turn : Turn}
    (member : turn ∈ turns schedule host) {request : Request}
    (asked : request ∈ turn.steps.filterMap Step.request?) :
    ∃ policy intent result, turn.move = .operate policy intent ∧
      Dialogue.Plays (ExceptT.run (intent.procedure policy)) turn.steps result := by
  induction schedule generalizing host with
  | nil => cases member
  | cons entry rest ih =>
    obtain ⟨signals, move⟩ := entry
    rcases List.mem_cons.mp member with rfl | later
    · cases move with
      | operate policy intent =>
        exact ⟨policy, intent, _, rfl, Dialogue.plays_run plane _ (host.interrupt signals)⟩
      | happen incident => cases asked
    · exact ih later

/-- The name in a request of a session is denoted by a text that its operation was given. -/
theorem ofText_of_mem_turns {schedule : List (List Command × Move)} {host : Host} {turn : Turn}
    (member : turn ∈ turns schedule host) {request : Request}
    (asked : request ∈ turn.steps.filterMap Step.request?) :
    ∃ policy intent, turn.move = .operate policy intent ∧
      ∀ name, request.name? = some name →
        ∃ target ∈ intent.targets (turn.steps.filterMap Step.heard?),
          IfName.ofText policy target.device = .ok name := by
  obtain ⟨policy, intent, result, moved, played⟩ := plays_of_mem_turns member asked
  refine ⟨policy, intent, moved, fun name named => ?_⟩
  obtain ⟨step, present, requested⟩ := List.mem_filterMap.mp asked
  obtain ⟨before, later, split⟩ := List.append_of_mem present
  rw [split] at played ⊢
  cases step with
  | logged event => cases requested
  | asked call answer =>
    cases call <;> cases requested
    obtain ⟨target, known, denotes⟩ := Intent.ofText_of_request played named
    refine ⟨target, Intent.targets_subset ?_ known, denotes⟩
    rw [List.filterMap_append]
    exact List.subset_append_left _ _

end Host

/-- The memory of a request determines it. It carries, where the kernel looks for them, the name and
the index or flag word of the request, and is zero elsewhere; the kernel reads from it the request
that was meant; and among requests of one number no two have the same memory. Whatever is done in a
session and however its calls fail, the memory handed over is that of requests whose names are
denoted by texts that the operation was given. -/
theorem payloads_determine_requests (request : Request) (host : Host)
    (schedule : List (List Command × Move)) :
    (∀ cargo, cargo? request = some cargo →
      ∃ data, payload request = .bytes data ∧ Carries data cargo) ∧
    decode? (command request) (payload request) = some request ∧
    (∀ other, (command request).number = (command other).number →
      payload request = payload other → request = other) ∧
    ∃ calls, (host.after schedule).history = calls ++ host.history ∧
      ∀ issued ∈ calls.filterMap Syscall.issue?, ∃ turn ∈ Host.turns schedule host,
        ∃ sent policy intent, issued = (command sent, payload sent) ∧
          turn.move = .operate policy intent ∧
          ∀ name, sent.name? = some name →
            ∃ target ∈ intent.targets (turn.steps.filterMap Step.heard?),
              IfName.ofText policy target.device = .ok name := by
  refine ⟨fun cargo => carries_payload, decode?_payload request,
    fun other => payload_injective, ?_⟩
  obtain ⟨calls, record, issues⟩ := host.issues_after schedule
  refine ⟨calls, record, fun issued member => ?_⟩
  obtain ⟨sent, asked, same⟩ := issues issued member
  rw [List.filterMap_flatMap, List.mem_flatMap] at asked
  obtain ⟨turn, present, made⟩ := asked
  obtain ⟨policy, intent, moved, named⟩ := Host.ofText_of_mem_turns present made
  exact ⟨turn, present, sent, policy, intent, same, moved, named⟩

/-- A bridge whose name is cut, and whose creation is interrupted and then refused. -/
theorem payloads_determine_requests_cut :
    let bridge : IfName := ⟨"averylongbridge", by decide, by decide, by decide⟩
    let host : Host := ⟨.new, [interruption .addBridge, ⟨.ioctl 0x89a0, .EBUSY⟩], [], []⟩
    let schedule := [([], .operate .truncate (.createBridge "averylongbridgename"))]
    (host.after schedule).history.filterMap Syscall.issue? =
        List.replicate 2 (.addBridge, payload (.addBridge bridge)) ∧
      (∃ data, payload (.addBridge bridge) = .bytes data ∧ Carries data ⟨bridge, 0, 0, 16⟩) ∧
      ∃ turn ∈ Host.turns schedule host, ∃ policy intent, turn.move = .operate policy intent ∧
        ∃ target ∈ intent.targets (turn.steps.filterMap Step.heard?),
          IfName.ofText policy target.device = .ok bridge := by
  intro bridge host schedule
  have sent : (host.after schedule).history.filterMap Syscall.issue? =
      List.replicate 2 (.addBridge, payload (.addBridge bridge)) := by decide +kernel
  obtain ⟨carried, -, apart, calls, record, issues⟩ :=
    payloads_determine_requests (.addBridge bridge) host schedule
  have issued : (.addBridge, payload (.addBridge bridge)) ∈ calls.filterMap Syscall.issue? := by
    rw [show host.history = [] from rfl, List.append_nil] at record
    rw [← record, sent]
    exact List.mem_cons_self
  obtain ⟨turn, member, other, policy, intent, same, moved, named⟩ := issues _ issued
  obtain ⟨number, memory⟩ := Prod.mk.inj same
  obtain rfl := apart other (congrArg Command.number number) memory
  exact ⟨sent, carried _ rfl, turn, member, policy, intent, moved, named bridge rfl⟩

end NetBridge.Ioctl
