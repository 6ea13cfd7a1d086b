import Mathlib.Data.List.Basic
import NetBridge.Proofs.Compound
import NetBridge.Proofs.Failure

/-! The audit trail. On every course of an operation one error is logged when it fails, unless it only
declines to destroy a bridge that has members; one notice is logged for each change of the bridge
table that was granted; and each step of a plan is announced when it is attempted. -/

namespace NetBridge

open Dialogue

/-- The step that an event announces. -/
def Event.applied? : Event → Option Action
  | applying action => some action
  | _ => none

/-- The event tells of something done, and not of something about to be. -/
def Event.Notice (event : Event) : Prop := event.level = .info ∧ event.applied? = none

instance (event : Event) : Decidable event.Notice :=
  inferInstanceAs (Decidable (event.level = .info ∧ event.applied? = none))

def Step.changes : Step → Bool
  | asked (.request _ request) (.ok _) => request.mutates
  | _ => false

/-- Nothing failed: there are members in the way. -/
def Error.busy : Error → Bool
  | bridgeBusy _ _ => true
  | _ => false

/-- How many errors are to be logged for an outcome. -/
def alarms : Except Error α → Nat
  | .ok _ => 0
  | .error error => if error.busy then 0 else 1

/-- A course whose events tell of its outcome, of every change, and of these steps of a plan. -/
structure Audit (applied : List Action) (steps : List Step) (result : Except Error α) : Prop where
  errors : (steps.filterMap Step.event?).countP (fun event => event.level = .error) = alarms result
  notices : (steps.filterMap Step.event?).countP (fun event => event.Notice) =
    steps.countP Step.changes
  applied : (steps.filterMap Step.event?).filterMap Event.applied? = applied

/-- Neither an alarm nor a notice nor an announcement, and no change. -/
def Step.Plain (step : Step) : Prop :=
  (∀ event, step = .logged event → event.level ≠ .error ∧ event.level ≠ .info) ∧
    step.changes = false

theorem Event.applied?_eq_none {event : Event} (other : event.level ≠ .info) :
    event.applied? = none := by
  cases event <;> simp_all [applied?, level]

namespace Step.Plain

theorem asked {call : Call} {answer : call.Answer}
    (unchanged : (Step.asked call answer).changes = false) : Plain (.asked call answer) :=
  ⟨nofun, unchanged⟩

theorem logged {event : Event} (noAlarm : event.level ≠ .error) (noInfo : event.level ≠ .info) :
    Plain (.logged event) := by
  refine ⟨fun other same => ?_, rfl⟩
  obtain rfl := Step.logged.inj same
  exact ⟨noAlarm, noInfo⟩

end Step.Plain

namespace Audit

variable {early late : List Action} {front back : List Step} {first : Except Error β}
  {second : Except Error γ} {whole : Except Error α}

theorem join (one : Audit early front first) (two : Audit late back second)
    (due : alarms whole = alarms first + alarms second) :
    Audit (early ++ late) (front ++ back) whole where
  errors := by rw [List.filterMap_append, List.countP_append, one.errors, two.errors, due]
  notices := by
    rw [List.filterMap_append, List.countP_append, one.notices, two.notices, List.countP_append]
  applied := by rw [List.filterMap_append, List.filterMap_append, one.applied, two.applied]

theorem error {error : Error} (audit : Audit early front (.error error : Except Error β)) :
    Audit early front (.error error : Except Error α) :=
  ⟨audit.errors, audit.notices, audit.applied⟩

theorem nil (value : α) : Audit [] [] (.ok value) := ⟨rfl, rfl, rfl⟩

theorem plain {step : Step} (plain : step.Plain) (value : α) : Audit [] [step] (.ok value) := by
  obtain ⟨quiet, unchanged⟩ := plain
  cases step with
  | asked call answer => exact ⟨rfl, by simp [Step.event?, unchanged], rfl⟩
  | logged event =>
    obtain ⟨noAlarm, noInfo⟩ := quiet event rfl
    exact ⟨by simp [Step.event?, noAlarm, alarms],
      by simp [Step.event?, Event.Notice, noInfo, Step.changes],
      by simp [Step.event?, Event.applied?_eq_none noInfo]⟩

theorem of_plain {steps : List Step} (silent : ∀ step ∈ steps, step.Plain) (value : α) :
    Audit [] steps (.ok value) := by
  induction steps with
  | nil => exact .nil value
  | cons step rest ih =>
    obtain ⟨first, later⟩ := List.forall_mem_cons.mp silent
    exact (plain first value).join (ih later) rfl

theorem alarm {event : Event} {error : Error} (level : event.level = .error)
    (failed : error.busy = false) : Audit [] [.logged event] (.error error : Except Error α) := by
  have noInfo : event.level ≠ .info := by simp [level]
  exact ⟨by simp [Step.event?, level, alarms, failed],
    by simp [Step.event?, Event.Notice, level, Step.changes],
    by simp [Step.event?, Event.applied?_eq_none noInfo]⟩

/-- A change that is granted and told. -/
theorem change {handle : Handle} {request : Request} {reply : request.Reply} {event : Event}
    (mutates : request.mutates = true) (told : event.Notice) (value : α) :
    Audit [] [.asked (.request handle request) (.ok reply), .logged event] (.ok value) := by
  obtain ⟨level, unannounced⟩ := told
  exact ⟨by simp [Step.event?, List.filterMap_cons, level, alarms],
    by
      simp [Step.event?, List.filterMap_cons, Event.Notice, level, unannounced, Step.changes,
        mutates],
    by simp [Step.event?, List.filterMap_cons, unannounced]⟩

theorem applying (action : Action) (value : α) :
    Audit [action] [.logged (.applying action)] (.ok value) := ⟨rfl, rfl, rfl⟩

end Audit

/-! ## Dialogues -/

def Dialogue.Silent (d : Dialogue α) : Prop :=
  ∀ steps value, Plays d steps value → ∀ step ∈ steps, step.Plain

/-- On every course one error is logged for the error that it ends with. -/
def Dialogue.Complains (d : Dialogue Error) : Prop :=
  ∀ steps error, Plays d steps error → Audit [] steps (.error error : Except Error Unit)

namespace Dialogue.Silent

theorem done (value : α) : Silent (done value) := by
  intro steps result played
  obtain ⟨rfl, -⟩ := plays_done_iff.mp played
  nofun

theorem log {event : Event} {next : Dialogue α} (noAlarm : event.level ≠ .error)
    (noInfo : event.level ≠ .info) (later : next.Silent) : Silent (log event next) := by
  intro steps value played
  obtain ⟨rest, rfl, others⟩ := plays_log_iff.mp played
  exact List.forall_mem_cons.mpr ⟨.logged noAlarm noInfo, later rest value others⟩

theorem bind {d : Dialogue α} {k : α → Dialogue β} (first : d.Silent)
    (rest : ∀ value, (k value).Silent) : (d >>= k).Silent := by
  intro steps value played
  obtain ⟨front, back, middle, rfl, begun, later⟩ := plays_bind_iff.mp played
  exact List.forall_mem_append.mpr ⟨first front middle begun, rest middle back value later⟩

theorem query {call : Call} (unchanged : ∀ answer, (Step.asked call answer).changes = false) :
    Silent (query call) := by
  intro steps value played
  obtain ⟨answer, rest, rfl, ended⟩ := plays_ask_iff.mp played
  obtain ⟨rfl, rfl⟩ := plays_done_iff.mp ended
  exact List.forall_mem_singleton.mpr (.asked (unchanged value))

theorem report {event : Event} (noAlarm : event.level ≠ .error) (noInfo : event.level ≠ .info) :
    Silent (report event) := log noAlarm noInfo (done ())

theorem reportAll {events : List Event}
    (quiet : ∀ event ∈ events, event.level ≠ .error ∧ event.level ≠ .info) :
    Silent (reportAll events) := by
  induction events with
  | nil => exact .done ()
  | cons event rest ih =>
    obtain ⟨⟨noAlarm, noInfo⟩, later⟩ := List.forall_mem_cons.mp quiet
    exact .log noAlarm noInfo (ih later)

end Dialogue.Silent

theorem Dialogue.Complains.report {event : Event} {error : Error} (level : event.level = .error)
    (failed : error.busy = false) : Complains (do report event; return error) := by
  intro steps result played
  obtain ⟨rest, rfl, later⟩ := plays_log_iff.mp played
  obtain ⟨rfl, rfl⟩ := plays_done_iff.mp later
  exact .alarm level failed

/-! ## Procedures -/

/-- Every course is one whose events tell of its outcome and of every change, and of no plan. -/
def Procedure.Audited (p : Procedure α) : Prop :=
  ∀ steps result, Plays (ExceptT.run p) steps result → Audit [] steps result

namespace Procedure.Audited

theorem pure (value : α) : Audited (Pure.pure value : Procedure α) := by
  intro steps result played
  obtain ⟨rfl, rfl⟩ := plays_done_iff.mp played
  exact .nil value

theorem bind {p : Procedure α} {k : α → Procedure β} (first : p.Audited)
    (rest : ∀ value, (k value).Audited) : (p >>= k).Audited := by
  intro steps result played
  rcases plays_bind_iff.mp played with ⟨error, rfl, begun⟩ | ⟨front, back, value, rfl, begun, later⟩
  · exact (first steps _ begun).error
  · exact (first front _ begun).join (rest value back result later) (Nat.zero_add _).symm

theorem lift {d : Dialogue α} (silent : d.Silent) : Audited (liftM d : Procedure α) := by
  intro steps result played
  obtain ⟨value, rfl, said⟩ := plays_liftM_iff.mp played
  exact .of_plain (silent steps value said) value

theorem decline (bridge : String) (members : List String) :
    Audited (throw (.bridgeBusy bridge members) : Procedure α) := by
  intro steps result played
  obtain ⟨rfl, rfl⟩ := plays_done_iff.mp played
  exact ⟨rfl, rfl, rfl⟩

theorem complain {event : Event} {error : Error} (level : event.level = .error)
    (failed : error.busy = false) :
    Audited (do Dialogue.report event; throw error : Procedure α) := by
  intro steps result played
  obtain ⟨rest, rfl, later⟩ := plays_log_iff.mp played
  obtain ⟨rfl, rfl⟩ := plays_done_iff.mp later
  exact .alarm level failed

end Procedure.Audited

/-! ## Names, handles and requests -/

namespace Control

open Procedure

variable (policy : NamePolicy)

theorem audited_name (text : String) : Audited (name policy text) := by
  intro steps result played
  obtain ⟨front, back, _, rfl, begun, later⟩ := Dialogue.plays_bind_iff.mp played
  have quiet : ∀ event ∈ (normalise policy text).events,
      event.level ≠ .error ∧ event.level ≠ .info := by
    intro event member
    unfold normalise at member
    split at member
    · split at member
      · obtain rfl := List.mem_singleton.mp member
        exact ⟨nofun, nofun⟩
      · cases member
    · cases member
  have silent : Audit [] front (.ok ()) := .of_plain (Dialogue.Silent.reportAll quiet front _ begun) ()
  refine silent.join (?_ : Audit [] back result) (Nat.zero_add _).symm
  split at later
  · obtain ⟨rfl, rfl⟩ := plays_done_iff.mp later
    exact .nil _
  · obtain ⟨rest, rfl, ended⟩ := plays_log_iff.mp later
    obtain ⟨rfl, rfl⟩ := plays_done_iff.mp ended
    exact .alarm rfl rfl

theorem audited_resolve (text : String) : Audited (resolve policy text) := by
  refine .bind (audited_name policy text) fun iface => ?_
  refine .bind (.lift (.query fun _ => rfl)) fun index => ?_
  cases index with
  | some index => exact .bind (.lift (.report nofun nofun)) fun _ => .pure _
  | none => exact .complain rfl rfl

theorem silent_namesOf (slots : List Int32) : (namesOf slots).Silent := by
  induction slots with
  | nil => exact .done _
  | cons slot rest ih =>
    rw [namesOf]
    split
    · exact ih
    · next index _ =>
      refine .bind (.query fun _ => rfl) fun text => ?_
      cases text with
      | some found => exact .bind ih fun _ => .done _
      | none => exact .bind (.report nofun nofun) fun _ => ih

theorem complains_noHandle (op : Operation) (dev : IfName) (cause : Errno) :
    (noHandle op dev cause).Complains := .report rfl rfl

theorem complains_refusal (op : Operation) (dev : IfName) (cause : Errno) :
    (refusal op dev cause).Complains := .report rfl rfl

theorem audit_refused {handle : Handle} {request : Request} {refused : Errno → Dialogue Error}
    {cause : Errno} {later : List Step} {error : Error} (said : (refused cause).Complains)
    (spoken : Plays (refused cause) later error) :
    Audit [] (.asked (.request handle request) (.error cause) :: later)
      (.error error : Except Error α) := by
  have denied : Audit [] [.asked (.request handle request) (.error cause)] (.ok ()) :=
    .plain (.asked rfl) ()
  exact denied.join (said later error spoken) (Nat.zero_add _).symm

theorem audited_withHandle {refused : Errno → Dialogue Error} {body : Handle → Procedure α}
    (said : ∀ cause, (refused cause).Complains) (each : ∀ handle, (body handle).Audited) :
    Audited (withHandle refused body) := by
  intro steps result played
  rcases plays_withHandle played with
    ⟨cause, later, error, rfl, spoken, rfl⟩ | ⟨handle, middle, rfl, worked⟩
  · have denied : Audit [] [.asked .acquire (.error cause)] (.ok ()) := .plain (.asked rfl) ()
    exact denied.join (said cause later error spoken) (Nat.zero_add _).symm
  · have acquired : Audit [] [.asked .acquire (.ok handle)] (.ok ()) := .plain (.asked rfl) ()
    have released : Audit [] [.asked (.release handle) ()] (.ok ()) := .plain (.asked rfl) ()
    exact acquired.join ((each handle middle result worked).join released rfl) (Nat.zero_add _).symm

theorem audited_issue {handle : Handle} {request : Request} {refused : Errno → Dialogue Error}
    (reads : request.mutates = false) (said : ∀ cause, (refused cause).Complains) :
    Audited (issue handle request refused) := by
  intro steps result played
  rcases plays_issue played with ⟨cause, later, error, rfl, spoken, rfl⟩ | ⟨reply, rfl, rfl⟩
  · exact audit_refused (said cause) spoken
  · have replied : (Step.asked (.request handle request) (.ok reply)).Plain := .asked reads
    exact .plain replied reply

theorem audited_change {handle : Handle} {request : Request} {refused : Errno → Dialogue Error}
    {event : Event} (mutates : request.mutates = true) (told : event.Notice)
    (said : ∀ cause, (refused cause).Complains) :
    Audited (do let _ ← issue handle request refused; report event) := by
  intro steps result played
  rcases Procedure.plays_bind_iff.mp played with
    ⟨error, rfl, begun⟩ | ⟨front, back, value, rfl, begun, later⟩
  · rcases plays_issue begun with ⟨cause, later, _, rfl, spoken, same⟩ | ⟨reply, -, same⟩
    · obtain rfl := Except.error.inj same
      exact audit_refused (said cause) spoken
    · cases same
  · rcases plays_issue begun with ⟨cause, later, _, -, -, same⟩ | ⟨reply, rfl, -⟩
    · cases same
    · obtain ⟨rest, rfl, ended⟩ := plays_log_iff.mp later
      obtain ⟨rfl, rfl⟩ := plays_done_iff.mp ended
      exact .change mutates told ()

/-! ## Operations -/

/-- An operation that takes a handle for one change and tells of it. -/
theorem audited_request (op : Operation) (dev : IfName) {request : Request} {event : Event}
    {refused : Errno → Dialogue Error} (mutates : request.mutates = true) (told : event.Notice)
    (said : ∀ cause, (refused cause).Complains) :
    Audited (withHandle (noHandle op dev) fun handle => do
      let _ ← issue handle request refused
      report event) :=
  audited_withHandle (complains_noHandle op dev) fun _ => audited_change mutates told said

theorem audited_createBridge (text : String) : Audited (createBridge policy text) :=
  .bind (audited_name policy text) fun bridge =>
    audited_request _ bridge rfl ⟨rfl, rfl⟩ (complains_refusal _ bridge)

theorem audited_deleteBridge (text : String) : Audited (deleteBridge policy text) :=
  .bind (audited_name policy text) fun bridge =>
    audited_request _ bridge rfl ⟨rfl, rfl⟩ (complains_refusal _ bridge)

theorem audited_addInterface (bridgeText ifaceText : String) :
    Audited (addInterface policy bridgeText ifaceText) :=
  .bind (audited_name policy bridgeText) fun bridge =>
    .bind (audited_resolve policy ifaceText) fun (_, _) =>
      audited_request _ bridge rfl ⟨rfl, rfl⟩ fun _ => .report rfl rfl

theorem audited_removeInterface (bridgeText ifaceText : String) :
    Audited (removeInterface policy bridgeText ifaceText) :=
  .bind (audited_name policy bridgeText) fun bridge =>
    .bind (audited_resolve policy ifaceText) fun (_, _) =>
      audited_request _ bridge rfl ⟨rfl, rfl⟩ fun _ => .report rfl rfl

theorem audited_listBridges : Audited listBridges := by
  refine audited_withHandle (fun _ => .report rfl rfl) fun handle => ?_
  refine .bind (audited_issue rfl fun _ => .report rfl rfl) fun found => ?_
  dsimp only
  split
  · exact .bind (.lift (.report nofun nofun)) fun _ => .lift (silent_namesOf _)
  · exact .lift (silent_namesOf _)

theorem audited_listInterfaces (text : String) : Audited (listInterfaces policy text) := by
  refine .bind (audited_name policy text) fun bridge => ?_
  refine audited_withHandle (complains_noHandle _ bridge) fun handle => ?_
  exact .bind (audited_issue rfl (complains_refusal _ bridge)) fun slots =>
    .lift (silent_namesOf slots.toList)

theorem audited_interfaceExists (text : String) : Audited (interfaceExists policy text) :=
  .bind (audited_name policy text) fun _ =>
    .bind (.lift (.query fun _ => rfl)) fun _ => .pure _

theorem audited_linkFlags (text : String) : Audited (linkFlags policy text) := by
  refine .bind (audited_name policy text) fun iface => ?_
  exact audited_withHandle (complains_noHandle _ iface) fun handle =>
    audited_issue rfl (complains_refusal _ iface)

theorem audited_setLinkUp (text : String) (up : Bool) : Audited (setLinkUp policy text up) := by
  refine .bind (audited_name policy text) fun iface => ?_
  refine audited_withHandle (complains_noHandle _ iface) fun handle => ?_
  refine .bind (audited_issue rfl (complains_refusal _ iface)) fun flags => ?_
  split
  · exact .lift (.report nofun nofun)
  · exact audited_change rfl ⟨rfl, rfl⟩ (complains_refusal _ iface)

theorem auditing : Operating policy Audited where
  pure := .pure
  bind := .bind
  name := audited_name policy
  listBridges := audited_listBridges
  listInterfaces := audited_listInterfaces policy
  interfaceExists := audited_interfaceExists policy
  linkFlags := audited_linkFlags policy
  createBridge := audited_createBridge policy
  deleteBridge := audited_deleteBridge policy
  addInterface := audited_addInterface policy
  removeInterface := audited_removeInterface policy
  setLinkUp := audited_setLinkUp policy
  decline := .decline

end Control

/-! ## Plans -/

namespace Topology

open Control Procedure

variable (policy : NamePolicy)

/-- The steps of a plan that are attempted on a course, which ends with the first that fails. Each is
announced and then carried out. -/
inductive Attempts : List Action → List Step → Except Error Unit → List Action → Prop where
  | none : Attempts [] [] (.ok ()) []
  | failed {action : Action} {rest : List Action} {steps : List Step} {error : Error}
      (stopped : Plays (ExceptT.run (perform policy action)) steps (.error error)) :
      Attempts (action :: rest) (.logged (.applying action) :: steps) (.error error) [action]
  | done {action : Action} {rest attempted : List Action} {front back : List Step}
      {result : Except Error Unit}
      (carried : Plays (ExceptT.run (perform policy action)) front (.ok ()))
      (later : Attempts rest back result attempted) :
      Attempts (action :: rest) (.logged (.applying action) :: front ++ back) result
        (action :: attempted)

theorem exists_attempts {plan : List Action} {steps : List Step} {result : Except Error Unit}
    (played : Plays (ExceptT.run (execute policy plan)) steps result) :
    ∃ attempted, Attempts policy plan steps result attempted := by
  induction plan generalizing steps with
  | nil =>
    obtain ⟨rfl, rfl⟩ := plays_done_iff.mp played
    exact ⟨[], .none⟩
  | cons action rest ih =>
    obtain ⟨following, rfl, performed⟩ := plays_log_iff.mp played
    rcases Procedure.plays_bind_iff.mp performed with
      ⟨error, rfl, stopped⟩ | ⟨front, back, ⟨⟩, rfl, carried, later⟩
    · exact ⟨[action], .failed stopped⟩
    · obtain ⟨attempted, attempts⟩ := ih later
      exact ⟨action :: attempted, .done carried attempts⟩

theorem Attempts.audit {plan attempted : List Action} {steps : List Step}
    {result : Except Error Unit} (attempts : Attempts policy plan steps result attempted) :
    Audit attempted steps result := by
  induction attempts with
  | none => exact .nil ()
  | @failed action _ steps error stopped =>
    exact (Audit.applying action ()).join ((auditing policy).perform action steps _ stopped)
      (Nat.zero_add _).symm
  | @done action _ _ front back _ carried later ih =>
    have first : Audit [action] (.logged (.applying action) :: front) (.ok ()) :=
      (Audit.applying action ()).join ((auditing policy).perform action front _ carried) rfl
    exact first.join ih (Nat.zero_add _).symm

end Topology

/-- The steps of a plan that an operation attempts on a course; most operations carry out no plan. -/
def Intent.Attempts (policy : NamePolicy) : (intent : Intent) → List Step →
    Except Error intent.Result → List Action → Prop
  | .execute plan, steps, result, attempted => Topology.Attempts policy plan steps result attempted
  | _, _, _, attempted => attempted = []

theorem Intent.exists_audit {policy : NamePolicy} {intent : Intent} {steps : List Step}
    {result : Except Error intent.Result}
    (played : Plays (ExceptT.run (intent.procedure policy)) steps result) :
    ∃ applied, Audit applied steps result ∧ intent.Attempts policy steps result applied := by
  have simple (other : ∀ plan, intent ≠ .execute plan) : Audit [] steps result :=
    (Control.auditing policy).intent intent other steps result played
  cases intent with
  | execute plan =>
    obtain ⟨attempted, attempts⟩ := Topology.exists_attempts policy played
    exact ⟨attempted, attempts.audit, attempts⟩
  | _ => exact ⟨[], simple nofun, rfl⟩

/-- In the events of any operation, whatever it was answered, there is one error when it fails and
none when it succeeds or declines to destroy a bridge that has members; there are as many notices as
changes of the bridge table that were granted; and the steps of a plan are announced that were
attempted, one by one and before they were. -/
theorem audit_trail {policy : NamePolicy} {intent : Intent} {steps : List Step}
    {result : Except Error intent.Result}
    (played : Plays (ExceptT.run (intent.procedure policy)) steps result) :
    let events := steps.filterMap Step.event?
    events.countP (fun event => event.level = .error) = alarms result ∧
    events.countP (fun event => event.Notice) = steps.countP Step.changes ∧
    intent.Attempts policy steps result (events.filterMap Event.applied?) := by
  obtain ⟨applied, audit, attempts⟩ := Intent.exists_audit played
  exact ⟨audit.errors, audit.notices, audit.applied.symm ▸ attempts⟩

/-- A plan that stops at its second step, which adds an interface that does not exist. -/
theorem audit_trail_stopped :
    let course := Procedure.run Kernel.plane (Topology.execute .truncate
      [.createBridge "br0", .addMember "br0" "eth0", .linkUp "br0"]) .new
    course.value = .error (.interfaceNotFound "eth0") ∧
    course.events.countP (fun event => event.level = .error) = 1 ∧
    course.events.countP (fun event => event.Notice) = 1 ∧
    Topology.Attempts .truncate [.createBridge "br0", .addMember "br0" "eth0", .linkUp "br0"]
      course.steps course.value (course.events.filterMap Event.applied?) := by
  intro course
  have failed : course.value = .error (.interfaceNotFound "eth0") := by decide +kernel
  have granted : course.steps.countP Step.changes = 1 := by decide +kernel
  obtain ⟨errors, notices, attempts⟩ := @audit_trail .truncate
    (.execute [.createBridge "br0", .addMember "br0" "eth0", .linkUp "br0"]) course.steps
    course.value (plays_run Kernel.plane _ _)
  refine ⟨failed, ?_, notices.trans granted, attempts⟩
  rw [failed] at errors
  exact errors

end NetBridge
