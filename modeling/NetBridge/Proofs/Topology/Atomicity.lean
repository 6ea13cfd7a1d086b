import NetBridge.Proofs.Kernel.ForcedDestruction
import NetBridge.Proofs.Topology.Steps

namespace NetBridge

open Control

/-- The operations on one bridge or link that change the table when they succeed. -/
def Intent.alters : Intent → Bool
  | createBridge _ => true
  | deleteBridge _ => true
  | addInterface _ _ => true
  | removeInterface _ _ => true
  | setLinkUp _ _ => true
  | destroyBridge _ _ => true
  | _ => false

namespace Kernel

variable {kernel : Kernel} {policy : NamePolicy}

/-- The procedure fails and leaves everything as it was. -/
def Denies (kernel : Kernel) (p : Procedure α) : Prop :=
  ∃ cause, p.outcome plane kernel = (.error cause, kernel)

namespace Denies

theorem harmless {p : Procedure α} (denied : kernel.Denies p) : Harmless p kernel := by
  intro cause after failed
  obtain ⟨fault, outcome⟩ := denied
  exact ⟨0, 0, congrArg Prod.snd (failed.symm.trans outcome)⟩

theorem bind {p : Procedure α} (denied : kernel.Denies p) (k : α → Procedure β) :
    kernel.Denies (p >>= k) := by
  obtain ⟨cause, outcome⟩ := denied
  exact ⟨cause, Procedure.outcome_bind_error plane kernel outcome k⟩

theorem named {text : String} {k : IfName → Procedure α} (each : ∀ iface, kernel.Denies (k iface)) :
    kernel.Denies (name policy text >>= k) := by
  cases known : IfName.ofText policy text with
  | error fault => exact bind ⟨_, outcome_name_error plane kernel known⟩ k
  | ok iface =>
    obtain ⟨cause, outcome⟩ := each iface
    have read := outcome_name_ok plane kernel known
    exact ⟨cause, by rw [Procedure.outcome_bind_ok _ _ read, outcome]⟩

theorem resolved {text : String} {k : IfName × IfIndex → Procedure α}
    (each : ∀ target, kernel.Denies (k target)) : kernel.Denies (resolve policy text >>= k) := by
  cases known : IfName.ofText policy text with
  | error fault => exact bind (bind ⟨_, outcome_name_error plane kernel known⟩ _) k
  | ok iface =>
    have looked := outcome_resolve plane kernel known
    rw [plane_nameToIndex] at looked
    cases found : kernel.nameToIndex iface.text with
    | none =>
      rw [found] at looked
      exact bind ⟨_, looked⟩ k
    | some index =>
      rw [found] at looked
      obtain ⟨cause, outcome⟩ := each (iface, index)
      exact ⟨cause, by rw [Procedure.outcome_bind_ok _ _ looked, outcome]⟩

variable (closed : kernel.refusesHandles = true)
include closed

theorem withHandle {refused : Errno → Dialogue Error} {body : Handle → Procedure α}
    (said : ((refused .EMFILE).outcome plane kernel).2 = kernel) :
    kernel.Denies (withHandle refused body) := by
  have answered : plane.answer .acquire kernel = (.error .EMFILE, kernel) := by
    show kernel.acquire = _
    rw [acquire, closed, if_pos rfl]
  refine ⟨((refused .EMFILE).outcome plane kernel).1, ?_⟩
  rw [Control.outcome_withHandle, answered]
  exact congrArg _ said

theorem perform (action : Action) : kernel.Denies (Topology.perform policy action) := by
  cases action with
  | createBridge bridge => exact named fun _ => withHandle closed rfl
  | addMember bridge iface => exact named fun _ => resolved fun _ => withHandle closed rfl
  | linkUp name => exact named fun _ => withHandle closed rfl
  | removeMember bridge iface => exact named fun _ => resolved fun _ => withHandle closed rfl
  | linkDown name => exact named fun _ => withHandle closed rfl
  | deleteBridge bridge => exact named fun _ => withHandle closed rfl

theorem listInterfaces (text : String) : kernel.Denies (listInterfaces policy text) :=
  named fun _ => withHandle closed rfl

end Denies

theorem granted_of_perform {action : Action} {after : Kernel}
    (done : (Topology.perform policy action).outcome plane kernel = (.ok (), after)) :
    kernel.refusesHandles = false := by
  cases closed : kernel.refusesHandles with
  | false => rfl
  | true =>
    have denied : kernel.Denies (Topology.perform policy action) := .perform closed action
    obtain ⟨cause, refused⟩ := denied
    cases done.symm.trans refused

/-- Whether handles are granted or not, a step that fails leaves everything but the counts. -/
theorem harmless_perform (action : Action) : Harmless (Topology.perform policy action) kernel := by
  cases closed : kernel.refusesHandles with
  | false => exact Topology.perform_harmless closed action
  | true => exact (Denies.perform closed action).harmless

/-- The members of a bridge are listed, or the listing fails; nothing changes either way. -/
theorem listInterfaces_cases (quiet : kernel.vanishing = []) (policy : NamePolicy) (text : String) :
    (∃ cause handles, (listInterfaces policy text).outcome plane kernel =
      (.error cause, kernel.tally handles 0)) ∨
    ∃ name bridge members, IfName.ofText policy text = .ok name ∧
      kernel.refusesHandles = false ∧ kernel.bridge name.text = .ok bridge ∧
      (listInterfaces policy text).outcome plane kernel = (.ok members, kernel.tally 1 0) := by
  cases closed : kernel.refusesHandles with
  | true =>
    have denied : kernel.Denies (listInterfaces policy text) := .listInterfaces closed text
    obtain ⟨cause, refused⟩ := denied
    exact .inl ⟨cause, 0, refused⟩
  | false =>
    cases named : IfName.ofText policy text with
    | error fault =>
      have unnamed := outcome_name_error plane kernel named
      exact .inl ⟨_, 0, Procedure.outcome_bind_error plane kernel unnamed _⟩
    | ok name =>
      rw [outcome_listInterfaces_slots closed named, vanish_of_quiet quiet]
      cases opened : kernel.bridge name.text with
      | error cause => exact .inl ⟨_, 1, rfl⟩
      | ok bridge => exact .inr ⟨name, bridge, _, rfl, rfl, opened, rfl⟩

/-- Once the members are listed, the bridge is there to be brought down and deleted. -/
theorem harmless_destroyBridge (quiet : kernel.vanishing = []) (text : String) (force : Bool) :
    Harmless (destroyBridge policy text force) kernel := by
  intro cause after failed
  rcases listInterfaces_cases quiet policy text with ⟨fault, handles, refused⟩ |
    ⟨name, bridge, members, named, granted, opened, listed⟩
  · rw [destroyBridge, Procedure.outcome_bind_error _ _ refused] at failed
    exact ⟨handles, 0, (congrArg Prod.snd failed).symm⟩
  · rw [destroyBridge, Procedure.outcome_bind_ok _ _ listed] at failed
    cases force with
    | true =>
      have still : (kernel.tally 1 0).refusesHandles = false := granted
      obtain ⟨gone, done, -⟩ := outcome_setLinkUp_deleteBridge still named opened
      rw [Bool.not_true, Bool.and_false] at failed
      cases done.symm.trans failed
    | false =>
      cases members with
      | cons first rest => exact ⟨1, 0, (congrArg Prod.snd failed).symm⟩
      | nil =>
        have harmless : Harmless (Control.deleteBridge policy text) (kernel.tally 1 0) :=
          harmless_perform (.deleteBridge text)
        obtain ⟨taken, asked, rfl⟩ := harmless cause after failed
        exact ⟨1 + taken, 0 + asked, tally_tally ..⟩

theorem harmless_of_alters (quiet : kernel.vanishing = []) {intent : Intent}
    (alters : intent.alters = true) : Harmless (intent.procedure policy) kernel := by
  cases intent with
  | createBridge text => exact harmless_perform (.createBridge text)
  | deleteBridge text => exact harmless_perform (.deleteBridge text)
  | addInterface bridge iface => exact harmless_perform (.addMember bridge iface)
  | removeInterface bridge iface => exact harmless_perform (.removeMember bridge iface)
  | setLinkUp text up =>
    cases up with
    | true => exact harmless_perform (.linkUp text)
    | false => exact harmless_perform (.linkDown text)
  | destroyBridge text force => exact harmless_destroyBridge quiet text force
  | _ => cases alters

end Kernel

namespace Procedure

variable (plane : ControlPlane σ) (state : σ) {after : σ}

theorem run_bind_ok {p : Procedure α} {value : α}
    (done : p.outcome plane state = (.ok value, after)) (k : α → Procedure β) :
    (p >>= k).run plane state =
      ⟨((k value).run plane after).value, ((k value).run plane after).state,
        (p.run plane state).steps ++ ((k value).run plane after).steps⟩ := by
  have ended : (Dialogue.run plane (ExceptT.run p) state).value = .ok value :=
    congrArg Prod.fst done
  have left : (Dialogue.run plane (ExceptT.run p) state).state = after := congrArg Prod.snd done
  show Dialogue.run plane (ExceptT.run p >>= ExceptT.bindCont k) state = _
  rw [Dialogue.run_bind]
  dsimp only
  rw [ended, left]
  rfl

theorem run_bind_error {p : Procedure α} {cause : Error}
    (failed : p.outcome plane state = (.error cause, after)) (k : α → Procedure β) :
    (p >>= k).run plane state = ⟨.error cause, after, (p.run plane state).steps⟩ := by
  have ended : (Dialogue.run plane (ExceptT.run p) state).value = .error cause :=
    congrArg Prod.fst failed
  have left : (Dialogue.run plane (ExceptT.run p) state).state = after := congrArg Prod.snd failed
  show Dialogue.run plane (ExceptT.run p >>= ExceptT.bindCont k) state = _
  rw [Dialogue.run_bind]
  dsimp only
  rw [ended, left]
  exact congrArg (Course.mk _ _) (List.append_nil _)

theorem steps_bind_ok {p : Procedure α} {value : α}
    (done : p.outcome plane state = (.ok value, after)) (k : α → Procedure β) :
    ((p >>= k).run plane state).steps =
      (p.run plane state).steps ++ ((k value).run plane after).steps :=
  congrArg Course.steps (run_bind_ok plane state done k)

theorem steps_bind_error {p : Procedure α} {cause : Error}
    (failed : p.outcome plane state = (.error cause, after)) (k : α → Procedure β) :
    ((p >>= k).run plane state).steps = (p.run plane state).steps :=
  congrArg Course.steps (run_bind_error plane state failed k)

end Procedure

namespace Topology

section Execute

variable (plane : ControlPlane σ) (state : σ) {policy : NamePolicy} {middle final : σ}

theorem steps_execute_cons (action : Action) (rest : List Action) :
    ((execute policy (action :: rest)).run plane state).steps =
      .logged (.applying action) ::
        ((do perform policy action; execute policy rest : Procedure Unit).run plane state).steps := by
  rw [execute, Procedure.steps_bind_ok plane state
    (Procedure.outcome_liftM plane state (Dialogue.report (.applying action)))]
  rfl

/-- The course of a plan that fails: the steps before the failed one, then that one alone. -/
theorem steps_execute_error {plan : List Action} {k : Nat} (inside : k < plan.length) {cause : Error}
    (before : (execute policy (plan.take k)).outcome plane state = (.ok (), middle))
    (stuck : (perform policy plan[k]).outcome plane middle = (.error cause, final)) :
    ((execute policy plan).run plane state).steps =
      ((execute policy (plan.take k)).run plane state).steps ++
        .logged (.applying plan[k]) :: ((perform policy plan[k]).run plane middle).steps := by
  induction plan generalizing k state with
  | nil => cases inside
  | cons action rest ih =>
    cases k with
    | zero =>
      obtain rfl : state = middle := congrArg Prod.snd before
      have alone := Procedure.steps_bind_error plane state stuck fun _ => execute policy rest
      exact (steps_execute_cons plane state action rest).trans (congrArg (List.cons _) alone)
    | succ k =>
      obtain ⟨next, step, others⟩ := (execute_cons_ok_iff plane state).mp before
      have later := ih next (Nat.lt_of_succ_lt_succ inside) others stuck
      rw [List.take_succ_cons, steps_execute_cons, steps_execute_cons,
        Procedure.steps_bind_ok plane state step, Procedure.steps_bind_ok plane state step, later,
        List.cons_append, List.append_assoc]
      rfl

end Execute

open Kernel

/-- An operation that fails leaves the link table and the last index as they were, and so does a plan
with its failed step: the table is the one after the steps before it, and nothing of the later steps
is asked for. -/
theorem failures_change_nothing {kernel : Kernel} (quiet : kernel.vanishing = [])
    (policy : NamePolicy) :
    (∀ intent : Intent, intent.alters = true → ∀ cause after,
      (intent.procedure policy).outcome plane kernel = (.error cause, after) →
      after.links = kernel.links ∧ after.lastIndex = kernel.lastIndex) ∧
    ∀ plan cause final, (execute policy plan).outcome plane kernel = (.error cause, final) →
      ∃ k, ∃ inside : k < plan.length, ∃ middle,
        (execute policy (plan.take k)).outcome plane kernel = (.ok (), middle) ∧
        (perform policy plan[k]).outcome plane middle = (.error cause, final) ∧
        final.links = middle.links ∧ final.lastIndex = middle.lastIndex ∧
        ((execute policy plan).run plane kernel).steps =
          ((execute policy (plan.take k)).run plane kernel).steps ++
            .logged (.applying plan[k]) :: ((perform policy plan[k]).run plane middle).steps := by
  constructor
  · intro intent alters cause after failed
    obtain ⟨handles, requests, rfl⟩ := harmless_of_alters quiet alters cause after failed
    exact ⟨links_tally .., lastIndex_tally ..⟩
  · intro plan cause final failed
    obtain ⟨k, inside, middle, before, stuck⟩ := execute_error plane kernel failed
    have course := steps_execute_error plane kernel inside before stuck
    obtain ⟨handles, requests, rfl⟩ := harmless_perform plan[k] cause final stuck
    exact ⟨k, inside, middle, before, stuck, links_tally .., lastIndex_tally .., course⟩

/-- Where a member is missing, the bridge made before it stays, and is not brought up. -/
theorem failures_change_nothing_missing_member :
    ∃ k middle, k < 3 ∧
      (execute .truncate
        ([.createBridge "br0", .addMember "br0" "eth0", .linkUp "br0"].take k)).outcome plane .new =
          (.ok (), middle) ∧
      ((execute .truncate [.createBridge "br0", .addMember "br0" "eth0", .linkUp "br0"]).outcome plane
        .new).2.links = middle.links := by
  obtain ⟨-, stopped⟩ := failures_change_nothing (rfl : Kernel.new.vanishing = []) .truncate
  obtain ⟨k, inside, middle, before, -, same, -, -⟩ := stopped
    [.createBridge "br0", .addMember "br0" "eth0", .linkUp "br0"] (.interfaceNotFound "eth0") _
    (Prod.ext (by decide +kernel) rfl)
  exact ⟨k, middle, inside, before, same⟩

end Topology

end NetBridge
