import NetBridge.Proofs.Kernel.Counters
import NetBridge.Proofs.Outcome

namespace NetBridge.Kernel

open Control

variable {kernel : Kernel} {policy : NamePolicy}

theorem acquire_granted (granted : kernel.refusesHandles = false) :
    kernel.acquire = (.ok ⟨kernel.acquired⟩,
      kernel.recount (kernel.openHandles + 1) (kernel.acquired + 1) kernel.mutations) := by
  simp only [acquire, granted, Bool.false_eq_true, if_false, recount]

theorem outcome_withHandle (granted : kernel.refusesHandles = false)
    (refused : Errno → Dialogue Error) (body : Handle → Procedure α) :
    (withHandle refused body).outcome plane kernel =
      let held := kernel.recount (kernel.openHandles + 1) (kernel.acquired + 1) kernel.mutations
      let done := (body ⟨kernel.acquired⟩).outcome plane held
      (done.1, done.2.release) := by
  rw [Control.outcome_withHandle, show plane.answer .acquire kernel = _ from acquire_granted granted]
  rfl

theorem plane_request (kernel : Kernel) (handle : Handle) (request : Request) :
    plane.answer (.request handle request) kernel = kernel.answerRequest request := rfl

theorem plane_nameToIndex (kernel : Kernel) (iface : IfName) :
    plane.answer (.nameToIndex iface) kernel = (kernel.nameToIndex iface.text, kernel) := rfl

/-- A request carries out a change of the table, or fails as the change does. -/
structure Mutates (request : Request) (change : Kernel → Except Errno Kernel) : Prop where
  reply : ∀ kernel : Kernel,
    (kernel.answerRequest request).1.map (fun _ => ()) = (kernel.mutate change).1
  after : ∀ kernel : Kernel, (kernel.answerRequest request).2 = (kernel.mutate change).2

namespace Mutates

private theorem map_answer (answer : Except Errno Unit) : answer.map (fun _ => ()) = answer := by
  cases answer <;> rfl

theorem addBridge (name : IfName) : Mutates (.addBridge name) (·.addBridge name.text) :=
  ⟨fun _ => map_answer _, fun _ => rfl⟩

theorem deleteBridge (name : IfName) : Mutates (.deleteBridge name) (·.deleteBridge name.text) :=
  ⟨fun _ => map_answer _, fun _ => rfl⟩

theorem addPort (bridge : IfName) (port : IfIndex) :
    Mutates (.addPort bridge port) (·.addPort bridge.text port.toNat) :=
  ⟨fun _ => map_answer _, fun _ => rfl⟩

theorem deletePort (bridge : IfName) (port : IfIndex) :
    Mutates (.deletePort bridge port) (·.deletePort bridge.text port.toNat) :=
  ⟨fun _ => map_answer _, fun _ => rfl⟩

end Mutates

section Mutation

variable {request : Request} {change : Kernel → Except Errno Kernel}
  {refused : Errno → Dialogue Error} {fault : Errno → Error}

theorem outcome_issue_mutation (mutates : Mutates request change)
    (said : ∀ cause (after : Kernel), (refused cause).outcome plane after = (fault cause, after))
    (handle : Handle) (event : Event) (before : Kernel) :
    (do let _ ← issue handle request refused; Dialogue.report event : Procedure Unit).outcome plane
        before =
      match before.mutate change with
      | (.ok _, after) => (.ok (), after)
      | (.error cause, after) => (.error (fault cause), after) := by
  have reply := mutates.reply before
  have left := mutates.after before
  rw [outcome_issue_report, plane_request]
  generalize before.answerRequest request = answered at reply left ⊢
  generalize before.mutate change = mutated at reply left ⊢
  obtain ⟨result, after⟩ := answered
  obtain ⟨outcome, later⟩ := mutated
  obtain rfl := left
  cases result with
  | error cause =>
    obtain rfl := reply
    simp only [Except.map, said]
  | ok granted =>
    obtain rfl := reply
    rfl

/-- An operation that takes a handle for one request to change the table. -/
theorem outcome_mutation (granted : kernel.refusesHandles = false)
    (mutates : Mutates request change) (blind : Blind change) (noHandle : Errno → Dialogue Error)
    (event : Event)
    (said : ∀ cause (after : Kernel), (refused cause).outcome plane after = (fault cause, after)) :
    (withHandle noHandle fun handle => do
        let _ ← issue handle request refused
        Dialogue.report event : Procedure Unit).outcome plane kernel =
      match change kernel with
      | .ok after => (.ok (), after.tally 1 1)
      | .error cause => (.error (fault cause), kernel.tally 1 1) := by
  have counted : change (countMutation
      (kernel.recount (kernel.openHandles + 1) (kernel.acquired + 1) kernel.mutations)) = _ :=
    blind kernel (kernel.openHandles + 1) (kernel.acquired + 1) (kernel.mutations + 1)
  rw [outcome_withHandle granted]
  dsimp only
  rw [outcome_issue_mutation mutates said, mutate, counted]
  cases done : change kernel with
  | error cause => rfl
  | ok after =>
    have counts := blind.recount_eq done
    rw [← counts]
    rfl

end Mutation

theorem outcome_createBridge (granted : kernel.refusesHandles = false) {text : String}
    {bridge : IfName} (named : IfName.ofText policy text = .ok bridge) :
    (createBridge policy text).outcome plane kernel =
      match kernel.addBridge bridge.text with
      | .ok after => (.ok (), after.tally 1 1)
      | .error cause =>
        (.error (.kernelOperation .addBridge bridge.text (.errno cause)), kernel.tally 1 1) := by
  rw [createBridge, Procedure.outcome_bind_ok _ _ (outcome_name_ok plane kernel named)]
  exact outcome_mutation granted (.addBridge bridge) (.addBridge bridge.text) _ _ fun _ _ => rfl

theorem outcome_deleteBridge (granted : kernel.refusesHandles = false) {text : String}
    {bridge : IfName} (named : IfName.ofText policy text = .ok bridge) :
    (Control.deleteBridge policy text).outcome plane kernel =
      match kernel.deleteBridge bridge.text with
      | .ok after => (.ok (), after.tally 1 1)
      | .error cause =>
        (.error (.kernelOperation .deleteBridge bridge.text (.errno cause)),
          kernel.tally 1 1) := by
  rw [Control.deleteBridge, Procedure.outcome_bind_ok _ _ (outcome_name_ok plane kernel named)]
  exact outcome_mutation granted (.deleteBridge bridge) (.deleteBridge bridge.text) _ _
    fun _ _ => rfl

/-- A bridge is created exactly when its name is one and no live link has it. -/
theorem createBridge_ok_iff (granted : kernel.refusesHandles = false) {text : String}
    {after : Kernel} :
    (createBridge policy text).outcome plane kernel = (.ok (), after) ↔
      ∃ bridge, IfName.ofText policy text = .ok bridge ∧ kernel.find? bridge.text = none ∧
        after = (kernel.insert bridge.text true).tally 1 1 := by
  cases named : IfName.ofText policy text with
  | error fault =>
    rw [createBridge, Procedure.outcome_bind_error _ _ (outcome_name_error plane kernel named)]
    simp
  | ok bridge =>
    rw [outcome_createBridge granted named]
    constructor
    · intro done
      split at done
      · next added =>
        obtain ⟨free, rfl⟩ := addBridge_eq_ok_iff.mp added
        exact ⟨bridge, rfl, free, (congrArg Prod.snd done).symm⟩
      · cases done
    · rintro ⟨other, same, free, rfl⟩
      obtain rfl := Except.ok.inj same
      rw [addBridge_eq_ok_iff.mpr ⟨free, rfl⟩]

/-- A bridge is deleted exactly when its name is looked up to it and it is down. -/
theorem deleteBridge_ok_iff (granted : kernel.refusesHandles = false) {text : String}
    {after : Kernel} :
    (Control.deleteBridge policy text).outcome plane kernel = (.ok (), after) ↔
      ∃ bridge link, IfName.ofText policy text = .ok bridge ∧
        kernel.find? bridge.text = some link ∧ link.isBridge = true ∧ link.flags.isUp = false ∧
        after = ((kernel.erase link.index).detachAll link.index).tally 1 1 := by
  cases named : IfName.ofText policy text with
  | error fault =>
    rw [Control.deleteBridge,
      Procedure.outcome_bind_error _ _ (outcome_name_error plane kernel named)]
    simp
  | ok bridge =>
    rw [outcome_deleteBridge granted named]
    constructor
    · intro done
      split at done
      · next deleted =>
        obtain ⟨link, found, kind, down, rfl⟩ := deleteBridge_eq_ok_iff.mp deleted
        exact ⟨bridge, link, rfl, found, kind, down, (congrArg Prod.snd done).symm⟩
      · cases done
    · rintro ⟨other, link, same, found, kind, down, rfl⟩
      obtain rfl := Except.ok.inj same
      rw [deleteBridge_eq_ok_iff.mpr ⟨link, found, kind, down, rfl⟩]

theorem outcome_addInterface (granted : kernel.refusesHandles = false)
    {bridgeText ifaceText : String} {bridge iface : IfName}
    (namedBridge : IfName.ofText policy bridgeText = .ok bridge)
    (namedIface : IfName.ofText policy ifaceText = .ok iface) :
    (addInterface policy bridgeText ifaceText).outcome plane kernel =
      match kernel.nameToIndex iface.text with
      | none => (.error (.interfaceNotFound iface.text), kernel)
      | some index =>
        match kernel.addPort bridge.text index.toNat with
        | .ok after => (.ok (), after.tally 1 1)
        | .error cause =>
          (.error (.portOperation .addInterface iface.text bridge.text (.errno cause)),
            kernel.tally 1 1) := by
  rw [addInterface, Procedure.outcome_bind_ok _ _ (outcome_name_ok plane kernel namedBridge),
    Procedure.outcome_bind, outcome_resolve plane kernel namedIface,
    plane_nameToIndex]
  cases kernel.nameToIndex iface.text with
  | none => rfl
  | some index =>
    exact outcome_mutation granted (.addPort bridge index) (.addPort bridge.text index.toNat) _ _
      fun _ _ => rfl

theorem outcome_removeInterface (granted : kernel.refusesHandles = false)
    {bridgeText ifaceText : String} {bridge iface : IfName}
    (namedBridge : IfName.ofText policy bridgeText = .ok bridge)
    (namedIface : IfName.ofText policy ifaceText = .ok iface) :
    (removeInterface policy bridgeText ifaceText).outcome plane kernel =
      match kernel.nameToIndex iface.text with
      | none => (.error (.interfaceNotFound iface.text), kernel)
      | some index =>
        match kernel.deletePort bridge.text index.toNat with
        | .ok after => (.ok (), after.tally 1 1)
        | .error cause =>
          (.error (.portOperation .removeInterface iface.text bridge.text (.errno cause)),
            kernel.tally 1 1) := by
  rw [removeInterface, Procedure.outcome_bind_ok _ _ (outcome_name_ok plane kernel namedBridge),
    Procedure.outcome_bind, outcome_resolve plane kernel namedIface,
    plane_nameToIndex]
  cases kernel.nameToIndex iface.text with
  | none => rfl
  | some index =>
    exact outcome_mutation granted (.deletePort bridge index) (.deletePort bridge.text index.toNat)
      _ _ fun _ _ => rfl

theorem outcome_linkFlags (granted : kernel.refusesHandles = false) {text : String}
    {iface : IfName} (named : IfName.ofText policy text = .ok iface) :
    (Control.linkFlags policy text).outcome plane kernel =
      match kernel.find? iface.text with
      | none =>
        (.error (.kernelOperation .getLinkFlags iface.text (.errno .ENODEV)), kernel.tally 1 0)
      | some link => (.ok link.flags, kernel.tally 1 0) := by
  rw [Control.linkFlags, Procedure.outcome_bind_ok _ _ (outcome_name_ok plane kernel named),
    outcome_withHandle granted]
  dsimp only
  rw [outcome_issue]
  simp only [plane, answer, answerRequest, Kernel.linkFlags, find?_recount]
  cases kernel.find? iface.text with
  | none => rfl
  | some link => rfl

theorem outcome_setLinkUp (granted : kernel.refusesHandles = false) {text : String}
    {iface : IfName} (named : IfName.ofText policy text = .ok iface) (up : Bool) :
    (setLinkUp policy text up).outcome plane kernel =
      match kernel.find? iface.text with
      | none =>
        (.error (.kernelOperation .getLinkFlags iface.text (.errno .ENODEV)), kernel.tally 1 0)
      | some link =>
        (.ok (),
          if link.flags.isUp = up then kernel.tally 1 0
          else
            (kernel.modify link.index fun other =>
              { other with flags := link.flags.setUp up }).tally 1 1) := by
  rw [setLinkUp, Procedure.outcome_bind_ok _ _ (outcome_name_ok plane kernel named),
    outcome_withHandle granted]
  dsimp only
  rw [Procedure.outcome_bind, outcome_issue]
  simp only [plane, answer, answerRequest, Kernel.linkFlags, find?_recount]
  cases found : kernel.find? iface.text with
  | none => rfl
  | some link =>
    dsimp only
    by_cases same : link.flags.isUp = up
    · simp only [same, if_true]
      rfl
    · simp only [same, if_false]
      rw [Procedure.outcome_bind, outcome_issue]
      simp only [answer, answerRequest, mutate, Kernel.setLinkFlags, find?_countMutation,
        find?_recount, found]
      rfl

/-- A failure of the procedure leaves everything but the counts as it was. -/
def Harmless (p : Procedure α) (kernel : Kernel) : Prop :=
  ∀ cause after, p.outcome plane kernel = (.error cause, after) →
    ∃ handles requests, after = kernel.tally handles requests

namespace Harmless

theorem named {text : String} {k : IfName → Procedure α}
    (each : ∀ iface, Harmless (k iface) kernel) : Harmless (name policy text >>= k) kernel := by
  intro cause after failed
  cases known : IfName.ofText policy text with
  | error fault =>
    rw [Procedure.outcome_bind_error _ _ (outcome_name_error plane kernel known)] at failed
    exact ⟨0, 0, (congrArg Prod.snd failed).symm⟩
  | ok iface =>
    rw [Procedure.outcome_bind_ok _ _ (outcome_name_ok plane kernel known)] at failed
    exact each iface cause after failed

theorem resolved {text : String} {k : IfName × IfIndex → Procedure α}
    (each : ∀ target, Harmless (k target) kernel) : Harmless (resolve policy text >>= k) kernel := by
  intro cause after failed
  cases known : IfName.ofText policy text with
  | error fault =>
    rw [Procedure.outcome_bind_error _ _ (outcome_resolve_error plane kernel known)] at failed
    exact ⟨0, 0, (congrArg Prod.snd failed).symm⟩
  | ok iface =>
    rw [Procedure.outcome_bind, outcome_resolve plane kernel known,
      plane_nameToIndex] at failed
    cases found : kernel.nameToIndex iface.text with
    | none =>
      rw [found] at failed
      exact ⟨0, 0, (congrArg Prod.snd failed).symm⟩
    | some index =>
      rw [found] at failed
      exact each (iface, index) cause after failed

theorem mutation (granted : kernel.refusesHandles = false) {request : Request}
    {change : Kernel → Except Errno Kernel} {refused : Errno → Dialogue Error}
    {fault : Errno → Error} (mutates : Mutates request change) (blind : Blind change)
    (noHandle : Errno → Dialogue Error) (event : Event)
    (said : ∀ cause (after : Kernel), (refused cause).outcome plane after = (fault cause, after)) :
    Harmless (withHandle noHandle fun handle => do
      let _ ← issue handle request refused
      Dialogue.report event : Procedure Unit) kernel := by
  intro cause after failed
  rw [outcome_mutation granted mutates blind noHandle event said] at failed
  split at failed
  · cases failed
  · exact ⟨1, 1, (congrArg Prod.snd failed).symm⟩

variable (granted : kernel.refusesHandles = false)
include granted

theorem createBridge (text : String) : Harmless (createBridge policy text) kernel :=
  named fun bridge => mutation granted (.addBridge bridge) (.addBridge bridge.text) _ _
    fun _ _ => rfl

theorem deleteBridge (text : String) : Harmless (Control.deleteBridge policy text) kernel :=
  named fun bridge => mutation granted (.deleteBridge bridge) (.deleteBridge bridge.text) _ _
    fun _ _ => rfl

theorem addInterface (bridgeText ifaceText : String) :
    Harmless (addInterface policy bridgeText ifaceText) kernel :=
  named fun bridge => resolved fun (_, index) => mutation granted (.addPort bridge index)
    (.addPort bridge.text index.toNat) _ _ fun _ _ => rfl

theorem removeInterface (bridgeText ifaceText : String) :
    Harmless (removeInterface policy bridgeText ifaceText) kernel :=
  named fun bridge => resolved fun (_, index) => mutation granted (.deletePort bridge index)
    (.deletePort bridge.text index.toNat) _ _ fun _ _ => rfl

theorem setLinkUp (text : String) (up : Bool) : Harmless (setLinkUp policy text up) kernel := by
  intro cause after failed
  cases known : IfName.ofText policy text with
  | error fault =>
    rw [Control.setLinkUp,
      Procedure.outcome_bind_error _ _ (outcome_name_error plane kernel known)] at failed
    exact ⟨0, 0, (congrArg Prod.snd failed).symm⟩
  | ok iface =>
    rw [outcome_setLinkUp granted known] at failed
    split at failed
    · exact ⟨1, 0, (congrArg Prod.snd failed).symm⟩
    · cases failed

end Harmless

end NetBridge.Kernel
