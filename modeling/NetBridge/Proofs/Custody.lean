import NetBridge.Proofs.Compound
import NetBridge.Proofs.Course

/-! Custody of handles. An operation never holds two handles: it takes one with empty hands, makes
its requests on that one and gives it back before it ends, whatever it is answered. -/

namespace NetBridge

/-- The steps allowed to one who holds at most one handle, with the handle held before and after.
Handles are taken and names are resolved with empty hands, requests go to the handle held. -/
inductive Handover : Option Handle → Step → Option Handle → Prop where
  | logged (held : Option Handle) (event : Event) : Handover held (.logged event) held
  | refused (cause : Errno) : Handover none (.asked .acquire (.error cause)) none
  | granted (handle : Handle) : Handover none (.asked .acquire (.ok handle)) (some handle)
  | requested (handle : Handle) (request : Request) (answer : Except Errno request.Reply) :
      Handover (some handle) (.asked (.request handle request) answer) (some handle)
  | released (handle : Handle) : Handover (some handle) (.asked (.release handle) ()) none
  | nameToIndex (name : IfName) (index : Option IfIndex) :
      Handover none (.asked (.nameToIndex name) index) none
  | indexToName (held : Option Handle) (index : IfIndex) (text : Option String) :
      Handover held (.asked (.indexToName index) text) held

/-- A course of allowed steps, with the handle held before and after. -/
inductive Custody : Option Handle → List Step → Option Handle → Prop where
  | nil (held : Option Handle) : Custody held [] held
  | cons {held middle last : Option Handle} {step : Step} {rest : List Step}
      (first : Handover held step middle) (later : Custody middle rest last) :
      Custody held (step :: rest) last

theorem Custody.append {held middle last : Option Handle} {front back : List Step}
    (first : Custody held front middle) (second : Custody middle back last) :
    Custody held (front ++ back) last := by
  induction first with
  | nil held => exact second
  | cons step later ih => exact .cons step (ih second)

/-- On every course the steps are allowed, and the value tells the handle held at the end. -/
def Dialogue.Hands (held : Option Handle) (d : Dialogue α) (last : α → Option Handle) : Prop :=
  ∀ steps value, Plays d steps value → Custody held steps (last value)

abbrev Dialogue.Restores (held : Option Handle) (d : Dialogue α) : Prop :=
  d.Hands held fun _ => held

def Procedure.Restores (held : Option Handle) (p : Procedure α) : Prop :=
  Dialogue.Restores held (ExceptT.run p)

namespace Dialogue.Hands

variable {held : Option Handle} {last : α → Option Handle}

theorem done {value : α} (same : last value = held) : Hands held (done value) last := by
  intro steps result played
  obtain ⟨rfl, rfl⟩ := plays_done_iff.mp played
  exact same ▸ .nil held

theorem log (event : Event) {next : Dialogue α} (later : Hands held next last) :
    Hands held (log event next) last := by
  intro steps value played
  obtain ⟨rest, rfl, others⟩ := plays_log_iff.mp played
  exact .cons (.logged held event) (later rest value others)

theorem bind {middle : β → Option Handle} {d : Dialogue β} {k : β → Dialogue α}
    (first : Hands held d middle) (rest : ∀ value, Hands (middle value) (k value) last) :
    Hands held (d >>= k) last := by
  intro steps value played
  obtain ⟨front, back, between, rfl, begun, later⟩ := plays_bind_iff.mp played
  exact (first front between begun).append (rest between back value later)

theorem query {call : Call} {last : call.Answer → Option Handle}
    (allowed : ∀ answer, Handover held (.asked call answer) (last answer)) :
    Hands held (query call) last := by
  intro steps value played
  obtain ⟨answer, rest, rfl, ended⟩ := plays_ask_iff.mp played
  obtain ⟨rfl, rfl⟩ := plays_done_iff.mp ended
  exact .cons (allowed value) (.nil _)

theorem report (event : Event) : Restores held (report event) := .log event (.done rfl)

theorem reportAll (events : List Event) : Restores held (reportAll events) := by
  induction events with
  | nil => exact .done rfl
  | cons event rest ih => exact .log event ih

end Dialogue.Hands

namespace Procedure.Restores

variable {held : Option Handle}

theorem pure (value : α) : Restores held (Pure.pure value : Procedure α) := by
  show Dialogue.Restores held (.done (Except.ok value))
  exact .done rfl

theorem throw (cause : Error) : Restores held (MonadExcept.throw cause : Procedure α) := by
  show Dialogue.Restores held (.done (Except.error cause))
  exact .done rfl

theorem bind {p : Procedure α} {k : α → Procedure β} (first : Restores held p)
    (rest : ∀ value, Restores held (k value)) : Restores held (p >>= k) := by
  refine Dialogue.Hands.bind first fun result => ?_
  cases result with
  | ok value => exact rest value
  | error cause => exact .done rfl

theorem lift {d : Dialogue α} (restores : d.Restores held) :
    Restores held (liftM d : Procedure α) := by
  show Dialogue.Restores held (Except.ok <$> d)
  rw [map_eq_pure_bind]
  exact .bind restores fun value => .done rfl

theorem report (event : Event) :
    Restores held (liftM (Dialogue.report event) : Procedure Unit) := lift (.report event)

end Procedure.Restores

namespace Control

open Procedure

variable {held : Option Handle} (policy : NamePolicy)

theorem restores_name (text : String) : Restores held (name policy text) := by
  refine Dialogue.Hands.bind (.reportAll _) fun _ => ?_
  split
  · exact .done rfl
  · exact .bind (.report _) fun _ => .done rfl

theorem restores_resolve (text : String) : Restores none (resolve policy text) := by
  refine .bind (restores_name policy text) fun iface => ?_
  refine .bind (.lift (.query (.nameToIndex iface))) fun index => ?_
  cases index with
  | some index => exact .bind (.report _) fun _ => .pure _
  | none => exact .bind (.report _) fun _ => .throw _

theorem restores_namesOf (slots : List Int32) : (namesOf slots).Restores held := by
  induction slots with
  | nil => exact .done rfl
  | cons slot rest ih =>
    rw [namesOf]
    split
    · exact ih
    · next index _ =>
      refine .bind (.query (.indexToName held index)) fun text => ?_
      cases text with
      | some found => exact .bind ih fun _ => .done rfl
      | none => exact .bind (.report _) fun _ => ih

theorem restores_noHandle (op : Operation) (dev : IfName) (cause : Errno) :
    (noHandle op dev cause).Restores held := .bind (.report _) fun _ => .done rfl

theorem restores_refusal (op : Operation) (dev : IfName) (cause : Errno) :
    (refusal op dev cause).Restores held := .bind (.report _) fun _ => .done rfl

theorem restores_issue {handle : Handle} (request : Request) {refused : Errno → Dialogue Error}
    (said : ∀ cause, (refused cause).Restores (some handle)) :
    Restores (some handle) (issue handle request refused) := by
  refine Dialogue.Hands.bind (.query (.requested handle request)) fun answer => ?_
  cases answer with
  | ok reply => exact .done rfl
  | error cause => exact .bind (said cause) fun _ => .done rfl

def taken : Except Errno Handle → Option Handle
  | .ok handle => some handle
  | .error _ => none

theorem hands_acquire : (Dialogue.query .acquire).Hands none taken := by
  refine .query fun answer => ?_
  cases answer with
  | ok handle => exact .granted handle
  | error cause => exact .refused cause

theorem hands_release (handle : Handle) :
    (Dialogue.query (.release handle)).Hands (some handle) fun _ => none :=
  .query fun _ => .released handle

/-- The handle that is taken is given back however the body ends. -/
theorem restores_withHandle {refused : Errno → Dialogue Error} {body : Handle → Procedure α}
    (said : ∀ cause, (refused cause).Restores none)
    (kept : ∀ handle, Restores (some handle) (body handle)) :
    Restores none (withHandle refused body) := by
  refine Dialogue.Hands.bind hands_acquire fun answer => ?_
  cases answer with
  | error cause => exact .bind (said cause) fun _ => .done rfl
  | ok handle =>
    refine .bind (kept handle) fun result => ?_
    exact .bind (hands_release handle) fun _ => .done rfl

theorem restores_request (op : Operation) (dev : IfName) (request : Request) (event : Event)
    {refused : Errno → Dialogue Error}
    (said : ∀ handle cause, (refused cause).Restores (some handle)) :
    Restores none (withHandle (noHandle op dev) fun handle => do
      let _ ← issue handle request refused
      Dialogue.report event : Procedure Unit) :=
  restores_withHandle (restores_noHandle op dev) fun handle =>
    .bind (restores_issue request (said handle)) fun _ => .report event

theorem restores_createBridge (text : String) : Restores none (createBridge policy text) :=
  .bind (restores_name policy text) fun bridge =>
    restores_request _ bridge _ _ fun _ => restores_refusal _ bridge

theorem restores_deleteBridge (text : String) : Restores none (deleteBridge policy text) :=
  .bind (restores_name policy text) fun bridge =>
    restores_request _ bridge _ _ fun _ => restores_refusal _ bridge

theorem restores_addInterface (bridgeText ifaceText : String) :
    Restores none (addInterface policy bridgeText ifaceText) :=
  .bind (restores_name policy bridgeText) fun bridge =>
    .bind (restores_resolve policy ifaceText) fun (_, _) =>
      restores_request _ bridge _ _ fun _ _ => .bind (.report _) fun _ => .done rfl

theorem restores_removeInterface (bridgeText ifaceText : String) :
    Restores none (removeInterface policy bridgeText ifaceText) :=
  .bind (restores_name policy bridgeText) fun bridge =>
    .bind (restores_resolve policy ifaceText) fun (_, _) =>
      restores_request _ bridge _ _ fun _ _ => .bind (.report _) fun _ => .done rfl

theorem restores_listBridges : Restores none listBridges := by
  refine restores_withHandle (fun cause => .bind (.report _) fun _ => .done rfl) fun handle => ?_
  refine .bind (restores_issue _ fun cause => .bind (.report _) fun _ => .done rfl) fun found => ?_
  dsimp only
  split
  · exact .bind (.report _) fun _ => .lift (restores_namesOf _)
  · exact .lift (restores_namesOf _)

theorem restores_listInterfaces (text : String) :
    Restores none (listInterfaces policy text) := by
  refine .bind (restores_name policy text) fun bridge => ?_
  refine restores_withHandle (restores_noHandle _ bridge) fun handle => ?_
  exact .bind (restores_issue _ (restores_refusal _ bridge)) fun slots =>
    .lift (restores_namesOf slots.toList)

theorem restores_interfaceExists (text : String) : Restores none (interfaceExists policy text) :=
  .bind (restores_name policy text) fun iface =>
    .bind (.lift (.query (.nameToIndex iface))) fun _ => .pure _

theorem restores_linkFlags (text : String) : Restores none (linkFlags policy text) := by
  refine .bind (restores_name policy text) fun iface => ?_
  refine restores_withHandle (restores_noHandle _ iface) fun handle => ?_
  exact restores_issue _ (restores_refusal _ iface)

theorem restores_setLinkUp (text : String) (up : Bool) :
    Restores none (setLinkUp policy text up) := by
  refine .bind (restores_name policy text) fun iface => ?_
  refine restores_withHandle (restores_noHandle _ iface) fun handle => ?_
  refine .bind (restores_issue _ (restores_refusal _ iface)) fun flags => ?_
  split
  · exact .report _
  · exact .bind (restores_issue _ (restores_refusal _ iface)) fun _ => .report _

theorem restoring : Operating policy (Restores none) where
  pure := .pure
  bind := .bind
  name := restores_name policy
  listBridges := restores_listBridges
  listInterfaces := restores_listInterfaces policy
  interfaceExists := restores_interfaceExists policy
  linkFlags := restores_linkFlags policy
  createBridge := restores_createBridge policy
  deleteBridge := restores_deleteBridge policy
  addInterface := restores_addInterface policy
  removeInterface := restores_removeInterface policy
  setLinkUp := restores_setLinkUp policy
  decline _ _ := .throw _

end Control

theorem Topology.restores_execute (policy : NamePolicy) (plan : List Action) :
    Procedure.Restores none (execute policy plan) := by
  induction plan with
  | nil => exact .pure ()
  | cons action rest ih =>
    exact .bind (.report _) fun _ => .bind ((Control.restoring policy).perform action) fun _ => ih

theorem Intent.restores (policy : NamePolicy) (intent : Intent) :
    Procedure.Restores none (intent.procedure policy) := by
  cases intent with
  | execute plan => exact Topology.restores_execute policy plan
  | _ => exact (Control.restoring policy).intent _ nofun

end NetBridge
