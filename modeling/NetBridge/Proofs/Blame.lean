import NetBridge.Proofs.Failure
import NetBridge.Proofs.Session
import NetBridge.Script

/-! Every operation halts at the first call that fails, with the error that names the request and
the devices the operation was given. -/

namespace NetBridge

/-- What an operation was given to work on: a device, or a bridge with an interface. -/
structure Target where
  device : String
  iface : Option String

/-- The names that the texts of a target denote. -/
inductive Target.Names (policy : NamePolicy) : Target → IfName → Option IfName → Prop where
  | device {text : String} {name : IfName} (named : IfName.ofText policy text = .ok name) :
      Names policy ⟨text, none⟩ name none
  | port {bridgeText ifaceText : String} {bridge iface : IfName}
      (namedBridge : IfName.ofText policy bridgeText = .ok bridge)
      (namedIface : IfName.ofText policy ifaceText = .ok iface) :
      Names policy ⟨bridgeText, some ifaceText⟩ bridge (some iface)

def Action.target : Action → Target
  | createBridge bridge => ⟨bridge, none⟩
  | addMember bridge iface => ⟨bridge, some iface⟩
  | linkUp name => ⟨name, none⟩
  | removeMember bridge iface => ⟨bridge, some iface⟩
  | linkDown name => ⟨name, none⟩
  | deleteBridge bridge => ⟨bridge, none⟩

/-- The name that a step gives for an index. -/
def Step.heard? : Step → Option String
  | asked (.indexToName _) text => text
  | _ => none

/-- What an operation works on, when it has heard these names of indices. -/
def Intent.targets (heard : List String) : Intent → List Target
  | normalise _ => []
  | createBridge text => [⟨text, none⟩]
  | deleteBridge text => [⟨text, none⟩]
  | addInterface bridge iface => [⟨bridge, some iface⟩]
  | removeInterface bridge iface => [⟨bridge, some iface⟩]
  | listBridges => []
  | listInterfaces text => [⟨text, none⟩]
  | bridgeExists _ => []
  | interfaceExists _ => []
  | linkFlags text => [⟨text, none⟩]
  | setLinkUp text _ => [⟨text, none⟩]
  | destroyBridge text _ => [⟨text, none⟩]
  | snapshot text => [⟨text, none⟩]
  | snapshotAll => heard.map (⟨·, none⟩)
  | planUp declared => declared.map (⟨·.name, none⟩)
  | planDown declared => declared.map (⟨·.name, none⟩)
  | execute plan => plan.map Action.target

/-- The names that an operation is about on a course. -/
def Intent.About (policy : NamePolicy) (intent : Intent) (steps : List Step) (device : IfName)
    (iface : Option IfName) : Prop :=
  ∃ target ∈ intent.targets (steps.filterMap Step.heard?), target.Names policy device iface

/-- The texts that a single operation is given, in the order in which it reads them. -/
def Intent.given : Intent → List String
  | normalise text => [text]
  | createBridge text => [text]
  | deleteBridge text => [text]
  | addInterface bridge iface => [bridge, iface]
  | removeInterface bridge iface => [bridge, iface]
  | listBridges => []
  | listInterfaces text => [text]
  | bridgeExists text => [text]
  | interfaceExists text => [text]
  | linkFlags text => [text]
  | setLinkUp text _ => [text]
  | destroyBridge text _ => [text]
  | snapshot text => [text]
  | snapshotAll => []
  | planUp _ => []
  | planDown _ => []
  | execute _ => []

def Intent.port? : Intent → Option (String × String)
  | addInterface bridge iface => some (bridge, iface)
  | removeInterface bridge iface => some (bridge, iface)
  | _ => none

def rejection (policy : NamePolicy) (text : String) : Option Error :=
  match IfName.ofText policy text with
  | .ok _ => none
  | .error fault => some (.invalidName text fault)

open Dialogue

namespace Control

variable {about : IfName → Option IfName → Prop} {past : List Step} {policy : NamePolicy}
  {text : String}

theorem says_noHandle (op : Operation) (dev : IfName) (cause : Errno) :
    (noHandle op dev cause).Says (.handleAcquisition (.errno cause)) :=
  .bind (.report _) (.done _)

theorem says_refusal (op : Operation) (dev : IfName) (cause : Errno) :
    (refusal op dev cause).Says (.kernelOperation op dev.text (.errno cause)) :=
  .bind (.report _) (.done _)

theorem halts_report (event : Event) :
    Procedure.Halts about past (liftM (report event) : Procedure Unit) := by
  apply Procedure.Halts.lift
  intro steps value played
  exact smooth_of_leaves (leaves_of_silent (Dialogue.Says.report event steps value played).2)

theorem halts_request (op : Operation) (dev : IfName) (request : Request) (event : Event)
    {refused : Errno → Dialogue Error} {fault : Errno → Error}
    (said : ∀ cause, (refused cause).Says (fault cause))
    (blamed : ∀ later cause, Blames about (past ++ later) (some request) cause (fault cause)) :
    Procedure.Halts about past (withHandle (noHandle op dev) fun handle => do
      let _ ← issue handle request refused
      report event : Procedure Unit) := by
  apply halts_withHandle (says_noHandle op dev)
  intro handle
  apply Procedure.Halts.bind (halts_issue request said (blamed _))
  intro front reply played
  exact halts_report event

/-! ## One device -/

/-- The text of a name denotes nothing else. -/
theorem about_text (policy : NamePolicy) {bridge : IfName} (known : about bridge none) :
    ∀ name, IfName.ofText policy bridge.text = .ok name → about name none := by
  intro name same
  rw [IfName.ofText_text] at same
  cases same
  exact known

theorem halts_createBridge
    (known : ∀ bridge, IfName.ofText policy text = .ok bridge → about bridge none) :
    Procedure.Halts about past (createBridge policy text) := by
  apply halts_named
  intro past bridge named
  apply halts_request _ bridge _ _ (says_refusal _ bridge)
  exact fun later cause => .device cause rfl (known bridge named)

theorem halts_deleteBridge
    (known : ∀ bridge, IfName.ofText policy text = .ok bridge → about bridge none) :
    Procedure.Halts about past (deleteBridge policy text) := by
  apply halts_named
  intro past bridge named
  apply halts_request _ bridge _ _ (says_refusal _ bridge)
  exact fun later cause => .device cause rfl (known bridge named)

theorem halts_linkFlags
    (known : ∀ iface, IfName.ofText policy text = .ok iface → about iface none) :
    Procedure.Halts about past (linkFlags policy text) := by
  apply halts_named
  intro past iface named
  apply halts_withHandle (says_noHandle _ iface)
  intro handle
  apply halts_issue _ (says_refusal _ iface)
  exact fun cause => .device cause rfl (known iface named)

theorem halts_setLinkUp (up : Bool)
    (known : ∀ iface, IfName.ofText policy text = .ok iface → about iface none) :
    Procedure.Halts about past (setLinkUp policy text up) := by
  apply halts_named
  intro past iface named
  apply halts_withHandle (says_noHandle _ iface)
  intro handle
  apply Procedure.Halts.bind
  · apply halts_issue _ (says_refusal _ iface)
    exact fun cause => .device cause rfl (known iface named)
  · intro front flags read
    split
    · exact halts_report _
    · apply Procedure.Halts.bind
      · apply halts_issue _ (says_refusal _ iface)
        exact fun cause => .device cause rfl (known iface named)
      · intro front written played
        exact halts_report _

/-! ## Listings -/

/-- The names listed are those that were heard, and asking for a name is no failure. -/
theorem plays_namesOf {slots : List Int32} {steps : List Step} {names : List String}
    (played : Plays (namesOf slots) steps names) :
    Smooth steps ∧ names = steps.filterMap Step.heard? := by
  induction slots generalizing steps names with
  | nil =>
    obtain ⟨rfl, rfl⟩ := plays_done_iff.mp played
    exact ⟨nofun, rfl⟩
  | cons slot rest ih =>
    rw [namesOf] at played
    split at played
    · exact ih played
    · next index _ =>
      obtain ⟨answer, back, rfl, later⟩ := plays_query_bind_iff.mp played
      cases answer with
      | some found =>
        obtain ⟨front, tail, others, rfl, begun, ended⟩ := plays_bind_iff.mp later
        obtain ⟨rfl, rfl⟩ := plays_done_iff.mp ended
        obtain ⟨smooth, rfl⟩ := ih begun
        rw [List.append_nil]
        exact ⟨smooth_cons_iff.mpr ⟨nofun, smooth⟩, rfl⟩
      | none =>
        obtain ⟨tail, rfl, others⟩ := plays_log_iff.mp later
        obtain ⟨smooth, rfl⟩ := ih others
        exact ⟨smooth_cons_iff.mpr ⟨nofun, smooth_cons_iff.mpr ⟨nofun, smooth⟩⟩, rfl⟩

theorem halts_namesOf (slots : List Int32) :
    Procedure.Halts about past (liftM (namesOf slots) : Procedure (List String)) := by
  apply Procedure.Halts.lift
  intro steps names played
  exact (plays_namesOf played).1

theorem halts_listBridges : Procedure.Halts about past listBridges := by
  apply halts_withHandle
  · exact fun cause => .bind (.report _) (.done _)
  intro handle
  apply Procedure.Halts.bind
  · apply halts_issue (.bridgeIndices enumSlots) _ (.listing enumSlots)
    exact fun cause => .bind (.report _) (.done _)
  · intro front found played
    dsimp only
    split
    · exact .bind (halts_report _) fun _ _ _ => halts_namesOf _
    · exact halts_namesOf _

theorem halts_listInterfaces
    (known : ∀ bridge, IfName.ofText policy text = .ok bridge → about bridge none) :
    Procedure.Halts about past (listInterfaces policy text) := by
  apply halts_named
  intro past bridge named
  apply halts_withHandle (says_noHandle _ bridge)
  intro handle
  apply Procedure.Halts.bind
  · apply halts_issue _ (says_refusal _ bridge)
    exact fun cause => .device cause rfl (known bridge named)
  · exact fun _ slots _ => halts_namesOf slots.toList

theorem halts_bridgeExists : Procedure.Halts about past (bridgeExists policy text) := by
  apply halts_named
  intro past bridge named
  exact .bind halts_listBridges fun _ _ _ => .pure _

theorem plays_nameToIndex {iface : IfName} {steps : List Step} {result : Except Error _}
    (played : Plays (ExceptT.run (liftM (query (.nameToIndex iface)) : Procedure _)) steps result) :
    ∃ answer, steps = [.asked (.nameToIndex iface) answer] ∧ result = .ok answer := by
  obtain ⟨answer, rfl, asked⟩ := Procedure.plays_liftM_iff.mp played
  obtain ⟨found, rest, rfl, ended⟩ := plays_ask_iff.mp asked
  obtain ⟨rfl, rfl⟩ := plays_done_iff.mp ended
  exact ⟨answer, rfl, rfl⟩

theorem halts_nameToIndex (iface : IfName) :
    Procedure.Halts about past (liftM (query (.nameToIndex iface)) : Procedure _) := by
  intro steps result played
  obtain ⟨answer, rfl, rfl⟩ := plays_nameToIndex played
  exact .smooth (smooth_cons_iff.mpr ⟨nofun, smooth_nil⟩) nofun

theorem halts_interfaceExists : Procedure.Halts about past (interfaceExists policy text) := by
  apply halts_named
  intro past iface named
  exact .bind (halts_nameToIndex iface) fun _ _ _ => .pure _

/-! ## Ports -/

/-- An interface is resolved by one call, whose answer decides. -/
theorem plays_resolve {iface : IfName} (named : IfName.ofText policy text = .ok iface)
    {steps : List Step} {result : Except Error (IfName × IfIndex)}
    (played : Plays (ExceptT.run (resolve policy text)) steps result) :
    ∃ answer before later, steps = before ++ .asked (.nameToIndex iface) answer :: later ∧
      before.filterMap Step.call? = [] ∧ later.filterMap Step.call? = [] ∧
      result = match answer with
        | some index => .ok (iface, index)
        | none => .error (.interfaceNotFound iface.text) := by
  obtain ⟨front, back, rfl, silent, later⟩ := plays_named named played
  rcases Procedure.plays_bind_iff.mp later with
    ⟨error, -, asked⟩ | ⟨middle, last, answer, rfl, asked, ended⟩
  · obtain ⟨answer, -, same⟩ := plays_nameToIndex asked
    cases same
  · obtain ⟨_, rfl, same⟩ := plays_nameToIndex asked
    obtain rfl := Except.ok.inj same
    refine ⟨answer, front, last, rfl, silent, ?_⟩
    cases answer with
    | some index =>
      have said := Procedure.says_bind_ok (Procedure.says_report _)
        (Procedure.says_pure (iface, index)) last result ended
      exact ⟨said.2, said.1⟩
    | none =>
      have said := Procedure.says_bind_ok (Procedure.says_report _) (Procedure.says_throw _)
        last result ended
      exact ⟨said.2, said.1⟩

theorem says_rejected {fault : NameFault} (unnamed : IfName.ofText policy text = .error fault)
    (k : IfName → Procedure α) :
    Dialogue.Says (ExceptT.run (name policy text >>= k)) (.error (.invalidName text fault)) := by
  have said := says_name policy text
  rw [unnamed] at said
  exact Procedure.says_bind_error said

theorem says_rejected_resolve {fault : NameFault}
    (unnamed : IfName.ofText policy text = .error fault) :
    Dialogue.Says (ExceptT.run (resolve policy text)) (.error (.invalidName text fault)) :=
  says_rejected unnamed _

theorem halts_resolve : Procedure.Halts about past (resolve policy text) := by
  intro steps result played
  cases known : IfName.ofText policy text with
  | error fault =>
    obtain ⟨rfl, silent⟩ := says_rejected_resolve known steps result played
    refine .smooth (smooth_of_leaves (leaves_of_silent silent)) fun error same => ?_
    cases same
    nofun
  | ok iface =>
    obtain ⟨answer, before, later, rfl, silent, quiet, rfl⟩ := plays_resolve known played
    have early := smooth_of_leaves (leaves_of_silent silent)
    have late := smooth_of_leaves (leaves_of_silent quiet)
    refine .smooth (smooth_append_iff.mpr ⟨early, smooth_cons_iff.mpr ⟨nofun, late⟩⟩) ?_
    intro error same
    cases answer with
    | some index => cases same
    | none =>
      cases same
      nofun

theorem resolved_of_plays {steps : List Step} {iface : IfName} {index : IfIndex}
    (played : Plays (ExceptT.run (resolve policy text)) steps (.ok (iface, index))) :
    IfName.ofText policy text = .ok iface ∧ .asked (.nameToIndex iface) (some index) ∈ steps := by
  cases known : IfName.ofText policy text with
  | error fault => cases (says_rejected_resolve known steps _ played).1
  | ok other =>
    obtain ⟨answer, before, later, rfl, -, -, same⟩ := plays_resolve known played
    cases answer with
    | some found =>
      cases same
      exact ⟨rfl, by simp⟩
    | none => cases same

theorem halts_resolved {k : IfName × IfIndex → Procedure α}
    (each : ∀ past iface index, IfName.ofText policy text = .ok iface →
      .asked (.nameToIndex iface) (some index) ∈ past →
      Procedure.Halts about past (k (iface, index))) :
    Procedure.Halts about past (resolve policy text >>= k) := by
  apply Procedure.Halts.bind halts_resolve
  rintro front ⟨iface, index⟩ played
  obtain ⟨named, resolved⟩ := resolved_of_plays played
  exact each (past ++ front) iface index named (List.mem_append_right _ resolved)

section Port

variable {bridgeText ifaceText : String}
  (known : ∀ bridge iface, IfName.ofText policy bridgeText = .ok bridge →
    IfName.ofText policy ifaceText = .ok iface → about bridge (some iface))
include known

theorem halts_addInterface :
    Procedure.Halts about past (addInterface policy bridgeText ifaceText) := by
  apply halts_named
  intro past bridge namedBridge
  apply halts_resolved
  intro past iface index namedIface resolved
  apply halts_request _ bridge _ _ fun cause => .bind (.report _) (.done _)
  intro later cause
  have both := known bridge iface namedBridge namedIface
  exact .port cause rfl both (List.mem_append_left _ resolved)

theorem halts_removeInterface :
    Procedure.Halts about past (removeInterface policy bridgeText ifaceText) := by
  apply halts_named
  intro past bridge namedBridge
  apply halts_resolved
  intro past iface index namedIface resolved
  apply halts_request _ bridge _ _ fun cause => .bind (.report _) (.done _)
  intro later cause
  have both := known bridge iface namedBridge namedIface
  exact .port cause rfl both (List.mem_append_left _ resolved)

end Port

/-! ## Whole bridges -/

theorem halts_destroyBridge (force : Bool)
    (known : ∀ bridge, IfName.ofText policy text = .ok bridge → about bridge none) :
    Procedure.Halts about past (destroyBridge policy text force) := by
  apply Procedure.Halts.bind (halts_listInterfaces known)
  intro front members played
  have deleting (past : List Step) : Procedure.Halts about past (deleteBridge policy text) :=
    halts_deleteBridge known
  have forcing : Procedure.Halts about (past ++ front) (do
      setLinkUp policy text false
      deleteBridge policy text) :=
    .bind (halts_setLinkUp false known) fun _ _ _ => deleting _
  cases force with
  | false =>
    cases members with
    | nil => exact deleting _
    | cons first rest => exact .bind (.throw nofun) fun _ _ _ => deleting _
  | true =>
    cases members with
    | nil => exact forcing
    | cons first rest => exact forcing

theorem halts_snapshot
    (known : ∀ bridge, IfName.ofText policy text = .ok bridge → about bridge none) :
    Procedure.Halts about past (snapshot policy text) := by
  apply halts_named
  intro past bridge named
  have itself := about_text policy (known bridge named)
  exact .bind (halts_listInterfaces itself) fun _ _ _ => .pure _

theorem halts_snapshots {texts : List String}
    (known : ∀ text ∈ texts, ∀ bridge, IfName.ofText policy text = .ok bridge → about bridge none) :
    Procedure.Halts about past (snapshots policy texts) := by
  induction texts generalizing past with
  | nil => exact .pure []
  | cons text rest ih =>
    obtain ⟨first, others⟩ := List.forall_mem_cons.mp known
    apply Procedure.Halts.bind (halts_snapshot first)
    intro front taken played
    exact .bind (ih others) fun _ _ _ => .pure _

/-- The bridges that are listed are the names that were heard. -/
theorem plays_listBridges_ok {steps : List Step} {names : List String}
    (played : Plays (ExceptT.run listBridges) steps (.ok names)) :
    names = steps.filterMap Step.heard? := by
  rcases plays_withHandle played with
    ⟨cause, later, error, -, -, same⟩ | ⟨handle, middle, rfl, worked⟩
  · cases same
  rcases Procedure.plays_bind_iff.mp worked with
    ⟨error, same, -⟩ | ⟨front, back, found, rfl, asked, later⟩
  · cases same
  rcases plays_issue asked with ⟨cause, told, error, -, -, same⟩ | ⟨reply, rfl, same⟩
  · cases same
  obtain rfl := Except.ok.inj same
  have listed {slots : List Int32} (rest : List Step)
      (named : Plays (ExceptT.run (liftM (namesOf slots) : Procedure (List String))) rest
        (.ok names)) : names = rest.filterMap Step.heard? := by
    obtain ⟨value, same, heard⟩ := Procedure.plays_liftM_iff.mp named
    cases same
    exact (plays_namesOf heard).2
  have told : names = back.filterMap Step.heard? := by
    dsimp only at later
    split at later
    · rcases Procedure.plays_bind_iff.mp later with
        ⟨error, same, -⟩ | ⟨told, rest, ⟨⟩, rfl, full, named⟩
      · cases same
      obtain ⟨⟨⟩, -, reported⟩ := Procedure.plays_liftM_iff.mp full
      obtain ⟨tail, rfl, ended⟩ := plays_log_iff.mp reported
      obtain ⟨rfl, -⟩ := plays_done_iff.mp ended
      exact listed rest named
    · exact listed back later
  show names = (back ++ [_]).filterMap Step.heard?
  rw [told, List.filterMap_append]
  exact (List.append_nil _).symm

end Control

namespace Topology

open Control

variable {about : IfName → Option IfName → Prop} {past : List Step} {policy : NamePolicy}

/-! ## Planning -/

theorem halts_additions (bridge : IfName) (live texts : List String) :
    Procedure.Halts about past (additions policy bridge live texts) := by
  induction texts generalizing past with
  | nil => exact .pure []
  | cons text rest ih =>
    apply halts_named
    intro past iface named
    apply Procedure.Halts.bind ih
    intro front later played
    split <;> exact .pure _

theorem halts_removals (bridge : IfName) (live texts : List String) :
    Procedure.Halts about past (removals policy bridge live texts) := by
  induction texts generalizing past with
  | nil => exact .pure []
  | cons text rest ih =>
    apply halts_named
    intro past iface named
    apply Procedure.Halts.bind ih
    intro front later played
    split <;> exact .pure _

section Piece

variable {declared : Declaration}
  (known : ∀ bridge, IfName.ofText policy declared.name = .ok bridge → about bridge none)
include known

theorem halts_completion : Procedure.Halts about past (completion policy declared) := by
  obtain ⟨text, members, up⟩ := declared
  apply halts_named
  intro past bridge named
  have itself := about_text policy (known bridge named)
  apply Procedure.Halts.bind halts_bridgeExists
  intro front present played
  cases present with
  | false =>
    apply Procedure.Halts.bind (.pure [])
    intro front live played
    apply Procedure.Halts.bind (halts_additions bridge live members)
    intro front adding played
    cases up with
    | false => exact .bind (.pure []) fun _ _ _ => .pure _
    | true => exact .bind (.pure [Action.linkUp bridge.text]) fun _ _ _ => .pure _
  | true =>
    apply Procedure.Halts.bind (halts_listInterfaces itself)
    intro front live played
    apply Procedure.Halts.bind (halts_additions bridge live members)
    intro front adding played
    cases up with
    | false => exact .bind (.pure []) fun _ _ _ => .pure _
    | true =>
      apply Procedure.Halts.bind (halts_linkFlags itself)
      intro front flags played
      exact .bind (.pure _) fun _ _ _ => .pure _

theorem halts_demolition : Procedure.Halts about past (demolition policy declared) := by
  apply halts_named
  intro past bridge named
  have itself := about_text policy (known bridge named)
  apply Procedure.Halts.bind halts_bridgeExists
  intro front present played
  split
  · apply Procedure.Halts.bind (halts_listInterfaces itself)
    intro front live played
    apply Procedure.Halts.bind (halts_removals bridge live _)
    intro front removing played
    exact .bind (halts_linkFlags itself) fun _ _ _ => .pure _
  · exact .pure _

end Piece

theorem halts_planEach {piece : Declaration → Procedure (List Action)} {declared : List Declaration}
    (each : ∀ first ∈ declared, ∀ past, Procedure.Halts about past (piece first)) :
    Procedure.Halts about past (planEach piece declared) := by
  induction declared generalizing past with
  | nil => exact .pure []
  | cons first rest ih =>
    obtain ⟨one, others⟩ := List.forall_mem_cons.mp each
    apply Procedure.Halts.bind (one past)
    intro front actions played
    exact .bind (ih others) fun _ _ _ => .pure _

/-! ## Carrying out -/

theorem halts_perform (action : Action)
    (known : ∀ device iface, action.target.Names policy device iface → about device iface) :
    Procedure.Halts about past (perform policy action) := by
  cases action with
  | createBridge bridge => exact halts_createBridge fun name named => known name none (.device named)
  | addMember bridge iface =>
    exact halts_addInterface fun _ _ namedBridge namedIface =>
      known _ _ (.port namedBridge namedIface)
  | linkUp name => exact halts_setLinkUp true fun name named => known name none (.device named)
  | removeMember bridge iface =>
    exact halts_removeInterface fun _ _ namedBridge namedIface =>
      known _ _ (.port namedBridge namedIface)
  | linkDown name => exact halts_setLinkUp false fun name named => known name none (.device named)
  | deleteBridge bridge => exact halts_deleteBridge fun name named => known name none (.device named)

theorem halts_execute {plan : List Action}
    (known : ∀ action ∈ plan, ∀ device iface, action.target.Names policy device iface →
      about device iface) :
    Procedure.Halts about past (execute policy plan) := by
  induction plan generalizing past with
  | nil => exact .pure ()
  | cons action rest ih =>
    obtain ⟨first, others⟩ := List.forall_mem_cons.mp known
    apply Procedure.Halts.bind (halts_report (.applying action))
    intro front told played
    exact .bind (halts_perform action first) fun _ _ _ => ih others

end Topology

/-! ## Every operation -/

/-- The devices shown are those whose names were heard on the way. -/
theorem halts_snapshotAll {policy : NamePolicy} {steps : List Step}
    {result : Except Error (List Control.Snapshot)}
    (played : Plays (ExceptT.run (Control.snapshotAll policy)) steps result) :
    Halts (Intent.About policy .snapshotAll steps) [] steps result := by
  rcases Procedure.plays_bind_iff.mp played with
    ⟨error, rfl, begun⟩ | ⟨front, back, names, rfl, begun, later⟩
  · exact (Control.halts_listBridges steps _ begun).error
  · have heard := Control.plays_listBridges_ok begun
    have listed : Halts (Intent.About policy .snapshotAll (front ++ back)) [] front (.ok names) :=
      Control.halts_listBridges front _ begun
    apply Halts.prepend listed.smooth_of_ok
    apply Control.halts_snapshots _ back result later
    intro text member bridge named
    refine ⟨⟨text, none⟩, List.mem_map.mpr ⟨text, ?_, rfl⟩, .device named⟩
    rw [List.filterMap_append]
    exact List.mem_append_left _ (heard ▸ member)

theorem Intent.halts {policy : NamePolicy} {intent : Intent} {steps : List Step}
    {result : Except Error intent.Result}
    (played : Plays (ExceptT.run (intent.procedure policy)) steps result) :
    Halts (intent.About policy steps) [] steps result := by
  have device {text : String}
      (only : intent.targets (steps.filterMap Step.heard?) = [⟨text, none⟩]) :
      ∀ name, IfName.ofText policy text = .ok name → intent.About policy steps name none :=
    fun name named => ⟨⟨text, none⟩, only ▸ List.mem_singleton_self _, .device named⟩
  have port {bridgeText ifaceText : String}
      (only : intent.targets (steps.filterMap Step.heard?) = [⟨bridgeText, some ifaceText⟩]) :
      ∀ bridge iface, IfName.ofText policy bridgeText = .ok bridge →
        IfName.ofText policy ifaceText = .ok iface →
        intent.About policy steps bridge (some iface) :=
    fun bridge iface namedBridge namedIface =>
      ⟨⟨bridgeText, some ifaceText⟩, only ▸ List.mem_singleton_self _, .port namedBridge namedIface⟩
  cases intent with
  | normalise text => exact Control.halts_name text steps result played
  | createBridge text => exact Control.halts_createBridge (device rfl) steps result played
  | deleteBridge text => exact Control.halts_deleteBridge (device rfl) steps result played
  | addInterface bridge iface => exact Control.halts_addInterface (port rfl) steps result played
  | removeInterface bridge iface =>
    exact Control.halts_removeInterface (port rfl) steps result played
  | listBridges => exact Control.halts_listBridges steps result played
  | listInterfaces text => exact Control.halts_listInterfaces (device rfl) steps result played
  | bridgeExists text => exact Control.halts_bridgeExists steps result played
  | interfaceExists text => exact Control.halts_interfaceExists steps result played
  | linkFlags text => exact Control.halts_linkFlags (device rfl) steps result played
  | setLinkUp text up => exact Control.halts_setLinkUp up (device rfl) steps result played
  | destroyBridge text force =>
    exact Control.halts_destroyBridge force (device rfl) steps result played
  | snapshot text => exact Control.halts_snapshot (device rfl) steps result played
  | snapshotAll => exact halts_snapshotAll played
  | planUp declared =>
    refine Topology.halts_planEach (fun first member past => ?_) steps result played
    apply Topology.halts_completion
    intro bridge named
    exact ⟨_, List.mem_map.mpr ⟨first, member, rfl⟩, .device named⟩
  | planDown declared =>
    refine Topology.halts_planEach (fun first member past => ?_) steps result played
    apply Topology.halts_demolition
    intro bridge named
    exact ⟨_, List.mem_map.mpr ⟨first, List.mem_reverse.mp member, rfl⟩, .device named⟩
  | execute plan =>
    refine Topology.halts_execute (fun action member device iface names => ?_) steps result played
    exact ⟨_, List.mem_map.mpr ⟨action, member, rfl⟩, names⟩

/-! ## Names that are refused, interfaces that are not found -/

theorem rejection_eq_some_iff {policy : NamePolicy} {text : String} {error : Error} :
    rejection policy text = some error ↔
      ∃ fault, IfName.ofText policy text = .error fault ∧ error = .invalidName text fault := by
  unfold rejection
  cases IfName.ofText policy text with
  | ok iface => simp
  | error fault => simp [eq_comm]

theorem Intent.says_rejected {policy : NamePolicy} {intent : Intent} {error : Error}
    (rejected : intent.given.findSome? (rejection policy) = some error) :
    Dialogue.Says (ExceptT.run (intent.procedure policy)) (.error error) := by
  have single {text : String} (only : [text].findSome? (rejection policy) = some error) :
      ∃ fault, IfName.ofText policy text = .error fault ∧ error = .invalidName text fault := by
    simpa [rejection_eq_some_iff] using only
  have port {bridge iface : String} {k : IfName → IfName × IfIndex → Procedure Unit}
      (either : [bridge, iface].findSome? (rejection policy) = some error) :
      Dialogue.Says (ExceptT.run (do
        let br ← Control.name policy bridge
        Control.resolve policy iface >>= k br)) (.error error) := by
    cases known : IfName.ofText policy bridge with
    | error fault =>
      have first := rejection_eq_some_iff.mpr ⟨fault, known, rfl⟩
      rw [List.findSome?_cons, first] at either
      cases either
      exact Control.says_rejected known _
    | ok br =>
      have passed : rejection policy bridge = none := by rw [rejection, known]
      rw [List.findSome?_cons, passed] at either
      obtain ⟨fault, unnamed, rfl⟩ := single either
      have named := Control.says_name policy bridge
      rw [known] at named
      exact Procedure.says_bind_ok named
        (Procedure.says_bind_error (Control.says_rejected_resolve unnamed))
  cases intent with
  | normalise text =>
    obtain ⟨fault, unnamed, rfl⟩ := single rejected
    have named := Control.says_name policy text
    rw [unnamed] at named
    exact named
  | addInterface bridge iface => exact port rejected
  | removeInterface bridge iface => exact port rejected
  | destroyBridge text force =>
    obtain ⟨fault, unnamed, rfl⟩ := single rejected
    exact Procedure.says_bind_error (Control.says_rejected unnamed _)
  | listBridges => cases rejected
  | snapshotAll => cases rejected
  | planUp declared => cases rejected
  | planDown declared => cases rejected
  | execute plan => cases rejected
  | createBridge text | deleteBridge text | listInterfaces text | bridgeExists text
  | interfaceExists text | linkFlags text | setLinkUp text up | snapshot text =>
    obtain ⟨fault, unnamed, rfl⟩ := single rejected
    exact Control.says_rejected unnamed _

theorem plays_port {policy : NamePolicy} {bridgeText ifaceText : String} {bridge iface : IfName}
    (namedBridge : IfName.ofText policy bridgeText = .ok bridge)
    (namedIface : IfName.ofText policy ifaceText = .ok iface)
    {k : IfName → IfName × IfIndex → Procedure Unit} {steps : List Step}
    {result : Except Error Unit}
    (played : Plays (ExceptT.run (do
      let br ← Control.name policy bridgeText
      Control.resolve policy ifaceText >>= k br)) steps result) :
    ∃ answer before later, steps = before ++ .asked (.nameToIndex iface) answer :: later ∧
      before.filterMap Step.call? = [] ∧
      (answer = none → later.filterMap Step.call? = [] ∧
        result = .error (.interfaceNotFound iface.text)) := by
  obtain ⟨front, back, rfl, silent, later⟩ := Control.plays_named namedBridge played
  rcases Procedure.plays_bind_iff.mp later with
    ⟨error, rfl, resolved⟩ | ⟨middle, last, target, rfl, resolved, ended⟩
  · obtain ⟨answer, before, after, rfl, early, late, same⟩ :=
      Control.plays_resolve namedIface resolved
    refine ⟨answer, front ++ before, after, by simp, by simp [silent, early], ?_⟩
    rintro rfl
    exact ⟨late, by rw [Except.error.inj same]⟩
  · obtain ⟨answer, before, after, rfl, early, late, same⟩ :=
      Control.plays_resolve namedIface resolved
    refine ⟨answer, front ++ before, after ++ last, by simp, by simp [silent, early], ?_⟩
    rintro rfl
    cases same

/-- Whatever an operation is answered: as soon as a handle or a request is refused nothing more is
asked but to take the handle back, and the operation ends in the error that names the request and
its devices with the error number. Such errors come of nothing else. A name that is refused ends a
single operation before anything is asked, and an interface that is not found ends the operation
after this question alone. -/
theorem stops_at_first_failure {policy : NamePolicy} {intent : Intent} {steps : List Step}
    {result : Except Error intent.Result}
    (played : Plays (ExceptT.run (intent.procedure policy)) steps result) :
    (∀ before step later request cause, steps = before ++ step :: later →
      step.Fails request cause →
        Leaves later ∧ ∃ error, result = .error error ∧ error.errno? = some cause ∧
          Blames (intent.About policy steps) before request cause error) ∧
    (∀ error, result = .error error → error.OfCall →
      ∃ before step later request cause, steps = before ++ step :: later ∧
        step.Fails request cause ∧
        Blames (intent.About policy steps) before request cause error) ∧
    (∀ error, intent.given.findSome? (rejection policy) = some error →
      steps.filterMap Step.call? = [] ∧ result = .error error) ∧
    ∀ bridgeText ifaceText bridge iface, intent.port? = some (bridgeText, ifaceText) →
      IfName.ofText policy bridgeText = .ok bridge → IfName.ofText policy ifaceText = .ok iface →
      ∃ answer before later, steps = before ++ .asked (.nameToIndex iface) answer :: later ∧
        before.filterMap Step.call? = [] ∧
        (answer = none → later.filterMap Step.call? = [] ∧
          result = .error (.interfaceNotFound iface.text)) := by
  have halts := Intent.halts played
  refine ⟨?_, ?_, ?_, ?_⟩
  · intro before step later request cause split failed
    generalize intent.About policy steps = about at halts ⊢
    cases halts with
    | smooth smooth own =>
      have clean : ¬ step.Fails request cause := smooth step (by simp [split]) request cause
      exact absurd failed clean
    | broken smooth stuck leaves blamed =>
      obtain ⟨rfl, rfl, rfl⟩ := failure_unique split.symm smooth leaves failed
      cases failed <;> cases stuck <;> exact ⟨leaves, _, rfl, blamed.errno?_eq, blamed⟩
  · intro error same ofCall
    generalize intent.About policy steps = about at halts ⊢
    cases halts with
    | smooth smooth own => exact absurd ofCall (own error same)
    | broken smooth failed leaves blamed =>
      cases same
      exact ⟨_, _, _, _, _, rfl, failed, blamed⟩
  · intro error rejected
    obtain ⟨rfl, silent⟩ := Intent.says_rejected rejected steps result played
    exact ⟨silent, rfl⟩
  · intro bridgeText ifaceText bridge iface given namedBridge namedIface
    cases intent with
    | addInterface first second =>
      cases given
      exact plays_port namedBridge namedIface played
    | removeInterface first second =>
      cases given
      exact plays_port namedBridge namedIface played
    | _ => cases given

/-- The flags of a link are read, but may not be written. -/
theorem stops_at_first_failure_flags_unwritten :
    ∃ script : Script, script.flagWritings = [.error .EBUSY] ∧
      ((Control.setLinkUp .truncate "br0" true).run Script.plane script).value =
        .error (.kernelOperation .setLinkFlags "br0" (.errno .EBUSY)) := by
  let script : Script := ⟨[], [], [], [], [], [], [], [], [], [], [.error .EBUSY]⟩
  let br0 : IfName := ⟨"br0", by decide, by decide, by decide⟩
  let course := (Control.setLinkUp .truncate "br0" true).run Script.plane script
  have played : Plays (ExceptT.run (Intent.procedure .truncate (.setLinkUp "br0" true)))
    course.steps course.value := plays_run _ _ _
  obtain ⟨halts, -⟩ := stops_at_first_failure played
  have split : course.steps =
      [.asked .acquire (.ok ⟨0⟩), .asked (.request ⟨0⟩ (.linkFlags br0)) (.ok ⟨0⟩)] ++
      .asked (.request ⟨0⟩ (.setLinkFlags br0 ⟨1⟩)) (.error .EBUSY) ::
        [.logged (.requestRefused .setLinkFlags br0 .EBUSY), .asked (.release ⟨0⟩) ()] := by
    rfl
  obtain ⟨-, error, same, -, blamed⟩ := halts _ _ _ _ _ split (.request _ _ _)
  refine ⟨script, rfl, same.trans ?_⟩
  cases blamed with
  | device cause device known =>
    cases device
    rfl
  | port cause port known resolved => cases port

end NetBridge
