import NetBridge.Proofs.Compound
import NetBridge.Proofs.Failure
import NetBridge.Proofs.Kernel.Turns

namespace NetBridge

/-- The requests to change the bridge table among these steps, granted or not. -/
def changesAsked (steps : List Step) : List Request :=
  (steps.filterMap Step.request?).filter Request.mutates

theorem changesAsked_append (first rest : List Step) :
    changesAsked (first ++ rest) = changesAsked first ++ changesAsked rest := by
  rw [changesAsked, List.filterMap_append, List.filter_append]
  rfl

theorem changesAsked_change (handle : Handle) {request : Request}
    (mutates : request.mutates = true) (answer : Except Errno request.Reply) (later : List Step) :
    changesAsked (.asked (.request handle request) answer :: later) =
      request :: changesAsked later :=
  List.filter_cons_of_pos mutates

/-- On every course each request is one of these. -/
def Dialogue.Asks (allowed : Request → Prop) (d : Dialogue α) : Prop :=
  ∀ steps value, Plays d steps value → ∀ request ∈ steps.filterMap Step.request?, allowed request

def Procedure.Asks (allowed : Request → Prop) (p : Procedure α) : Prop :=
  Dialogue.Asks allowed (ExceptT.run p)

/-- On every course no request is one to change the bridge table. -/
abbrev Dialogue.Reads (d : Dialogue α) : Prop := d.Asks fun request => request.mutates = false

abbrev Procedure.Reads (p : Procedure α) : Prop := p.Asks fun request => request.mutates = false

variable {allowed : Request → Prop}

theorem Dialogue.Reads.changesAsked_eq_nil {d : Dialogue α} (reads : d.Reads) {steps : List Step}
    {value : α} (played : Plays d steps value) : changesAsked steps = [] := by
  refine List.filter_eq_nil_iff.mpr fun request member => ?_
  rw [reads steps value played request member]
  exact Bool.false_ne_true

namespace Dialogue.Asks

theorem done (value : α) : Asks allowed (done value) := by
  intro steps result played
  obtain ⟨rfl, -⟩ := plays_done_iff.mp played
  nofun

theorem log (event : Event) {next : Dialogue α} (later : Asks allowed next) :
    Asks allowed (log event next) := by
  intro steps value played
  obtain ⟨rest, rfl, others⟩ := plays_log_iff.mp played
  exact later rest value others

theorem bind {d : Dialogue α} {k : α → Dialogue β} (first : Asks allowed d)
    (rest : ∀ value, Asks allowed (k value)) : Asks allowed (d >>= k) := by
  intro steps value played
  obtain ⟨front, back, middle, rfl, begun, later⟩ := plays_bind_iff.mp played
  rw [List.filterMap_append]
  exact List.forall_mem_append.mpr ⟨first front middle begun, rest middle back value later⟩

theorem query {call : Call} (may : ∀ request, call.request? = some request → allowed request) :
    Asks allowed (query call) := by
  intro steps value played
  obtain ⟨answer, rest, rfl, ended⟩ := plays_ask_iff.mp played
  obtain ⟨rfl, rfl⟩ := plays_done_iff.mp ended
  intro request member
  obtain ⟨step, only, asked⟩ := List.mem_filterMap.mp member
  obtain rfl := List.mem_singleton.mp only
  exact may request asked

theorem report (event : Event) : Asks allowed (report event) := log event (done ())

theorem reportAll (events : List Event) : Asks allowed (reportAll events) := by
  induction events with
  | nil => exact done ()
  | cons event rest ih => exact log event ih

end Dialogue.Asks

namespace Procedure.Asks

theorem pure (value : α) : Asks allowed (Pure.pure value : Procedure α) := by
  show Dialogue.Asks allowed (.done (Except.ok value))
  exact .done _

theorem throw (cause : Error) : Asks allowed (MonadExcept.throw cause : Procedure α) := by
  show Dialogue.Asks allowed (.done (Except.error cause))
  exact .done _

theorem bind {p : Procedure α} {k : α → Procedure β} (first : Asks allowed p)
    (rest : ∀ value, Asks allowed (k value)) : Asks allowed (p >>= k) := by
  refine Dialogue.Asks.bind first fun result => ?_
  cases result with
  | ok value => exact rest value
  | error cause => exact .done _

theorem lift {d : Dialogue α} (asks : d.Asks allowed) : Asks allowed (liftM d : Procedure α) := by
  show Dialogue.Asks allowed (Except.ok <$> d)
  rw [map_eq_pure_bind]
  exact .bind asks fun _ => .done _

theorem report (event : Event) :
    Asks allowed (liftM (Dialogue.report event) : Procedure Unit) := lift (.report event)

end Procedure.Asks

namespace Control

open Procedure

variable {policy : NamePolicy}

theorem asks_name (text : String) : Asks allowed (name policy text) := by
  refine Dialogue.Asks.bind (.reportAll _) fun _ => ?_
  split
  · exact .done _
  · exact .bind (.report _) fun _ => .done _

theorem asks_named {text : String} {k : IfName → Procedure α}
    (each : ∀ iface, IfName.ofText policy text = .ok iface → Asks allowed (k iface)) :
    Asks allowed (name policy text >>= k) := by
  intro steps result played
  rcases plays_bind_iff.mp played with ⟨error, -, begun⟩ | ⟨front, back, iface, rfl, begun, later⟩
  · exact asks_name text steps _ begun
  · rw [List.filterMap_append]
    exact List.forall_mem_append.mpr ⟨asks_name text front _ begun,
      each iface (ofText_of_plays begun) back result later⟩

theorem asks_resolve (text : String) : Asks allowed (resolve policy text) := by
  refine .bind (asks_name text) fun iface => ?_
  refine .bind (.lift (.query nofun)) fun index => ?_
  cases index with
  | some index => exact .bind (.report _) fun _ => .pure _
  | none => exact .bind (.report _) fun _ => .throw _

theorem asks_namesOf (slots : List Int32) : (namesOf slots).Asks allowed := by
  induction slots with
  | nil => exact .done _
  | cons slot rest ih =>
    rw [namesOf]
    split
    · exact ih
    · refine .bind (.query nofun) fun text => ?_
      cases text with
      | some found => exact .bind ih fun _ => .done _
      | none => exact .bind (.report _) fun _ => ih

theorem asks_noHandle (op : Operation) (dev : IfName) (cause : Errno) :
    (noHandle op dev cause).Asks allowed := .bind (.report _) fun _ => .done _

theorem asks_refusal (op : Operation) (dev : IfName) (cause : Errno) :
    (refusal op dev cause).Asks allowed := .bind (.report _) fun _ => .done _

theorem asks_issue {handle : Handle} {request : Request} {refused : Errno → Dialogue Error}
    (may : allowed request) (said : ∀ cause, (refused cause).Asks allowed) :
    Asks allowed (issue handle request refused) := by
  have asked : ∀ other, (Call.request handle request).request? = some other → allowed other := by
    intro other same
    obtain rfl := Option.some.inj same
    exact may
  refine Dialogue.Asks.bind (.query asked) fun answer => ?_
  cases answer with
  | ok reply => exact .done _
  | error cause => exact .bind (said cause) fun _ => .done _

theorem asks_withHandle {refused : Errno → Dialogue Error} {body : Handle → Procedure α}
    (said : ∀ cause, (refused cause).Asks allowed) (each : ∀ handle, Asks allowed (body handle)) :
    Asks allowed (withHandle refused body) := by
  refine Dialogue.Asks.bind (.query nofun) fun answer => ?_
  cases answer with
  | error cause => exact .bind (said cause) fun _ => .done _
  | ok handle =>
    exact .bind (each handle) fun _ => .bind (.query nofun) fun _ => .done _

theorem asks_request (op : Operation) (dev : IfName) {request : Request} (event : Event)
    {refused : Errno → Dialogue Error} (may : allowed request)
    (said : ∀ cause, (refused cause).Asks allowed) :
    Asks allowed (withHandle (noHandle op dev) fun handle => do
      let _ ← issue handle request refused
      Dialogue.report event : Procedure Unit) :=
  asks_withHandle (asks_noHandle op dev) fun _ => .bind (asks_issue may said) fun _ => .report event

theorem asks_createBridge {text : String}
    (may : ∀ bridge, IfName.ofText policy text = .ok bridge → allowed (.addBridge bridge)) :
    Asks allowed (createBridge policy text) :=
  asks_named fun bridge named => asks_request _ bridge _ (may bridge named) (asks_refusal _ bridge)

theorem asks_deleteBridge {text : String}
    (may : ∀ bridge, IfName.ofText policy text = .ok bridge → allowed (.deleteBridge bridge)) :
    Asks allowed (deleteBridge policy text) :=
  asks_named fun bridge named => asks_request _ bridge _ (may bridge named) (asks_refusal _ bridge)

theorem asks_addInterface {bridgeText : String} (ifaceText : String)
    (may : ∀ bridge index, IfName.ofText policy bridgeText = .ok bridge →
      allowed (.addPort bridge index)) :
    Asks allowed (addInterface policy bridgeText ifaceText) :=
  asks_named fun bridge named => .bind (asks_resolve ifaceText) fun (_, index) =>
    asks_request _ bridge _ (may bridge index named) fun _ => .bind (.report _) fun _ => .done _

theorem asks_removeInterface {bridgeText : String} (ifaceText : String)
    (may : ∀ bridge index, IfName.ofText policy bridgeText = .ok bridge →
      allowed (.deletePort bridge index)) :
    Asks allowed (removeInterface policy bridgeText ifaceText) :=
  asks_named fun bridge named => .bind (asks_resolve ifaceText) fun (_, index) =>
    asks_request _ bridge _ (may bridge index named) fun _ => .bind (.report _) fun _ => .done _

theorem asks_listBridges (may : allowed (.bridgeIndices enumSlots)) : Asks allowed listBridges := by
  refine asks_withHandle (fun _ => .bind (.report _) fun _ => .done _) fun handle => ?_
  refine .bind (asks_issue may fun _ => .bind (.report _) fun _ => .done _) fun found => ?_
  dsimp only
  split
  · exact .bind (.report _) fun _ => .lift (asks_namesOf _)
  · exact .lift (asks_namesOf _)

theorem asks_listInterfaces {text : String}
    (may : ∀ bridge, IfName.ofText policy text = .ok bridge →
      allowed (.portIndices bridge enumSlots)) :
    Asks allowed (listInterfaces policy text) :=
  asks_named fun bridge named => asks_withHandle (asks_noHandle _ bridge) fun _ =>
    .bind (asks_issue (may bridge named) (asks_refusal _ bridge)) fun _ => .lift (asks_namesOf _)

theorem asks_interfaceExists (text : String) : Asks allowed (interfaceExists policy text) :=
  .bind (asks_name text) fun _ => .bind (.lift (.query nofun)) fun _ => .pure _

theorem asks_linkFlags {text : String}
    (may : ∀ iface, IfName.ofText policy text = .ok iface → allowed (.linkFlags iface)) :
    Asks allowed (linkFlags policy text) :=
  asks_named fun iface named => asks_withHandle (asks_noHandle _ iface) fun _ =>
    asks_issue (may iface named) (asks_refusal _ iface)

theorem asks_setLinkUp {text : String} {up : Bool}
    (read : ∀ iface, IfName.ofText policy text = .ok iface → allowed (.linkFlags iface))
    (write : ∀ (iface : IfName) (word : LinkFlags), IfName.ofText policy text = .ok iface →
      allowed (.setLinkFlags iface (word.setUp up))) :
    Asks allowed (setLinkUp policy text up) := by
  refine asks_named fun iface named => asks_withHandle (asks_noHandle _ iface) fun handle => ?_
  refine .bind (asks_issue (read iface named) (asks_refusal _ iface)) fun flags => ?_
  split
  · exact .report _
  · exact .bind (asks_issue (write iface _ named) (asks_refusal _ iface)) fun _ => .report _

theorem inquiring_reads (policy : NamePolicy) : Inquiring policy Reads where
  pure := .pure
  bind := .bind
  name := asks_name
  listBridges := asks_listBridges rfl
  listInterfaces _ := asks_listInterfaces fun _ _ => rfl
  interfaceExists := asks_interfaceExists
  linkFlags _ := asks_linkFlags fun _ _ => rfl

end Control

/-- The operations that look at the kernel and change nothing. -/
def Intent.inquires : Intent → Bool
  | normalise _ => true
  | listBridges => true
  | listInterfaces _ => true
  | bridgeExists _ => true
  | interfaceExists _ => true
  | linkFlags _ => true
  | snapshot _ => true
  | snapshotAll => true
  | planUp _ => true
  | planDown _ => true
  | _ => false

theorem Intent.reads {intent : Intent} (inquires : intent.inquires = true) (policy : NamePolicy) :
    Procedure.Reads (intent.procedure policy) := by
  have inquiring := Control.inquiring_reads policy
  cases intent with
  | normalise text => exact inquiring.name text
  | listBridges => exact inquiring.listBridges
  | listInterfaces text => exact inquiring.listInterfaces text
  | bridgeExists text => exact inquiring.bridgeExists text
  | interfaceExists text => exact inquiring.interfaceExists text
  | linkFlags text => exact inquiring.linkFlags text
  | snapshot text => exact inquiring.snapshot text
  | snapshotAll => exact inquiring.snapshotAll
  | planUp declared => exact inquiring.planUp declared
  | planDown declared => exact inquiring.planDown declared
  | _ => cases inquires

end NetBridge
