import NetBridge.Control
import NetBridge.Proofs.Course

/-! Failing calls. A call fails when a handle or a request is refused; a name without an interface
is an answer and no failure. A procedure halts when on every course nothing but the handle's return
follows a failure, and the result tells which call failed and why. -/

namespace NetBridge

open Dialogue

/-- The step is a call that fails: for a request when there is one, else for a handle. -/
inductive Step.Fails : Step → Option Request → Errno → Prop where
  | acquire (cause : Errno) : Fails (.asked .acquire (.error cause)) none cause
  | request (handle : Handle) (request : Request) (cause : Errno) :
      Fails (.asked (.request handle request) (.error cause)) (some request) cause

/-- No call of these steps fails. -/
def Smooth (steps : List Step) : Prop :=
  ∀ step ∈ steps, ∀ request cause, ¬ step.Fails request cause

/-- Nothing is asked of the control plane but to take a handle back. -/
def Leaves (steps : List Step) : Prop :=
  ∀ call ∈ steps.filterMap Step.call?, ∃ handle, call = .release handle

/-- What a request is called in an error. -/
def Request.operation : Request → Operation
  | addBridge _ => .addBridge
  | deleteBridge _ => .deleteBridge
  | addPort _ _ => .addInterface
  | deletePort _ _ => .removeInterface
  | bridgeIndices _ => .listBridges
  | portIndices _ _ => .listInterfaces
  | linkFlags _ => .getLinkFlags
  | setLinkFlags _ _ => .setLinkFlags

def Request.device? : Request → Option IfName
  | addBridge name => some name
  | deleteBridge name => some name
  | addPort _ _ => none
  | deletePort _ _ => none
  | bridgeIndices _ => none
  | portIndices bridge _ => some bridge
  | linkFlags name => some name
  | setLinkFlags name _ => some name

def Request.port? : Request → Option (IfName × IfIndex)
  | addPort bridge port => some (bridge, port)
  | deletePort bridge port => some (bridge, port)
  | _ => none

/-- The error is one of those kept for failing calls. -/
inductive Error.OfCall : Error → Prop where
  | handle (source : SystemError) : OfCall (.handleAcquisition source)
  | device (op : Operation) (name : String) (source : SystemError) :
      OfCall (.kernelOperation op name source)
  | port (op : Operation) (iface bridge : String) (source : SystemError) :
      OfCall (.portOperation op iface bridge source)

/-- The error that a failure comes to, for an operation that is about these devices, each alone or
with an interface as its port. The interface is one whose name was resolved to the port's index. -/
inductive Blames (about : IfName → Option IfName → Prop) (before : List Step) :
    Option Request → Errno → Error → Prop where
  | handle (cause : Errno) : Blames about before none cause (.handleAcquisition (.errno cause))
  | listing (capacity : Nat) (cause : Errno) :
      Blames about before (some (.bridgeIndices capacity)) cause
        (.kernelOperation .listBridges "*" (.errno cause))
  | device {request : Request} {name : IfName} (cause : Errno) (device : request.device? = some name)
      (known : about name none) :
      Blames about before (some request) cause
        (.kernelOperation request.operation name.text (.errno cause))
  | port {request : Request} {bridge iface : IfName} {index : IfIndex} (cause : Errno)
      (port : request.port? = some (bridge, index)) (known : about bridge (some iface))
      (resolved : .asked (.nameToIndex iface) (some index) ∈ before) :
      Blames about before (some request) cause
        (.portOperation request.operation iface.text bridge.text (.errno cause))

namespace Blames

variable {about : IfName → Option IfName → Prop} {before : List Step} {request : Option Request}
  {cause : Errno} {error : Error}

theorem errno?_eq (blames : Blames about before request cause error) :
    error.errno? = some cause := by
  cases blames <;> rfl

end Blames

/-- A course after `past` on which no call fails, or which ends with the first that does. -/
inductive Halts (about : IfName → Option IfName → Prop) (past : List Step) :
    List Step → Except Error α → Prop where
  | smooth {steps : List Step} {result : Except Error α} (smooth : Smooth steps)
      (own : ∀ error, result = .error error → ¬ error.OfCall) : Halts about past steps result
  | broken {before later : List Step} {step : Step} {request : Option Request} {cause : Errno}
      {error : Error} (smooth : Smooth before) (failed : step.Fails request cause)
      (leaves : Leaves later) (blamed : Blames about (past ++ before) request cause error) :
      Halts about past (before ++ step :: later) (.error error)

/-- On every course after `past`, the procedure halts at the first failure. -/
def Procedure.Halts (about : IfName → Option IfName → Prop) (past : List Step) (p : Procedure α) :
    Prop :=
  ∀ steps result, Plays (ExceptT.run p) steps result → NetBridge.Halts about past steps result

section Steps

variable {first rest : List Step}

theorem smooth_append_iff : Smooth (first ++ rest) ↔ Smooth first ∧ Smooth rest := by
  simp only [Smooth, List.forall_mem_append]

theorem smooth_cons_iff {step : Step} :
    Smooth (step :: rest) ↔ (∀ request cause, ¬ step.Fails request cause) ∧ Smooth rest := by
  simp only [Smooth, List.forall_mem_cons]

theorem smooth_nil : Smooth [] := nofun

theorem leaves_append_iff : Leaves (first ++ rest) ↔ Leaves first ∧ Leaves rest := by
  simp only [Leaves, List.filterMap_append, List.forall_mem_append]

theorem smooth_of_leaves (leaves : Leaves rest) : Smooth rest := by
  intro step member request cause failed
  cases failed with
  | acquire cause =>
    obtain ⟨handle, same⟩ := leaves .acquire (List.mem_filterMap.mpr ⟨_, member, rfl⟩)
    cases same
  | request handle request cause =>
    obtain ⟨other, same⟩ :=
      leaves (.request handle request) (List.mem_filterMap.mpr ⟨_, member, rfl⟩)
    cases same

theorem leaves_of_silent (silent : rest.filterMap Step.call? = []) : Leaves rest := by
  intro call member
  rw [silent] at member
  cases member

theorem leaves_release (handle : Handle) : Leaves [.asked (.release handle) ()] := by
  intro call member
  exact ⟨handle, List.mem_singleton.mp member⟩

/-- A course has one failure at most that only returns follow. -/
theorem failure_unique {before later : List Step} {step other : Step} {request : Option Request}
    {cause : Errno} (split : first ++ step :: rest = before ++ other :: later)
    (smooth : Smooth before) (leaves : Leaves later) (failed : step.Fails request cause) :
    first = before ∧ step = other ∧ rest = later := by
  have still := smooth_of_leaves leaves
  rcases List.append_eq_append_iff.mp split with ⟨between, rfl, tail⟩ | ⟨between, rfl, tail⟩
  · cases between with
    | nil => exact ⟨(List.append_nil _).symm, List.cons.inj tail⟩
    | cons head others =>
      obtain ⟨rfl, -⟩ := List.cons.inj tail
      exact absurd failed (smooth step (by simp) request cause)
  · cases between with
    | nil =>
      obtain ⟨same, rfl⟩ := List.cons.inj tail
      exact ⟨List.append_nil _, same.symm, rfl⟩
    | cons head others =>
      obtain ⟨-, rfl⟩ := List.cons.inj tail
      exact absurd failed (still step (by simp) request cause)

end Steps

namespace Halts

variable {about : IfName → Option IfName → Prop} {past front back : List Step}
  {result : Except Error α}

theorem here {step : Step} {request : Option Request} {cause : Errno} {error : Error}
    (failed : step.Fails request cause) (leaves : Leaves back)
    (blamed : Blames about past request cause error) :
    Halts about past (step :: back) (.error error : Except Error α) :=
  .broken smooth_nil failed leaves ((List.append_nil past).symm ▸ blamed)

theorem error {error : Error} (halts : Halts about past front (.error error : Except Error α)) :
    Halts about past front (.error error : Except Error β) := by
  cases halts with
  | smooth smooth own =>
    refine .smooth smooth fun other same => own other ?_
    cases same
    rfl
  | broken smooth failed leaves blamed => exact .broken smooth failed leaves blamed

theorem smooth_of_ok {value : α} (halts : Halts about past front (.ok value)) : Smooth front := by
  cases halts with
  | smooth smooth own => exact smooth

theorem prepend (smooth : Smooth front) (halts : Halts about (past ++ front) back result) :
    Halts about past (front ++ back) result := by
  cases halts with
  | smooth still own => exact .smooth (smooth_append_iff.mpr ⟨smooth, still⟩) own
  | broken still failed leaves blamed =>
    rw [← List.append_assoc]
    rw [List.append_assoc] at blamed
    exact .broken (smooth_append_iff.mpr ⟨smooth, still⟩) failed leaves blamed

theorem append (halts : Halts about past front result) (leaves : Leaves back) :
    Halts about past (front ++ back) result := by
  cases halts with
  | smooth smooth own => exact .smooth (smooth_append_iff.mpr ⟨smooth, smooth_of_leaves leaves⟩) own
  | broken smooth failed earlier blamed =>
    rw [List.append_assoc, List.cons_append]
    exact .broken smooth failed (leaves_append_iff.mpr ⟨earlier, leaves⟩) blamed

end Halts

namespace Procedure

variable {about : IfName → Option IfName → Prop} {past : List Step}

/-- One procedure after another: the first fails, or the second goes on with its value. -/
theorem plays_bind_iff {p : Procedure α} {k : α → Procedure β} {steps : List Step}
    {result : Except Error β} :
    Plays (ExceptT.run (p >>= k)) steps result ↔
      (∃ error, result = .error error ∧ Plays (ExceptT.run p) steps (.error error)) ∨
      ∃ front back value, steps = front ++ back ∧ Plays (ExceptT.run p) front (.ok value) ∧
        Plays (ExceptT.run (k value)) back result := by
  change Plays (ExceptT.run p >>= ExceptT.bindCont k) steps result ↔ _
  rw [Dialogue.plays_bind_iff]
  constructor
  · rintro ⟨front, back, middle, rfl, begun, later⟩
    cases middle with
    | error error =>
      obtain ⟨rfl, rfl⟩ := plays_done_iff.mp later
      exact .inl ⟨error, rfl, (List.append_nil front).symm ▸ begun⟩
    | ok value => exact .inr ⟨front, back, value, rfl, begun, later⟩
  · rintro (⟨error, rfl, begun⟩ | ⟨front, back, value, rfl, begun, later⟩)
    · exact ⟨steps, [], .error error, (List.append_nil steps).symm, begun, .done _⟩
    · exact ⟨front, back, .ok value, rfl, begun, later⟩

theorem plays_liftM_iff {d : Dialogue α} {steps : List Step} {result : Except Error α} :
    Plays (ExceptT.run (liftM d : Procedure α)) steps result ↔
      ∃ value, result = .ok value ∧ Plays d steps value := by
  change Plays (Except.ok <$> d) steps result ↔ _
  rw [map_eq_pure_bind, Dialogue.plays_bind_iff]
  constructor
  · rintro ⟨front, back, value, rfl, begun, ended⟩
    obtain ⟨rfl, rfl⟩ := plays_done_iff.mp ended
    exact ⟨value, rfl, (List.append_nil front).symm ▸ begun⟩
  · rintro ⟨value, rfl, played⟩
    exact ⟨steps, [], value, (List.append_nil steps).symm, played, .done _⟩

namespace Halts

theorem bind {p : Procedure α} {k : α → Procedure β} (first : Halts about past p)
    (rest : ∀ front value, Plays (ExceptT.run p) front (.ok value) →
      Halts about (past ++ front) (k value)) :
    Halts about past (p >>= k) := by
  intro steps result played
  rcases plays_bind_iff.mp played with ⟨error, rfl, begun⟩ | ⟨front, back, value, rfl, begun, later⟩
  · exact (first steps _ begun).error
  · exact .prepend (first front _ begun).smooth_of_ok (rest front value begun back result later)

theorem lift {d : Dialogue α} (smooth : ∀ steps value, Plays d steps value → Smooth steps) :
    Halts about past (liftM d : Procedure α) := by
  intro steps result played
  obtain ⟨value, rfl, asked⟩ := plays_liftM_iff.mp played
  exact .smooth (smooth steps value asked) nofun

theorem pure (value : α) : Halts about past (Pure.pure value : Procedure α) := by
  intro steps result played
  obtain ⟨rfl, rfl⟩ := plays_done_iff.mp played
  exact .smooth smooth_nil nofun

theorem throw {error : Error} (own : ¬ error.OfCall) :
    Halts about past (MonadExcept.throw error : Procedure α) := by
  intro steps result played
  obtain ⟨rfl, rfl⟩ := plays_done_iff.mp played
  refine .smooth smooth_nil fun other same => ?_
  cases same
  exact own

end Halts

end Procedure

/-- The dialogue asks nothing and ends with this value. -/
def Dialogue.Says (d : Dialogue α) (value : α) : Prop :=
  ∀ steps result, Plays d steps result → result = value ∧ steps.filterMap Step.call? = []

namespace Dialogue.Says

theorem done (value : α) : Says (done value) value := by
  intro steps result played
  obtain ⟨rfl, rfl⟩ := plays_done_iff.mp played
  exact ⟨rfl, rfl⟩

theorem log (event : Event) {next : Dialogue α} {value : α} (said : next.Says value) :
    Says (log event next) value := by
  intro steps result played
  obtain ⟨rest, rfl, later⟩ := plays_log_iff.mp played
  exact said rest result later

theorem bind {d : Dialogue α} {k : α → Dialogue β} {value : α} {last : β} (first : d.Says value)
    (rest : (k value).Says last) : (d >>= k).Says last := by
  intro steps result played
  obtain ⟨front, back, middle, rfl, begun, later⟩ := plays_bind_iff.mp played
  obtain ⟨rfl, silent⟩ := first front middle begun
  obtain ⟨rfl, quiet⟩ := rest back result later
  rw [List.filterMap_append, silent, quiet]
  exact ⟨rfl, rfl⟩

theorem report (event : Event) : Says (report event) () := log event (done ())

theorem reportAll (events : List Event) : Says (reportAll events) () := by
  induction events with
  | nil => exact done ()
  | cons event rest ih => exact log event ih

end Dialogue.Says

namespace Procedure

variable {p : Procedure α} {k : α → Procedure β} {result : Except Error β}

theorem says_bind_ok {value : α} (first : Dialogue.Says (ExceptT.run p) (.ok value))
    (rest : Dialogue.Says (ExceptT.run (k value)) result) :
    Dialogue.Says (ExceptT.run (p >>= k)) result :=
  .bind first rest

theorem says_bind_error {error : Error} (first : Dialogue.Says (ExceptT.run p) (.error error)) :
    Dialogue.Says (ExceptT.run (p >>= k)) (.error error) :=
  .bind first (.done _)

theorem says_pure (value : α) : Dialogue.Says (ExceptT.run (pure value : Procedure α)) (.ok value) :=
  .done _

theorem says_throw (error : Error) :
    Dialogue.Says (ExceptT.run (throw error : Procedure α)) (.error error) :=
  .done _

theorem says_report (event : Event) :
    Dialogue.Says (ExceptT.run (liftM (report event) : Procedure Unit)) (.ok ()) := by
  change Dialogue.Says (Except.ok <$> report event) _
  rw [map_eq_pure_bind]
  exact .bind (.report event) (.done _)

end Procedure

theorem Dialogue.plays_query_bind_iff {call : Call} {k : call.Answer → Dialogue α}
    {steps : List Step} {value : α} : Plays (query call >>= k) steps value ↔
      ∃ answer rest, steps = .asked call answer :: rest ∧ Plays (k answer) rest value :=
  plays_ask_iff

namespace Control

variable {about : IfName → Option IfName → Prop} {past : List Step} {policy : NamePolicy}

theorem says_name (policy : NamePolicy) (text : String) :
    Dialogue.Says (ExceptT.run (name policy text))
      ((IfName.ofText policy text).mapError (.invalidName text)) := by
  refine .bind (.reportAll _) ?_
  simp only [normalise]
  cases IfName.ofText policy text with
  | ok iface => exact .done _
  | error fault => exact .bind (.report _) (.done _)

theorem ofText_of_plays {text : String} {steps : List Step} {iface : IfName}
    (played : Plays (ExceptT.run (name policy text)) steps (.ok iface)) :
    IfName.ofText policy text = .ok iface := by
  have named := (says_name policy text steps _ played).1
  cases known : IfName.ofText policy text with
  | ok other =>
    rw [known] at named
    cases named
    rfl
  | error fault =>
    rw [known] at named
    cases named

theorem plays_named {text : String} {iface : IfName} (named : IfName.ofText policy text = .ok iface)
    {k : IfName → Procedure α} {steps : List Step} {result : Except Error α}
    (played : Plays (ExceptT.run (name policy text >>= k)) steps result) :
    ∃ front back, steps = front ++ back ∧ front.filterMap Step.call? = [] ∧
      Plays (ExceptT.run (k iface)) back result := by
  have known := says_name policy text
  rw [named] at known
  rcases Procedure.plays_bind_iff.mp played with
    ⟨error, -, begun⟩ | ⟨front, back, other, rfl, begun, later⟩
  · cases (known steps _ begun).1
  · obtain ⟨same, silent⟩ := known front _ begun
    obtain rfl := Except.ok.inj same
    exact ⟨front, back, rfl, silent, later⟩

theorem halts_name (text : String) : Procedure.Halts about past (name policy text) := by
  intro steps result played
  obtain ⟨rfl, silent⟩ := says_name policy text steps result played
  refine .smooth (smooth_of_leaves (leaves_of_silent silent)) fun error same => ?_
  cases known : IfName.ofText policy text with
  | ok iface =>
    rw [known] at same
    cases same
  | error fault =>
    rw [known] at same
    cases same
    nofun

theorem halts_named {text : String} {k : IfName → Procedure α}
    (each : ∀ past iface, IfName.ofText policy text = .ok iface →
      Procedure.Halts about past (k iface)) :
    Procedure.Halts about past (name policy text >>= k) :=
  .bind (halts_name text) fun front iface played =>
    each (past ++ front) iface (ofText_of_plays played)

/-- A request is refused, and the refusal ends it in an error, or it is granted. -/
theorem plays_issue {handle : Handle} {request : Request} {refused : Errno → Dialogue Error}
    {steps : List Step} {result : Except Error request.Reply}
    (played : Plays (ExceptT.run (issue handle request refused)) steps result) :
    (∃ cause later error, steps = .asked (.request handle request) (.error cause) :: later ∧
        Plays (refused cause) later error ∧ result = .error error) ∨
      ∃ reply, steps = [.asked (.request handle request) (.ok reply)] ∧ result = .ok reply := by
  obtain ⟨answer, rest, rfl, answered⟩ := plays_query_bind_iff.mp played
  cases answer with
  | error cause =>
    obtain ⟨later, last, error, rfl, spoken, ended⟩ := Dialogue.plays_bind_iff.mp answered
    obtain ⟨rfl, rfl⟩ := plays_done_iff.mp ended
    rw [List.append_nil]
    exact .inl ⟨cause, later, error, rfl, spoken, rfl⟩
  | ok reply =>
    obtain ⟨rfl, rfl⟩ := plays_done_iff.mp answered
    exact .inr ⟨reply, rfl, rfl⟩

/-- A handle is refused, and the refusal ends the operation in an error, or it is held while the body
works and given back. -/
theorem plays_withHandle {refused : Errno → Dialogue Error} {body : Handle → Procedure α}
    {steps : List Step} {result : Except Error α}
    (played : Plays (ExceptT.run (withHandle refused body)) steps result) :
    (∃ cause later error, steps = .asked .acquire (.error cause) :: later ∧
        Plays (refused cause) later error ∧ result = .error error) ∨
      ∃ handle middle,
        steps = .asked .acquire (.ok handle) :: (middle ++ [.asked (.release handle) ()]) ∧
        Plays (ExceptT.run (body handle)) middle result := by
  obtain ⟨answer, rest, rfl, answered⟩ := plays_query_bind_iff.mp played
  cases answer with
  | error cause =>
    obtain ⟨later, last, error, rfl, spoken, ended⟩ := Dialogue.plays_bind_iff.mp answered
    obtain ⟨rfl, rfl⟩ := plays_done_iff.mp ended
    rw [List.append_nil]
    exact .inl ⟨cause, later, error, rfl, spoken, rfl⟩
  | ok handle =>
    obtain ⟨middle, last, value, rfl, worked, ended⟩ := Dialogue.plays_bind_iff.mp answered
    obtain ⟨⟨⟩, tail, rfl, returned⟩ := plays_query_bind_iff.mp ended
    obtain ⟨rfl, rfl⟩ := plays_done_iff.mp returned
    exact .inr ⟨handle, middle, rfl, worked⟩

/-- A request that is refused ends the operation with the error made of the refusal. -/
theorem halts_issue {handle : Handle} (request : Request) {refused : Errno → Dialogue Error}
    {fault : Errno → Error} (said : ∀ cause, (refused cause).Says (fault cause))
    (blamed : ∀ cause, Blames about past (some request) cause (fault cause)) :
    Procedure.Halts about past (issue handle request refused) := by
  intro steps result played
  rcases plays_issue played with ⟨cause, later, error, rfl, spoken, rfl⟩ | ⟨reply, rfl, rfl⟩
  · obtain ⟨rfl, silent⟩ := said cause later error spoken
    exact .here (.request handle request cause) (leaves_of_silent silent) (blamed cause)
  · exact .smooth (smooth_cons_iff.mpr ⟨nofun, smooth_nil⟩) nofun

/-- The handle goes back after the body, whether something failed or not. -/
theorem halts_withHandle {refused : Errno → Dialogue Error} {body : Handle → Procedure α}
    (said : ∀ cause, (refused cause).Says (.handleAcquisition (.errno cause)))
    (each : ∀ handle, Procedure.Halts about (past ++ [.asked .acquire (.ok handle)]) (body handle)) :
    Procedure.Halts about past (withHandle refused body) := by
  intro steps result played
  rcases plays_withHandle played with
    ⟨cause, later, error, rfl, spoken, rfl⟩ | ⟨handle, middle, rfl, worked⟩
  · obtain ⟨rfl, silent⟩ := said cause later error spoken
    exact .here (.acquire cause) (leaves_of_silent silent) (.handle cause)
  · have granted : Smooth [.asked .acquire (.ok handle)] := smooth_cons_iff.mpr ⟨nofun, smooth_nil⟩
    exact .prepend granted ((each handle middle result worked).append (leaves_release handle))

end Control

end NetBridge
