import NetBridge.Control

namespace NetBridge

/-- The value a dialogue ends with and the state it leaves. -/
def Dialogue.outcome (plane : ControlPlane σ) (d : Dialogue α) (state : σ) : α × σ :=
  ((d.run plane state).value, (d.run plane state).state)

def Procedure.outcome (plane : ControlPlane σ) (p : Procedure α) (state : σ) :
    Except Error α × σ :=
  Dialogue.outcome plane (ExceptT.run p) state

namespace Dialogue

variable (plane : ControlPlane σ) (state : σ)

@[simp] theorem outcome_done (value : α) : (done value).outcome plane state = (value, state) := rfl

@[simp] theorem outcome_log (event : Event) (next : Dialogue α) :
    (log event next).outcome plane state = next.outcome plane state := rfl

@[simp] theorem outcome_ask (call : Call) (next : call.Answer → Dialogue α) :
    (ask call next).outcome plane state =
      (next (plane.answer call state).1).outcome plane (plane.answer call state).2 := rfl

@[simp] theorem outcome_bind (d : Dialogue α) (k : α → Dialogue β) :
    (d >>= k).outcome plane state =
      (k (d.outcome plane state).1).outcome plane (d.outcome plane state).2 := by
  simp only [outcome, run_bind]

@[simp] theorem outcome_map (d : Dialogue α) (f : α → β) :
    (f <$> d).outcome plane state =
      (f (d.outcome plane state).1, (d.outcome plane state).2) := by
  rw [map_eq_pure_bind, outcome_bind]
  rfl

@[simp] theorem outcome_report (event : Event) :
    (report event).outcome plane state = ((), state) := rfl

@[simp] theorem outcome_reportAll (events : List Event) :
    (reportAll events).outcome plane state = ((), state) := by
  induction events with
  | nil => rfl
  | cons event rest ih => exact ih

@[simp] theorem outcome_query (call : Call) :
    (query call).outcome plane state = plane.answer call state := rfl

/-- What every answer preserves, a dialogue preserves. -/
theorem outcome_preserves {plane : ControlPlane σ} {holds : σ → Prop}
    (kept : ∀ call state, holds state → holds (plane.answer call state).2)
    (d : Dialogue α) {state : σ} (initial : holds state) : holds (d.outcome plane state).2 := by
  induction d generalizing state with
  | done value => exact initial
  | log event next ih => exact ih initial
  | ask call next ih => exact ih _ (kept call state initial)

end Dialogue

namespace Procedure

variable (plane : ControlPlane σ) (state : σ)

@[simp] theorem outcome_pure (value : α) :
    (pure value : Procedure α).outcome plane state = (.ok value, state) := rfl

@[simp] theorem outcome_throw (cause : Error) :
    (throw cause : Procedure α).outcome plane state = (.error cause, state) := rfl

@[simp] theorem outcome_mk (d : Dialogue (Except Error α)) :
    Procedure.outcome plane (ExceptT.mk d) state = d.outcome plane state := rfl

@[simp] theorem outcome_liftM (d : Dialogue α) :
    Procedure.outcome plane (liftM d : Procedure α) state =
      (.ok (d.outcome plane state).1, (d.outcome plane state).2) := by
  show Dialogue.outcome plane (Except.ok <$> d) state = _
  rw [Dialogue.outcome_map]

theorem outcome_bind (p : Procedure α) (k : α → Procedure β) :
    (p >>= k).outcome plane state =
      match p.outcome plane state with
      | (.ok value, after) => (k value).outcome plane after
      | (.error cause, after) => (.error cause, after) := by
  show Dialogue.outcome plane (ExceptT.run p >>= ExceptT.bindCont k) state = _
  rw [Dialogue.outcome_bind]
  change _ = match Dialogue.outcome plane (ExceptT.run p) state with
    | (.ok value, after) => (k value).outcome plane after
    | (.error cause, after) => (.error cause, after)
  rcases Dialogue.outcome plane (ExceptT.run p) state with ⟨_ | _, _⟩ <;> rfl

/-- Going on after a procedure that succeeds. -/
theorem outcome_bind_ok {p : Procedure α} {value : α} {after : σ}
    (done : p.outcome plane state = (.ok value, after)) (k : α → Procedure β) :
    (p >>= k).outcome plane state = (k value).outcome plane after := by
  rw [outcome_bind, done]

theorem outcome_bind_error {p : Procedure α} {cause : Error} {after : σ}
    (failed : p.outcome plane state = (.error cause, after)) (k : α → Procedure β) :
    (p >>= k).outcome plane state = (.error cause, after) := by
  rw [outcome_bind, failed]

theorem outcome_report_bind (event : Event) (k : Unit → Procedure α) :
    ((liftM (Dialogue.report event) : Procedure Unit) >>= k).outcome plane state =
      (k ()).outcome plane state :=
  outcome_bind_ok plane state (outcome_liftM plane state (Dialogue.report event)) k

theorem outcome_preserves {plane : ControlPlane σ} {holds : σ → Prop}
    (kept : ∀ call state, holds state → holds (plane.answer call state).2)
    (p : Procedure α) {state : σ} (initial : holds state) : holds (p.outcome plane state).2 :=
  Dialogue.outcome_preserves kept _ initial

end Procedure

namespace Control

variable (plane : ControlPlane σ) (state : σ)

/-- Naming a device asks nothing. -/
theorem outcome_name (policy : NamePolicy) (text : String) :
    (name policy text).outcome plane state =
      match IfName.ofText policy text with
      | .ok iface => (.ok iface, state)
      | .error fault => (.error (.invalidName text fault), state) := by
  simp only [name, Procedure.outcome_mk, Dialogue.outcome_bind, Dialogue.outcome_reportAll,
    normalise]
  cases IfName.ofText policy text <;> rfl

theorem outcome_name_ok {policy : NamePolicy} {text : String} {iface : IfName}
    (named : IfName.ofText policy text = .ok iface) :
    (name policy text).outcome plane state = (.ok iface, state) := by
  rw [outcome_name, named]

theorem outcome_name_error {policy : NamePolicy} {text : String} {fault : NameFault}
    (unnamed : IfName.ofText policy text = .error fault) :
    (name policy text).outcome plane state = (.error (.invalidName text fault), state) := by
  rw [outcome_name, unnamed]

theorem outcome_resolve {policy : NamePolicy} {text : String} {iface : IfName}
    (named : IfName.ofText policy text = .ok iface) :
    (resolve policy text).outcome plane state =
      match plane.answer (.nameToIndex iface) state with
      | (some index, after) => (.ok (iface, index), after)
      | (none, after) => (.error (.interfaceNotFound iface.text), after) := by
  rw [resolve, Procedure.outcome_bind_ok plane state (outcome_name_ok plane state named),
    Procedure.outcome_bind, Procedure.outcome_liftM, Dialogue.outcome_query]
  dsimp only
  rcases plane.answer (.nameToIndex iface) state with ⟨_ | index, after⟩
  · rfl
  · rfl

theorem outcome_resolve_error {policy : NamePolicy} {text : String} {fault : NameFault}
    (unnamed : IfName.ofText policy text = .error fault) :
    (resolve policy text).outcome plane state = (.error (.invalidName text fault), state) :=
  Procedure.outcome_bind_error plane state (outcome_name_error plane state unnamed) _

/-- A handle that is granted is given back whatever the body comes to. -/
theorem outcome_withHandle (refused : Errno → Dialogue Error) (body : Handle → Procedure α) :
    (withHandle refused body).outcome plane state =
      match plane.answer .acquire state with
      | (.error cause, after) =>
        (.error ((refused cause).outcome plane after).1, ((refused cause).outcome plane after).2)
      | (.ok handle, after) =>
        (((body handle).outcome plane after).1,
          (plane.answer (.release handle) ((body handle).outcome plane after).2).2) := by
  rw [withHandle, Procedure.outcome_mk, Dialogue.outcome_bind, Dialogue.outcome_query]
  rcases plane.answer .acquire state with ⟨cause | handle, after⟩
  · exact Dialogue.outcome_bind plane after (refused cause) _
  · dsimp only
    rw [Dialogue.outcome_bind, Dialogue.outcome_bind]
    rfl

theorem outcome_issue (handle : Handle) (request : Request) (refused : Errno → Dialogue Error) :
    (issue handle request refused).outcome plane state =
      match plane.answer (.request handle request) state with
      | (.ok reply, after) => (.ok reply, after)
      | (.error cause, after) =>
        (.error ((refused cause).outcome plane after).1,
          ((refused cause).outcome plane after).2) := by
  rw [issue, Procedure.outcome_mk, Dialogue.outcome_bind, Dialogue.outcome_query]
  rcases plane.answer (.request handle request) state with ⟨cause | reply, after⟩
  · exact Dialogue.outcome_bind plane after (refused cause) _
  · rfl

theorem outcome_issue_report (handle : Handle) (request : Request)
    (refused : Errno → Dialogue Error) (event : Event) :
    (do let _ ← issue handle request refused
        Dialogue.report event : Procedure Unit).outcome plane state =
      match plane.answer (.request handle request) state with
      | (.ok _, after) => (.ok (), after)
      | (.error cause, after) =>
        (.error ((refused cause).outcome plane after).1,
          ((refused cause).outcome plane after).2) := by
  rw [Procedure.outcome_bind, outcome_issue]
  rcases plane.answer (.request handle request) state with ⟨cause | reply, after⟩
  · rfl
  · exact Procedure.outcome_liftM plane after (Dialogue.report event)

@[simp] theorem outcome_noHandle (op : Operation) (dev : IfName) (cause : Errno) :
    (noHandle op dev cause).outcome plane state = (.handleAcquisition (.errno cause), state) := rfl

@[simp] theorem outcome_refusal (op : Operation) (dev : IfName) (cause : Errno) :
    (refusal op dev cause).outcome plane state =
      (.kernelOperation op dev.text (.errno cause), state) := rfl

end Control

theorem IfName.ofText_text (policy : NamePolicy) (name : IfName) :
    IfName.ofText policy name.text = .ok name := by
  simp [IfName.ofText, name.text_ne_empty, name.nul_not_mem, name.size_le]

end NetBridge
