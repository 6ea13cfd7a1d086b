import NetBridge.ControlPlane
import NetBridge.Log.Event

/-!
Dialogues with a control plane. A dialogue asks calls, logs events and ends with a value; it is
the same text whatever control plane answers it. `run` plays it against one control plane, and
`Plays` says which courses it can take when every call may be answered in any way. The main
statement is that a run is one of these courses.
-/
namespace NetBridge

/-- A finite dialogue ending with a value of type `α`. -/
inductive Dialogue (α : Type) where
  | done (value : α)
  | log (event : Event) (next : Dialogue α)
  | ask (call : Call) (next : call.Answer → Dialogue α)

/-- One step of a course: a call with its answer, or an event. -/
inductive Step where
  | asked (call : Call) (answer : call.Answer)
  | logged (event : Event)

namespace Step

def call? : Step → Option Call
  | asked call _ => some call
  | logged _ => none

def event? : Step → Option Event
  | asked _ _ => none
  | logged event => some event

end Step

structure Course (σ α : Type) where
  value : α
  state : σ
  steps : List Step

namespace Course

variable {σ α : Type}

def calls (course : Course σ α) : List Call := course.steps.filterMap Step.call?

def events (course : Course σ α) : List Event := course.steps.filterMap Step.event?

end Course

namespace Dialogue

variable {α β γ σ : Type}

def bind : Dialogue α → (α → Dialogue β) → Dialogue β
  | done value, k => k value
  | log event next, k => log event (next.bind k)
  | ask call next, k => ask call fun answer => (next answer).bind k

instance : Monad Dialogue where
  pure := done
  bind := bind

@[simp] theorem pure_eq (value : α) : (pure value : Dialogue α) = done value := rfl
@[simp] theorem done_bind (value : α) (k : α → Dialogue β) : done value >>= k = k value := rfl
@[simp] theorem log_bind (event : Event) (next : Dialogue α) (k : α → Dialogue β) :
    log event next >>= k = log event (next >>= k) := rfl
@[simp] theorem ask_bind (call : Call) (next : call.Answer → Dialogue α) (k : α → Dialogue β) :
    ask call next >>= k = ask call fun answer => next answer >>= k := rfl

private theorem dialogue_bind_done (d : Dialogue α) : d >>= done = d := by
  induction d with
  | done value => rfl
  | log event next ih => rw [log_bind, ih]
  | ask call next ih => rw [ask_bind]; exact congrArg _ (funext ih)

private theorem dialogue_bind_assoc (d : Dialogue α) (f : α → Dialogue β) (g : β → Dialogue γ) :
    d >>= f >>= g = d >>= fun value => f value >>= g := by
  induction d with
  | done value => rfl
  | log event next ih => rw [log_bind, log_bind, log_bind, ih]
  | ask call next ih => rw [ask_bind, ask_bind, ask_bind]; exact congrArg _ (funext ih)

instance : LawfulMonad Dialogue :=
  LawfulMonad.mk' Dialogue dialogue_bind_done (fun _ _ => rfl) dialogue_bind_assoc

def report (event : Event) : Dialogue Unit := log event (done ())

def reportAll : List Event → Dialogue Unit
  | [] => done ()
  | event :: rest => log event (reportAll rest)

def query (call : Call) : Dialogue call.Answer := ask call done

/-- Plays a dialogue against a control plane. -/
def run (plane : ControlPlane σ) : Dialogue α → σ → Course σ α
  | done value, state => ⟨value, state, []⟩
  | log event next, state =>
    let rest := next.run plane state
    { rest with steps := .logged event :: rest.steps }
  | ask call next, state =>
    let (answer, after) := plane.answer call state
    let rest := (next answer).run plane after
    { rest with steps := .asked call answer :: rest.steps }

/-- The courses a dialogue can take when each call may be answered in any way. -/
inductive Plays : Dialogue α → List Step → α → Prop where
  | done (value : α) : Plays (done value) [] value
  | log {event : Event} {next : Dialogue α} {steps : List Step} {value : α}
      (rest : Plays next steps value) : Plays (log event next) (.logged event :: steps) value
  | ask {call : Call} {next : call.Answer → Dialogue α} {steps : List Step} {value : α}
      (answer : call.Answer) (rest : Plays (next answer) steps value) :
      Plays (ask call next) (.asked call answer :: steps) value

/-- A run takes one of the possible courses. -/
theorem plays_run (plane : ControlPlane σ) (d : Dialogue α) (state : σ) :
    Plays d (d.run plane state).steps (d.run plane state).value := by
  induction d generalizing state with
  | done value => exact .done value
  | log event next ih => exact .log (ih state)
  | ask call next ih => exact .ask _ (ih _ _)

theorem run_bind (plane : ControlPlane σ) (d : Dialogue α) (k : α → Dialogue β) (state : σ) :
    (d >>= k).run plane state =
      let first := d.run plane state
      let rest := (k first.value).run plane first.state
      ⟨rest.value, rest.state, first.steps ++ rest.steps⟩ := by
  induction d generalizing state with
  | done value => rfl
  | log event next ih => simp only [log_bind, run, ih, List.cons_append]
  | ask call next ih => simp only [ask_bind, run, ih, List.cons_append]

end Dialogue

/-- A dialogue that may end in an error. -/
abbrev Procedure := ExceptT Error Dialogue

def Procedure.run {σ α : Type} (plane : ControlPlane σ) (p : Procedure α) (state : σ) :
    Course σ (Except Error α) :=
  Dialogue.run plane (ExceptT.run p) state

end NetBridge
