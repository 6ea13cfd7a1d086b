import NetBridge.Proofs.Kernel.Counters
import NetBridge.Proofs.Kernel.Requests
import NetBridge.Proofs.Session

namespace NetBridge

structure Turn where
  move : Move
  outcome : move.Outcome
  steps : List Step

namespace Kernel

def turns : List Move → Kernel → List Turn
  | [], _ => []
  | move :: rest, kernel =>
    let course := kernel.play move
    ⟨move, course.value, course.steps⟩ :: turns rest course.state

end Kernel

def Call.request? : Call → Option Request
  | request _ asked => some asked
  | _ => none

def Step.request? : Step → Option Request
  | asked call _ => call.request?
  | logged _ => none

/-- The request that a move makes on the kernel itself. -/
def Move.request? : Move → Option Request
  | happen (.call call) => call.request?
  | _ => none

theorem filterMap_request?_cons (request? : α → Option Request) (first : α) (rest : List α) :
    (first :: rest).filterMap request? = (request? first).toList ++ rest.filterMap request? := by
  rw [List.filterMap_cons]
  cases request? first <;> rfl

namespace Kernel

theorem mutations_answer (kernel : Kernel) (call : Call) :
    (kernel.answer call).2.mutations =
      kernel.mutations + call.request?.toList.countP Request.mutates := by
  cases call with
  | acquire =>
    rcases kernel.acquire_cases with ⟨-, done⟩ | ⟨-, done⟩ <;>
      exact congrArg (·.2.mutations) done
  | release handle => rfl
  | request handle request => exact kernel.mutations_answerRequest request
  | nameToIndex name => rfl
  | indexToName index => rfl

theorem mutations_run (d : Dialogue α) (kernel : Kernel) :
    (d.run plane kernel).state.mutations = kernel.mutations +
      ((d.run plane kernel).steps.filterMap Step.request?).countP Request.mutates := by
  induction d generalizing kernel with
  | done value => rfl
  | log event next ih => exact ih kernel
  | ask call next ih =>
    show ((next (kernel.answer call).1).run plane (kernel.answer call).2).state.mutations = _ +
      ((_ :: ((next (kernel.answer call).1).run plane (kernel.answer call).2).steps).filterMap
        Step.request?).countP _
    rw [ih, mutations_answer, filterMap_request?_cons, List.countP_append, Nat.add_assoc]
    rfl

theorem mutations_incident (incident : Incident) (kernel : Kernel) :
    (incident.play kernel).2.mutations =
      kernel.mutations + (Move.happen incident).request?.toList.countP Request.mutates := by
  cases incident with
  | call asked => exact kernel.mutations_answer asked
  | addLink name => rfl
  | removeLink name =>
    show (kernel.removeLink name).mutations = kernel.mutations
    obtain ⟨left, -, removed⟩ := kernel.removeLink_eq name
    rw [removed]
  | vanishDuringListing name => rfl
  | refuseHandles refuse => rfl
  | isUp name => rfl

/-- Every request to change the table is counted once, whoever makes it. -/
theorem mutations_after (moves : List Move) (kernel : Kernel) :
    (kernel.after moves).mutations = kernel.mutations +
      (((turns moves kernel).flatMap Turn.steps).filterMap Step.request?).countP Request.mutates +
      (moves.filterMap Move.request?).countP Request.mutates := by
  induction moves generalizing kernel with
  | nil => rfl
  | cons move rest ih =>
    show ((kernel.play move).state.after rest).mutations = _
    rw [ih, turns, List.flatMap_cons, List.filterMap_append, List.countP_append,
      filterMap_request?_cons, List.countP_append]
    cases move with
    | operate policy intent =>
      have counted := mutations_run (ExceptT.run (intent.procedure policy)) kernel
      show ((ExceptT.run (intent.procedure policy)).run plane kernel).state.mutations + _ + _ = _
      rw [counted]
      simp only [Move.request?, play, Procedure.run, Option.toList_none, List.countP_nil]
      omega
    | happen incident =>
      show (incident.play kernel).2.mutations + _ + _ = _
      rw [mutations_incident]
      simp only [play, List.filterMap_nil, List.countP_nil]
      omega

end Kernel

end NetBridge
