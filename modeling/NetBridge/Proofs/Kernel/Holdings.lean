import NetBridge.Proofs.Custody
import NetBridge.Proofs.Kernel.Counters
import NetBridge.Proofs.Kernel.Requests

namespace NetBridge

/-- Whether a move is open to an environment that holds these handles. Requests are made on handles
held, and only these are given back. -/
def Move.Permitted (held : List Handle) : Move → Prop
  | happen (.call (.request handle _)) => handle ∈ held
  | happen (.call (.release handle)) => handle ∈ held
  | _ => True

def Move.holdings (kernel : Kernel) (held : List Handle) : Move → List Handle
  | happen (.call .acquire) => (Control.taken kernel.acquire.1).toList ++ held
  | happen (.call (.release handle)) => held.erase handle
  | _ => held

namespace Kernel

/-- The kernels that a session can lead to, with the handles that the environment then holds. -/
inductive Attended : Kernel → List Handle → Prop where
  | new : Attended .new []
  | move {kernel : Kernel} {held : List Handle} (before : Attended kernel held) (move : Move)
      (permitted : move.Permitted held) :
      Attended (kernel.play move).state (move.holdings kernel held)

theorem openHandles_acquire (kernel : Kernel) : kernel.acquire.2.openHandles =
    kernel.openHandles + (Control.taken kernel.acquire.1).toList.length := by
  rcases kernel.acquire_cases with ⟨-, done⟩ | ⟨-, done⟩ <;>
    rw [done] <;> rfl

/-- An allowed call opens a handle where it takes one and closes it where it gives one back. -/
theorem openHandles_answer {kernel : Kernel} {held last : Option Handle} {call : Call} {others : Nat}
    (allowed : Handover held (.asked call (kernel.answer call).1) last)
    (count : kernel.openHandles = others + held.toList.length) :
    (kernel.answer call).2.openHandles = others + last.toList.length := by
  cases call with
  | acquire =>
    have grown := kernel.openHandles_acquire
    simp only [answer] at allowed ⊢
    generalize kernel.acquire = granted at allowed grown ⊢
    obtain ⟨result, after⟩ := granted
    rw [grown, count]
    cases allowed <;> rfl
  | release handle =>
    cases allowed
    show kernel.openHandles - 1 = _
    rw [count]
    rfl
  | request handle request =>
    rw [answer, openHandles_answerRequest, count]
    cases allowed
    rfl
  | nameToIndex name =>
    cases allowed
    exact count
  | indexToName index =>
    cases allowed
    exact count

/-- Along allowed steps the handle held is open, beside those of others. -/
theorem openHandles_run (d : Dialogue α) {kernel : Kernel} {held last : Option Handle} {others : Nat}
    (custody : Custody held (d.run plane kernel).steps last)
    (count : kernel.openHandles = others + held.toList.length) :
    (d.run plane kernel).state.openHandles = others + last.toList.length := by
  induction d generalizing kernel held with
  | done value =>
    cases custody
    exact count
  | log event next ih =>
    obtain _ | ⟨first, later⟩ := custody
    cases first
    exact ih later count
  | ask call next ih =>
    obtain _ | ⟨first, later⟩ := custody
    exact ih _ later (openHandles_answer first count)

theorem openHandles_operate (policy : NamePolicy) (intent : Intent) (kernel : Kernel) :
    (kernel.play (.operate policy intent)).state.openHandles = kernel.openHandles :=
  openHandles_run _ (Intent.restores policy intent _ _ (Dialogue.plays_run _ _ _)) rfl

theorem openHandles_removeLink (kernel : Kernel) (name : String) :
    (kernel.removeLink name).openHandles = kernel.openHandles := by
  obtain ⟨left, -, removed⟩ := kernel.removeLink_eq name
  rw [removed]

theorem Attended.openHandles_eq {kernel : Kernel} {held : List Handle}
    (attended : Attended kernel held) : kernel.openHandles = held.length := by
  induction attended with
  | new => rfl
  | @move kernel held before move permitted ih =>
    cases move with
    | operate policy intent => exact (openHandles_operate policy intent kernel).trans ih
    | happen incident =>
      cases incident with
      | call asked =>
        show (kernel.answer asked).2.openHandles = _
        cases asked with
        | acquire =>
          show kernel.acquire.2.openHandles = _
          rw [openHandles_acquire, ih, Move.holdings, List.length_append, Nat.add_comm]
        | release handle =>
          show kernel.openHandles - 1 = _
          rw [ih, Move.holdings, List.length_erase_of_mem permitted]
        | request handle request => exact (kernel.openHandles_answerRequest request).trans ih
        | nameToIndex name => exact ih
        | indexToName index => exact ih
      | addLink name => exact ih
      | removeLink name => exact (kernel.openHandles_removeLink name).trans ih
      | vanishDuringListing name => exact ih
      | refuseHandles refuse => exact ih
      | isUp name => exact ih

end Kernel

/-- Whatever an operation is answered, it takes no second handle, makes its requests on the handle
it holds, resolves names with empty hands and has given the handle back when it ends. So the handles
open at a kernel are at any time those that its environment holds. -/
theorem handles_in_custody :
    (∀ (policy : NamePolicy) (intent : Intent) (steps : List Step)
        (result : Except Error intent.Result),
      Dialogue.Plays (ExceptT.run (intent.procedure policy)) steps result →
      Custody none steps none) ∧
    ∀ (kernel : Kernel) (held : List Handle), kernel.Attended held →
      kernel.openHandles = held.length :=
  ⟨Intent.restores, fun _ _ attended => attended.openHandles_eq⟩

/-- A creation that is refused gives its handle back, and the handle of another stays open. -/
theorem handles_in_custody_refused :
    Custody none
        ((Control.createBridge .truncate "lo").run Kernel.plane Kernel.new).steps none ∧
      (Kernel.new.after [.happen (.call .acquire),
        .operate .truncate (.createBridge "lo")]).openHandles = 1 := by
  obtain ⟨kept, counted⟩ := handles_in_custody
  refine ⟨kept .truncate (.createBridge "lo") _ _ (Dialogue.plays_run _ _ _), ?_⟩
  exact counted _ _ ((Kernel.Attended.new.move (.happen (.call .acquire)) trivial).move
    (.operate .truncate (.createBridge "lo")) trivial)

end NetBridge
