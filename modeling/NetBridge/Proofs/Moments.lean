import NetBridge.Proofs.Session

namespace NetBridge

namespace Dialogue

/-- The states of a dialogue from its start to its end, one more with each answer. -/
def moments (plane : ControlPlane σ) : Dialogue α → σ → List σ
  | done _, state => [state]
  | log _ next, state => next.moments plane state
  | ask call next, state =>
    let (answer, after) := plane.answer call state
    state :: (next answer).moments plane after

variable {plane : ControlPlane σ}

theorem mem_moments_start (d : Dialogue α) (state : σ) : state ∈ d.moments plane state := by
  induction d with
  | done value => exact List.mem_singleton_self state
  | log event next ih => exact ih
  | ask call next ih => exact List.mem_cons_self ..

/-- What every answer keeps that leaves an allowed state holds at the end of a dialogue whose states
are all allowed. -/
theorem holds_of_moments {holds allowed : σ → Prop}
    (kept : ∀ call state, holds state → allowed (plane.answer call state).2 →
      holds (plane.answer call state).2)
    (d : Dialogue α) {state : σ} (initial : holds state)
    (always : ∀ moment ∈ d.moments plane state, allowed moment) :
    holds (d.run plane state).state := by
  induction d generalizing state with
  | done value => exact initial
  | log event next ih => exact ih initial always
  | ask call next ih =>
    have later := (List.forall_mem_cons.mp always).2
    exact ih _ (kept call state initial (later _ (mem_moments_start _ _))) later

theorem forall_mem_moments {holds : σ → Prop}
    (kept : ∀ call state, holds state → holds (plane.answer call state).2)
    (d : Dialogue α) {state : σ} (initial : holds state) :
    ∀ moment ∈ d.moments plane state, holds moment := by
  induction d generalizing state with
  | done value => exact List.forall_mem_singleton.mpr initial
  | log event next ih => exact ih initial
  | ask call next ih => exact List.forall_mem_cons.mpr ⟨initial, ih _ (kept call state initial)⟩

end Dialogue

namespace Kernel

def momentsOf : Move → Kernel → List Kernel
  | .operate policy intent, kernel =>
    (ExceptT.run (intent.procedure policy)).moments plane kernel
  | .happen incident, kernel => [kernel, (incident.play kernel).2]

def moments : List Move → Kernel → List Kernel
  | [], kernel => [kernel]
  | move :: rest, kernel => momentsOf move kernel ++ moments rest (kernel.play move).state

theorem mem_moments_after (moves : List Move) (kernel : Kernel) :
    kernel.after moves ∈ moments moves kernel := by
  induction moves generalizing kernel with
  | nil => exact List.mem_singleton_self kernel
  | cons move rest ih => exact List.mem_append_right _ (ih (kernel.play move).state)

/-- What every incident keeps that leaves an allowed kernel holds after a session whose states are
all allowed. -/
theorem holds_after {holds allowed : Kernel → Prop}
    (kept : ∀ (incident : Incident) (kernel : Kernel), holds kernel →
      allowed (incident.play kernel).2 → holds (incident.play kernel).2)
    (moves : List Move) {kernel : Kernel} (initial : holds kernel)
    (always : ∀ moment ∈ moments moves kernel, allowed moment) : holds (kernel.after moves) := by
  induction moves generalizing kernel with
  | nil => exact initial
  | cons move rest ih =>
    obtain ⟨meanwhile, later⟩ := List.forall_mem_append.mp always
    refine ih ?_ later
    cases move with
    | operate policy intent =>
      exact Dialogue.holds_of_moments (fun call state => kept (.call call) state) _ initial meanwhile
    | happen incident =>
      refine kept incident kernel initial (meanwhile _ ?_)
      exact List.mem_cons_of_mem _ (List.mem_singleton_self _)

theorem forall_mem_moments {holds : Kernel → Prop}
    (kept : ∀ (incident : Incident) (kernel : Kernel), holds kernel →
      holds (incident.play kernel).2)
    (moves : List Move) {kernel : Kernel} (initial : holds kernel) :
    ∀ moment ∈ moments moves kernel, holds moment := by
  have answered (call : Call) (kernel : Kernel) (before : holds kernel) :
      holds (plane.answer call kernel).2 := kept (.call call) kernel before
  induction moves generalizing kernel with
  | nil => exact List.forall_mem_singleton.mpr initial
  | cons move rest ih =>
    refine List.forall_mem_append.mpr ?_
    cases move with
    | operate policy intent =>
      exact ⟨Dialogue.forall_mem_moments answered _ initial,
        ih (Procedure.outcome_preserves answered (intent.procedure policy) initial)⟩
    | happen incident =>
      have played := kept incident kernel initial
      exact ⟨List.forall_mem_cons.mpr ⟨initial, List.forall_mem_singleton.mpr played⟩, ih played⟩

end Kernel

end NetBridge
