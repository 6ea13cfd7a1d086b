import NetBridge.Proofs.Kernel.Requests

namespace NetBridge.Kernel

def recount (kernel : Kernel) (openHandles acquired mutations : Nat) : Kernel :=
  { kernel with openHandles, acquired, mutations }

/-- The same kernel after so many handles were granted and given back, and so many requests to
change the table were counted. -/
def tally (kernel : Kernel) (handles requests : Nat) : Kernel :=
  { kernel with
    acquired := kernel.acquired + handles
    mutations := kernel.mutations + requests }

section Tally

variable (kernel : Kernel) (handles requests : Nat)

@[simp] theorem links_tally : (kernel.tally handles requests).links = kernel.links := rfl
@[simp] theorem lastIndex_tally : (kernel.tally handles requests).lastIndex = kernel.lastIndex := rfl
@[simp] theorem vanishing_tally : (kernel.tally handles requests).vanishing = kernel.vanishing := rfl
@[simp] theorem refusesHandles_tally :
    (kernel.tally handles requests).refusesHandles = kernel.refusesHandles := rfl
@[simp] theorem openHandles_tally :
    (kernel.tally handles requests).openHandles = kernel.openHandles := rfl
@[simp] theorem find?_tally (name : String) :
    (kernel.tally handles requests).find? name = kernel.find? name := rfl
@[simp] theorem get?_tally (index : Nat) :
    (kernel.tally handles requests).get? index = kernel.get? index := rfl
@[simp] theorem bridges_tally :
    (kernel.tally handles requests).bridges = kernel.bridges := rfl
@[simp] theorem tally_zero : kernel.tally 0 0 = kernel := rfl

@[simp] theorem tally_tally (more further : Nat) :
    (kernel.tally handles requests).tally more further =
      kernel.tally (handles + more) (requests + further) := by
  simp only [tally, Nat.add_assoc]

end Tally

/-- A request that neither reads nor writes the counters. -/
def Blind (request : Kernel → Except Errno Kernel) : Prop :=
  ∀ (kernel : Kernel) (openHandles acquired mutations : Nat),
    request (kernel.recount openHandles acquired mutations) =
      (request kernel).map (·.recount openHandles acquired mutations)

theorem find?_recount (kernel : Kernel) (openHandles acquired mutations : Nat) (name : String) :
    (kernel.recount openHandles acquired mutations).find? name = kernel.find? name := rfl

theorem get?_recount (kernel : Kernel) (openHandles acquired mutations index : Nat) :
    (kernel.recount openHandles acquired mutations).get? index = kernel.get? index := rfl

theorem bridge_recount (kernel : Kernel) (openHandles acquired mutations : Nat) (name : String) :
    (kernel.recount openHandles acquired mutations).bridge name = kernel.bridge name := rfl

theorem find?_countMutation (kernel : Kernel) (name : String) :
    kernel.countMutation.find? name = kernel.find? name := rfl

theorem vanish_recount (kernel : Kernel) (openHandles acquired mutations : Nat) :
    (kernel.recount openHandles acquired mutations).vanish =
      kernel.vanish.recount openHandles acquired mutations := by
  have dropped (names : List String) (kernel : Kernel) :
      names.foldl removeLink (kernel.recount openHandles acquired mutations) =
        (names.foldl removeLink kernel).recount openHandles acquired mutations := by
    induction names generalizing kernel with
    | nil => rfl
    | cons name rest ih =>
      have removed : (kernel.recount openHandles acquired mutations).removeLink name =
          (kernel.removeLink name).recount openHandles acquired mutations := by
        simp only [removeLink, find?_recount]
        cases kernel.find? name <;> rfl
      rw [List.foldl_cons, removed, ih, List.foldl_cons]
  simp only [vanish]
  rw [show (kernel.recount openHandles acquired mutations).vanishing = kernel.vanishing from rfl,
    dropped]
  rfl

theorem recount_vanish (kernel : Kernel) :
    kernel.vanish.recount kernel.openHandles kernel.acquired kernel.mutations = kernel.vanish :=
  (vanish_recount kernel kernel.openHandles kernel.acquired kernel.mutations).symm

namespace Blind

theorem addBridge (name : String) : Blind (·.addBridge name) := by
  intro kernel openHandles acquired mutations
  simp only [Kernel.addBridge, find?_recount]
  cases kernel.find? name <;> rfl

theorem deleteBridge (name : String) : Blind (·.deleteBridge name) := by
  intro kernel openHandles acquired mutations
  simp only [Kernel.deleteBridge, find?_recount]
  cases kernel.find? name with
  | none => rfl
  | some link =>
    dsimp only
    split
    · rfl
    · split <;> rfl

theorem addPort (name : String) (port : Nat) : Blind (·.addPort name port) := by
  intro kernel openHandles acquired mutations
  simp only [Kernel.addPort, bridge_recount, get?_recount]
  cases kernel.bridge name with
  | error cause => rfl
  | ok br =>
    by_cases loop : br.index = port
    · simp only [bind, Except.bind, loop, if_true]
      rfl
    · simp only [bind, Except.bind, loop, if_false]
      cases kernel.get? port with
      | none => rfl
      | some link =>
        dsimp only
        split <;> rfl

theorem deletePort (name : String) (port : Nat) : Blind (·.deletePort name port) := by
  intro kernel openHandles acquired mutations
  simp only [Kernel.deletePort, bridge_recount, get?_recount]
  cases kernel.bridge name with
  | error cause => rfl
  | ok br =>
    cases kernel.get? port with
    | none => rfl
    | some link =>
      dsimp only [bind, Except.bind]
      split <;> rfl

theorem setLinkFlags (name : String) (flags : LinkFlags) : Blind (·.setLinkFlags name flags) := by
  intro kernel openHandles acquired mutations
  simp only [Kernel.setLinkFlags, find?_recount]
  cases kernel.find? name <;> rfl

theorem recount_eq {request : Kernel → Except Errno Kernel} (blind : Blind request)
    {kernel after : Kernel} (granted : request kernel = .ok after) :
    after.recount kernel.openHandles kernel.acquired kernel.mutations = after := by
  have same := blind kernel kernel.openHandles kernel.acquired kernel.mutations
  rw [show kernel.recount kernel.openHandles kernel.acquired kernel.mutations = kernel from rfl,
    granted] at same
  exact (Except.ok.inj same).symm

end Blind

theorem recount_mutate (kernel : Kernel) {request : Kernel → Except Errno Kernel}
    (blind : Blind request) :
    (kernel.mutate request).2.recount kernel.openHandles kernel.acquired (kernel.mutations + 1) =
      (kernel.mutate request).2 := by
  rcases kernel.mutate_cases request with ⟨after, granted, done⟩ | ⟨cause, refused, done⟩
  · rw [done]
    exact blind.recount_eq granted
  · rw [done]
    rfl

/-- A request is counted if it changes the table when granted, and is counted even if refused. -/
theorem recount_answerRequest (kernel : Kernel) (request : Request) :
    (kernel.answerRequest request).2.recount kernel.openHandles kernel.acquired
        (kernel.mutations + [request].countP Request.mutates) =
      (kernel.answerRequest request).2 := by
  cases request with
  | addBridge name => exact kernel.recount_mutate (.addBridge name.text)
  | deleteBridge name => exact kernel.recount_mutate (.deleteBridge name.text)
  | addPort name port => exact kernel.recount_mutate (.addPort name.text port.toNat)
  | deletePort name port => exact kernel.recount_mutate (.deletePort name.text port.toNat)
  | bridgeIndices capacity => exact kernel.recount_vanish
  | portIndices name capacity =>
    rcases kernel.portIndices_cases name capacity with ⟨_, -, done⟩ | ⟨_, -, done⟩
    · rw [done]
      exact kernel.recount_vanish
    · rw [done]
      rfl
  | linkFlags name => rfl
  | setLinkFlags name flags => exact kernel.recount_mutate (.setLinkFlags name.text flags)

theorem mutations_answerRequest (kernel : Kernel) (request : Request) :
    (kernel.answerRequest request).2.mutations =
      kernel.mutations + [request].countP Request.mutates :=
  (congrArg mutations (kernel.recount_answerRequest request)).symm

theorem openHandles_answerRequest (kernel : Kernel) (request : Request) :
    (kernel.answerRequest request).2.openHandles = kernel.openHandles :=
  (congrArg openHandles (kernel.recount_answerRequest request)).symm

end NetBridge.Kernel
