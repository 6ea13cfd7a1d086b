import NetBridge.Proofs.Kernel.Requests
import NetBridge.Proofs.Session

namespace NetBridge.Kernel

def Named (kernel : Kernel) : Prop := ∀ link ∈ kernel.links, ∃ name : IfName, name.text = link.name

namespace Named

variable {kernel : Kernel}

theorem new : Kernel.new.Named := by
  intro link member
  obtain rfl := List.mem_singleton.mp member
  exact ⟨⟨"lo", by decide, by decide, by decide⟩, rfl⟩

theorem congr {other : Kernel} (named : kernel.Named) (links : other.links = kernel.links) :
    other.Named := by
  rw [Named, links]
  exact named

theorem insert (named : kernel.Named) (name : IfName) (isBridge : Bool) :
    (kernel.insert name.text isBridge).Named := by
  intro link member
  rcases List.mem_append.mp member with old | fresh
  · exact named link old
  · obtain rfl := List.mem_singleton.mp fresh
    exact ⟨name, rfl⟩

theorem change (named : kernel.Named) {f : Link → Link} (keeps : Link.Keeps f) :
    (kernel.change f).Named := by
  intro link member
  obtain ⟨old, live, rfl⟩ := List.mem_map.mp member
  rw [keeps.name]
  exact named old live

theorem erase (named : kernel.Named) (index : Nat) : (kernel.erase index).Named :=
  fun link member => named link (List.mem_filter.mp member).1

theorem removeLink (named : kernel.Named) (name : String) : (kernel.removeLink name).Named := by
  obtain ⟨left, fewer, removed⟩ := kernel.removeLink_eq name
  rw [removed]
  exact fun link member => named link (fewer.subset member)

theorem vanish (named : kernel.Named) : kernel.vanish.Named := by
  obtain ⟨left, fewer, gone⟩ := kernel.vanish_eq
  rw [gone]
  exact fun link member => named link (fewer.subset member)

theorem mutate (named : kernel.Named) {request : Kernel → Except Errno Kernel}
    (kept : ∀ before after, before.Named → request before = .ok after → after.Named) :
    (kernel.mutate request).2.Named := by
  have counted : kernel.countMutation.Named := named.congr rfl
  rcases kernel.mutate_cases request with ⟨after, granted, done⟩ | ⟨cause, refused, done⟩
  · rw [done]
    exact kept _ after counted granted
  · rw [done]
    exact counted

theorem answerRequest (named : kernel.Named) (request : Request) :
    (kernel.answerRequest request).2.Named := by
  cases request with
  | addBridge name =>
    refine named.mutate fun before after named granted => ?_
    obtain ⟨-, rfl⟩ := addBridge_eq_ok_iff.mp granted
    exact named.insert name true
  | deleteBridge name =>
    refine named.mutate fun before after named granted => ?_
    obtain ⟨link, -, -, -, rfl⟩ := deleteBridge_eq_ok_iff.mp granted
    exact (named.erase link.index).change (.freed link.index)
  | addPort name port =>
    refine named.mutate fun before after named granted => ?_
    obtain ⟨bridge, link, -, -, -, -, -, rfl⟩ := addPort_eq_ok_iff.mp granted
    exact named.change ((Link.Keeps.attached _ _).only port.toNat)
  | deletePort name port =>
    refine named.mutate fun before after named granted => ?_
    obtain ⟨bridge, link, -, -, -, -, rfl⟩ := deletePort_eq_ok_iff.mp granted
    exact named.change (Link.Keeps.detached.only port.toNat)
  | bridgeIndices capacity => exact named.vanish
  | portIndices name capacity =>
    rcases kernel.portIndices_cases name capacity with ⟨_, -, done⟩ | ⟨_, -, done⟩
    · rw [done]
      exact named.vanish
    · rw [done]
      exact named
  | linkFlags name => exact named
  | setLinkFlags name flags =>
    refine named.mutate fun before after named granted => ?_
    obtain ⟨link, -, rfl⟩ := setLinkFlags_eq_ok_iff.mp granted
    exact named.change ((Link.Keeps.flagged flags).only link.index)

theorem acquire (named : kernel.Named) : kernel.acquire.2.Named := by
  rcases kernel.acquire_cases with ⟨-, done⟩ | ⟨-, done⟩
  · rw [done]
    exact named.congr rfl
  · rw [done]
    exact named

theorem answer (named : kernel.Named) (call : Call) : (kernel.answer call).2.Named := by
  cases call with
  | acquire => exact named.acquire
  | release handle => exact named.congr rfl
  | request handle request => exact named.answerRequest request
  | nameToIndex name => exact named
  | indexToName index => exact named

/-- Links that are added from outside must bring a name of an interface. -/
theorem play (named : kernel.Named) (incident : Incident)
    (nameable : ∀ text, incident = .addLink text → ∃ name : IfName, name.text = text) :
    (incident.play kernel).2.Named := by
  cases incident with
  | call asked => exact named.answer asked
  | addLink text =>
    obtain ⟨name, rfl⟩ := nameable text rfl
    exact named.insert name false
  | removeLink text => exact named.removeLink text
  | vanishDuringListing text => exact named.congr rfl
  | refuseHandles refuse => exact named.congr rfl
  | isUp text => exact named

theorem indexToName (named : kernel.Named) {index : IfIndex} {text : String}
    (found : kernel.indexToName index = some text) : ∃ name : IfName, name.text = text := by
  obtain ⟨link, located, rfl⟩ := Option.map_eq_some_iff.mp found
  exact named link (mem_of_get? located)

end Named

theorem mutate_ne_interrupted (kernel : Kernel) {request : Kernel → Except Errno Kernel}
    (never : ∀ before : Kernel, request before ≠ .error .EINTR) :
    (kernel.mutate request).1 ≠ .error .EINTR := by
  rcases kernel.mutate_cases request with ⟨after, granted, done⟩ | ⟨cause, refused, done⟩
  · rw [done]
    exact nofun
  · rw [done]
    intro same
    exact never _ (Except.error.inj same ▸ refused)

theorem bridge_ne_interrupted (kernel : Kernel) (name : String) :
    kernel.bridge name ≠ .error .EINTR := by
  unfold bridge
  split
  · exact nofun
  · split <;> exact nofun

theorem bridge_bind_ne_interrupted {β : Type} (kernel : Kernel) (name : String)
    {next : Link → Except Errno β} (never : ∀ bridge, next bridge ≠ .error .EINTR) :
    kernel.bridge name >>= next ≠ .error .EINTR := by
  cases opened : kernel.bridge name with
  | error cause =>
    intro same
    exact kernel.bridge_ne_interrupted name (opened.trans (congrArg _ (Except.error.inj same)))
  | ok bridge => exact never bridge

/-- The kernel refuses requests, but never by an interruption. -/
theorem answerRequest_ne_interrupted (kernel : Kernel) (request : Request) :
    (kernel.answerRequest request).1 ≠ .error .EINTR := by
  cases request with
  | addBridge name =>
    refine kernel.mutate_ne_interrupted fun before => ?_
    unfold addBridge
    split <;> exact nofun
  | deleteBridge name =>
    refine kernel.mutate_ne_interrupted fun before => ?_
    unfold deleteBridge
    split
    · exact nofun
    · split
      · exact nofun
      · split <;> exact nofun
  | addPort name port =>
    refine kernel.mutate_ne_interrupted fun before => ?_
    refine before.bridge_bind_ne_interrupted _ fun bridge => ?_
    by_cases loop : bridge.index = port.toNat
    · rw [if_pos loop]
      exact nofun
    · rw [if_neg loop, Bind.bind]
      split
      · exact nofun
      · split <;> exact nofun
  | deletePort name port =>
    refine kernel.mutate_ne_interrupted fun before => ?_
    refine before.bridge_bind_ne_interrupted _ fun bridge => ?_
    split
    · exact nofun
    · split <;> exact nofun
  | bridgeIndices capacity => exact nofun
  | portIndices name capacity =>
    rcases kernel.portIndices_cases name capacity with ⟨_, -, done⟩ | ⟨cause, refused, done⟩
    · rw [done]
      exact nofun
    · rw [done]
      intro same
      exact kernel.bridge_ne_interrupted name.text
        (refused.trans (congrArg _ (Except.error.inj same)))
  | linkFlags name =>
    show kernel.linkFlags name.text ≠ .error .EINTR
    unfold linkFlags
    split <;> exact nofun
  | setLinkFlags name flags =>
    refine kernel.mutate_ne_interrupted fun before => ?_
    unfold setLinkFlags
    split <;> exact nofun

end NetBridge.Kernel
