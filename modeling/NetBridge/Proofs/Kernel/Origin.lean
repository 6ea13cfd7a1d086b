import NetBridge.Proofs.Kernel.Invariant

namespace NetBridge.Kernel

/-- Where a link of the table `after` comes from, when one thing happened to `before`. -/
inductive Origin (before after : Kernel) : Link → Prop where
  /-- It was there, and at most its flags have changed. -/
  | kept {old : Link} (member : old ∈ before.links) (flags : LinkFlags) :
      Origin before after { old with flags := flags }
  /-- A live bridge has let it go. -/
  | freed {old bridge : Link} (member : old ∈ before.links) (live : bridge ∈ before.links)
      (kind : bridge.isBridge = true) (owned : old.master = some bridge.index) :
      Origin before after old.detached
  /-- It belonged to no bridge and became a port of a live one. -/
  | attached {old bridge : Link} (member : old ∈ before.links) (free : old.master = none)
      (live : bridge ∈ before.links) (kind : bridge.isBridge = true)
      (done : after.links = (before.modify old.index
        (Link.attached · bridge.index (before.freeNumber bridge.index))).links) :
      Origin before after (old.attached bridge.index (before.freeNumber bridge.index))
  | created (name : IfName) (free : before.find? name.text = none) :
      Origin before after (.fresh (before.lastIndex + 1) name.text true)
  | added (name : String) : Origin before after (.fresh (before.lastIndex + 1) name false)

variable {kernel after : Kernel} {link : Link}

theorem Origin.same (member : link ∈ kernel.links) : Origin kernel after link :=
  .kept member link.flags

theorem links_removeLink_subset (kernel : Kernel) (name : String) :
    (kernel.removeLink name).links ⊆ kernel.links := by
  obtain ⟨left, fewer, removed⟩ := kernel.removeLink_eq name
  rw [removed]
  exact fewer.subset

theorem links_vanish_subset (kernel : Kernel) : kernel.vanish.links ⊆ kernel.links := by
  obtain ⟨left, fewer, gone⟩ := kernel.vanish_eq
  rw [gone]
  exact fewer.subset

/-- A link of the table after a change of one link is that link, changed, or an untouched one. -/
theorem WellFormed.mem_modify (valid : kernel.WellFormed) {target : Link} {f : Link → Link}
    (live : target ∈ kernel.links) (member : link ∈ (kernel.modify target.index f).links) :
    link = f target ∨ link ∈ kernel.links := by
  obtain ⟨old, present, rfl⟩ := List.mem_map.mp member
  by_cases same : old.index = target.index
  · obtain rfl := valid.eq_of_index present live same
    exact .inl (if_pos rfl)
  · exact .inr (by rwa [if_neg same])

theorem origin_deleteBridge {bridge : Link} (live : bridge ∈ kernel.links)
    (kind : bridge.isBridge = true)
    (member : link ∈ ((kernel.erase bridge.index).detachAll bridge.index).links) :
    Origin kernel after link := by
  obtain ⟨old, left, rfl⟩ := List.mem_map.mp member
  have present := (List.mem_filter.mp left).1
  by_cases owned : old.master = some bridge.index
  · rw [if_pos owned]
    exact .freed present live kind owned
  · rw [if_neg owned]
    exact .same present

theorem origin_mutate {request : Kernel → Except Errno Kernel}
    (each : ∀ after, request kernel.countMutation = .ok after → ∀ link ∈ after.links,
      Origin kernel after link)
    (member : link ∈ (kernel.mutate request).2.links) :
    Origin kernel (kernel.mutate request).2 link := by
  rcases kernel.mutate_cases request with ⟨after, granted, done⟩ | ⟨cause, refused, done⟩
  · rw [done] at member ⊢
    exact each after granted link member
  · rw [done] at member
    exact .same member

theorem WellFormed.origin_answerRequest (valid : kernel.WellFormed) (request : Request)
    (member : link ∈ (kernel.answerRequest request).2.links) :
    Origin kernel (kernel.answerRequest request).2 link := by
  cases request with
  | addBridge name =>
    refine origin_mutate (fun after granted link member => ?_) member
    obtain ⟨free, rfl⟩ := addBridge_eq_ok_iff.mp granted
    rcases List.mem_append.mp member with old | new
    · exact .same old
    · exact List.mem_singleton.mp new ▸ .created name free
  | deleteBridge name =>
    refine origin_mutate (fun after granted link member => ?_) member
    obtain ⟨bridge, found, kind, -, rfl⟩ := deleteBridge_eq_ok_iff.mp granted
    exact origin_deleteBridge (mem_of_find? found) kind member
  | addPort name port =>
    refine origin_mutate (fun after granted link member => ?_) member
    obtain ⟨bridge, target, found, kind, -, located, free, rfl⟩ := addPort_eq_ok_iff.mp granted
    rw [← index_of_get? located] at member ⊢
    rcases valid.mem_modify (mem_of_get? located) member with rfl | old
    · exact .attached (mem_of_get? located) free (mem_of_find? found) kind rfl
    · exact .same old
  | deletePort name port =>
    refine origin_mutate (fun after granted link member => ?_) member
    obtain ⟨bridge, target, found, kind, located, owned, rfl⟩ := deletePort_eq_ok_iff.mp granted
    rw [← index_of_get? located] at member ⊢
    rcases valid.mem_modify (mem_of_get? located) member with rfl | old
    · exact .freed (mem_of_get? located) (mem_of_find? found) kind owned
    · exact .same old
  | bridgeIndices capacity => exact .same (links_vanish_subset kernel member)
  | portIndices name capacity =>
    rcases kernel.portIndices_cases name capacity with ⟨_, -, done⟩ | ⟨_, -, done⟩
    · rw [done] at member
      exact .same (links_vanish_subset kernel member)
    · rw [done] at member
      exact .same member
  | linkFlags name => exact .same member
  | setLinkFlags name flags =>
    refine origin_mutate (fun after granted link member => ?_) member
    obtain ⟨target, found, rfl⟩ := setLinkFlags_eq_ok_iff.mp granted
    rcases valid.mem_modify (mem_of_find? found) member with rfl | old
    · exact @Origin.kept kernel _ target (mem_of_find? found) flags
    · exact .same old

theorem WellFormed.origin_answer (valid : kernel.WellFormed) (call : Call)
    (member : link ∈ (kernel.answer call).2.links) : Origin kernel (kernel.answer call).2 link := by
  cases call with
  | acquire =>
    refine .same (?_ : link ∈ kernel.links)
    rcases kernel.acquire_cases with ⟨-, done⟩ | ⟨-, done⟩
    · exact (congrArg (link ∈ ·.2.links) done).mp member
    · exact (congrArg (link ∈ ·.2.links) done).mp member
  | release handle => exact .same member
  | request handle request => exact valid.origin_answerRequest request member
  | nameToIndex name => exact .same member
  | indexToName index => exact .same member

/-- Every link has an origin in the table before, whatever happened. -/
theorem WellFormed.origin_play (valid : kernel.WellFormed) (incident : Incident)
    (member : link ∈ (incident.play kernel).2.links) :
    Origin kernel (incident.play kernel).2 link := by
  cases incident with
  | call asked => exact valid.origin_answer asked member
  | addLink name =>
    rcases List.mem_append.mp member with old | new
    · exact .same old
    · exact List.mem_singleton.mp new ▸ .added name
  | removeLink name => exact .same (links_removeLink_subset kernel name member)
  | vanishDuringListing name => exact .same member
  | refuseHandles refuse => exact .same member
  | isUp name => exact .same member

/-- Every bridge carries the name of an interface, as no plain link need. -/
def BridgesNamed (kernel : Kernel) : Prop :=
  ∀ bridge ∈ kernel.links, bridge.isBridge = true → ∃ name : IfName, name.text = bridge.name

/-- A bridge is created under the name of an interface, and no link ever changes its name. -/
theorem BridgesNamed.play (named : kernel.BridgesNamed) (valid : kernel.WellFormed)
    (incident : Incident) : (incident.play kernel).2.BridgesNamed := by
  intro bridge live kind
  cases valid.origin_play incident live with
  | kept member flags => exact (named _ member kind :)
  | freed member => exact (named _ member kind :)
  | attached member => exact (named _ member kind :)
  | created name free => exact ⟨name, rfl⟩
  | added name => cases kind

theorem Reachable.bridgesNamed (reached : kernel.Reachable) : kernel.BridgesNamed := by
  have initial : Kernel.new.BridgesNamed := by
    intro bridge live kind
    obtain rfl := List.mem_singleton.mp live
    cases kind
  have kept (incident : Incident) (kernel : Kernel)
      (before : kernel.WellFormed ∧ kernel.BridgesNamed) :
      (incident.play kernel).2.WellFormed ∧ (incident.play kernel).2.BridgesNamed :=
    ⟨before.1.play incident, before.2.play before.1 incident⟩
  exact (reached.invariant ⟨.new, initial⟩ kept).2

end NetBridge.Kernel
