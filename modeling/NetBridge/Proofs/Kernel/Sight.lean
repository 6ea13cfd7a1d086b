import NetBridge.Proofs.Kernel.Listing

namespace NetBridge.Kernel

open Control

/-- The listing shows a bridge of this name. -/
def ShowsBridge (kernel : Kernel) (name : String) : Prop :=
  ∃ bridge ∈ kernel.shownBridges, bridge.name = name

def ShowsPort (kernel : Kernel) (name iface : String) : Prop :=
  ∃ bridge ∈ kernel.shownBridges, bridge.name = name ∧
    ∃ port ∈ kernel.links, port.master = some bridge.index ∧ port.portNo < enumSlots ∧
      port.name = iface

def ShowsUp (kernel : Kernel) (name : String) : Prop :=
  ∃ bridge ∈ kernel.shownBridges, bridge.name = name ∧ bridge.flags.isUp = true

instance (kernel : Kernel) (name : String) : Decidable (kernel.ShowsBridge name) :=
  inferInstanceAs (Decidable (∃ bridge ∈ kernel.shownBridges, bridge.name = name))

instance (kernel : Kernel) (name iface : String) : Decidable (kernel.ShowsPort name iface) :=
  inferInstanceAs (Decidable (∃ bridge ∈ kernel.shownBridges, bridge.name = name ∧
    ∃ port ∈ kernel.links, port.master = some bridge.index ∧ port.portNo < enumSlots ∧
      port.name = iface))

instance (kernel : Kernel) (name : String) : Decidable (kernel.ShowsUp name) :=
  inferInstanceAs
    (Decidable (∃ bridge ∈ kernel.shownBridges, bridge.name = name ∧ bridge.flags.isUp = true))

/-- Nothing is beyond the capacity of an enumeration. -/
structure InView (kernel : Kernel) : Prop where
  bridges : kernel.bridges.length ≤ enumSlots
  ports : ∀ link ∈ kernel.links, link.portNo < enumSlots

section Sight

variable {kernel : Kernel} {name iface : String}

theorem ShowsPort.bridge (shown : kernel.ShowsPort name iface) : kernel.ShowsBridge name := by
  obtain ⟨bridge, member, named, -⟩ := shown
  exact ⟨bridge, member, named⟩

theorem ShowsUp.bridge (shown : kernel.ShowsUp name) : kernel.ShowsBridge name := by
  obtain ⟨bridge, member, named, -⟩ := shown
  exact ⟨bridge, member, named⟩

/-- A bridge that is shown is the link its name is looked up to. -/
theorem ShowsBridge.found (shown : kernel.ShowsBridge name) (valid : kernel.WellFormed) :
    ∃ bridge ∈ kernel.shownBridges, bridge.name = name ∧ kernel.find? name = some bridge ∧
      bridge.isBridge = true := by
  obtain ⟨bridge, member, rfl⟩ := shown
  obtain ⟨live, kind⟩ := mem_of_mem_shownBridges member
  exact ⟨bridge, member, rfl, valid.find?_bridge bridge live kind, kind⟩

theorem WellFormed.eq_of_shown (valid : kernel.WellFormed) {a b : Link}
    (shownA : a ∈ kernel.shownBridges) (shownB : b ∈ kernel.shownBridges) (same : a.name = b.name) :
    a = b := by
  obtain ⟨liveA, kindA⟩ := mem_of_mem_shownBridges shownA
  obtain ⟨liveB, kindB⟩ := mem_of_mem_shownBridges shownB
  exact valid.bridge_unique liveA liveB kindA kindB same

theorem WellFormed.showsPort_iff (valid : kernel.WellFormed) {bridge : Link}
    (shown : bridge ∈ kernel.shownBridges) :
    kernel.ShowsPort bridge.name iface ↔ iface ∈ kernel.shownPorts bridge.index := by
  rw [valid.mem_shownPorts]
  constructor
  · rintro ⟨other, listed, same, attached⟩
    exact valid.eq_of_shown listed shown same ▸ attached
  · exact fun attached => ⟨bridge, shown, rfl, attached⟩

theorem WellFormed.showsUp_iff (valid : kernel.WellFormed) {bridge : Link}
    (shown : bridge ∈ kernel.shownBridges) :
    kernel.ShowsUp bridge.name ↔ bridge.flags.isUp = true := by
  constructor
  · rintro ⟨other, listed, same, up⟩
    exact valid.eq_of_shown listed shown same ▸ up
  · exact fun up => ⟨bridge, shown, rfl, up⟩

theorem shownBridges_of_le (few : kernel.bridges.length ≤ enumSlots) :
    kernel.shownBridges = kernel.bridges := List.take_of_length_le few

theorem showsBridge_of_find? (few : kernel.bridges.length ≤ enumSlots) {bridge : Link}
    (found : kernel.find? name = some bridge) (kind : bridge.isBridge = true) :
    kernel.ShowsBridge name := by
  refine ⟨bridge, ?_, name_of_find? found⟩
  rw [shownBridges_of_le few]
  exact mem_bridges.mpr ⟨mem_of_find? found, kind⟩

theorem Ready.bridgeExists_eq (ready : kernel.Ready) (policy : NamePolicy) (bridge : IfName) :
    (bridgeExists policy bridge.text).outcome plane kernel =
      (.ok (decide (kernel.ShowsBridge bridge.text)), kernel.tally 1 0) := by
  have listed : (kernel.shownBridges.map Link.name).contains bridge.text =
      decide (kernel.ShowsBridge bridge.text) := by
    rw [Bool.eq_iff_iff, List.contains_iff_mem, List.mem_map, decide_eq_true_iff]
    exact Iff.rfl
  rw [ready.outcome_bridgeExists (IfName.ofText_text policy bridge), listed]

theorem Ready.listInterfaces_eq (ready : kernel.Ready) (policy : NamePolicy) {bridge : IfName}
    (shown : kernel.ShowsBridge bridge.text) :
    ∃ live, (listInterfaces policy bridge.text).outcome plane kernel = (.ok live, kernel.tally 1 0) ∧
      ∀ iface, iface ∈ live ↔ kernel.ShowsPort bridge.text iface := by
  obtain ⟨link, listed, named, found, kind⟩ := shown.found ready.valid
  refine ⟨kernel.shownPorts link.index, ?_, fun iface => ?_⟩
  · rw [ready.outcome_listInterfaces (IfName.ofText_text policy bridge),
      bridge_eq_ok_iff.mpr ⟨found, kind⟩]
  · rw [← named, ready.valid.showsPort_iff listed]

theorem Ready.linkFlags_eq (ready : kernel.Ready) (policy : NamePolicy) {bridge : IfName}
    (shown : kernel.ShowsBridge bridge.text) :
    ∃ flags, (Control.linkFlags policy bridge.text).outcome plane kernel =
        (.ok flags, kernel.tally 1 0) ∧
      (flags.isUp = true ↔ kernel.ShowsUp bridge.text) := by
  obtain ⟨link, listed, named, found, -⟩ := shown.found ready.valid
  refine ⟨link.flags, ?_, ?_⟩
  · rw [outcome_linkFlags ready.granted (IfName.ofText_text policy bridge), found]
  · rw [← named, ready.valid.showsUp_iff listed]

end Sight

section Change

variable {kernel : Kernel} {f : Link → Link} {name iface : String}

theorem links_change : (kernel.change f).links = kernel.links.map f := rfl

theorem shownBridges_change (keeps : Link.Keeps f) :
    (kernel.change f).shownBridges = kernel.shownBridges.map f := by
  rw [shownBridges, bridges_change keeps, shownBridges, List.map_take]

theorem showsBridge_change (keeps : Link.Keeps f) :
    (kernel.change f).ShowsBridge name ↔ kernel.ShowsBridge name := by
  simp only [ShowsBridge, shownBridges_change keeps, List.mem_map, exists_exists_and_eq_and,
    keeps.name]

theorem showsPort_change (keeps : Link.Keeps f) :
    (kernel.change f).ShowsPort name iface ↔
      ∃ bridge ∈ kernel.shownBridges, bridge.name = name ∧
        ∃ port ∈ kernel.links, (f port).master = some bridge.index ∧ (f port).portNo < enumSlots ∧
          port.name = iface := by
  simp only [ShowsPort, shownBridges_change keeps, links_change, List.mem_map,
    exists_exists_and_eq_and, keeps.name, keeps.index]

theorem showsUp_change (keeps : Link.Keeps f) :
    (kernel.change f).ShowsUp name ↔
      ∃ bridge ∈ kernel.shownBridges, bridge.name = name ∧ (f bridge).flags.isUp = true := by
  simp only [ShowsUp, shownBridges_change keeps, List.mem_map, exists_exists_and_eq_and,
    keeps.name]

theorem showsPort_change_of_eq (keeps : Link.Keeps f)
    (same : ∀ link, (f link).master = link.master ∧ (f link).portNo = link.portNo) :
    (kernel.change f).ShowsPort name iface ↔ kernel.ShowsPort name iface := by
  rw [showsPort_change keeps]
  simp only [ShowsPort, (same _).1, (same _).2]

theorem showsUp_change_of_eq (keeps : Link.Keeps f) (same : ∀ link, (f link).flags = link.flags) :
    (kernel.change f).ShowsUp name ↔ kernel.ShowsUp name := by
  rw [showsUp_change keeps]
  simp only [ShowsUp, same]

end Change

section Insert

variable {kernel : Kernel} {name other iface : String}

theorem shownBridges_insert (room : kernel.bridges.length < enumSlots) (name : String) :
    (kernel.insert name true).shownBridges =
      kernel.shownBridges ++ [Link.fresh (kernel.lastIndex + 1) name true] := by
  have fits : (kernel.insert name true).bridges.length ≤ enumSlots := by
    rw [bridges_insert, List.length_append]
    exact room
  rw [shownBridges_of_le fits, shownBridges_of_le (Nat.le_of_lt room), bridges_insert]
  rfl

theorem showsBridge_insert (room : kernel.bridges.length < enumSlots) :
    (kernel.insert name true).ShowsBridge other ↔ kernel.ShowsBridge other ∨ other = name := by
  simp only [ShowsBridge, shownBridges_insert room, List.mem_append, List.mem_singleton, or_and_right,
    exists_or, exists_eq_left]
  exact or_congr_right eq_comm

/-- No link is attached to a bridge that is not there yet, not even by a dangling master. -/
theorem showsPort_insert (room : kernel.bridges.length < enumSlots) (valid : kernel.WellFormed) :
    (kernel.insert name true).ShowsPort other iface ↔ kernel.ShowsPort other iface := by
  constructor
  · rintro ⟨bridge, shown, named, port, member, owned, inside, called⟩
    have older : port ∈ kernel.links := by
      rcases List.mem_append.mp member with old | fresh
      · exact old
      · obtain rfl := List.mem_singleton.mp fresh
        cases owned
    rw [shownBridges_insert room] at shown
    rcases List.mem_append.mp shown with old | fresh
    · exact ⟨bridge, old, named, port, older, owned, inside, called⟩
    · obtain rfl := List.mem_singleton.mp fresh
      have low := (valid.sound port older).master_le _ owned
      exact absurd low (Nat.not_succ_le_self _)
  · rintro ⟨bridge, shown, named, port, member, attached⟩
    refine ⟨bridge, ?_, named, port, List.mem_append_left _ member, attached⟩
    rw [shownBridges_insert room]
    exact List.mem_append_left _ shown

theorem showsUp_insert (room : kernel.bridges.length < enumSlots) :
    (kernel.insert name true).ShowsUp other ↔ kernel.ShowsUp other := by
  simp only [ShowsUp, shownBridges_insert room, List.mem_append, List.mem_singleton, or_and_right,
    exists_or, exists_eq_left, Link.isUp_fresh, Bool.false_eq_true, and_false, or_false]

end Insert

section Attach

variable {kernel : Kernel} {bridge link : Link} {number : Nat} {name iface : String}

theorem showsBridge_attached :
    (kernel.modify link.index (Link.attached · bridge.index number)).ShowsBridge name ↔
      kernel.ShowsBridge name :=
  showsBridge_change ((Link.Keeps.attached bridge.index number).only link.index)

theorem showsUp_attached :
    (kernel.modify link.index (Link.attached · bridge.index number)).ShowsUp name ↔
      kernel.ShowsUp name := by
  refine showsUp_change_of_eq ((Link.Keeps.attached bridge.index number).only link.index) ?_
  intro other
  dsimp only
  split <;> rfl

/-- A link that had no master is shown on its new bridge, if its number fits, and nowhere else. -/
theorem showsPort_attached (valid : kernel.WellFormed) (present : bridge ∈ kernel.links)
    (kind : bridge.isBridge = true) (member : link ∈ kernel.links) (free : link.master = none) :
    (kernel.modify link.index (Link.attached · bridge.index number)).ShowsPort name iface ↔
      kernel.ShowsPort name iface ∨
        kernel.ShowsBridge name ∧ name = bridge.name ∧ iface = link.name ∧ number < enumSlots := by
  rw [modify_eq_change,
    showsPort_change ((Link.Keeps.attached bridge.index number).only link.index)]
  constructor
  · rintro ⟨shown, listed, rfl, port, live, owned, inside, rfl⟩
    by_cases same : port.index = link.index
    · rw [Link.only_of_eq same] at owned inside
      obtain rfl := valid.eq_of_index live member same
      have index : bridge.index = shown.index := Option.some.inj owned
      obtain rfl := valid.eq_of_index present (mem_of_mem_shownBridges listed).1 index
      exact .inr ⟨⟨bridge, listed, rfl⟩, rfl, rfl, inside⟩
    · rw [Link.only_of_ne same] at owned inside
      exact .inl ⟨shown, listed, rfl, port, live, owned, inside, rfl⟩
  · rintro (⟨shown, listed, named, port, live, owned, inside, called⟩ |
      ⟨⟨shown, listed, rfl⟩, same, rfl, inside⟩)
    · have different : port.index ≠ link.index := by
        intro same
        obtain rfl := valid.eq_of_index live member same
        rw [free] at owned
        cases owned
      refine ⟨shown, listed, named, port, live, ?_, ?_, called⟩
      · rwa [Link.only_of_ne different]
      · rwa [Link.only_of_ne different]
    · obtain ⟨alive, shownKind⟩ := mem_of_mem_shownBridges listed
      obtain rfl := valid.bridge_unique alive present shownKind kind same
      refine ⟨shown, listed, rfl, link, member, ?_, ?_, rfl⟩
      · rw [Link.only_of_eq rfl]
        rfl
      · rw [Link.only_of_eq rfl]
        exact inside

end Attach

section Raise

variable {kernel : Kernel} {bridge : Link} {flags : LinkFlags} {name iface : String}

theorem showsBridge_flagged :
    (kernel.modify bridge.index fun link => { link with flags := flags }).ShowsBridge name ↔
      kernel.ShowsBridge name :=
  showsBridge_change ((Link.Keeps.flagged flags).only bridge.index)

theorem showsPort_flagged :
    (kernel.modify bridge.index fun link => { link with flags := flags }).ShowsPort name iface ↔
      kernel.ShowsPort name iface := by
  refine showsPort_change_of_eq ((Link.Keeps.flagged flags).only bridge.index) ?_
  intro other
  dsimp only
  split <;> exact ⟨rfl, rfl⟩

theorem showsUp_raised (valid : kernel.WellFormed)
    (found : kernel.find? bridge.name = some bridge) (risen : flags.isUp = true) :
    (kernel.modify bridge.index fun link => { link with flags := flags }).ShowsUp name ↔
      kernel.ShowsUp name ∨ kernel.ShowsBridge name ∧ name = bridge.name := by
  rw [modify_eq_change, showsUp_change ((Link.Keeps.flagged flags).only bridge.index)]
  constructor
  · rintro ⟨shown, listed, rfl, up⟩
    by_cases same : shown.index = bridge.index
    · obtain rfl := valid.eq_of_index (mem_of_mem_shownBridges listed).1 (mem_of_find? found) same
      exact .inr ⟨⟨shown, listed, rfl⟩, rfl⟩
    · rw [Link.only_of_ne same] at up
      exact .inl ⟨shown, listed, rfl, up⟩
  · rintro (⟨shown, listed, rfl, up⟩ | ⟨⟨shown, listed, rfl⟩, same⟩)
    · refine ⟨shown, listed, rfl, ?_⟩
      by_cases raised : shown.index = bridge.index
      · rw [Link.only_of_eq raised]
        exact risen
      · rwa [Link.only_of_ne raised]
    · obtain ⟨alive, kind⟩ := mem_of_mem_shownBridges listed
      have first := valid.find?_bridge shown alive kind
      rw [same, found] at first
      obtain rfl := Option.some.inj first
      refine ⟨bridge, listed, rfl, ?_⟩
      rw [Link.only_of_eq rfl]
      exact risen

end Raise

end NetBridge.Kernel
