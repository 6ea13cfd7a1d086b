import NetBridge.Proofs.Topology.Site

namespace NetBridge

theorem LinkFlags.setUp_of_isUp {flags : LinkFlags} (risen : flags.isUp = true) :
    flags.setUp true = flags :=
  (congrArg flags.setUp risen).symm.trans flags.setUp_isUp

/-- What may become of a link's flags and of its place on a bridge. -/
structure Link.Settles (joining rising : List String) (before after : Link) : Prop where
  flags : after.flags =
    if before.isBridge = true ∧ before.name ∈ rising then before.flags.setUp true else before.flags
  place : after.master = before.master ∧ after.portNo = before.portNo ∨
    before.master = none ∧ before.name ∈ joining

namespace Link.Settles

variable {joining rising : List String} {link after : Link}

theorem refl (joining : List String) (link : Link) : link.Settles joining [] link :=
  ⟨(if_neg fun both => nomatch both.2).symm, .inl ⟨rfl, rfl⟩⟩

theorem trans {further later : List String} {last : Link} (first : link.Settles joining rising after)
    (name : after.name = link.name) (isBridge : after.isBridge = link.isBridge)
    (second : after.Settles further later last) :
    link.Settles (joining ++ further) (rising ++ later) last where
  flags := by
    rw [second.flags, first.flags, name, isBridge]
    by_cases kind : link.isBridge = true <;> by_cases early : link.name ∈ rising <;>
      by_cases late : link.name ∈ later <;>
      simp [kind, early, late, LinkFlags.setUp_of_isUp (LinkFlags.isUp_setUp _ true)]
  place := by
    rcases first.place with ⟨master, port⟩ | ⟨free, joined⟩
    · rcases second.place with ⟨sameMaster, samePort⟩ | ⟨free, joined⟩
      · exact .inl ⟨sameMaster.trans master, samePort.trans port⟩
      · exact .inr ⟨master.symm.trans free, List.mem_append_right _ (name ▸ joined)⟩
    · exact .inr ⟨free, List.mem_append_left _ joined⟩

theorem mono {more : List String} (settles : link.Settles joining rising after)
    (included : joining ⊆ more) : link.Settles more rising after :=
  ⟨settles.flags, settles.place.imp_right fun ⟨free, joined⟩ => ⟨free, included joined⟩⟩

/-- A port stays where it is. -/
theorem master_eq (settles : link.Settles joining rising after) {master : Nat}
    (owned : link.master = some master) : after.master = some master := by
  rcases settles.place with ⟨same, -⟩ | ⟨free, -⟩
  · exact same.trans owned
  · rw [free] at owned
    cases owned

theorem place_eq (settles : link.Settles joining rising after) (apart : link.name ∉ joining) :
    after.master = link.master ∧ after.portNo = link.portNo :=
  settles.place.resolve_right fun joined => apart joined.2

theorem flags_eq (settles : link.Settles joining rising after) (apart : link.name ∉ rising) :
    after.flags = link.flags :=
  settles.flags.trans (if_neg fun both => apart both.2)

/-- A link that joins no bridge changes in its flags alone. -/
theorem eq_flagged {f : Link → Link} (settles : link.Settles joining rising (f link))
    (keeps : Link.Keeps f) (unjoined : link.name ∉ joining) :
    f link = { link with flags :=
      if link.isBridge = true ∧ link.name ∈ rising then link.flags.setUp true else link.flags } := by
  obtain ⟨master, portNo⟩ := settles.place_eq unjoined
  have index := keeps.index link
  have name := keeps.name link
  have isBridge := keeps.isBridge link
  rw [← settles.flags]
  generalize f link = after at *
  cases after
  simp_all

theorem eq_self {f : Link → Link} (settles : link.Settles joining rising (f link))
    (keeps : Link.Keeps f) (unjoined : link.name ∉ joining) (unraised : link.name ∉ rising) :
    f link = link := by
  rw [settles.eq_flagged keeps unjoined, if_neg fun both => unraised both.2]

theorem isUp_of_rising (settles : link.Settles joining rising after) (kind : link.isBridge = true)
    (raised : link.name ∈ rising) : after.flags.isUp = true := by
  rw [settles.flags, if_pos ⟨kind, raised⟩]
  exact LinkFlags.isUp_setUp _ true

theorem isUp_of_isUp (settles : link.Settles joining rising after)
    (risen : link.flags.isUp = true) : after.flags.isUp = true := by
  rw [settles.flags]
  split
  · exact LinkFlags.isUp_setUp _ true
  · exact risen

end Link.Settles

namespace Kernel

/-- The links of a table settled, new ones after them, and nothing else changed but counts. -/
structure Settles (before : Kernel) (joining rising : List String) (created : List Link)
    (after : Kernel) : Prop where
  links : ∃ settle : Link → Link, Link.Keeps settle ∧
    (∀ link ∈ before.links, link.Settles joining rising (settle link)) ∧
    after.links = before.links.map settle ++ created
  lastIndex : after.lastIndex = before.lastIndex + created.length
  openHandles : after.openHandles = before.openHandles
  refusesHandles : after.refusesHandles = before.refusesHandles
  vanishing : after.vanishing = before.vanishing

def HasBridge (kernel : Kernel) (name : IfName) (index : Nat) : Prop :=
  ∃ bridge, kernel.find? name.text = some bridge ∧ bridge.isBridge = true ∧ bridge.index = index

namespace Settles

variable {kernel middle after : Kernel} {joining rising : List String} {created : List Link}

theorem refl (kernel : Kernel) : Settles kernel [] [] [] kernel where
  links := ⟨id, ⟨fun _ => rfl, fun _ => rfl, fun _ => rfl⟩, fun link _ => .refl [] link, by simp⟩
  lastIndex := rfl
  openHandles := rfl
  refusesHandles := rfl
  vanishing := rfl

/-- Links that are new after the first part have no part in the second. -/
theorem trans {further later : List String} {others : List Link}
    (first : Settles kernel joining rising created middle)
    (second : Settles middle further later others after)
    (apart : ∀ link ∈ created, link.name ∉ further ∧ link.name ∉ later) :
    Settles kernel (joining ++ further) (rising ++ later) (created ++ others) after where
  links := by
    obtain ⟨settle, keeps, settled, links⟩ := first.links
    obtain ⟨again, keepsAgain, settledAgain, linksAgain⟩ := second.links
    have untouched : created.map again = created := by
      refine (List.map_congr_left fun link member => ?_).trans (List.map_id _)
      have present : link ∈ middle.links := links ▸ List.mem_append_right _ member
      obtain ⟨unjoined, unraised⟩ := apart link member
      exact (settledAgain link present).eq_self keepsAgain unjoined unraised
    refine ⟨again ∘ settle, ⟨?_, ?_, ?_⟩, fun link member => ?_, ?_⟩
    · exact fun link => (keepsAgain.index _).trans (keeps.index link)
    · exact fun link => (keepsAgain.name _).trans (keeps.name link)
    · exact fun link => (keepsAgain.isBridge _).trans (keeps.isBridge link)
    · have present : settle link ∈ middle.links :=
        links ▸ List.mem_append_left _ (List.mem_map_of_mem member)
      exact (settled link member).trans (keeps.name link) (keeps.isBridge link)
        (settledAgain _ present)
    · rw [linksAgain, links, List.map_append, List.map_map, untouched, List.append_assoc]
  lastIndex := by
    rw [second.lastIndex, first.lastIndex, List.length_append, Nat.add_assoc]
  openHandles := second.openHandles.trans first.openHandles
  refusesHandles := second.refusesHandles.trans first.refusesHandles
  vanishing := second.vanishing.trans first.vanishing

theorem mono {more : List String} (settles : Settles kernel joining rising created after)
    (included : joining ⊆ more) : Settles kernel more rising created after where
  links := by
    obtain ⟨settle, keeps, settled, links⟩ := settles.links
    exact ⟨settle, keeps, fun link member => (settled link member).mono included, links⟩
  lastIndex := settles.lastIndex
  openHandles := settles.openHandles
  refusesHandles := settles.refusesHandles
  vanishing := settles.vanishing

theorem change {f : Link → Link} (keeps : Link.Keeps f)
    (settled : ∀ link ∈ kernel.links, link.Settles joining rising (f link))
    (handles requests : Nat) :
    Settles kernel joining rising [] ((kernel.change f).tally handles requests) where
  links := ⟨f, keeps, settled, (List.append_nil _).symm⟩
  lastIndex := rfl
  openHandles := rfl
  refusesHandles := rfl
  vanishing := rfl

/-- A name that was looked up is looked up to the same link, settled. -/
theorem find? (settles : Settles kernel joining rising created after) {name : String} {link : Link}
    (found : kernel.find? name = some link) :
    ∃ later, after.find? name = some later ∧ later.index = link.index ∧
      later.isBridge = link.isBridge ∧ later.name = link.name ∧
      link.Settles joining rising later := by
  obtain ⟨settle, keeps, settled, links⟩ := settles.links
  refine ⟨settle link, ?_, keeps.index link, keeps.isBridge link, keeps.name link,
    settled link (mem_of_find? found)⟩
  have changed := find?_change keeps kernel name
  rw [found, Option.map_some, Kernel.find?, Kernel.change] at changed
  rw [Kernel.find?, links, List.find?_append, changed, Option.some_or]

/-- A name that was not looked up is, at most, that of a new link. -/
theorem find?_eq_none (settles : Settles kernel joining rising created after) {name : String}
    (absent : kernel.find? name = none) (other : ∀ link ∈ created, link.name ≠ name) :
    after.find? name = none := by
  obtain ⟨settle, keeps, -, links⟩ := settles.links
  rw [find?_eq_none_iff, links]
  intro link member
  rcases List.mem_append.mp member with old | fresh
  · obtain ⟨before, present, rfl⟩ := List.mem_map.mp old
    rw [keeps.name]
    exact find?_eq_none_iff.mp absent before present
  · exact other link fresh

theorem hasBridge (settles : Settles kernel joining rising created after) {name : IfName}
    {index : Nat} (has : kernel.HasBridge name index) : after.HasBridge name index := by
  obtain ⟨bridge, found, kind, rfl⟩ := has
  obtain ⟨later, here, index, isBridge, -⟩ := settles.find? found
  exact ⟨later, here, isBridge.trans kind, index⟩

theorem attached (settles : Settles kernel joining rising created after) {iface : IfName}
    {index : Nat} (attached : kernel.Attached index iface) : after.Attached index iface := by
  obtain ⟨link, found, owned⟩ := attached
  obtain ⟨later, here, -, -, -, settled⟩ := settles.find? found
  exact ⟨later, here, settled.master_eq owned⟩

end Settles

end Kernel

end NetBridge
