import NetBridge.Proofs.Kernel.Remainder
import NetBridge.Proofs.Topology.Building

namespace NetBridge

namespace Kernel

/-- Nothing changed but links, and counts of what was asked. -/
structure Steady (before after : Kernel) : Prop where
  lastIndex : after.lastIndex = before.lastIndex
  bridges : after.bridges.length = before.bridges.length
  openHandles : after.openHandles = before.openHandles
  refusesHandles : after.refusesHandles = before.refusesHandles
  vanishing : after.vanishing = before.vanishing

namespace Steady

variable {kernel middle after : Kernel}

theorem refl (kernel : Kernel) : Steady kernel kernel := ⟨rfl, rfl, rfl, rfl, rfl⟩

theorem trans (first : Steady kernel middle) (second : Steady middle after) :
    Steady kernel after :=
  ⟨second.lastIndex.trans first.lastIndex, second.bridges.trans first.bridges,
    second.openHandles.trans first.openHandles, second.refusesHandles.trans first.refusesHandles,
    second.vanishing.trans first.vanishing⟩

theorem modify {f : Link → Link} (keeps : Link.Keeps f) (kernel : Kernel)
    (index handles requests : Nat) :
    Steady kernel ((kernel.modify index f).tally handles requests) where
  lastIndex := rfl
  bridges := by
    rw [bridges_tally, modify_eq_change, bridges_change (keeps.only index), List.length_map]
  openHandles := rfl
  refusesHandles := rfl
  vanishing := rfl

theorem ready (steady : Steady kernel after) (ready : kernel.Ready) (valid : after.WellFormed) :
    after.Ready :=
  ⟨valid, steady.refusesHandles.trans ready.granted, steady.vanishing.trans ready.quiet,
    steady.lastIndex ▸ ready.few⟩

end Steady

/-- The bridge of this name at work on: its index, whether it is up, and the links that deleting it
would leave. -/
structure Site (kernel : Kernel) (name : IfName) (index : Nat) (up : Bool) (rest : List Link) :
    Prop where
  ready : kernel.Ready
  owner : ∃ owner, kernel.find? name.text = some owner ∧ owner.index = index ∧
    owner.isBridge = true ∧ owner.flags.isUp = up
  rest : kernel.without index = rest

theorem find?_congr {kernel other : Kernel} (same : other.links = kernel.links) (name : String) :
    other.find? name = kernel.find? name := by
  rw [find?, same, find?]

/-- The work goes on wherever the links are the same. -/
theorem Site.congr {kernel other : Kernel} {name : IfName} {index : Nat} {up : Bool}
    {rest : List Link} (site : Site kernel name index up rest) (ready : other.Ready)
    (same : other.links = kernel.links) : Site other name index up rest where
  ready := ready
  owner := by
    rw [find?_congr same]
    exact site.owner
  rest := by
    rw [without_eq, same]
    exact site.rest

def Attached (kernel : Kernel) (index : Nat) (iface : IfName) : Prop :=
  ∃ link, kernel.find? iface.text = some link ∧ link.master = some index

def Free (kernel : Kernel) (iface : IfName) : Prop :=
  ∃ link, kernel.find? iface.text = some link ∧ link.master = none

end Kernel

namespace Topology

open Blueprint Control Kernel

variable (policy : NamePolicy) {kernel : Kernel} {name iface : IfName} {index : Nat} {up : Bool}
  {rest : List Link}

theorem perform_createBridge_site (ready : kernel.Ready) (room : kernel.lastIndex + 1 < slotBound)
    (absent : kernel.find? name.text = none) :
    ∃ after, (perform policy (.createBridge name.text)).outcome plane kernel = (.ok (), after) ∧
      Site after name (kernel.lastIndex + 1) false kernel.links ∧
      after = (kernel.insert name.text true).tally 1 1 := by
  refine ⟨_, (perform_createBridge_ok_iff ready.granted).mpr ⟨absent, rfl⟩, ⟨?_, ?_, ?_⟩, rfl⟩
  · exact Ready.tally ⟨ready.valid.insert fun _ => absent, ready.granted, ready.quiet, room⟩ 1 1
  · exact ⟨_, find?_insert_self absent true, rfl, rfl, Link.isUp_fresh ..⟩
  · exact ready.valid.without_insert name.text

theorem perform_addMember_site (site : Site kernel name index up rest)
    (free : kernel.Free iface) (other : iface ≠ name) :
    ∃ after, (perform policy (.addMember name.text iface.text)).outcome plane kernel =
        (.ok (), after) ∧
      Site after name index up rest ∧ Steady kernel after ∧ after.Attached index iface ∧
      ∀ text ≠ iface.text, after.find? text = kernel.find? text := by
  obtain ⟨owner, found, rfl, kind, risen⟩ := site.owner
  obtain ⟨link, here, free⟩ := free
  have apart : name.text ≠ iface.text := fun same => other (IfName.ext_text same.symm)
  have different : owner.index ≠ link.index := by
    intro same
    obtain rfl := site.ready.valid.eq_of_index (mem_of_find? found) (mem_of_find? here) same
    exact apart ((name_of_find? found).symm.trans (name_of_find? here))
  have keeps := Link.Keeps.attached owner.index (kernel.freeNumber owner.index)
  have steady := Steady.modify keeps kernel link.index 1 1
  have valid := site.ready.valid.modify_attached (mem_of_find? found) kind different
    (freeNumber_pos kernel owner.index) (freeNumber_unused kernel owner.index)
  have elsewhere (text : String) (different : text ≠ iface.text) :=
    site.ready.valid.find?_modify_of_ne keeps here different
  refine ⟨_, (perform_addMember_ok_iff site.ready).mpr
    ⟨owner, link, found, kind, here, different, free, rfl⟩, ⟨?_, ?_, ?_⟩, steady, ?_, elsewhere⟩
  · exact steady.ready site.ready (valid.congr rfl rfl)
  · exact ⟨owner, (elsewhere name.text apart).trans found, rfl, kind, risen⟩
  · exact (site.ready.valid.without_attached (mem_of_find? here) free).trans site.rest
  · exact ⟨_, WellFormed.find?_modify_self keeps here, rfl⟩

theorem perform_removeMember_site (site : Site kernel name index up rest)
    (attached : kernel.Attached index iface) (other : iface ≠ name) :
    ∃ after, (perform policy (.removeMember name.text iface.text)).outcome plane kernel =
        (.ok (), after) ∧
      Site after name index up rest ∧ Steady kernel after ∧
      ∀ text ≠ iface.text, after.find? text = kernel.find? text := by
  obtain ⟨owner, found, rfl, kind, risen⟩ := site.owner
  obtain ⟨link, here, owned⟩ := attached
  have apart : name.text ≠ iface.text := fun same => other (IfName.ext_text same.symm)
  have steady := Steady.modify Link.Keeps.detached kernel link.index 1 1
  have valid := site.ready.valid.modify_detached link.index
  have elsewhere (text : String) (different : text ≠ iface.text) :=
    site.ready.valid.find?_modify_of_ne Link.Keeps.detached here different
  refine ⟨_, (perform_removeMember_ok_iff site.ready).mpr
    ⟨owner, link, found, kind, here, owned, rfl⟩, ⟨?_, ?_, ?_⟩, steady, elsewhere⟩
  · exact steady.ready site.ready (valid.congr rfl rfl)
  · exact ⟨owner, (elsewhere name.text apart).trans found, rfl, kind, risen⟩
  · exact (site.ready.valid.without_detached (mem_of_find? here) owned).trans site.rest

theorem setLinkUp_site (site : Site kernel name index up rest) (raised : Bool) :
    ∃ after, (setLinkUp policy name.text raised).outcome plane kernel = (.ok (), after) ∧
      Site after name index raised rest ∧ Steady kernel after ∧
      ∀ text ≠ name.text, after.find? text = kernel.find? text := by
  obtain ⟨owner, found, rfl, kind, risen⟩ := site.owner
  refine ⟨_, (setLinkUp_ok_iff site.ready.granted).mpr ⟨owner, found, rfl⟩, ?_⟩
  split
  · next same =>
    refine ⟨⟨site.ready.tally 1 0, ⟨owner, found, rfl, kind, same⟩, site.rest⟩, ?_, fun _ _ => rfl⟩
    exact ⟨rfl, rfl, rfl, rfl, rfl⟩
  · have keeps := Link.Keeps.flagged (owner.flags.setUp raised)
    have steady := Steady.modify keeps kernel owner.index 1 1
    have valid := site.ready.valid.modify_flags owner.index (owner.flags.setUp raised)
    refine ⟨⟨?_, ?_, ?_⟩, steady, fun text different =>
      site.ready.valid.find?_modify_of_ne keeps found different⟩
    · exact steady.ready site.ready (valid.congr rfl rfl)
    · exact ⟨_, WellFormed.find?_modify_self keeps found, rfl, kind, LinkFlags.isUp_setUp _ raised⟩
    · exact (without_flagged _).trans site.rest

/-- The step gives back the table from before the bridge was created. -/
theorem perform_deleteBridge_site (site : Site kernel name index false rest) :
    ∃ after, (perform policy (.deleteBridge name.text)).outcome plane kernel = (.ok (), after) ∧
      after.Ready ∧ after.links = rest ∧ after.lastIndex = kernel.lastIndex ∧
      after.openHandles = kernel.openHandles := by
  obtain ⟨owner, found, rfl, kind, down⟩ := site.owner
  refine ⟨_, (perform_deleteBridge_ok_iff site.ready.granted).mpr
    ⟨owner, found, kind, down, rfl⟩, ?_, site.rest, rfl, rfl⟩
  have valid := (site.ready.valid.erase owner.index).detachAll owner.index
  exact ⟨valid.congr rfl rfl, site.ready.granted, site.ready.quiet, site.ready.few⟩

theorem execute_adding (site : Site kernel name index up rest) {members : List IfName}
    (distinct : members.Nodup) (apart : name ∉ members)
    (free : ∀ iface ∈ members, kernel.Free iface) :
    ∃ after, (execute policy (members.map fun iface =>
        .addMember name.text iface.text)).outcome plane kernel = (.ok (), after) ∧
      Site after name index up rest ∧ Steady kernel after ∧
      (∀ iface ∈ members, after.Attached index iface) ∧
      ∀ text, (∀ iface ∈ members, text ≠ iface.text) → after.find? text = kernel.find? text := by
  induction members generalizing kernel with
  | nil => exact ⟨kernel, rfl, site, .refl kernel, nofun, fun _ _ => rfl⟩
  | cons iface others ih =>
    obtain ⟨once, distinct⟩ := List.nodup_cons.mp distinct
    have texts (other : IfName) (member : other ∈ others) : other.text ≠ iface.text :=
      fun same => once (IfName.ext_text same ▸ member)
    obtain ⟨middle, step, site, steady, attached, elsewhere⟩ := perform_addMember_site policy site
      (free iface (List.mem_cons_self ..)) (List.ne_of_not_mem_cons apart).symm
    have stillFree (other : IfName) (member : other ∈ others) : middle.Free other := by
      rw [Free, elsewhere other.text (texts other member)]
      exact free other (List.mem_cons_of_mem _ member)
    obtain ⟨after, done, site, more, ports, untouched⟩ :=
      ih site distinct (List.not_mem_of_not_mem_cons apart) stillFree
    refine ⟨after, (execute_cons_ok_iff plane kernel).mpr ⟨middle, step, done⟩, site,
      steady.trans more, List.forall_mem_cons.mpr ⟨?_, ports⟩, fun text other => ?_⟩
    · rw [Attached, untouched iface.text fun other member => (texts other member).symm]
      exact attached
    · obtain ⟨first, later⟩ := List.forall_mem_cons.mp other
      rw [untouched text later, elsewhere text first]

theorem execute_removing (site : Site kernel name index up rest) {members : List IfName}
    (distinct : members.Nodup) (apart : name ∉ members)
    (attached : ∀ iface ∈ members, kernel.Attached index iface) :
    ∃ after, (execute policy (members.map fun iface =>
        .removeMember name.text iface.text)).outcome plane kernel = (.ok (), after) ∧
      Site after name index up rest ∧ Steady kernel after := by
  induction members generalizing kernel with
  | nil => exact ⟨kernel, rfl, site, .refl kernel⟩
  | cons iface others ih =>
    obtain ⟨once, distinct⟩ := List.nodup_cons.mp distinct
    obtain ⟨middle, step, site, steady, elsewhere⟩ := perform_removeMember_site policy site
      (attached iface (List.mem_cons_self ..)) (List.ne_of_not_mem_cons apart).symm
    have stillAttached (other : IfName) (member : other ∈ others) :
        middle.Attached index other := by
      rw [Attached, elsewhere other.text fun same => once (IfName.ext_text same ▸ member)]
      exact attached other (List.mem_cons_of_mem _ member)
    obtain ⟨after, done, site, more⟩ :=
      ih site distinct (List.not_mem_of_not_mem_cons apart) stillAttached
    exact ⟨after, (execute_cons_ok_iff plane kernel).mpr ⟨middle, step, done⟩, site,
      steady.trans more⟩

/-- A bridge that was just built, under the next index. -/
structure Built (kernel : Kernel) (blueprint : Blueprint) (after : Kernel) : Prop where
  site : Site after blueprint.name (kernel.lastIndex + 1) blueprint.up kernel.links
  members : ∀ iface ∈ blueprint.members, after.Attached (kernel.lastIndex + 1) iface
  elsewhere : ∀ text ≠ blueprint.name.text, (∀ iface ∈ blueprint.members, text ≠ iface.text) →
    after.find? text = kernel.find? text
  lastIndex : after.lastIndex = kernel.lastIndex + 1
  bridges : after.bridges.length = kernel.bridges.length + 1
  openHandles : after.openHandles = kernel.openHandles

theorem execute_building (ready : kernel.Ready) {blueprint : Blueprint}
    (room : kernel.lastIndex + 1 < slotBound)
    (absent : kernel.find? blueprint.name.text = none) (distinct : blueprint.members.Nodup)
    (apart : blueprint.name ∉ blueprint.members)
    (free : ∀ iface ∈ blueprint.members, kernel.Free iface) :
    ∃ after, (execute policy blueprint.building).outcome plane kernel = (.ok (), after) ∧
      Built kernel blueprint after := by
  obtain ⟨created, creating, site, fresh⟩ := perform_createBridge_site policy ready room absent
  have older (text : String) (different : text ≠ blueprint.name.text) :
      created.find? text = kernel.find? text := by
    rw [fresh, find?_tally, find?_insert_of_ne true different.symm]
  have stillFree (iface : IfName) (member : iface ∈ blueprint.members) : created.Free iface := by
    have other : iface.text ≠ blueprint.name.text :=
      fun same => apart (IfName.ext_text same ▸ member)
    rw [Free, older iface.text other]
    exact free iface member
  obtain ⟨joined, joining, site, steady, members, untouched⟩ :=
    execute_adding policy site distinct apart stillFree
  have elsewhere (text : String) (different : text ≠ blueprint.name.text)
      (others : ∀ iface ∈ blueprint.members, text ≠ iface.text) :
      joined.find? text = kernel.find? text :=
    (untouched text others).trans (older text different)
  have count : created.bridges.length = kernel.bridges.length + 1 := by
    rw [fresh, bridges_tally, bridges_insert, List.length_append]
    rfl
  have last : created.lastIndex = kernel.lastIndex + 1 := by rw [fresh]; rfl
  have handles : created.openHandles = kernel.openHandles := by rw [fresh]; rfl
  have begun : (execute policy (.createBridge blueprint.name.text ::
      blueprint.members.map fun iface =>
        .addMember blueprint.name.text iface.text)).outcome plane kernel = (.ok (), joined) :=
    (execute_cons_ok_iff plane kernel).mpr ⟨created, creating, joining⟩
  cases up : blueprint.up with
  | false =>
    refine ⟨joined, ?_, up ▸ site, members, elsewhere, steady.lastIndex.trans last,
      steady.bridges.trans count, steady.openHandles.trans handles⟩
    rw [building, up]
    simpa using begun
  | true =>
    obtain ⟨raised, raising, site, more, beside⟩ := setLinkUp_site policy site true
    refine ⟨raised, ?_, up ▸ site, fun iface member => ?_, fun text different others => ?_,
      more.lastIndex.trans (steady.lastIndex.trans last),
      more.bridges.trans (steady.bridges.trans count),
      more.openHandles.trans (steady.openHandles.trans handles)⟩
    · rw [building, up]
      refine (execute_append_ok_iff plane kernel).mpr ⟨joined, begun, ?_⟩
      exact (execute_cons_ok_iff plane joined).mpr ⟨raised, raising, rfl⟩
    · rw [Attached, beside iface.text fun same => apart (IfName.ext_text same ▸ member)]
      exact members iface member
    · rw [beside text different]
      exact elsewhere text different others

/-- Whichever ports are detached one by one, the deletion lets go of the others. -/
theorem execute_teardown (site : Site kernel name index up rest) {members : List IfName}
    (distinct : members.Nodup) (apart : name ∉ members)
    (attached : ∀ iface ∈ members, kernel.Attached index iface) :
    ∃ after, (execute policy ((members.map fun iface => .removeMember name.text iface.text) ++
        (if up then [.linkDown name.text] else []) ++ [.deleteBridge name.text])).outcome plane
        kernel = (.ok (), after) ∧
      after.Ready ∧ after.links = rest ∧ after.lastIndex = kernel.lastIndex ∧
      after.openHandles = kernel.openHandles := by
  obtain ⟨freed, removing, site, steady⟩ := execute_removing policy site distinct apart attached
  cases up with
  | false =>
    obtain ⟨after, deleting, ready, links, last, handles⟩ := perform_deleteBridge_site policy site
    refine ⟨after, ?_, ready, links, last.trans steady.lastIndex,
      handles.trans steady.openHandles⟩
    rw [List.append_assoc]
    refine (execute_append_ok_iff plane kernel).mpr ⟨freed, removing, ?_⟩
    exact (execute_cons_ok_iff plane freed).mpr ⟨after, deleting, rfl⟩
  | true =>
    obtain ⟨lowered, lowering, site, more, -⟩ := setLinkUp_site policy site false
    obtain ⟨after, deleting, ready, links, last, handles⟩ := perform_deleteBridge_site policy site
    refine ⟨after, ?_, ready, links, last.trans (more.lastIndex.trans steady.lastIndex),
      handles.trans (more.openHandles.trans steady.openHandles)⟩
    rw [List.append_assoc]
    refine (execute_append_ok_iff plane kernel).mpr ⟨freed, removing, ?_⟩
    refine (execute_cons_ok_iff plane freed).mpr ⟨lowered, lowering, ?_⟩
    exact (execute_cons_ok_iff plane lowered).mpr ⟨after, deleting, rfl⟩

/-- Only members that are seen are detached one by one. -/
theorem execute_dismantling {blueprint : Blueprint}
    (site : Site kernel blueprint.name index up rest) (fits : kernel.bridges.length ≤ enumSlots)
    (distinct : blueprint.members.Nodup) (apart : blueprint.name ∉ blueprint.members)
    (attached : ∀ iface ∈ blueprint.members, kernel.ShowsPort blueprint.name.text iface.text →
      kernel.Attached index iface) :
    ∃ after, (execute policy (kernel.pending blueprint.dismantling)).outcome plane kernel =
        (.ok (), after) ∧
      after.Ready ∧ after.links = rest ∧ after.lastIndex = kernel.lastIndex ∧
      after.openHandles = kernel.openHandles := by
  have shown : kernel.ShowsBridge blueprint.name.text := by
    obtain ⟨owner, found, -, kind, -⟩ := site.owner
    exact showsBridge_of_find? fits found kind
  have risen : kernel.ShowsUp blueprint.name.text ↔ up = true := by
    obtain ⟨bridge, listed, named, found, -⟩ := shown.found site.ready.valid
    obtain ⟨owner, same, -, -, raised⟩ := site.owner
    obtain rfl := Option.some.inj (found.symm.trans same)
    rw [← named, site.ready.valid.showsUp_iff listed, raised]
  rw [pending_dismantling_of_present shown]
  simp only [risen]
  exact execute_teardown policy site (distinct.filter _)
    (fun member => apart (List.mem_filter.mp member).1)
    fun iface member => attached iface (List.mem_filter.mp member).1
      (of_decide_eq_true (List.mem_filter.mp member).2)

end Topology

end NetBridge
