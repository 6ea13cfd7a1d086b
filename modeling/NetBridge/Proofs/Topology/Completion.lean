import NetBridge.Proofs.Topology.Settling

namespace NetBridge

namespace Blueprint

/-- The bridge as it first stands: without members, and up if it is declared so. -/
def erected (blueprint : Blueprint) (index : Nat) : Link :=
  let link := Link.fresh index blueprint.name.text true
  { link with flags := if blueprint.up then link.flags.setUp true else link.flags }

def memberNames (blueprints : List Blueprint) : List String :=
  blueprints.flatMap fun blueprint => blueprint.members.map IfName.text

def raisedNames (blueprints : List Blueprint) : List String :=
  (blueprints.filter Blueprint.up).map fun blueprint => blueprint.name.text

theorem memberNames_cons (first : Blueprint) (rest : List Blueprint) :
    memberNames (first :: rest) = memberNames [first] ++ memberNames rest := by
  simp [memberNames]

theorem raisedNames_cons (first : Blueprint) (rest : List Blueprint) :
    raisedNames (first :: rest) = raisedNames [first] ++ raisedNames rest := by
  simp only [raisedNames, ← List.map_append, ← List.filter_append, List.singleton_append]

theorem mem_memberNames {blueprints : List Blueprint} {iface : IfName} :
    iface.text ∈ memberNames blueprints ↔ iface ∈ blueprints.flatMap Blueprint.members := by
  simp only [memberNames, List.mem_flatMap, List.mem_map]
  constructor
  · rintro ⟨blueprint, present, other, member, same⟩
    exact ⟨blueprint, present, IfName.ext_text same ▸ member⟩
  · rintro ⟨blueprint, present, member⟩
    exact ⟨blueprint, present, iface, member, rfl⟩

theorem mem_raisedNames {blueprints : List Blueprint} {text : String} :
    text ∈ raisedNames blueprints ↔
      ∃ blueprint ∈ blueprints, blueprint.up = true ∧ blueprint.name.text = text := by
  simp only [raisedNames, List.mem_map, List.mem_filter, and_assoc]

end Blueprint

open Blueprint

namespace Kernel

/-- The bridge stands with all its members, and is up if it is declared so. -/
def Realises (kernel : Kernel) (blueprint : Blueprint) : Prop :=
  ∃ bridge ∈ kernel.links, bridge.isBridge = true ∧ bridge.name = blueprint.name.text ∧
    (∀ iface ∈ blueprint.members, ∃ port ∈ kernel.links, port.name = iface.text ∧
      port.master = some bridge.index) ∧
    (blueprint.up = true → bridge.flags.isUp = true)

/-- The blueprints of which no link carries the name. -/
def missing (kernel : Kernel) (blueprints : List Blueprint) : List Blueprint :=
  blueprints.filter fun blueprint => kernel.find? blueprint.name.text = none

/-- The bridges that are new when the blueprints are realised, in order of declaration. -/
def newcomers (kernel : Kernel) (blueprints : List Blueprint) : List Link :=
  ((kernel.missing blueprints).zipIdx (kernel.lastIndex + 1)).map fun (blueprint, index) =>
    blueprint.erected index

instance (kernel : Kernel) (index : Nat) (iface : IfName) :
    Decidable (kernel.Attached index iface) :=
  decidable_of_iff ((kernel.find? iface.text).any fun link => link.master = some index)
    (by simp [Attached, Option.any_eq_true])

/-- The steps that a bridge lacks. -/
def lacking (kernel : Kernel) (blueprint : Blueprint) : List Action :=
  match kernel.find? blueprint.name.text with
  | none => blueprint.building
  | some bridge =>
    ((blueprint.members.filter fun iface => ¬ kernel.Attached bridge.index iface).map fun iface =>
      .addMember blueprint.name.text iface.text) ++
    if blueprint.up ∧ ¬ bridge.flags.isUp then [.linkUp blueprint.name.text] else []

/-- What a bridge needs to be completed: no plain link is in the place of the bridge, and each
member is there, free or on this very bridge. -/
structure Prepared (kernel : Kernel) (blueprint : Blueprint) : Prop where
  bridge : ∀ link, kernel.find? blueprint.name.text = some link → link.isBridge = true
  members : ∀ iface ∈ blueprint.members, ∃ link, kernel.find? iface.text = some link ∧
    link.index < UInt32.size ∧
    ∀ master, link.master = some master → kernel.HasBridge blueprint.name master

end Kernel

namespace Topology

open Control Kernel

variable (policy : NamePolicy) {kernel after : Kernel} {name iface : IfName} {index : Nat}

theorem perform_addMember_settles (granted : kernel.refusesHandles = false)
    (valid : kernel.WellFormed) (has : kernel.HasBridge name index) {link : Link}
    (here : kernel.find? iface.text = some link) (small : link.index < UInt32.size)
    (free : link.master = none) (other : iface ≠ name) :
    ∃ after, (perform policy (.addMember name.text iface.text)).outcome plane kernel =
        (.ok (), after) ∧
      after.WellFormed ∧ Settles kernel [iface.text] [] [] after ∧ after.Attached index iface := by
  obtain ⟨bridge, found, kind, rfl⟩ := has
  have different : bridge.index ≠ link.index := by
    intro same
    obtain rfl := valid.eq_of_index (mem_of_find? found) (mem_of_find? here) same
    exact other (IfName.ext_text ((name_of_find? here).symm.trans (name_of_find? found)))
  have keeps := Link.Keeps.attached bridge.index (kernel.freeNumber bridge.index)
  refine ⟨_, perform_addMember_ok granted valid found kind here small different free, ?_, ?_, ?_⟩
  · exact (valid.modify_attached (mem_of_find? found) kind different (freeNumber_pos kernel _)
      (freeNumber_unused kernel _)).congr rfl rfl
  · refine Settles.change (keeps.only link.index) (fun port member => ?_) 1 1
    by_cases same : port.index = link.index
    · obtain rfl := valid.eq_of_index member (mem_of_find? here) same
      rw [Link.only_of_eq rfl]
      exact ⟨(if_neg fun both => nomatch both.2).symm,
        .inr ⟨free, List.mem_singleton.mpr (name_of_find? here)⟩⟩
    · rw [Link.only_of_ne same]
      exact .refl _ port
  · exact ⟨_, WellFormed.find?_modify_self keeps here, rfl⟩

theorem settles_raised (valid : kernel.WellFormed) {bridge : Link}
    (found : kernel.find? name.text = some bridge) (kind : bridge.isBridge = true) :
    ∀ link ∈ kernel.links, link.Settles [] [name.text]
      (Link.only bridge.index (fun other => { other with flags := bridge.flags.setUp true })
        link) := by
  intro link member
  by_cases same : link.index = bridge.index
  · obtain rfl := valid.eq_of_index member (mem_of_find? found) same
    rw [Link.only_of_eq rfl]
    exact ⟨(if_pos ⟨kind, List.mem_singleton.mpr (name_of_find? found)⟩).symm, .inl ⟨rfl, rfl⟩⟩
  · rw [Link.only_of_ne same]
    refine ⟨(if_neg ?_).symm, .inl ⟨rfl, rfl⟩⟩
    rintro ⟨isBridge, named⟩
    have called := (List.mem_singleton.mp named).trans (name_of_find? found).symm
    exact same (congrArg Link.index
      (valid.bridge_unique member (mem_of_find? found) isBridge kind called))

theorem settles_of_isUp (valid : kernel.WellFormed) {bridge : Link}
    (found : kernel.find? name.text = some bridge) (kind : bridge.isBridge = true)
    (risen : bridge.flags.isUp = true) : Settles kernel [] [name.text] [] kernel where
  links := by
    have unmoved : ∀ link ∈ kernel.links, Link.only bridge.index
        (fun other => { other with flags := bridge.flags.setUp true }) link = link := by
      intro link member
      by_cases same : link.index = bridge.index
      · obtain rfl := valid.eq_of_index member (mem_of_find? found) same
        rw [Link.only_of_eq rfl, LinkFlags.setUp_of_isUp risen]
      · exact Link.only_of_ne same
    refine ⟨_, (Link.Keeps.flagged _).only bridge.index, settles_raised valid found kind, ?_⟩
    rw [List.append_nil]
    exact ((List.map_congr_left unmoved).trans (List.map_id _)).symm
  lastIndex := rfl
  openHandles := rfl
  refusesHandles := rfl
  vanishing := rfl

theorem perform_linkUp_settles (granted : kernel.refusesHandles = false)
    (valid : kernel.WellFormed) {bridge : Link} (found : kernel.find? name.text = some bridge)
    (kind : bridge.isBridge = true) (down : ¬ bridge.flags.isUp = true) :
    ∃ after, (perform policy (.linkUp name.text)).outcome plane kernel = (.ok (), after) ∧
      after.WellFormed ∧ Settles kernel [] [name.text] [] after := by
  refine ⟨_, (setLinkUp_ok_iff granted).mpr ⟨bridge, found, rfl⟩, ?_⟩
  rw [if_neg down]
  exact ⟨(valid.modify_flags bridge.index _).congr rfl rfl,
    .change ((Link.Keeps.flagged _).only bridge.index) (settles_raised valid found kind) 1 1⟩

theorem execute_joining (granted : kernel.refusesHandles = false) (valid : kernel.WellFormed)
    (has : kernel.HasBridge name index) {ifaces : List IfName} (distinct : ifaces.Nodup)
    (apart : name ∉ ifaces) (free : ∀ iface ∈ ifaces, ∃ link, kernel.find? iface.text = some link ∧
      link.index < UInt32.size ∧ link.master = none) :
    ∃ after, (execute policy (ifaces.map fun iface =>
        .addMember name.text iface.text)).outcome plane kernel = (.ok (), after) ∧
      after.WellFormed ∧ Settles kernel (ifaces.map IfName.text) [] [] after ∧
      ∀ iface ∈ ifaces, after.Attached index iface := by
  induction ifaces generalizing kernel with
  | nil => exact ⟨kernel, rfl, valid, .refl kernel, nofun⟩
  | cons iface others ih =>
    obtain ⟨once, distinct⟩ := List.nodup_cons.mp distinct
    obtain ⟨⟨link, here, small, unowned⟩, free⟩ := List.forall_mem_cons.mp free
    obtain ⟨middle, step, valid, settles, attached⟩ := perform_addMember_settles policy granted
      valid has here small unowned (List.ne_of_not_mem_cons apart).symm
    have stillFree : ∀ other ∈ others, ∃ link, middle.find? other.text = some link ∧
        link.index < UInt32.size ∧ link.master = none := by
      intro other member
      obtain ⟨link, here, small, unowned⟩ := free other member
      obtain ⟨later, found, index, -, -, settled⟩ := settles.find? here
      have elsewhere : link.name ∉ [iface.text] := by
        rw [name_of_find? here, List.mem_singleton]
        exact fun same => once (IfName.ext_text same ▸ member)
      exact ⟨later, found, index ▸ small, (settled.place_eq elsewhere).1.trans unowned⟩
    obtain ⟨after, done, valid, more, ports⟩ := ih (settles.refusesHandles.trans granted) valid
      (settles.hasBridge has) distinct (List.not_mem_of_not_mem_cons apart) stillFree
    exact ⟨after, (execute_cons_ok_iff plane kernel).mpr ⟨middle, step, done⟩, valid,
      settles.trans more nofun, List.forall_mem_cons.mpr ⟨more.attached attached, ports⟩⟩

theorem execute_rising (granted : kernel.refusesHandles = false) (valid : kernel.WellFormed)
    {blueprint : Blueprint} {bridge : Link}
    (found : kernel.find? blueprint.name.text = some bridge) (kind : bridge.isBridge = true) :
    ∃ after, (execute policy (if blueprint.up ∧ ¬ bridge.flags.isUp then
        [.linkUp blueprint.name.text] else [])).outcome plane kernel = (.ok (), after) ∧
      after.WellFormed ∧ Settles kernel [] (raisedNames [blueprint]) [] after := by
  cases up : blueprint.up with
  | false =>
    rw [show raisedNames [blueprint] = [] by simp [raisedNames, up]]
    exact ⟨kernel, rfl, valid, .refl kernel⟩
  | true =>
    rw [show raisedNames [blueprint] = [blueprint.name.text] by simp [raisedNames, up]]
    by_cases risen : bridge.flags.isUp = true
    · rw [if_neg fun low => low.2 risen]
      exact ⟨kernel, rfl, valid, settles_of_isUp valid found kind risen⟩
    · obtain ⟨after, step, validAfter, settles⟩ :=
        perform_linkUp_settles policy granted valid found kind risen
      rw [if_pos ⟨rfl, risen⟩]
      exact ⟨after, (execute_cons_ok_iff plane kernel).mpr ⟨after, step, rfl⟩, validAfter, settles⟩

/-- The bridge that is up with all members attached is what was declared. -/
theorem realises_of_attached {blueprint : Blueprint} {bridge : Link}
    (found : after.find? blueprint.name.text = some bridge) (kind : bridge.isBridge = true)
    (attached : ∀ iface ∈ blueprint.members, after.Attached bridge.index iface)
    (risen : blueprint.up = true → bridge.flags.isUp = true) : after.Realises blueprint := by
  refine ⟨bridge, mem_of_find? found, kind, name_of_find? found, fun iface member => ?_, risen⟩
  obtain ⟨port, here, owned⟩ := attached iface member
  exact ⟨port, mem_of_find? here, name_of_find? here, owned⟩

/-- A bridge that stands is completed. -/
theorem execute_completing (granted : kernel.refusesHandles = false) (valid : kernel.WellFormed)
    {blueprint : Blueprint} {bridge : Link}
    (found : kernel.find? blueprint.name.text = some bridge) (prepared : kernel.Prepared blueprint)
    (distinct : blueprint.members.Nodup) (apart : blueprint.name ∉ blueprint.members) :
    ∃ after, (execute policy (kernel.lacking blueprint)).outcome plane kernel = (.ok (), after) ∧
      after.WellFormed ∧
      Settles kernel (memberNames [blueprint]) (raisedNames [blueprint]) [] after ∧
      after.Realises blueprint := by
  have kind := prepared.bridge bridge found
  have free : ∀ iface ∈ blueprint.members.filter fun iface => ¬ kernel.Attached bridge.index iface,
      ∃ link, kernel.find? iface.text = some link ∧ link.index < UInt32.size ∧
        link.master = none := by
    intro iface member
    obtain ⟨declared, loose⟩ := List.mem_filter.mp member
    obtain ⟨link, here, small, placed⟩ := prepared.members iface declared
    refine ⟨link, here, small, Option.eq_none_iff_forall_not_mem.mpr fun master owned => ?_⟩
    obtain ⟨other, same, -, rfl⟩ := placed master owned
    obtain rfl := Option.some.inj (found.symm.trans same)
    exact of_decide_eq_true loose ⟨link, here, owned⟩
  obtain ⟨middle, joining, validMiddle, settles, joined⟩ := execute_joining policy granted valid
    ⟨bridge, found, kind, rfl⟩ (distinct.filter _)
    (fun member => apart (List.mem_filter.mp member).1) free
  have attached : ∀ iface ∈ blueprint.members, middle.Attached bridge.index iface := by
    intro iface member
    by_cases already : kernel.Attached bridge.index iface
    · exact settles.attached already
    · exact joined iface (List.mem_filter.mpr ⟨member, decide_eq_true already⟩)
  obtain ⟨later, here, index, isBridge, -, settled⟩ := settles.find? found
  have flags : later.flags = bridge.flags := settled.flags_eq List.not_mem_nil
  obtain ⟨after, rising, validAfter, raised⟩ := execute_rising policy
    (settles.refusesHandles.trans granted) validMiddle here (isBridge.trans kind)
  have whole : Settles kernel (memberNames [blueprint]) (raisedNames [blueprint]) [] after := by
    refine (settles.trans raised nofun).mono fun text member => ?_
    rw [List.append_nil] at member
    obtain ⟨iface, mine, rfl⟩ := List.mem_map.mp member
    rw [mem_memberNames, List.flatMap_singleton]
    exact (List.mem_filter.mp mine).1
  obtain ⟨last, there, sameIndex, sameKind, -, settledLast⟩ := whole.find? found
  refine ⟨after, ?_, validAfter, whole, realises_of_attached there (sameKind.trans kind) ?_ ?_⟩
  · simp only [lacking, found]
    rw [← flags]
    exact (execute_append_ok_iff plane kernel).mpr ⟨middle, joining, rising⟩
  · exact fun iface member => sameIndex ▸ raised.attached (attached iface member)
  · intro up
    refine settledLast.isUp_of_rising kind ?_
    rw [name_of_find? found]
    exact mem_raisedNames.mpr ⟨blueprint, List.mem_singleton_self _, up, rfl⟩

/-- A bridge that was created first: what has become of it is the bridge as it first stands. -/
theorem settles_of_insert {blueprint : Blueprint} (apart : blueprint.name ∉ blueprint.members)
    (settles : Settles ((kernel.insert blueprint.name.text true).tally 1 1)
      (memberNames [blueprint]) (raisedNames [blueprint]) [] after) :
    Settles kernel (memberNames [blueprint]) (raisedNames [blueprint])
      [blueprint.erected (kernel.lastIndex + 1)] after where
  links := by
    obtain ⟨settle, keeps, settled, links⟩ := settles.links
    have newest : Link.fresh (kernel.lastIndex + 1) blueprint.name.text true ∈
        ((kernel.insert blueprint.name.text true).tally 1 1).links :=
      List.mem_append_right _ (List.mem_singleton_self _)
    have stands : settle (Link.fresh (kernel.lastIndex + 1) blueprint.name.text true) =
        blueprint.erected (kernel.lastIndex + 1) := by
      have unjoined : blueprint.name.text ∉ memberNames [blueprint] := by
        rwa [mem_memberNames, List.flatMap_singleton]
      have raised : blueprint.name.text ∈ raisedNames [blueprint] ↔ blueprint.up = true := by
        simp [mem_raisedNames]
      rw [(settled _ newest).eq_flagged keeps unjoined]
      simp [erected, Link.fresh, raised]
    refine ⟨settle, keeps, fun link member => settled link (List.mem_append_left _ member), ?_⟩
    rw [links, links_tally, Kernel.insert, List.map_append, List.map_singleton, stands,
      List.append_nil]
  lastIndex := settles.lastIndex
  openHandles := settles.openHandles
  refusesHandles := settles.refusesHandles
  vanishing := settles.vanishing

/-- A bridge that does not stand is built from nothing. -/
theorem execute_founding (granted : kernel.refusesHandles = false) (valid : kernel.WellFormed)
    {blueprint : Blueprint} (absent : kernel.find? blueprint.name.text = none)
    (prepared : kernel.Prepared blueprint) (distinct : blueprint.members.Nodup)
    (apart : blueprint.name ∉ blueprint.members) :
    ∃ after, (execute policy (kernel.lacking blueprint)).outcome plane kernel = (.ok (), after) ∧
      after.WellFormed ∧
      Settles kernel (memberNames [blueprint]) (raisedNames [blueprint])
        [blueprint.erected (kernel.lastIndex + 1)] after ∧
      after.Realises blueprint := by
  have found : ((kernel.insert blueprint.name.text true).tally 1 1).find? blueprint.name.text =
      some (Link.fresh (kernel.lastIndex + 1) blueprint.name.text true) :=
    find?_insert_self absent true
  have free : ∀ iface ∈ blueprint.members, ∃ link,
      ((kernel.insert blueprint.name.text true).tally 1 1).find? iface.text = some link ∧
        link.index < UInt32.size ∧ link.master = none := by
    intro iface member
    obtain ⟨link, here, small, placed⟩ := prepared.members iface member
    refine ⟨link, find?_insert_of_some here _ true, small,
      Option.eq_none_iff_forall_not_mem.mpr fun master owned => ?_⟩
    obtain ⟨bridge, same, -⟩ := placed master owned
    rw [absent] at same
    cases same
  have ready : ((kernel.insert blueprint.name.text true).tally 1 1).Prepared blueprint := by
    refine ⟨fun link same => ?_, fun iface member => ?_⟩
    · obtain rfl := Option.some.inj (found.symm.trans same)
      rfl
    · obtain ⟨link, here, small, unowned⟩ := free iface member
      refine ⟨link, here, small, fun master owned => ?_⟩
      rw [unowned] at owned
      cases owned
  have steps : kernel.lacking blueprint = .createBridge blueprint.name.text ::
      ((kernel.insert blueprint.name.text true).tally 1 1).lacking blueprint := by
    -- A member with a master would be on the bridge of this name, and there is none.
    have loose : ∀ iface ∈ blueprint.members, ¬ Attached
        ((kernel.insert blueprint.name.text true).tally 1 1) (kernel.lastIndex + 1) iface := by
      rintro iface member ⟨link, here, owned⟩
      obtain ⟨other, same, -, unowned⟩ := free iface member
      obtain rfl := Option.some.inj (here.symm.trans same)
      rw [unowned] at owned
      cases owned
    have all : blueprint.members.filter (fun iface => ¬ Attached
        ((kernel.insert blueprint.name.text true).tally 1 1) (kernel.lastIndex + 1) iface) =
        blueprint.members :=
      List.filter_eq_self.mpr fun iface member => decide_eq_true (loose iface member)
    have low : (Link.fresh (kernel.lastIndex + 1) blueprint.name.text true).flags.isUp = false :=
      Link.isUp_fresh ..
    simp only [lacking, absent, found, low]
    rw [show (Link.fresh (kernel.lastIndex + 1) blueprint.name.text true).index =
      kernel.lastIndex + 1 from rfl, all, building]
    simp
  have created : ((kernel.insert blueprint.name.text true).tally 1 1).WellFormed :=
    (valid.insert fun _ => absent).congr rfl rfl
  have willing : ((kernel.insert blueprint.name.text true).tally 1 1).refusesHandles = false :=
    granted
  obtain ⟨after, done, validAfter, settles, realises⟩ :=
    execute_completing policy willing created found ready distinct apart
  refine ⟨after, ?_, validAfter, settles_of_insert apart settles, realises⟩
  rw [steps]
  exact (execute_cons_ok_iff plane kernel).mpr
    ⟨_, (perform_createBridge_ok_iff granted).mpr ⟨absent, rfl⟩, done⟩

/-- The step of the run: one bridge is completed, whatever part of it stands. -/
theorem execute_lacking (granted : kernel.refusesHandles = false) (valid : kernel.WellFormed)
    {blueprint : Blueprint} (prepared : kernel.Prepared blueprint)
    (distinct : blueprint.members.Nodup) (apart : blueprint.name ∉ blueprint.members) :
    ∃ after, (execute policy (kernel.lacking blueprint)).outcome plane kernel = (.ok (), after) ∧
      after.WellFormed ∧
      Settles kernel (memberNames [blueprint]) (raisedNames [blueprint])
        (kernel.newcomers [blueprint]) after ∧
      after.Realises blueprint := by
  cases found : kernel.find? blueprint.name.text with
  | none =>
    rw [show kernel.newcomers [blueprint] = [blueprint.erected (kernel.lastIndex + 1)] by
      simp [newcomers, missing, found]]
    exact execute_founding policy granted valid found prepared distinct apart
  | some bridge =>
    rw [show kernel.newcomers [blueprint] = [] by simp [newcomers, missing, found]]
    exact execute_completing policy granted valid found prepared distinct apart

end Topology

end NetBridge
