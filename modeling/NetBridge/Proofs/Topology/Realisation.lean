import NetBridge.Proofs.Config.Consistency
import NetBridge.Proofs.Session
import NetBridge.Proofs.Topology.Completion

/-! Bringing declared bridges up from whatever part of them stands. The plan is made of what is seen
at first; completing one bridge leaves what the others lack as it was. -/

namespace NetBridge

open Blueprint

/-- What a declaration finds: its name is that of a bridge or of no link, and each member's name is
that of one link alone, which has no master or is on the declared bridge already. -/
structure Kernel.Accommodates (kernel : Kernel) (blueprint : Blueprint) : Prop where
  bridge : (∃ bridge ∈ kernel.links, bridge.isBridge = true ∧ bridge.name = blueprint.name.text) ∨
    ∀ link ∈ kernel.links, link.name ≠ blueprint.name.text
  members : ∀ iface ∈ blueprint.members, ∃ link,
    (kernel.links.filter fun link => link.name = iface.text) = [link] ∧
      (link.master = none ∨ ∃ bridge ∈ kernel.links, bridge.isBridge = true ∧
        bridge.name = blueprint.name.text ∧ link.master = some bridge.index)

namespace Topology

open Control Kernel

variable (policy : NamePolicy) {kernel : Kernel} {index : Nat}

section Persistence

variable {middle : Kernel} {joining rising : List String} {created : List Link}
  {blueprint : Blueprint}

/-- What is realised stays realised. -/
theorem realises_settles (realises : kernel.Realises blueprint)
    (settles : Settles kernel joining rising created middle) : middle.Realises blueprint := by
  obtain ⟨bridge, member, kind, named, ports, risen⟩ := realises
  obtain ⟨settle, keeps, settled, links⟩ := settles.links
  have kept {link : Link} (live : link ∈ kernel.links) : settle link ∈ middle.links :=
    links ▸ List.mem_append_left _ (List.mem_map_of_mem live)
  refine ⟨settle bridge, kept member, (keeps.isBridge bridge).trans kind,
    (keeps.name bridge).trans named, fun iface mine => ?_, fun up => ?_⟩
  · obtain ⟨port, live, called, owned⟩ := ports iface mine
    refine ⟨settle port, kept live, (keeps.name port).trans called, ?_⟩
    rw [keeps.index]
    exact (settled port live).master_eq owned
  · exact (settled bridge member).isUp_of_isUp (risen up)

variable (prepared : kernel.Prepared blueprint)
  (settles : Settles kernel joining rising created middle)
  (other : ∀ link ∈ created, link.name ≠ blueprint.name.text)
  (apart : ∀ iface ∈ blueprint.members, iface.text ∉ joining)
include prepared settles apart

theorem attached_settles_iff (iface : IfName) (member : iface ∈ blueprint.members) :
    middle.Attached index iface ↔ kernel.Attached index iface := by
  refine ⟨?_, settles.attached⟩
  rintro ⟨later, here, owned⟩
  obtain ⟨link, found, -⟩ := prepared.members iface member
  obtain ⟨last, there, -, -, -, settled⟩ := settles.find? found
  obtain rfl := Option.some.inj (here.symm.trans there)
  have unjoined : link.name ∉ joining := name_of_find? found ▸ apart iface member
  exact ⟨link, found, (settled.place_eq unjoined).1.symm.trans owned⟩

include other

theorem prepared_settles : middle.Prepared blueprint where
  bridge later here := by
    cases found : kernel.find? blueprint.name.text with
    | none =>
      rw [settles.find?_eq_none found other] at here
      cases here
    | some link =>
      obtain ⟨last, there, -, isBridge, -⟩ := settles.find? found
      obtain rfl := Option.some.inj (here.symm.trans there)
      exact isBridge.trans (prepared.bridge link found)
  members iface member := by
    obtain ⟨link, found, small, placed⟩ := prepared.members iface member
    obtain ⟨later, here, index, -, -, settled⟩ := settles.find? found
    have unjoined : link.name ∉ joining := name_of_find? found ▸ apart iface member
    refine ⟨later, here, index ▸ small, fun master owned => settles.hasBridge (placed master ?_)⟩
    exact (settled.place_eq unjoined).1.symm.trans owned

/-- What is done to other bridges leaves what this one lacks. -/
theorem lacking_settles (unraised : blueprint.name.text ∉ rising) :
    middle.lacking blueprint = kernel.lacking blueprint := by
  cases found : kernel.find? blueprint.name.text with
  | none => simp only [lacking, found, settles.find?_eq_none found other]
  | some bridge =>
    obtain ⟨later, here, index, -, -, settled⟩ := settles.find? found
    have flags : later.flags = bridge.flags :=
      settled.flags_eq (name_of_find? found ▸ unraised)
    have same : blueprint.members.filter (fun iface => ¬ middle.Attached bridge.index iface) =
        blueprint.members.filter fun iface => ¬ kernel.Attached bridge.index iface := by
      refine List.filter_congr fun iface member => ?_
      simp only [attached_settles_iff prepared settles apart iface member]
    simp only [lacking, found, here, index, flags, same]

end Persistence

theorem mem_newcomers {blueprints : List Blueprint} {link : Link}
    (member : link ∈ kernel.newcomers blueprints) :
    ∃ blueprint ∈ blueprints, link.name = blueprint.name.text ∧
      kernel.find? blueprint.name.text = none := by
  obtain ⟨⟨blueprint, index⟩, listed, rfl⟩ := List.mem_map.mp member
  obtain ⟨present, absent⟩ := List.mem_filter.mp (List.fst_mem_of_mem_zipIdx listed)
  exact ⟨blueprint, present, rfl, of_decide_eq_true absent⟩

theorem newcomers_cons {first : Blueprint} {rest : List Blueprint} {middle : Kernel}
    {joining rising : List String}
    (settles : Settles kernel joining rising (kernel.newcomers [first]) middle)
    (once : ∀ blueprint ∈ rest, blueprint.name ≠ first.name) :
    kernel.newcomers (first :: rest) = kernel.newcomers [first] ++ middle.newcomers rest := by
  have still : middle.missing rest = kernel.missing rest := by
    refine List.filter_congr fun blueprint member => ?_
    cases found : kernel.find? blueprint.name.text with
    | none =>
      rw [settles.find?_eq_none found fun link fresh same => ?_]
      obtain ⟨other, present, named, -⟩ := mem_newcomers fresh
      obtain rfl := List.mem_singleton.mp present
      exact once blueprint member (IfName.ext_text (same.symm.trans named))
    | some link =>
      obtain ⟨later, here, -⟩ := settles.find? found
      rw [here]
      rfl
  have both : kernel.missing (first :: rest) = kernel.missing [first] ++ kernel.missing rest :=
    List.filter_append [first] rest
  have count : (kernel.newcomers [first]).length = (kernel.missing [first]).length := by
    rw [newcomers, List.length_map, List.length_zipIdx]
  rw [newcomers, both, List.zipIdx_append, List.map_append]
  refine congrArg (kernel.newcomers [first] ++ ·) ?_
  rw [newcomers, still, settles.lastIndex, count, Nat.add_right_comm]

/-- The run lemma: every step that was lacking at first can be taken when it is reached. -/
theorem execute_realising (granted : kernel.refusesHandles = false) (valid : kernel.WellFormed)
    {blueprints : List Blueprint} (consistent : Consistent blueprints)
    (prepared : ∀ blueprint ∈ blueprints, kernel.Prepared blueprint) :
    ∃ after, (execute policy (blueprints.flatMap kernel.lacking)).outcome plane kernel =
        (.ok (), after) ∧
      Settles kernel (memberNames blueprints) (raisedNames blueprints)
        (kernel.newcomers blueprints) after ∧
      ∀ blueprint ∈ blueprints, after.Realises blueprint := by
  induction blueprints generalizing kernel with
  | nil => exact ⟨kernel, rfl, .refl kernel, nofun⟩
  | cons first rest ih =>
    obtain ⟨once, apart, distinct, disjoint, consistent⟩ := consistent_cons_iff.mp consistent
    obtain ⟨ready, prepared⟩ := List.forall_mem_cons.mp prepared
    obtain ⟨middle, step, validMiddle, settles, realised⟩ :=
      execute_lacking policy granted valid ready distinct apart
    have fresh : ∀ link ∈ kernel.newcomers [first], link.name = first.name.text ∧
        kernel.find? first.name.text = none := by
      intro link member
      obtain ⟨blueprint, present, named, absent⟩ := mem_newcomers member
      obtain rfl := List.mem_singleton.mp present
      exact ⟨named, absent⟩
    have other (blueprint : Blueprint) (member : blueprint ∈ rest) :
        ∀ link ∈ kernel.newcomers [first], link.name ≠ blueprint.name.text :=
      fun link created same => once blueprint member
        (IfName.ext_text (same.symm.trans (fresh link created).1))
    have strangers (blueprint : Blueprint) (member : blueprint ∈ rest) :
        ∀ iface ∈ blueprint.members, iface.text ∉ memberNames [first] := by
      intro iface theirs mine
      rw [mem_memberNames, List.flatMap_singleton] at mine
      exact disjoint iface mine (List.mem_flatMap.mpr ⟨blueprint, member, theirs⟩)
    have lacks : rest.flatMap middle.lacking = rest.flatMap kernel.lacking := by
      refine List.flatMap_congr fun blueprint member => ?_
      refine lacking_settles (prepared blueprint member) settles (other blueprint member)
        (strangers blueprint member) fun raised => ?_
      obtain ⟨same, present, -, named⟩ := mem_raisedNames.mp raised
      obtain rfl := List.mem_singleton.mp present
      exact once blueprint member (IfName.ext_text named.symm)
    obtain ⟨after, done, more, others⟩ := ih (settles.refusesHandles.trans granted) validMiddle
      consistent fun blueprint member => prepared_settles (prepared blueprint member) settles
        (other blueprint member) (strangers blueprint member)
    refine ⟨after, ?_, ?_, List.forall_mem_cons.mpr ⟨realises_settles realised more, others⟩⟩
    · rw [List.flatMap_cons, ← lacks]
      exact (execute_append_ok_iff plane kernel).mpr ⟨middle, step, done⟩
    · rw [memberNames_cons, raisedNames_cons, newcomers_cons settles once]
      refine settles.trans more fun link member => ?_
      obtain ⟨named, absent⟩ := fresh link member
      rw [named]
      constructor
      · -- A bridge that is new is nobody's member: every member was there before.
        intro joined
        obtain ⟨blueprint, present, mine⟩ := List.mem_flatMap.mp (mem_memberNames.mp joined)
        obtain ⟨link, found, -⟩ := (prepared blueprint present).members first.name mine
        rw [absent] at found
        cases found
      · intro raised
        obtain ⟨blueprint, present, -, same⟩ := mem_raisedNames.mp raised
        exact once blueprint present (IfName.ext_text same)

theorem find?_of_filter {link : Link} {text : String}
    (alone : (kernel.links.filter fun link => link.name = text) = [link]) :
    kernel.find? text = some link := by
  rw [find?, ← List.head?_filter, alone, List.head?_cons]

theorem prepared_of_accommodates (ready : kernel.Ready) {blueprint : Blueprint}
    (accommodates : kernel.Accommodates blueprint) : kernel.Prepared blueprint where
  bridge link found := by
    rcases accommodates.bridge with ⟨bridge, live, kind, named⟩ | absent
    · have first := ready.valid.find?_bridge bridge live kind
      rw [named, found] at first
      obtain rfl := Option.some.inj first
      exact kind
    · exact absurd (name_of_find? found) (absent link (mem_of_find? found))
  members iface member := by
    obtain ⟨link, alone, placed⟩ := accommodates.members iface member
    have found := find?_of_filter alone
    have small := (ready.valid.index_lt_slotBound ready.few (mem_of_find? found)).2
    refine ⟨link, found, Nat.lt_trans small (by decide), fun master owned => ?_⟩
    rcases placed with free | ⟨bridge, live, kind, named, mine⟩
    · rw [free] at owned
      cases owned
    · obtain rfl := Option.some.inj (owned.symm.trans mine)
      exact ⟨bridge, named ▸ ready.valid.find?_bridge bridge live kind, kind, rfl⟩

/-- Where nothing is beyond the listings, the steps whose effect is not to be seen are those that
the bridge lacks. -/
theorem pending_building_eq_lacking (ready : kernel.Ready) (view : kernel.InView)
    {blueprint : Blueprint} (accommodates : kernel.Accommodates blueprint) :
    kernel.pending blueprint.building = kernel.lacking blueprint := by
  cases found : kernel.find? blueprint.name.text with
  | none =>
    have absent : ¬ kernel.ShowsBridge blueprint.name.text := by
      intro shown
      obtain ⟨bridge, -, -, same, -⟩ := shown.found ready.valid
      rw [found] at same
      cases same
    simp only [lacking, found, pending_building_of_absent absent]
  | some bridge =>
    have kind := (prepared_of_accommodates ready accommodates).bridge bridge found
    obtain ⟨other, listed, named, same, -⟩ :=
      (showsBridge_of_find? view.bridges found kind).found ready.valid
    obtain rfl := Option.some.inj (found.symm.trans same)
    have ports : ∀ iface ∈ blueprint.members,
        (kernel.ShowsPort blueprint.name.text iface.text ↔ kernel.Attached bridge.index iface) := by
      intro iface member
      obtain ⟨link, alone, -⟩ := accommodates.members iface member
      rw [← named, ready.valid.showsPort_iff listed, ready.valid.mem_shownPorts]
      constructor
      · rintro ⟨port, live, owned, -, called⟩
        have single : port ∈ kernel.links.filter fun link => link.name = iface.text :=
          List.mem_filter.mpr ⟨live, decide_eq_true called⟩
        rw [alone] at single
        obtain rfl := List.mem_singleton.mp single
        exact ⟨port, find?_of_filter alone, owned⟩
      · rintro ⟨port, here, owned⟩
        have live := mem_of_find? here
        exact ⟨port, live, owned, view.ports port live, name_of_find? here⟩
    have loose : blueprint.members.filter
        (fun iface => ¬ kernel.ShowsPort blueprint.name.text iface.text) =
        blueprint.members.filter fun iface => ¬ kernel.Attached bridge.index iface := by
      refine List.filter_congr fun iface member => ?_
      simp only [ports iface member]
    have risen : kernel.ShowsUp blueprint.name.text ↔ bridge.flags.isUp = true :=
      named ▸ ready.valid.showsUp_iff listed
    rw [pending_building_of_present ⟨bridge, listed, named⟩, loose]
    simp only [lacking, found, risen]

/-- Bringing a configuration up always completes where its declarations, under the names they
denote, are accommodated: each declared bridge then stands with its members, up if declared so. Of
the links that were there, none has changed but declared members that had no master and the up bit
of bridges declared up; the links after them are the declared bridges that were missing. -/
theorem up_realises {kernel : Kernel} {config : Config} {blueprints : List Blueprint}
    (reached : kernel.Reachable) (granted : kernel.refusesHandles = false)
    (quiet : kernel.vanishing = []) (few : kernel.lastIndex < slotBound) (view : kernel.InView)
    (accepted : config.validate = .ok ())
    (denoted : Denotes config.policy config.bridges blueprints)
    (accommodated : ∀ blueprint ∈ blueprints, kernel.Accommodates blueprint) :
    ∃ up surveyed final,
      (planUp config.policy config.bridges).outcome plane kernel = (.ok up, surveyed) ∧
      (execute config.policy up).outcome plane surveyed = (.ok (), final) ∧
      (∀ blueprint ∈ blueprints, final.Realises blueprint) ∧
      kernel.Settles (memberNames blueprints) (raisedNames blueprints)
        (kernel.newcomers blueprints) final := by
  obtain ⟨-, others, denotedAlso, consistent⟩ := Config.validate_eq_ok_iff.mp accepted
  obtain rfl := denotes_unique denoted denotedAlso
  have ready : kernel.Ready := ⟨reached.wellFormed, granted, quiet, few⟩
  obtain ⟨handles, planned⟩ := outcome_planUp ready denoted
  have lacks : kernel.pending (blueprints.flatMap building) =
      blueprints.flatMap (kernel.tally handles 0).lacking := by
    simp only [pending, List.filter_flatMap]
    exact List.flatMap_congr fun blueprint member =>
      pending_building_eq_lacking ready view (accommodated blueprint member)
  have prepared : ∀ blueprint ∈ blueprints, (kernel.tally handles 0).Prepared blueprint := by
    intro blueprint member
    obtain ⟨bridge, members⟩ := accommodated blueprint member
    exact prepared_of_accommodates (ready.tally handles 0) ⟨bridge, members⟩
  obtain ⟨final, done, settles, realised⟩ := execute_realising config.policy
    (ready.tally handles 0).granted (ready.tally handles 0).valid consistent prepared
  exact ⟨_, _, final, planned, lacks ▸ done, realised, settles.links, settles.lastIndex,
    settles.openHandles, settles.refusesHandles, settles.vanishing⟩

/-- One bridge stands with a declared and an undeclared member, the other is missing. -/
theorem up_realises_rest :
    ∃ kernel up surveyed final,
      kernel = Kernel.new.after [.happen (.addLink "eth0"), .happen (.addLink "eth1"),
        .happen (.addLink "eth2"), .happen (.addLink "wlan0"),
        .operate .truncate (.createBridge "br0"), .operate .truncate (.addInterface "br0" "eth0"),
        .operate .truncate (.addInterface "br0" "eth2")] ∧
      (planUp .truncate [⟨"br0", ["eth0", "eth1"], true⟩, ⟨"br1", ["wlan0"], false⟩]).outcome plane
        kernel = (.ok up, surveyed) ∧
      (execute .truncate up).outcome plane surveyed = (.ok (), final) ∧
      (∃ bridge ∈ final.links, bridge.isBridge = true ∧ bridge.name = "br0" ∧
        bridge.flags.isUp = true ∧
        ∃ port ∈ final.links, port.name = "eth1" ∧ port.master = some bridge.index) ∧
      ∃ bridge ∈ final.links, bridge.isBridge = true ∧ bridge.name = "br1" ∧
        ∃ port ∈ final.links, port.name = "wlan0" ∧ port.master = some bridge.index := by
  let eth0 : IfName := ⟨"eth0", by decide, by decide, by decide⟩
  let eth1 : IfName := ⟨"eth1", by decide, by decide, by decide⟩
  let wlan0 : IfName := ⟨"wlan0", by decide, by decide, by decide⟩
  let first : Blueprint := ⟨⟨"br0", by decide, by decide, by decide⟩, [eth0, eth1], true⟩
  let second : Blueprint := ⟨⟨"br1", by decide, by decide, by decide⟩, [wlan0], false⟩
  have named (iface : IfName) := IfName.ofText_text .truncate iface
  have denoted : Denotes .truncate
      [⟨"br0", ["eth0", "eth1"], true⟩, ⟨"br1", ["wlan0"], false⟩] [first, second] :=
    .cons ⟨named first.name, .cons (named eth0) (.cons (named eth1) .nil), rfl⟩
      (.cons ⟨named second.name, .cons (named wlan0) .nil, rfl⟩ .nil)
  obtain ⟨up, surveyed, final, planned, done, realised, -⟩ := up_realises
    (Reachable.new.after [.happen (.addLink "eth0"), .happen (.addLink "eth1"),
      .happen (.addLink "eth2"), .happen (.addLink "wlan0"),
      .operate .truncate (.createBridge "br0"), .operate .truncate (.addInterface "br0" "eth0"),
      .operate .truncate (.addInterface "br0" "eth2")])
    (by decide +kernel) (by decide +kernel) (by decide +kernel)
    ⟨by decide +kernel, by decide +kernel⟩
    (by decide +kernel : Config.validate ⟨.truncate, "info",
      [⟨"br0", ["eth0", "eth1"], true⟩, ⟨"br1", ["wlan0"], false⟩]⟩ = .ok ()) denoted (by
      refine List.forall_mem_cons.mpr ⟨⟨?_, ?_⟩, List.forall_mem_singleton.mpr ⟨?_, ?_⟩⟩
      · exact .inl ⟨Link.fresh 6 "br0" true, by decide +kernel, rfl, rfl⟩
      · refine List.forall_mem_cons.mpr ⟨⟨(Link.fresh 2 "eth0" false).attached 6 1, ?_, ?_⟩,
          List.forall_mem_singleton.mpr ⟨Link.fresh 3 "eth1" false, ?_, .inl rfl⟩⟩
        · decide +kernel
        · exact .inr ⟨Link.fresh 6 "br0" true, by decide +kernel, rfl, rfl, rfl⟩
        · decide +kernel
      · exact .inr (by decide +kernel)
      · exact List.forall_mem_singleton.mpr
          ⟨Link.fresh 5 "wlan0" false, by decide +kernel, .inl rfl⟩)
  obtain ⟨one, two⟩ := List.forall_mem_cons.mp realised
  obtain ⟨bridge, live, kind, called, ports, risen⟩ := one
  obtain ⟨other, alive, kindOther, calledOther, portsOther, -⟩ := List.forall_mem_singleton.mp two
  exact ⟨_, up, surveyed, final, rfl, planned, done,
    ⟨bridge, live, kind, called, risen rfl, ports eth1 (by simp [first])⟩,
    other, alive, kindOther, calledOther, portsOther wlan0 (by simp [second])⟩

end Topology

end NetBridge
