import NetBridge.Proofs.Config.Consistency
import NetBridge.Proofs.Session
import NetBridge.Proofs.Topology.Site

/-! Tearing declared bridges down undoes building them. The last bridge built is taken apart first,
so that each deletion gives back the table that its creation found. -/

namespace NetBridge.Topology

open Blueprint Control Kernel

variable (policy : NamePolicy) {kernel : Kernel}

/-- Building other bridges changes nothing about what is to take apart of one. -/
theorem pending_dismantling_execute {first : Blueprint} {rest : List Blueprint} {built : Kernel}
    (ready : kernel.Ready) (once : ∀ blueprint ∈ rest, blueprint.name ≠ first.name)
    (done : (execute policy (rest.flatMap building)).outcome plane kernel = (.ok (), built))
    (few : built.lastIndex < slotBound) (fits : built.bridges.length ≤ enumSlots) :
    built.pending first.dismantling = kernel.pending first.dismantling := by
  have same (action : Action) (likewise : action.Builds) (mine : action.bridge = first.name.text) :
      built.Achieved action ↔ kernel.Achieved action := by
    refine achieved_execute_of_not_mem ready (fun step member => ?_) done few fits likewise
      fun member => ?_
    · obtain ⟨blueprint, -, step⟩ := List.mem_flatMap.mp member
      exact builds_of_mem step
    · obtain ⟨second, member, theirs⟩ := List.mem_flatMap.mp member
      have named := (bridge_of_mem_building theirs).symm.trans mine
      exact once second member (IfName.ext_text named)
  exact pending_dismantling_congr (same _ (.createBridge first.name) rfl)
    (fun iface _ => same _ (.addMember first.name iface) rfl) (same _ (.linkUp first.name) rfl)

theorem pending_building_eq_self {blueprints : List Blueprint}
    (absent : ∀ blueprint ∈ blueprints, ¬ kernel.ShowsBridge blueprint.name.text) :
    kernel.pending (blueprints.flatMap building) = blueprints.flatMap building := by
  induction blueprints with
  | nil => rfl
  | cons first rest ih =>
    obtain ⟨head, tail⟩ := List.forall_mem_cons.mp absent
    rw [List.flatMap_cons, pending_append, pending_building_of_absent head, ih tail]

/-- A kernel in which consistent blueprints can all be built from nothing. -/
structure Vacant (kernel : Kernel) (blueprints : List Blueprint) : Prop where
  ready : kernel.Ready
  consistent : Consistent blueprints
  few : kernel.lastIndex + blueprints.length < slotBound
  room : kernel.bridges.length + blueprints.length ≤ enumSlots
  unclaimed : ∀ blueprint ∈ blueprints, kernel.find? blueprint.name.text = none
  free : ∀ iface ∈ blueprints.flatMap Blueprint.members, kernel.Free iface

theorem Vacant.of_denotes {declared : List Declaration} {blueprints : List Blueprint}
    (ready : kernel.Ready) (denoted : Denotes policy declared blueprints)
    (consistent : Consistent blueprints) (few : kernel.lastIndex + blueprints.length < slotBound)
    (room : kernel.bridges.length + blueprints.length ≤ enumSlots)
    (unclaimed : ∀ bridge ∈ declared, ∀ name, IfName.ofText policy bridge.name = .ok name →
      ∀ link ∈ kernel.links, link.name ≠ name.text)
    (free : ∀ bridge ∈ declared, ∀ text ∈ bridge.members, ∀ iface,
      IfName.ofText policy text = .ok iface → kernel.Free iface) :
    Vacant kernel blueprints := by
  refine ⟨ready, consistent, few, room, fun blueprint member => ?_, fun iface member => ?_⟩
  · obtain ⟨bridge, listed, denotes⟩ := exists_of_mem_right denoted member
    exact find?_eq_none_iff.mpr (unclaimed bridge listed blueprint.name denotes.name)
  · obtain ⟨blueprint, present, mine⟩ := List.mem_flatMap.mp member
    obtain ⟨bridge, listed, denotes⟩ := exists_of_mem_right denoted present
    obtain ⟨text, written, named⟩ := exists_of_mem_right denotes.members mine
    exact free bridge listed text written iface named

theorem Vacant.tally {blueprints : List Blueprint} (vacant : Vacant kernel blueprints)
    (handles requests : Nat) : Vacant (kernel.tally handles requests) blueprints :=
  ⟨vacant.ready.tally handles requests, vacant.consistent, vacant.few, vacant.room,
    vacant.unclaimed, vacant.free⟩

/-- All the steps of building are still to be taken. -/
theorem Vacant.pending_building {blueprints : List Blueprint} (vacant : Vacant kernel blueprints) :
    kernel.pending (blueprints.flatMap building) = blueprints.flatMap building := by
  refine pending_building_eq_self fun blueprint member shown => ?_
  obtain ⟨bridge, -, -, found, -⟩ := shown.found vacant.ready.valid
  rw [vacant.unclaimed blueprint member] at found
  cases found

/-- Once the first of the blueprints is built, the others can be built as before. -/
theorem Vacant.later {first : Blueprint} {rest : List Blueprint} {after : Kernel}
    (vacant : Vacant kernel (first :: rest)) (built : Built kernel first after) :
    Vacant after rest := by
  obtain ⟨once, -, -, disjoint, consistent⟩ := consistent_cons_iff.mp vacant.consistent
  obtain ⟨absent, unclaimed⟩ := List.forall_mem_cons.mp vacant.unclaimed
  have few := vacant.few
  have room := vacant.room
  rw [List.length_cons] at few room
  have claimed (iface : IfName) (member : iface ∈ (first :: rest).flatMap Blueprint.members)
      (text : String) (missing : kernel.find? text = none) : text ≠ iface.text := by
    rintro rfl
    obtain ⟨link, found, -⟩ := vacant.free iface member
    rw [missing] at found
    cases found
  refine ⟨built.site.ready, consistent, ?_, ?_, fun blueprint member => ?_, fun iface member => ?_⟩
  · rw [built.lastIndex]
    omega
  · rw [built.bridges]
    omega
  · rw [built.elsewhere _ (fun same => once blueprint member (IfName.ext_text same))]
    · exact unclaimed blueprint member
    · exact fun iface mine => claimed iface (List.mem_append_left _ mine) _
        (unclaimed blueprint member)
  · have later : iface ∈ (first :: rest).flatMap Blueprint.members :=
      List.mem_append_right _ member
    rw [Free, built.elsewhere _ (claimed iface later _ absent).symm]
    · exact vacant.free iface later
    · exact fun other mine same => disjoint other mine (IfName.ext_text same ▸ member)

/-- Building blueprints and then taking them apart, last first, gives back the table. -/
theorem execute_round_trip {blueprints : List Blueprint} (vacant : Vacant kernel blueprints) :
    ∃ built, (execute policy (blueprints.flatMap building)).outcome plane kernel =
        (.ok (), built) ∧
      built.Ready ∧ built.bridges.length ≤ enumSlots ∧ built.openHandles = kernel.openHandles ∧
      ∀ state : Kernel, state.Ready → state.links = built.links →
        ∃ final, (execute policy (built.pending
            (blueprints.reverse.flatMap dismantling))).outcome plane state = (.ok (), final) ∧
          final.Ready ∧ final.links = kernel.links ∧ final.openHandles = state.openHandles := by
  induction blueprints generalizing kernel with
  | nil =>
    exact ⟨kernel, rfl, vacant.ready, vacant.room, rfl, fun state ready same =>
      ⟨state, rfl, ready, same, rfl⟩⟩
  | cons first rest ih =>
    obtain ⟨once, apart, distinct, -, -⟩ := consistent_cons_iff.mp vacant.consistent
    have few := vacant.few
    rw [List.length_cons] at few
    obtain ⟨middle, making, made⟩ := execute_building policy vacant.ready (by omega)
      (vacant.unclaimed first (List.mem_cons_self ..)) distinct apart
      fun iface mine => vacant.free iface (List.mem_append_left _ mine)
    obtain ⟨built, building, ready, fits, handles, tear⟩ := ih (vacant.later made)
    refine ⟨built, ?_, ready, fits, handles.trans made.openHandles, fun state stateReady same => ?_⟩
    · exact (execute_append_ok_iff plane kernel).mpr ⟨middle, making, building⟩
    -- The other bridges are gone by now: the table is the one in which `first` had just been built.
    obtain ⟨before, removing, readyBefore, back, kept⟩ := tear state stateReady same
    have unseen : built.pending first.dismantling = before.pending first.dismantling := by
      rw [pending_congr back]
      exact pending_dismantling_execute policy made.site.ready once building ready.few fits
    have site := made.site.congr readyBefore back
    have count : before.bridges.length ≤ enumSlots := by
      have room := vacant.room
      rw [List.length_cons] at room
      rw [bridges, back, ← bridges, made.bridges]
      omega
    obtain ⟨final, ending, readyFinal, links, -, handles⟩ := execute_dismantling policy site count
      distinct apart fun iface mine _ => by
        rw [Attached, find?_congr back]
        exact made.members iface mine
    refine ⟨final, ?_, readyFinal, links, handles.trans kept⟩
    rw [List.reverse_cons, List.flatMap_append, pending_append]
    refine (execute_append_ok_iff plane state).mpr ⟨before, removing, ?_⟩
    simpa [unseen] using ending

/-- Bringing a configuration up and then down gives back every link with its name, kind, master,
port number and flags, where the declared bridges are new and the declared members free. The links
inserted on the way count towards the bound on indices. -/
theorem down_undoes_up {kernel : Kernel} {config : Config} (reached : kernel.Reachable)
    (granted : kernel.refusesHandles = false) (quiet : kernel.vanishing = [])
    (few : kernel.lastIndex + config.bridges.length < slotBound)
    (accepted : config.validate = .ok ())
    (unclaimed : ∀ declared ∈ config.bridges, ∀ name,
      IfName.ofText config.policy declared.name = .ok name →
      ∀ link ∈ kernel.links, link.name ≠ name.text)
    (free : ∀ declared ∈ config.bridges, ∀ text ∈ declared.members, ∀ iface,
      IfName.ofText config.policy text = .ok iface →
      ∃ link, kernel.find? iface.text = some link ∧ link.master = none)
    (room : kernel.bridges.length + config.bridges.length ≤ enumSlots) :
    ∃ up planned built down surveyed final,
      (planUp config.policy config.bridges).outcome plane kernel = (.ok up, planned) ∧
      (execute config.policy up).outcome plane planned = (.ok (), built) ∧
      (planDown config.policy config.bridges).outcome plane built = (.ok down, surveyed) ∧
      (execute config.policy down).outcome plane surveyed = (.ok (), final) ∧
      final = { kernel with
        lastIndex := final.lastIndex
        acquired := final.acquired
        mutations := final.mutations } := by
  obtain ⟨-, blueprints, denoted, consistent⟩ := Config.validate_eq_ok_iff.mp accepted
  have count := denoted.length_eq
  have ready : kernel.Ready := ⟨reached.wellFormed, granted, quiet, by omega⟩
  have vacant : Vacant kernel blueprints :=
    .of_denotes config.policy ready denoted consistent (count ▸ few) (count ▸ room) unclaimed free
  obtain ⟨handles, planned⟩ := outcome_planUp ready denoted
  rw [vacant.pending_building] at planned
  obtain ⟨built, done, ready, -, held, tear⟩ :=
    execute_round_trip config.policy (vacant.tally handles 0)
  obtain ⟨more, surveyed⟩ := outcome_planDown ready denoted
  obtain ⟨final, undone, readyFinal, links, kept⟩ :=
    tear (built.tally more 0) (ready.tally more 0) rfl
  refine ⟨_, _, built, _, _, final, planned, done, surveyed, undone, ?_⟩
  have handles : final.openHandles = kernel.openHandles := kept.trans held
  have refusals : final.refusesHandles = kernel.refusesHandles :=
    readyFinal.granted.trans granted.symm
  have vanishing : final.vanishing = kernel.vanishing := readyFinal.quiet.trans quiet.symm
  cases final
  cases links
  cases handles
  cases refusals
  cases vanishing
  rfl

/-- A bridge with one member comes and goes. -/
theorem down_undoes_up_once :
    ∃ up built down final,
      ((planUp .truncate [⟨"br0", ["eth0"], true⟩]).outcome plane
        (Kernel.new.after [.happen (.addLink "eth0")])).1 = .ok up ∧
      (execute .truncate up).outcome plane ((planUp .truncate [⟨"br0", ["eth0"], true⟩]).outcome plane
        (Kernel.new.after [.happen (.addLink "eth0")])).2 = (.ok (), built) ∧
      ((planDown .truncate [⟨"br0", ["eth0"], true⟩]).outcome plane built).1 = .ok down ∧
      (execute .truncate down).outcome plane
        ((planDown .truncate [⟨"br0", ["eth0"], true⟩]).outcome plane built).2 = (.ok (), final) ∧
      final.links = (Kernel.new.after [.happen (.addLink "eth0")]).links := by
  have unclaimed : ∀ name, IfName.ofText .truncate "br0" = .ok name →
      ∀ link ∈ (Kernel.new.after [.happen (.addLink "eth0")]).links, link.name ≠ name.text := by
    intro name named
    have text : (IfName.ofText .truncate "br0").map IfName.text = .ok "br0" := by decide +kernel
    rw [named] at text
    rw [show name.text = "br0" from Except.ok.inj text]
    decide +kernel
  have free : ∀ iface, IfName.ofText .truncate "eth0" = .ok iface →
      ∃ link, (Kernel.new.after [.happen (.addLink "eth0")]).find? iface.text = some link ∧
        link.master = none := by
    intro iface named
    have text : (IfName.ofText .truncate "eth0").map IfName.text = .ok "eth0" := by decide +kernel
    rw [named] at text
    rw [show iface.text = "eth0" from Except.ok.inj text]
    exact ⟨Link.fresh 2 "eth0" false, by decide +kernel, rfl⟩
  obtain ⟨up, planned, built, down, surveyed, final, first, second, third, fourth, same⟩ :=
    down_undoes_up (Reachable.new.after [.happen (.addLink "eth0")]) rfl rfl (by decide +kernel)
      (by decide +kernel :
        Config.validate ⟨.truncate, "info", [⟨"br0", ["eth0"], true⟩]⟩ = .ok ())
      (List.forall_mem_singleton.mpr unclaimed)
      (List.forall_mem_singleton.mpr (List.forall_mem_singleton.mpr free)) (by decide +kernel)
  refine ⟨up, built, down, final, ?_, ?_, ?_, ?_, ?_⟩
  · exact congrArg Prod.fst first
  · rw [first]
    exact second
  · exact congrArg Prod.fst third
  · rw [third]
    exact fourth
  · rw [same]

end NetBridge.Topology
