import NetBridge.Proofs.Config.Consistency
import NetBridge.Proofs.Kernel.Destruction
import NetBridge.Proofs.Session
import NetBridge.Proofs.Topology.Building

namespace NetBridge

namespace Kernel

variable {kernel : Kernel}

theorem WellFormed.removeLink_addLink (valid : kernel.WellFormed) {name : String}
    (free : kernel.find? name = none) :
    (kernel.addLink name).removeLink name = { kernel with lastIndex := kernel.lastIndex + 1 } := by
  have older : kernel.links.filter (fun link => link.index ≠ kernel.lastIndex + 1) =
      kernel.links := by
    refine List.filter_eq_self.mpr fun link member => ?_
    have bound := (valid.sound link member).index_le
    simp only [decide_eq_true_eq]
    omega
  have left : (kernel.links ++ [Link.fresh (kernel.lastIndex + 1) name false]).filter
      (fun link => link.index ≠ kernel.lastIndex + 1) = kernel.links := by
    rw [List.filter_append, older]
    simp [Link.fresh]
  rw [Kernel.removeLink, addLink, find?_insert_self free false]
  exact congrArg
    (fun links => { kernel with lastIndex := kernel.lastIndex + 1, links := links }) left

theorem Reachable.aged (count : Nat) :
    Reachable { Kernel.new with lastIndex := count + 1 } := by
  induction count with
  | zero => exact .new
  | succ count ih =>
    have left := (ih.incident (.addLink "eth0")).incident (.removeLink "eth0")
    have worn := @WellFormed.removeLink_addLink _ ih.wellFormed "eth0" rfl
    exact (congrArg Reachable worn).mp left

/-- A bridge with ports under the first numbers, and a link that is no port yet. -/
def packed (count : Nat) : Kernel :=
  { Kernel.new with
    lastIndex := count + 3
    links := Kernel.new.links ++ [Link.fresh 2 "br0" true, Link.fresh 3 "eth1" false] ++
      (List.range' 1 count).map fun number =>
        (Link.fresh (number + 3) "eth0" false).attached 2 number
    mutations := count + 1 }

theorem freeNumber_packed (count : Nat) : (packed count).freeNumber 2 = count + 1 := by
  have ports : (packed count).portsOf 2 = (List.range' 1 count).map fun number =>
      (Link.fresh (number + 3) "eth0" false).attached 2 number := by
    refine (List.filter_append ..).trans (List.filter_eq_self.mpr fun link member => ?_)
    obtain ⟨number, -, rfl⟩ := List.mem_map.mp member
    rfl
  have numbers : ((packed count).portsOf 2).map Link.portNo = List.range' 1 count := by
    rw [ports, List.map_map]
    exact List.map_id _
  rw [freeNumber, numbers, lowestFree_range']

theorem links_packed_succ (count : Nat) : (packed (count + 1)).links =
    (packed count).links ++ [(Link.fresh (count + 4) "eth0" false).attached 2 (count + 1)] := by
  simp [packed, List.range'_1_concat, Nat.add_comm 1 count]

theorem Reachable.packed (count : Nat) (few : count + 4 < UInt32.size) :
    (packed count).Reachable := by
  let br0 : IfName := ⟨"br0", by decide, by decide, by decide⟩
  induction count with
  | zero =>
    have created := Reachable.new.mutation (.addBridge br0) (addBridge_eq_ok_iff.mpr ⟨rfl, rfl⟩)
    exact created.incident (.addLink "eth1")
  | succ count ih =>
    have before := ih (Nat.lt_of_succ_lt few)
    have plugged : ((Kernel.packed count).insert "eth0" false).Reachable :=
      before.incident (.addLink "eth0")
    have newest : Link.fresh (count + 4) "eth0" false ∈
        ((Kernel.packed count).insert "eth0" false).links :=
      List.mem_append_right _ (List.mem_singleton_self _)
    have joined := @Reachable.addPort _ (Link.fresh 2 "br0" true) br0 plugged
      (Nat.lt_of_succ_lt few) _ rfl rfl newest (by simp [Link.fresh]) rfl
    have number : ((Kernel.packed count).insert "eth0" false).freeNumber 2 = count + 1 := by
      rw [← freeNumber_packed, freeNumber, freeNumber]
      simp [portsOf, Kernel.insert, Link.fresh]
    have reached : ((((Kernel.packed count).insert "eth0" false).modify (count + 4)
        (Link.attached · 2 (count + 1))).tally 0 1).Reachable := number ▸ joined
    have links := before.wellFormed.links_insert_modify "eth0" false (Link.attached · 2 (count + 1))
    have same := congrArg (fun links => { Kernel.packed (count + 1) with links := links })
      (links.trans (links_packed_succ count).symm)
    exact (congrArg Reachable same).mp reached

end Kernel

namespace Topology

open Blueprint Control Kernel

variable {kernel : Kernel} {policy : NamePolicy}

theorem builds_of_mem_flatMap {blueprints : List Blueprint} {action : Action}
    (member : action ∈ blueprints.flatMap building) : action.Builds := by
  obtain ⟨blueprint, -, step⟩ := List.mem_flatMap.mp member
  exact builds_of_mem step

/-- Planning again after some of the steps gives the other steps, whatever was counted since. -/
theorem replan_execute (ready : kernel.Ready) {declared : List Declaration}
    {blueprints : List Blueprint} (denoted : Denotes policy declared blueprints)
    (consistent : Consistent blueprints) {k : Nat} {after : Kernel}
    (done : (execute policy ((kernel.pending (blueprints.flatMap building)).take k)).outcome plane
      kernel = (.ok (), after))
    (view : after.InView) (few : after.lastIndex < slotBound) (handles requests : Nat) :
    ((planUp policy declared).outcome plane (after.tally handles requests)).1 =
      .ok ((kernel.pending (blueprints.flatMap building)).drop k) := by
  have grown := extends_of_execute ready (fun action member =>
    builds_of_mem_flatMap (List.mem_filter.mp (List.mem_of_mem_take member)).1) done few
  have left := pending_execute ready (led_flatMap_building blueprints) consistent.nodup_building
    (fun _ member => builds_of_mem_flatMap member) done view few
  obtain ⟨more, planned⟩ := outcome_planUp ((grown.ready ready few).tally handles requests) denoted
  rw [planned, pending_tally, left]

/-- Planning again after the first steps of a plan gives exactly the steps that were not taken: none
after the whole plan, and the failed one with all after it where a step failed. The links inserted
by the plan itself count towards the bound on indices. -/
theorem resume {config : Config} (reached : kernel.Reachable)
    (granted : kernel.refusesHandles = false) (quiet : kernel.vanishing = [])
    (few : kernel.lastIndex < slotBound) (accepted : config.validate = .ok ()) :
    ∃ plan planned,
      (planUp config.policy config.bridges).outcome plane kernel = (.ok plan, planned) ∧
      (∀ k after,
        (execute config.policy (plan.take k)).outcome plane planned = (.ok (), after) →
        after.InView → after.lastIndex < slotBound →
        ((planUp config.policy config.bridges).outcome plane after).1 = .ok (plan.drop k)) ∧
      (∀ after, (execute config.policy plan).outcome plane planned = (.ok (), after) →
        after.InView → after.lastIndex < slotBound →
        ((planUp config.policy config.bridges).outcome plane after).1 = .ok []) ∧
      ∀ cause after, (execute config.policy plan).outcome plane planned = (.error cause, after) →
        after.InView → after.lastIndex < slotBound →
        ∃ k, ∃ inside : k < plan.length, ∃ middle,
          (execute config.policy (plan.take k)).outcome plane planned = (.ok (), middle) ∧
          (perform config.policy plan[k]).outcome plane middle = (.error cause, after) ∧
          ((planUp config.policy config.bridges).outcome plane after).1 = .ok (plan.drop k) := by
  have ready : kernel.Ready := ⟨reached.wellFormed, granted, quiet, few⟩
  obtain ⟨-, blueprints, denoted, consistent⟩ := Config.validate_eq_ok_iff.mp accepted
  obtain ⟨handles, made⟩ := outcome_planUp ready denoted
  have again (k : Nat) (after : Kernel)
      (done : (execute config.policy ((kernel.pending (blueprints.flatMap building)).take k)).outcome
        plane (kernel.tally handles 0) = (.ok (), after))
      (view : after.InView) (few : after.lastIndex < slotBound) (handles requests : Nat) :
      ((planUp config.policy config.bridges).outcome plane (after.tally handles requests)).1 =
        .ok ((kernel.pending (blueprints.flatMap building)).drop k) :=
    replan_execute (ready.tally _ 0) denoted consistent done view few handles requests
  refine ⟨_, _, made, fun k after done view few => again k after done view few 0 0, ?_, ?_⟩
  · intro after done view few
    have whole := again (kernel.pending (blueprints.flatMap building)).length after
      (by rwa [List.take_length]) view few 0 0
    rwa [List.drop_length] at whole
  · intro cause after failed view few
    obtain ⟨k, inside, middle, done, stuck⟩ := execute_error plane _ failed
    refine ⟨k, inside, middle, done, stuck, ?_⟩
    have bound : middle.lastIndex < slotBound := by
      have monotone := lastIndex_le_outcome middle
        (perform config.policy (kernel.pending (blueprints.flatMap building))[k])
      rw [stuck] at monotone
      exact Nat.lt_of_le_of_lt monotone few
    -- The failed step changed no more than counts, so planning sees the table before it.
    have grown := extends_of_execute (ready.tally handles 0) (fun action member =>
      builds_of_mem_flatMap (List.mem_filter.mp (List.mem_of_mem_take member)).1) done bound
    have readyMiddle := grown.ready (ready.tally handles 0) bound
    obtain ⟨taken, asked, rfl⟩ := perform_harmless readyMiddle.granted _ cause after stuck
    exact again k middle done ⟨view.bridges, view.ports⟩ bound taken asked

/-- Once the bridge is created, its member and its state are what is left to plan. -/
theorem resume_once_created :
    ((planUp .truncate [⟨"br0", ["eth0"], true⟩]).outcome plane
      ((execute .truncate [.createBridge "br0"]).outcome plane
        ((planUp .truncate [⟨"br0", ["eth0"], true⟩]).outcome plane
          (Kernel.new.after [.happen (.addLink "eth0")])).2).2).1 =
      .ok [.addMember "br0" "eth0", .linkUp "br0"] := by
  obtain ⟨plan, planned, made, again, -⟩ := resume
    (Reachable.new.after [.happen (.addLink "eth0")]) rfl rfl (by decide)
    (by decide +kernel :
      Config.validate ⟨.truncate, "info", [⟨"br0", ["eth0"], true⟩]⟩ = .ok ())
  obtain rfl : _ = planned := congrArg Prod.snd made
  obtain rfl : [.createBridge "br0", .addMember "br0" "eth0", .linkUp "br0"] = plan := by
    have steps : ((planUp .truncate [⟨"br0", ["eth0"], true⟩]).outcome plane
        (Kernel.new.after [.happen (.addLink "eth0")])).1 =
        .ok [.createBridge "br0", .addMember "br0" "eth0", .linkUp "br0"] := by decide +kernel
    exact Except.ok.inj (steps.symm.trans (congrArg Prod.fst made))
  exact again 1 _ (by decide +kernel) ⟨by decide +kernel, by decide +kernel⟩ (by decide +kernel)

/-- The first index that a slot shows as negative hides its bridge. -/
theorem replans_bridge_without_slot : ∃ planned after,
    (planUp .truncate [⟨"br0", [], false⟩]).outcome plane
      { Kernel.new with lastIndex := 2147483647 } = (.ok [.createBridge "br0"], planned) ∧
    (execute .truncate [.createBridge "br0"]).outcome plane planned = (.ok (), after) ∧
    after.InView ∧
    ((planUp .truncate [⟨"br0", [], false⟩]).outcome plane after).1 =
      .ok [.createBridge "br0"] := by
  refine ⟨_, _, Prod.ext ?_ rfl, Prod.ext ?_ rfl, ⟨?_, ?_⟩, ?_⟩
  all_goals decide +kernel

/-- The first number that a listing does not reach hides its port. -/
theorem replans_member_without_slot : ∃ planned after,
    (planUp .truncate [⟨"br0", ["eth1"], false⟩]).outcome plane (packed 1023) =
      (.ok [.addMember "br0" "eth1"], planned) ∧
    (execute .truncate [.addMember "br0" "eth1"]).outcome plane planned = (.ok (), after) ∧
    ((planUp .truncate [⟨"br0", ["eth1"], false⟩]).outcome plane after).1 =
      .ok [.addMember "br0" "eth1"] := by
  let br0 : IfName := ⟨"br0", by decide, by decide, by decide⟩
  let eth1 : IfName := ⟨"eth1", by decide, by decide, by decide⟩
  have denoted : Denotes .truncate [⟨"br0", ["eth1"], false⟩] [⟨br0, [eth1], false⟩] :=
    .cons ⟨by decide, .cons (by decide) .nil, rfl⟩ .nil
  have valid := (Reachable.packed 1023 (by decide)).wellFormed
  have ready : (packed 1023).Ready := ⟨valid, rfl, rfl, by decide⟩
  obtain ⟨handles, made⟩ := outcome_planUp ready denoted
  have steps : (packed 1023).pending ([⟨br0, [eth1], false⟩].flatMap building) =
      [.addMember "br0" "eth1"] := by decide +kernel
  have planned := ready.tally handles 0
  have number : ((packed 1023).tally handles 0).freeNumber 2 = enumSlots := freeNumber_packed 1023
  have joined : (perform .truncate (.addMember "br0" "eth1")).outcome plane
      ((packed 1023).tally handles 0) = (.ok (), (((packed 1023).tally handles 0).modify 3
        (Link.attached · 2 enumSlots)).tally 1 1) :=
    number ▸ @perform_addMember_ok _ .truncate rfl planned.valid br0 eth1
      (Link.fresh 2 "br0" true) (Link.fresh 3 "eth1" false) rfl rfl rfl (by decide) (by decide) rfl
  have grown := (extends_of_perform planned (.addMember br0 eth1) joined).ready planned ready.few
  obtain ⟨more, again⟩ := outcome_planUp grown denoted
  have left : ((packed 1023).modify 3 (Link.attached · 2 enumSlots)).pending
      ([⟨br0, [eth1], false⟩].flatMap building) = [.addMember "br0" "eth1"] := by decide +kernel
  exact ⟨_, _, steps ▸ made, (execute_cons_ok_iff plane _).mpr ⟨_, joined, rfl⟩,
    (congrArg Prod.fst again).trans (congrArg Except.ok left)⟩

/-- A bound on the links before the plan is not enough, nor is success: what the plan adds past the
bound, or past what listings show, is planned again. -/
theorem resume_unbounded :
    (¬ ∀ (kernel : Kernel) (config : Config), kernel.Reachable → kernel.refusesHandles = false →
      kernel.vanishing = [] → kernel.lastIndex < slotBound → config.validate = .ok () →
      ∃ plan planned,
        (planUp config.policy config.bridges).outcome plane kernel = (.ok plan, planned) ∧
        ∀ k after, (execute config.policy (plan.take k)).outcome plane planned = (.ok (), after) →
          after.InView →
          ((planUp config.policy config.bridges).outcome plane after).1 = .ok (plan.drop k)) ∧
    ¬ ∀ (kernel : Kernel) (config : Config), kernel.Reachable → kernel.refusesHandles = false →
      kernel.vanishing = [] → kernel.lastIndex + config.bridges.length < slotBound →
      config.validate = .ok () →
      ∃ plan planned,
        (planUp config.policy config.bridges).outcome plane kernel = (.ok plan, planned) ∧
        ∀ after, (execute config.policy plan).outcome plane planned = (.ok (), after) →
          ((planUp config.policy config.bridges).outcome plane after).1 = .ok [] := by
  constructor
  · intro law
    obtain ⟨planned, after, made, done, view, left⟩ := replans_bridge_without_slot
    obtain ⟨plan, start, found, again⟩ := law { Kernel.new with lastIndex := 2147483647 }
      ⟨.truncate, "info", [⟨"br0", [], false⟩]⟩ (Reachable.aged 2147483646) rfl rfl (by decide)
      (by decide +kernel)
    obtain ⟨⟨⟩, rfl⟩ := Prod.mk.inj (made.symm.trans found)
    cases left.symm.trans (again 1 after done view)
  · intro law
    obtain ⟨planned, after, made, done, left⟩ := replans_member_without_slot
    obtain ⟨plan, start, found, again⟩ := law (packed 1023)
      ⟨.truncate, "info", [⟨"br0", ["eth1"], false⟩]⟩ (Reachable.packed 1023 (by decide)) rfl rfl
      (by decide) (by decide +kernel)
    obtain ⟨⟨⟩, rfl⟩ := Prod.mk.inj (made.symm.trans found)
    cases left.symm.trans (again after done)

end Topology

end NetBridge
