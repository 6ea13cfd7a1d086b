import NetBridge.Proofs.Topology.Difference
import NetBridge.Proofs.Topology.Steps

namespace NetBridge

/-- The steps that build bridges. -/
inductive Action.Builds : Action → Prop where
  | createBridge (bridge : IfName) : Builds (.createBridge bridge.text)
  | addMember (bridge iface : IfName) : Builds (.addMember bridge.text iface.text)
  | linkUp (name : IfName) : Builds (.linkUp name.text)

theorem Blueprint.builds_of_mem {blueprint : Blueprint} {action : Action}
    (member : action ∈ blueprint.building) : action.Builds := by
  rcases List.mem_append.mp member with early | late
  · rcases List.mem_cons.mp early with rfl | adding
    · exact .createBridge blueprint.name
    · obtain ⟨iface, -, rfl⟩ := List.mem_map.mp adding
      exact .addMember blueprint.name iface
  · split at late
    · obtain rfl := List.mem_singleton.mp late
      exact .linkUp blueprint.name
    · cases late

namespace Kernel

/-- A kernel to which bridges and ports were added, and nothing else changed that the operations
depend on. -/
structure Extends (before after : Kernel) : Prop where
  valid : after.WellFormed
  granted : after.refusesHandles = before.refusesHandles
  quiet : after.vanishing = before.vanishing
  last : before.lastIndex ≤ after.lastIndex
  bridges : before.bridges.length ≤ after.bridges.length
  ports : ∀ link ∈ before.links, ∃ other ∈ after.links, link.portNo ≤ other.portNo

namespace Extends

variable {kernel middle after : Kernel}

theorem refl (valid : kernel.WellFormed) : Extends kernel kernel :=
  ⟨valid, rfl, rfl, Nat.le_refl _, Nat.le_refl _, fun link member => ⟨link, member, Nat.le_refl _⟩⟩

theorem trans (first : Extends kernel middle) (second : Extends middle after) :
    Extends kernel after where
  valid := second.valid
  granted := second.granted.trans first.granted
  quiet := second.quiet.trans first.quiet
  last := Nat.le_trans first.last second.last
  bridges := Nat.le_trans first.bridges second.bridges
  ports link member := by
    obtain ⟨port, live, le⟩ := first.ports link member
    obtain ⟨other, alive, further⟩ := second.ports port live
    exact ⟨other, alive, Nat.le_trans le further⟩

theorem tally (extended : Extends kernel after) (handles requests : Nat) :
    Extends kernel (after.tally handles requests) :=
  ⟨extended.valid.congr rfl rfl, extended.granted, extended.quiet, extended.last,
    extended.bridges, extended.ports⟩

theorem ready (extended : Extends kernel after) (ready : kernel.Ready)
    (few : after.lastIndex < slotBound) : after.Ready :=
  ⟨extended.valid, extended.granted.trans ready.granted, extended.quiet.trans ready.quiet, few⟩

theorem inView (extended : Extends kernel after) (view : after.InView) : kernel.InView where
  bridges := Nat.le_trans extended.bridges view.bridges
  ports link member := by
    obtain ⟨other, live, le⟩ := extended.ports link member
    exact Nat.lt_of_le_of_lt le (view.ports other live)

theorem insert (valid : kernel.WellFormed) {name : String} (free : kernel.find? name = none) :
    Extends kernel (kernel.insert name true) where
  valid := valid.insert fun _ => free
  granted := rfl
  quiet := rfl
  last := Nat.le_succ _
  bridges := by
    rw [bridges_insert, List.length_append]
    exact Nat.le_add_right _ _
  ports link member := ⟨link, List.mem_append_left _ member, Nat.le_refl _⟩

theorem change {f : Link → Link} (keeps : Link.Keeps f) (valid : (kernel.change f).WellFormed)
    (grows : ∀ link ∈ kernel.links, link.portNo ≤ (f link).portNo) :
    Extends kernel (kernel.change f) where
  valid := valid
  granted := rfl
  quiet := rfl
  last := Nat.le_refl _
  bridges := by
    have same : (kernel.change f).bridges.length = kernel.bridges.length := by
      rw [bridges_change keeps, List.length_map]
    exact Nat.le_of_eq same.symm
  ports link member := ⟨f link, List.mem_map_of_mem member, grows link member⟩

end Extends

end Kernel

namespace Topology

open Blueprint Control Kernel

variable {kernel after : Kernel} {policy : NamePolicy} {action : Action}

theorem extends_of_perform (ready : kernel.Ready) (builds : action.Builds)
    (done : (perform policy action).outcome plane kernel = (.ok (), after)) :
    Extends kernel after := by
  cases builds with
  | createBridge bridge =>
    obtain ⟨free, rfl⟩ := (perform_createBridge_ok_iff ready.granted).mp done
    exact (Extends.insert ready.valid free).tally 1 1
  | addMember bridge iface =>
    obtain ⟨owner, link, found, kind, here, other, free, rfl⟩ :=
      (perform_addMember_ok_iff ready).mp done
    have valid := ready.valid.modify_attached (mem_of_find? found) kind other
      (freeNumber_pos kernel owner.index) (freeNumber_unused kernel owner.index)
    refine Extends.tally (Extends.change ((Link.Keeps.attached _ _).only _) valid ?_) 1 1
    intro port member
    by_cases same : port.index = link.index
    · obtain rfl := ready.valid.eq_of_index member (mem_of_find? here) same
      rw [((ready.valid.sound port member).portNo_eq_zero_iff).mpr free]
      exact Nat.zero_le _
    · exact Nat.le_of_eq (congrArg Link.portNo (Link.only_of_ne same)).symm
  | linkUp name =>
    obtain ⟨link, found, rfl⟩ := (setLinkUp_ok_iff ready.granted).mp done
    split
    · exact (Extends.refl ready.valid).tally 1 0
    · have valid := ready.valid.modify_flags link.index (link.flags.setUp true)
      refine Extends.tally (Extends.change ((Link.Keeps.flagged _).only _) valid ?_) 1 1
      intro port member
      unfold Link.only
      split
      · exact Nat.le_refl _
      · exact Nat.le_refl _

/-- A step leaves what other steps bring about as it is to be seen. -/
theorem achieved_perform_of_ne (ready : kernel.Ready) (builds : action.Builds)
    (done : (perform policy action).outcome plane kernel = (.ok (), after))
    (fits : after.bridges.length ≤ enumSlots) {other : Action} (likewise : other.Builds)
    (different : other ≠ action) : after.Achieved other ↔ kernel.Achieved other := by
  cases builds with
  | createBridge bridge =>
    obtain ⟨free, rfl⟩ := (perform_createBridge_ok_iff ready.granted).mp done
    have room : kernel.bridges.length < enumSlots := by
      rw [bridges_tally, bridges_insert, List.length_append] at fits
      exact fits
    cases likewise with
    | createBridge name =>
      refine (showsBridge_insert room).trans (or_iff_left fun same => different ?_)
      rw [same]
    | addMember name iface => exact showsPort_insert room ready.valid
    | linkUp name => exact showsUp_insert room
  | addMember bridge iface =>
    obtain ⟨owner, link, found, kind, here, -, free, rfl⟩ :=
      (perform_addMember_ok_iff ready).mp done
    cases likewise with
    | createBridge name => exact showsBridge_attached
    | addMember name port =>
      refine (showsPort_attached ready.valid (mem_of_find? found) kind (mem_of_find? here)
        free).trans (or_iff_left ?_)
      rintro ⟨-, sameBridge, samePort, -⟩
      rw [name_of_find? found] at sameBridge
      rw [name_of_find? here] at samePort
      exact different (by rw [sameBridge, samePort])
    | linkUp name => exact showsUp_attached
  | linkUp name =>
    obtain ⟨link, found, rfl⟩ := (setLinkUp_ok_iff ready.granted).mp done
    split
    · exact Iff.rfl
    · cases likewise with
      | createBridge bridge => exact showsBridge_flagged
      | addMember bridge port => exact showsPort_flagged
      | linkUp bridge =>
        have named := name_of_find? found
        rw [← named] at found
        refine (showsUp_raised ready.valid found (LinkFlags.isUp_setUp _ true)).trans
          (or_iff_left ?_)
        rintro ⟨-, same⟩
        exact different (by rw [same, named])

/-- A step's own effect is to be seen, where nothing is beyond the listings. Bringing up a link
shows only if the link is a bridge that is listed. -/
theorem achieved_perform_self (ready : kernel.Ready) (builds : action.Builds)
    (done : (perform policy action).outcome plane kernel = (.ok (), after)) (view : after.InView)
    (led : ∀ name, action = .linkUp name → kernel.ShowsBridge name) : after.Achieved action := by
  cases builds with
  | createBridge bridge =>
    obtain ⟨free, rfl⟩ := (perform_createBridge_ok_iff ready.granted).mp done
    exact showsBridge_of_find? view.bridges (find?_insert_self free true) rfl
  | addMember bridge iface =>
    have grown := extends_of_perform ready (.addMember bridge iface) done
    obtain ⟨owner, link, found, kind, here, -, free, rfl⟩ :=
      (perform_addMember_ok_iff ready).mp done
    have shown := showsBridge_of_find? (Nat.le_trans grown.bridges view.bridges) found kind
    have number := view.ports _ (List.mem_map_of_mem (mem_of_find? here))
    rw [if_pos rfl] at number
    exact (showsPort_attached ready.valid (mem_of_find? found) kind (mem_of_find? here) free).mpr
      (.inr ⟨shown, (name_of_find? found).symm, (name_of_find? here).symm, number⟩)
  | linkUp name =>
    obtain ⟨link, found, rfl⟩ := (setLinkUp_ok_iff ready.granted).mp done
    have shown := led _ rfl
    obtain ⟨bridge, listed, named, same, -⟩ := shown.found ready.valid
    obtain rfl := Option.some.inj (found.symm.trans same)
    split
    · next up => exact ⟨link, listed, named, up⟩
    · have found' : kernel.find? link.name = some link := named ▸ found
      exact (showsUp_raised ready.valid found' (LinkFlags.isUp_setUp _ true)).mpr
        (.inr ⟨shown, named.symm⟩)

/-- The step lemma: taking the first step that is still to be taken leaves the others, in order. -/
theorem pending_perform (ready : kernel.Ready) {actions rest : List Action}
    (led : Led actions) (distinct : actions.Nodup) (builds : ∀ action ∈ actions, action.Builds)
    (next : kernel.pending actions = action :: rest)
    (done : (perform policy action).outcome plane kernel = (.ok (), after))
    (view : after.InView) : after.pending actions = rest := by
  obtain ⟨before, later, split, achieved, missing, others⟩ := List.filter_eq_cons_iff.mp next
  subst split
  have self : action.Builds := builds action (by simp)
  have unchanged (other : Action) (member : other ∈ before ++ action :: later)
      (different : other ≠ action) : after.Achieved other ↔ kernel.Achieved other :=
    achieved_perform_of_ne ready self done view.bridges (builds other member) different
  -- A bridge is raised after the step that creates it, whose effect is to be seen by now.
  have shown (name : String) (raising : action = .linkUp name) : kernel.ShowsBridge name := by
    have created : kernel.Achieved (.createBridge name) := by
      simpa using achieved _ (led before name later (by rw [raising]))
    exact created
  have effect := achieved_perform_self ready self done view shown
  obtain ⟨-, tail, apart⟩ := List.nodup_append.mp distinct
  obtain ⟨once, -⟩ := List.nodup_cons.mp tail
  rw [pending_append]
  have early : after.pending before = [] := by
    refine List.filter_eq_nil_iff.mpr fun other member => ?_
    have still := unchanged other (List.mem_append_left _ member)
      (apart other member action (List.mem_cons_self ..))
    have before := achieved other member
    simpa [still] using before
  have late : after.pending later = kernel.pending later := by
    refine List.filter_congr fun other member => ?_
    have still := unchanged other (List.mem_append_right _ (List.mem_cons_of_mem _ member))
      (fun same => once (same ▸ member))
    simp only [still]
  rw [early, List.nil_append, ← others]
  simpa [pending, effect] using late

theorem extends_of_execute (ready : kernel.Ready) {actions : List Action}
    (builds : ∀ action ∈ actions, action.Builds)
    (done : (execute policy actions).outcome plane kernel = (.ok (), after))
    (few : after.lastIndex < slotBound) : Extends kernel after := by
  induction actions generalizing kernel with
  | nil =>
    obtain rfl := congrArg Prod.snd done
    exact .refl ready.valid
  | cons action rest ih =>
    obtain ⟨middle, step, later⟩ := (execute_cons_ok_iff plane kernel).mp done
    have grown := extends_of_perform ready (builds action (List.mem_cons_self ..)) step
    have bound : middle.lastIndex ≤ after.lastIndex := by
      have monotone := lastIndex_le_outcome middle (execute policy rest)
      rwa [later] at monotone
    have readyMiddle := grown.ready ready (Nat.lt_of_le_of_lt bound few)
    exact grown.trans (ih readyMiddle (fun other member =>
      builds other (List.mem_cons_of_mem _ member)) later)

theorem achieved_execute_of_not_mem (ready : kernel.Ready) {actions : List Action}
    (builds : ∀ action ∈ actions, action.Builds)
    (done : (execute policy actions).outcome plane kernel = (.ok (), after))
    (few : after.lastIndex < slotBound) (fits : after.bridges.length ≤ enumSlots)
    {other : Action} (likewise : other.Builds) (absent : other ∉ actions) :
    after.Achieved other ↔ kernel.Achieved other := by
  induction actions generalizing kernel with
  | nil =>
    obtain rfl := congrArg Prod.snd done
    exact Iff.rfl
  | cons action rest ih =>
    obtain ⟨middle, step, later⟩ := (execute_cons_ok_iff plane kernel).mp done
    obtain ⟨self, others⟩ := List.forall_mem_cons.mp builds
    have grown := extends_of_perform ready self step
    have bound : middle.lastIndex ≤ after.lastIndex := by
      have monotone := lastIndex_le_outcome middle (execute policy rest)
      rwa [later] at monotone
    have readyMiddle := grown.ready ready (Nat.lt_of_le_of_lt bound few)
    have further := extends_of_execute readyMiddle others later few
    exact (ih readyMiddle others later (List.not_mem_of_not_mem_cons absent)).trans
      (achieved_perform_of_ne ready self step (Nat.le_trans further.bridges fits) likewise
        (List.ne_of_not_mem_cons absent))

/-- The run lemma: after the first `k` of the steps still to be taken, what is still to be taken is
the rest of them. -/
theorem pending_execute (ready : kernel.Ready) {actions : List Action} (led : Led actions)
    (distinct : actions.Nodup) (builds : ∀ action ∈ actions, action.Builds) {k : Nat}
    (done : (execute policy ((kernel.pending actions).take k)).outcome plane kernel =
      (.ok (), after))
    (view : after.InView) (few : after.lastIndex < slotBound) :
    after.pending actions = (kernel.pending actions).drop k := by
  induction k generalizing kernel with
  | zero =>
    obtain rfl := congrArg Prod.snd done
    rfl
  | succ k ih =>
    cases next : kernel.pending actions with
    | nil =>
      rw [next] at done
      obtain rfl := congrArg Prod.snd done
      exact next
    | cons action rest =>
      rw [next, List.take_succ_cons] at done
      obtain ⟨middle, step, later⟩ := (execute_cons_ok_iff plane kernel).mp done
      have planned : ∀ other ∈ kernel.pending actions, other.Builds :=
        fun other member => builds other (List.mem_filter.mp member).1
      rw [next] at planned
      have grown := extends_of_perform ready (planned action (List.mem_cons_self ..)) step
      -- No index is given back, so the bound at the end holds of every state on the way.
      have bound : middle.lastIndex ≤ after.lastIndex := by
        have monotone := lastIndex_le_outcome middle (execute policy (rest.take k))
        rwa [later] at monotone
      have readyMiddle := grown.ready ready (Nat.lt_of_le_of_lt bound few)
      have further := extends_of_execute readyMiddle (fun other member =>
        planned other (List.mem_cons_of_mem _ (List.mem_of_mem_take member))) later few
      have left := pending_perform ready led distinct builds next step (further.inView view)
      rw [← left] at later
      rw [ih readyMiddle later, left, List.drop_succ_cons]

end Topology

end NetBridge
