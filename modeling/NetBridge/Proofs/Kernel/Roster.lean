import NetBridge.Proofs.Kernel.Listing
import NetBridge.Proofs.Kernel.Origin
import NetBridge.Proofs.Kernel.Turns

/-! The bridges of a kernel as an ordered set of names. What a session asked and was answered tells
which bridges were created and not deleted or removed since; the link table holds exactly these, in
the order of their creation, and the bridge listing shows the first of them. -/

namespace NetBridge

/-- Bridges by name, oldest first, with the names of the links that are about to disappear. -/
structure Roster where
  names : List String
  vanishing : List String
deriving DecidableEq, Repr

namespace Roster

def enter (roster : Roster) (name : String) : Roster :=
  { roster with names := roster.names ++ [name] }

def strike (roster : Roster) (name : String) : Roster :=
  { roster with names := roster.names.filter fun other => other ≠ name }

def settle (roster : Roster) : Roster :=
  ⟨roster.names.filter fun name => name ∉ roster.vanishing, []⟩

/-- The roster once a call was answered. A refusal says nothing about it. -/
def heard (roster : Roster) : (call : Call) → call.Answer → Roster
  | .request _ (.addBridge name), .ok _ => roster.enter name.text
  | .request _ (.deleteBridge name), .ok _ => roster.strike name.text
  | .request _ (.bridgeIndices _), .ok _ => roster.settle
  | .request _ (.portIndices _ _), .ok _ => roster.settle
  | _, _ => roster

def step (roster : Roster) : Step → Roster
  | .asked call answer => roster.heard call answer
  | .logged _ => roster

def turn (roster : Roster) : Turn → Roster
  | ⟨.operate _ _, _, steps⟩ => steps.foldl step roster
  | ⟨.happen (.call call), answer, _⟩ => roster.heard call answer
  | ⟨.happen (.removeLink name), _, _⟩ => roster.strike name
  | ⟨.happen (.vanishDuringListing name), _, _⟩ =>
    { roster with vanishing := roster.vanishing ++ [name] }
  | _ => roster

/-- The roster of a session from the start: the bridges created and not since deleted or removed. -/
def after (moves : List Move) : Roster := (Kernel.turns moves .new).foldl turn ⟨[], []⟩

end Roster

namespace Kernel

open Control

variable {kernel : Kernel} {policy : NamePolicy}

/-- The roster that the link table holds. -/
def roster (kernel : Kernel) : Roster := ⟨kernel.bridges.map Link.name, kernel.vanishing⟩

@[simp] theorem roster_tally (kernel : Kernel) (handles requests : Nat) :
    (kernel.tally handles requests).roster = kernel.roster := rfl

theorem roster_insert_bridge (kernel : Kernel) (name : String) :
    (kernel.insert name true).roster = kernel.roster.enter name := by
  rw [roster, bridges_insert, if_pos rfl, List.map_append]
  rfl

theorem roster_insert_link (kernel : Kernel) (name : String) :
    (kernel.insert name false).roster = kernel.roster := by
  rw [roster, bridges_insert, if_neg Bool.false_ne_true, List.append_nil]
  rfl

theorem roster_change {f : Link → Link} (keeps : Link.Keeps f) (kernel : Kernel) :
    (kernel.change f).roster = kernel.roster := by
  have same : Link.name ∘ f = Link.name := funext keeps.name
  rw [roster, bridges_change keeps, List.map_map, same]
  rfl

/-- Removing a link by its name takes away the bridge of that name, if there is one: a bridge is the
link its name is looked up to, and no bridge has the name of a plain link that is. -/
theorem WellFormed.bridges_removeLink (valid : kernel.WellFormed) (name : String) :
    (kernel.removeLink name).bridges = kernel.bridges.filter fun bridge => bridge.name ≠ name := by
  unfold Kernel.removeLink
  cases found : kernel.find? name with
  | none =>
    refine (List.filter_eq_self.mpr fun bridge member => ?_).symm
    have other := find?_eq_none_iff.mp found bridge (mem_bridges.mp member).1
    simpa using other
  | some link =>
    have apart : ∀ bridge ∈ kernel.bridges, bridge.index ≠ link.index ↔ bridge.name ≠ name := by
      intro bridge member
      obtain ⟨live, kind⟩ := mem_bridges.mp member
      apply not_congr
      constructor
      · intro same
        obtain rfl := valid.eq_of_index live (mem_of_find? found) same
        exact name_of_find? found
      · rintro rfl
        have itself := valid.find?_bridge bridge live kind
        exact congrArg Link.index (Option.some.inj (itself.symm.trans found))
    have kept : (kernel.erase link.index).bridges =
        kernel.bridges.filter fun bridge => bridge.index ≠ link.index := by
      simp only [bridges, Kernel.erase, List.filter_filter, Bool.and_comm]
    rw [kept]
    refine List.filter_congr fun bridge member => ?_
    rw [decide_eq_decide]
    exact apart bridge member

theorem WellFormed.roster_removeLink (valid : kernel.WellFormed) (name : String) :
    (kernel.removeLink name).roster = kernel.roster.strike name := by
  have kept : (kernel.removeLink name).vanishing = kernel.vanishing := by
    obtain ⟨left, -, removed⟩ := kernel.removeLink_eq name
    rw [removed]
  rw [roster, valid.bridges_removeLink, kept, Roster.strike, roster, List.filter_map]
  rfl

theorem WellFormed.bridges_vanish (valid : kernel.WellFormed) :
    kernel.vanish.bridges = kernel.bridges.filter fun bridge => bridge.name ∉ kernel.vanishing := by
  have dropped (names : List String) : (names.foldl Kernel.removeLink kernel).bridges =
      kernel.bridges.filter fun bridge => bridge.name ∉ names := by
    induction names generalizing kernel with
    | nil => exact (List.filter_eq_self.mpr fun _ _ => rfl).symm
    | cons name rest ih =>
      rw [List.foldl_cons, ih (valid.removeLink name), valid.bridges_removeLink, List.filter_filter]
      refine List.filter_congr fun bridge _ => ?_
      simp only [List.mem_cons, not_or, Bool.decide_and, Bool.and_comm]
  exact dropped kernel.vanishing

theorem WellFormed.roster_vanish (valid : kernel.WellFormed) :
    kernel.vanish.roster = kernel.roster.settle := by
  rw [roster, valid.bridges_vanish, Roster.settle, roster, List.filter_map]
  rfl

theorem WellFormed.roster_deleteBridge (valid : kernel.WellFormed) {name : String} {link : Link}
    (found : kernel.find? name = some link) :
    ((kernel.erase link.index).detachAll link.index).roster = kernel.roster.strike name := by
  have removed := valid.roster_removeLink name
  rw [Kernel.removeLink, found] at removed
  rw [detachAll_eq_change, roster_change (Link.Keeps.freed link.index)]
  exact removed

/-- A refused request leaves the roster; a granted one does to it what is told. -/
theorem roster_mutate {change : Kernel → Except Errno Kernel} (told : Except Errno Unit → Roster)
    (granted : ∀ after, change kernel.countMutation = .ok after → after.roster = told (.ok ()))
    (refused : ∀ cause, kernel.roster = told (.error cause)) :
    (kernel.mutate change).2.roster = told (kernel.mutate change).1 := by
  rcases kernel.mutate_cases change with ⟨after, done, mutated⟩ | ⟨cause, -, mutated⟩
  · rw [mutated]
    exact granted after done
  · rw [mutated]
    exact refused cause

theorem WellFormed.roster_request (valid : kernel.WellFormed) (handle : Handle) (request : Request) :
    (kernel.answer (.request handle request)).2.roster =
      kernel.roster.heard (.request handle request)
        (kernel.answer (.request handle request)).1 := by
  have counted : kernel.countMutation.WellFormed := valid.congr rfl rfl
  cases request with
  | addBridge name =>
    refine roster_mutate (kernel.roster.heard (.request handle (.addBridge name))) ?_ fun _ => rfl
    intro after granted
    obtain ⟨-, rfl⟩ := addBridge_eq_ok_iff.mp granted
    exact roster_insert_bridge _ _
  | deleteBridge name =>
    refine roster_mutate (kernel.roster.heard (.request handle (.deleteBridge name))) ?_ fun _ => rfl
    intro after granted
    obtain ⟨link, found, -, -, rfl⟩ := deleteBridge_eq_ok_iff.mp granted
    exact counted.roster_deleteBridge found
  | addPort bridge port =>
    refine roster_mutate (kernel.roster.heard (.request handle (.addPort bridge port))) ?_ fun _ => rfl
    intro after granted
    obtain ⟨owner, link, -, -, -, -, -, rfl⟩ := addPort_eq_ok_iff.mp granted
    exact roster_change ((Link.Keeps.attached _ _).only _) _
  | deletePort bridge port =>
    refine roster_mutate (kernel.roster.heard (.request handle (.deletePort bridge port))) ?_
      fun _ => rfl
    intro after granted
    obtain ⟨owner, link, -, -, -, -, rfl⟩ := deletePort_eq_ok_iff.mp granted
    exact roster_change (Link.Keeps.detached.only _) _
  | bridgeIndices capacity => exact valid.roster_vanish
  | portIndices bridge capacity =>
    rcases kernel.portIndices_cases bridge capacity with ⟨owner, -, done⟩ | ⟨cause, -, done⟩
    · rw [Kernel.answer, done]
      exact valid.roster_vanish
    · rw [Kernel.answer, done]
      rfl
  | linkFlags name =>
    rw [Kernel.answer, Kernel.answerRequest]
    cases kernel.linkFlags name.text <;> rfl
  | setLinkFlags name flags =>
    refine roster_mutate (kernel.roster.heard (.request handle (.setLinkFlags name flags))) ?_
      fun _ => rfl
    intro after granted
    obtain ⟨link, -, rfl⟩ := setLinkFlags_eq_ok_iff.mp granted
    exact roster_change ((Link.Keeps.flagged flags).only _) _

theorem WellFormed.roster_answer (valid : kernel.WellFormed) (call : Call) :
    (kernel.answer call).2.roster = kernel.roster.heard call (kernel.answer call).1 := by
  cases call with
  | acquire =>
    rcases kernel.acquire_cases with ⟨-, done⟩ | ⟨-, done⟩
    · rw [Kernel.answer, done]
      rfl
    · rw [Kernel.answer, done]
      rfl
  | release handle => rfl
  | request handle request => exact valid.roster_request handle request
  | nameToIndex name => rfl
  | indexToName index => rfl

theorem WellFormed.roster_run (valid : kernel.WellFormed) (d : Dialogue α) :
    (d.run plane kernel).state.roster =
      (d.run plane kernel).steps.foldl Roster.step kernel.roster := by
  induction d generalizing kernel with
  | done value => rfl
  | log event next ih => exact ih valid
  | ask call next ih =>
    have heard := valid.roster_answer call
    have later := ih (kernel.answer call).1 (valid.answer call)
    rw [heard] at later
    exact later

theorem WellFormed.roster_play (valid : kernel.WellFormed) (move : Move) :
    (kernel.play move).state.roster =
      kernel.roster.turn ⟨move, (kernel.play move).value, (kernel.play move).steps⟩ := by
  cases move with
  | operate policy intent => exact valid.roster_run _
  | happen incident =>
    cases incident with
    | call asked => exact valid.roster_answer asked
    | addLink name => exact roster_insert_link kernel name
    | removeLink name => exact valid.roster_removeLink name
    | vanishDuringListing name => rfl
    | refuseHandles refuse => rfl
    | isUp name => rfl

theorem Reachable.roster_after (reached : kernel.Reachable) (moves : List Move) :
    (kernel.after moves).roster = (turns moves kernel).foldl Roster.turn kernel.roster := by
  induction moves generalizing kernel with
  | nil => rfl
  | cons move rest ih =>
    have first := reached.wellFormed.roster_play move
    have later := ih (reached.move move)
    rw [first] at later
    exact later

/-- The link table holds the bridges that the session tells of. -/
theorem roster_after (moves : List Move) : (Kernel.new.after moves).roster = Roster.after moves :=
  Reachable.new.roster_after moves

theorem WellFormed.nodup_roster (valid : kernel.WellFormed) : kernel.roster.names.Nodup := by
  refine List.pairwise_map.mpr ((valid.ordered.filter Link.isBridge).imp_of_mem ?_)
  intro a b ha hb before same
  obtain ⟨liveA, kindA⟩ := mem_bridges.mp ha
  obtain ⟨liveB, kindB⟩ := mem_bridges.mp hb
  obtain rfl := valid.bridge_unique liveA liveB kindA kindB same
  exact Nat.lt_irrefl _ before

/-- A bridge is still there after the disappearances unless its name is among them. -/
theorem WellFormed.name_get?_vanish (valid : kernel.WellFormed) {bridge : Link}
    (member : bridge ∈ kernel.bridges) :
    (kernel.vanish.get? bridge.index).map Link.name =
      if bridge.name ∉ kernel.vanishing then some bridge.name else none := by
  have left : bridge ∈ kernel.vanish.links ↔ bridge.name ∉ kernel.vanishing := by
    have both := congrArg (bridge ∈ ·) valid.bridges_vanish
    simp only [mem_bridges, List.mem_filter, decide_eq_true_eq, (mem_bridges.mp member).1,
      (mem_bridges.mp member).2, and_true, true_and] at both
    exact both.to_iff
  split
  · next stays => rw [valid.vanish.get?_index (left.mpr stays), Option.map_some]
  · next gone =>
    cases found : kernel.vanish.get? bridge.index with
    | none => rfl
    | some other =>
      have live := links_vanish_subset kernel (mem_of_get? found)
      obtain rfl := valid.eq_of_index live (mem_bridges.mp member).1 (index_of_get? found)
      exact absurd (left.mp (mem_of_get? found)) gone

theorem outcome_listBridges_roster (granted : kernel.refusesHandles = false)
    (valid : kernel.WellFormed) (few : kernel.lastIndex < slotBound) :
    listBridges.outcome plane kernel =
      (.ok ((kernel.roster.names.take enumSlots).filter fun name => name ∉ kernel.roster.vanishing),
        kernel.vanish.tally 1 0) := by
  have shown : (kernel.shownBridges.filterMap fun link =>
      (kernel.vanish.get? link.index).map Link.name) =
      (kernel.roster.names.take enumSlots).filter fun name => name ∉ kernel.vanishing := by
    calc (kernel.shownBridges.filterMap fun link => (kernel.vanish.get? link.index).map Link.name)
      _ = kernel.shownBridges.filterMap
            ((Option.guard fun name => name ∉ kernel.vanishing) ∘ Link.name) := by
          refine List.filterMap_congr fun link member => ?_
          rw [valid.name_get?_vanish (List.mem_of_mem_take member)]
          simp only [Function.comp, Option.guard, decide_eq_true_eq]
      _ = (kernel.shownBridges.map Link.name).filter fun name => name ∉ kernel.vanishing := by
          rw [← List.filterMap_map, List.filterMap_eq_filter]
      _ = _ := by rw [shownBridges, List.map_take]; rfl
  rw [outcome_listBridges_vanish granted valid few, shown]
  rfl

theorem mem_take_append_singleton {names : List String} {name : String} (absent : name ∉ names)
    (count : Nat) : name ∈ (names ++ [name]).take count ↔ names.length < count := by
  have old : name ∉ names.take count := fun member => absent (List.mem_of_mem_take member)
  rw [List.take_append, List.mem_append, or_iff_right old]
  cases room : count - names.length with
  | zero => simpa using Nat.sub_eq_zero_iff_le.mp room
  | succ more => simpa using (by omega : names.length < count)

theorem mem_roster_of_find? {name : String} {bridge : Link} (found : kernel.find? name = some bridge)
    (kind : bridge.isBridge = true) : name ∈ kernel.roster.names :=
  List.mem_map.mpr ⟨bridge, mem_bridges.mpr ⟨mem_of_find? found, kind⟩, name_of_find? found⟩

theorem exists_createBridge_iff (granted : kernel.refusesHandles = false) (text : String) :
    (∃ after, (createBridge policy text).outcome plane kernel = (.ok (), after)) ↔
      ∃ name, IfName.ofText policy text = .ok name ∧
        ∀ link ∈ kernel.links, link.name ≠ name.text := by
  simp only [createBridge_ok_iff granted, find?_eq_none_iff]
  constructor
  · rintro ⟨after, name, named, free, -⟩
    exact ⟨name, named, free⟩
  · rintro ⟨name, named, free⟩
    exact ⟨_, name, named, free, rfl⟩

/-- A new bridge comes last, and is listed if there is room for it. -/
theorem roster_createBridge (granted : kernel.refusesHandles = false) (valid : kernel.WellFormed)
    {text : String} {name : IfName} {after : Kernel} (named : IfName.ofText policy text = .ok name)
    (created : (createBridge policy text).outcome plane kernel = (.ok (), after)) :
    after.roster = kernel.roster.enter name.text ∧
      (after.lastIndex < slotBound →
        ∃ shown later, listBridges.outcome plane after = (.ok shown, later) ∧
          (name.text ∈ shown ↔
            kernel.roster.names.length < enumSlots ∧ name.text ∉ kernel.roster.vanishing)) := by
  obtain ⟨other, same, free, rfl⟩ := (createBridge_ok_iff granted).mp created
  obtain rfl := Except.ok.inj (named.symm.trans same)
  have entered : ((kernel.insert name.text true).tally 1 1).roster = kernel.roster.enter name.text :=
    roster_insert_bridge kernel name.text
  refine ⟨entered, fun few => ⟨_, _, outcome_listBridges_roster granted ?_ few, ?_⟩⟩
  · exact (valid.insert fun _ => free).congr rfl rfl
  · have absent : name.text ∉ kernel.roster.names := by
      intro member
      obtain ⟨bridge, present, same⟩ := List.mem_map.mp member
      exact find?_eq_none_iff.mp free bridge (mem_bridges.mp present).1 same
    rw [entered, List.mem_filter, Roster.enter, mem_take_append_singleton absent, decide_eq_true_eq]

theorem exists_deleteBridge_iff (granted : kernel.refusesHandles = false) (text : String) :
    (∃ after, (Control.deleteBridge policy text).outcome plane kernel = (.ok (), after)) ↔
      ∃ name bridge, IfName.ofText policy text = .ok name ∧
        kernel.find? name.text = some bridge ∧ bridge.isBridge = true ∧
        bridge.flags.isUp = false := by
  simp only [deleteBridge_ok_iff granted]
  constructor
  · rintro ⟨after, name, bridge, named, found, kind, down, -⟩
    exact ⟨name, bridge, named, found, kind, down⟩
  · rintro ⟨name, bridge, named, found, kind, down⟩
    exact ⟨_, name, bridge, named, found, kind, down, rfl⟩

theorem roster_deleteBridge (granted : kernel.refusesHandles = false) (valid : kernel.WellFormed)
    {text : String} {name : IfName} {after : Kernel} (named : IfName.ofText policy text = .ok name)
    (deleted : (Control.deleteBridge policy text).outcome plane kernel = (.ok (), after)) :
    name.text ∈ kernel.roster.names ∧
      after.roster = ⟨kernel.roster.names.erase name.text, kernel.roster.vanishing⟩ := by
  obtain ⟨other, bridge, same, found, kind, -, rfl⟩ := (deleteBridge_ok_iff granted).mp deleted
  obtain rfl := Except.ok.inj (named.symm.trans same)
  refine ⟨mem_roster_of_find? found kind, ?_⟩
  have erased : kernel.roster.names.filter (fun other => other ≠ name.text) =
      kernel.roster.names.erase name.text := by
    rw [valid.nodup_roster.erase_eq_filter]
    refine List.filter_congr fun other _ => ?_
    rw [Bool.eq_iff_iff, decide_eq_true_iff, bne_iff_ne]
  rw [roster_tally, valid.roster_deleteBridge found, Roster.strike, erased]

/-- After any session, the bridges of the link table are those created and not since deleted or
removed, in the order of their creation. Where handles are granted, the listing succeeds and shows
the oldest that fit, less those that disappear meanwhile; a bridge can be created under any name that
no live link has, and comes last; and it can be deleted if it is down and its name is looked up to
it, and nothing else goes. -/
theorem listing_refines_roster (moves : List Move)
    (granted : (Kernel.new.after moves).refusesHandles = false)
    (few : (Kernel.new.after moves).lastIndex < slotBound) :
    let kernel := Kernel.new.after moves
    let roster := Roster.after moves
    kernel.roster = roster ∧ roster.names.Nodup ∧
    listBridges.outcome plane kernel =
      (.ok ((roster.names.take enumSlots).filter fun name => name ∉ roster.vanishing),
        kernel.vanish.tally 1 0) ∧
    (∀ policy text,
      ((∃ after, (createBridge policy text).outcome plane kernel = (.ok (), after)) ↔
        ∃ name, IfName.ofText policy text = .ok name ∧
          ∀ link ∈ kernel.links, link.name ≠ name.text) ∧
      ∀ name after, IfName.ofText policy text = .ok name →
        (createBridge policy text).outcome plane kernel = (.ok (), after) →
        after.roster = ⟨roster.names ++ [name.text], roster.vanishing⟩ ∧
        (after.lastIndex < slotBound →
          ∃ shown later, listBridges.outcome plane after = (.ok shown, later) ∧
            (name.text ∈ shown ↔
              roster.names.length < enumSlots ∧ name.text ∉ roster.vanishing))) ∧
    ∀ policy text,
      ((∃ after, (Control.deleteBridge policy text).outcome plane kernel = (.ok (), after)) ↔
        ∃ name bridge, IfName.ofText policy text = .ok name ∧
          kernel.find? name.text = some bridge ∧ bridge.isBridge = true ∧
          bridge.flags.isUp = false) ∧
      ∀ name after, IfName.ofText policy text = .ok name →
        (Control.deleteBridge policy text).outcome plane kernel = (.ok (), after) →
        name.text ∈ roster.names ∧
          after.roster = ⟨roster.names.erase name.text, roster.vanishing⟩ := by
  intro kernel roster
  have valid : kernel.WellFormed := (Reachable.new.after moves).wellFormed
  have same : kernel.roster = roster := roster_after moves
  rw [← same]
  refine ⟨rfl, valid.nodup_roster, outcome_listBridges_roster granted valid few, ?_, ?_⟩
  · intro policy text
    refine ⟨exists_createBridge_iff granted text, fun name after named created => ?_⟩
    exact roster_createBridge granted valid named created
  · intro policy text
    refine ⟨exists_deleteBridge_iff granted text, fun name after named deleted => ?_⟩
    exact roster_deleteBridge granted valid named deleted

/-- A bridge that disappears meanwhile is left out; the plain link of its name goes unlisted. -/
theorem listing_refines_roster_vanishing :
    (listBridges.outcome plane (Kernel.new.after [.operate .truncate (.createBridge "br0"),
      .operate .truncate (.createBridge "br1"), .happen (.addLink "br0"),
      .happen (.vanishDuringListing "br0")])).1 = .ok ["br1"] := by
  obtain ⟨-, -, listed, -⟩ := listing_refines_roster [.operate .truncate (.createBridge "br0"),
    .operate .truncate (.createBridge "br1"), .happen (.addLink "br0"),
    .happen (.vanishDuringListing "br0")] (by decide +kernel) (by decide +kernel)
  rw [listed]
  decide +kernel

end Kernel

end NetBridge
