import Mathlib.Data.List.Basic
import NetBridge.Proofs.Kernel.Invariant
import NetBridge.Proofs.Kernel.Operations

namespace NetBridge

/-- Indices from here on are negative in a slot. -/
def slotBound : Nat := 2147483648

theorem IfIndex.ofSlot?_zero : IfIndex.ofSlot? 0 = none := by decide

theorem IfIndex.ofSlot?_ofNat {index : Nat} (positive : 0 < index) (small : index < slotBound) :
    ∃ found, IfIndex.ofSlot? (Int32.ofNat index) = some found ∧ found.toNat = index := by
  have signed : (Int32.ofNat index).toInt = index := Int32.toInt_ofNat_of_lt small
  obtain ⟨found, word, same⟩ := ofUInt32?_ofNat positive (Nat.lt_trans small (by decide))
  exact ⟨found, by simpa [IfIndex.ofSlot?, signed, positive] using word, same⟩

namespace Kernel

open Control

variable {kernel : Kernel} {policy : NamePolicy}

def nameOfSlot (kernel : Kernel) (slot : Int32) : Option String :=
  (IfIndex.ofSlot? slot).bind kernel.indexToName

theorem nameOfSlot_zero (kernel : Kernel) : kernel.nameOfSlot 0 = none := by
  rw [nameOfSlot, IfIndex.ofSlot?_zero, Option.bind_none]

theorem nameOfSlot_ofNat (kernel : Kernel) {index : Nat} (positive : 0 < index)
    (small : index < slotBound) :
    kernel.nameOfSlot (Int32.ofNat index) = (kernel.get? index).map Link.name := by
  obtain ⟨found, slot, same⟩ := IfIndex.ofSlot?_ofNat positive small
  rw [nameOfSlot, slot, Option.bind_some, indexToName, same]

theorem outcome_namesOf (kernel : Kernel) (slots : List Int32) :
    (namesOf slots).outcome plane kernel = (slots.filterMap kernel.nameOfSlot, kernel) := by
  induction slots with
  | nil => rfl
  | cons slot rest ih =>
    cases used : IfIndex.ofSlot? slot with
    | none =>
      have unnamed : kernel.nameOfSlot slot = none := by rw [nameOfSlot, used, Option.bind_none]
      simp only [namesOf, used, ih, List.filterMap_cons, unnamed]
    | some index =>
      have named : kernel.nameOfSlot slot = kernel.indexToName index := by
        rw [nameOfSlot, used, Option.bind_some]
      simp only [namesOf, used, List.filterMap_cons, named]
      rw [Dialogue.outcome_bind, show Dialogue.outcome plane (Dialogue.query (.indexToName index))
        kernel = (kernel.indexToName index, kernel) from rfl]
      cases kernel.indexToName index with
      | some name =>
        dsimp only
        rw [Dialogue.outcome_bind, ih]
        rfl
      | none =>
        dsimp only
        rw [Dialogue.outcome_bind, Dialogue.outcome_report]
        exact ih

theorem outcome_liftM_namesOf (kernel : Kernel) (slots : List Int32) :
    (liftM (namesOf slots) : Procedure (List String)).outcome plane kernel =
      (.ok (slots.filterMap kernel.nameOfSlot), kernel) := by
  rw [Procedure.outcome_liftM, outcome_namesOf]

/-- An operation that takes a handle for one enumeration, after which links may be gone. -/
theorem outcome_enumeration (granted : kernel.refusesHandles = false)
    {refused : Errno → Dialogue Error} {body : Handle → Procedure (List String)}
    {shown : List String}
    (issued : ∀ handle openHandles acquired mutations,
      (body handle).outcome plane (kernel.recount openHandles acquired mutations) =
        (.ok shown, kernel.vanish.recount openHandles acquired mutations)) :
    (withHandle refused body).outcome plane kernel =
      (.ok shown, kernel.vanish.tally 1 0) := by
  rw [outcome_withHandle granted]
  dsimp only
  rw [issued]
  have counts := recount_vanish kernel
  refine congrArg _ ?_
  conv => rhs; rw [← counts]
  rfl

/-- The bridges an enumeration has room for. -/
def shownBridges (kernel : Kernel) : List Link := kernel.bridges.take enumSlots

theorem toList_fillSlots (capacity : Nat) (values : List Int32) :
    (fillSlots capacity values).toList = (values ++ List.replicate capacity 0).take capacity := rfl

/-- The used slots of an enumeration hold the values that fit, whatever zeros follow. -/
theorem take_fillSlots (capacity : Nat) (values : List Int32) :
    (fillSlots capacity values).toList.take (min values.length capacity) =
      values.take capacity := by
  rw [toList_fillSlots, List.take_take, Nat.min_assoc, Nat.min_self,
    List.take_append_of_le_length (Nat.min_le_left _ _)]
  rcases Nat.le_total values.length capacity with short | long
  · rw [Nat.min_eq_left short, List.take_length, List.take_of_length_le short]
  · rw [Nat.min_eq_right long]

theorem firstSlots_bridgeSlots (kernel : Kernel) :
    firstSlots (kernel.bridgeSlots enumSlots).slots
        (min (kernel.bridgeSlots enumSlots).count enumSlots) (Nat.min_le_right ..) =
      kernel.shownBridges.map fun link => Int32.ofNat link.index := by
  rw [firstSlots_min]
  have filled := take_fillSlots enumSlots (kernel.bridges.map fun link => Int32.ofNat link.index)
  rw [List.length_map, ← List.map_take] at filled
  rw [bridgeSlots, List.map_map, List.length_map]
  exact filled

/-- The names in a later state behind the slots of links of an earlier one. -/
theorem filterMap_nameOfSlot (later : Kernel) {links : List Link}
    (indexed : ∀ link ∈ links, 0 < link.index ∧ link.index < slotBound) :
    (links.map fun link => Int32.ofNat link.index).filterMap later.nameOfSlot =
      links.filterMap fun link => (later.get? link.index).map Link.name := by
  rw [List.filterMap_map]
  refine List.filterMap_congr fun link member => ?_
  exact nameOfSlot_ofNat later (indexed link member).1 (indexed link member).2

theorem WellFormed.index_lt_slotBound (valid : kernel.WellFormed)
    (few : kernel.lastIndex < slotBound) {link : Link} (member : link ∈ kernel.links) :
    0 < link.index ∧ link.index < slotBound :=
  ⟨(valid.sound link member).index_pos,
    Nat.lt_of_le_of_lt (valid.sound link member).index_le few⟩

theorem mem_of_mem_shownBridges {link : Link} (shown : link ∈ kernel.shownBridges) :
    link ∈ kernel.links ∧ link.isBridge = true :=
  mem_bridges.mp (List.mem_of_mem_take shown)

theorem outcome_listBridges_slots (granted : kernel.refusesHandles = false) :
    listBridges.outcome plane kernel =
      (.ok ((kernel.shownBridges.map fun link => Int32.ofNat link.index).filterMap
          kernel.vanish.nameOfSlot),
        kernel.vanish.tally 1 0) := by
  refine outcome_enumeration granted fun handle openHandles acquired mutations => ?_
  have listed : (liftM (namesOf (firstSlots (kernel.bridgeSlots enumSlots).slots
      (min (kernel.bridgeSlots enumSlots).count enumSlots) (Nat.min_le_right ..))) :
      Procedure (List String)).outcome plane
      (kernel.vanish.recount openHandles acquired mutations) =
      (.ok ((kernel.shownBridges.map fun link => Int32.ofNat link.index).filterMap
          kernel.vanish.nameOfSlot),
        kernel.vanish.recount openHandles acquired mutations) := by
    rw [outcome_liftM_namesOf, firstSlots_bridgeSlots]
    rfl
  rw [Procedure.outcome_bind, outcome_issue, show plane.answer (.request handle
    (.bridgeIndices enumSlots)) (kernel.recount openHandles acquired mutations) =
    (.ok (kernel.bridgeSlots enumSlots), (kernel.recount openHandles acquired mutations).vanish)
    from rfl, vanish_recount]
  dsimp only
  -- Reporting that the enumeration is full changes nothing.
  split
  · rw [Procedure.outcome_report_bind, listed]
  · exact listed

/-- The bridges that fit, less those that disappear during the enumeration. -/
theorem outcome_listBridges_vanish (granted : kernel.refusesHandles = false)
    (valid : kernel.WellFormed) (few : kernel.lastIndex < slotBound) :
    listBridges.outcome plane kernel =
      (.ok (kernel.shownBridges.filterMap fun link =>
          (kernel.vanish.get? link.index).map Link.name),
        kernel.vanish.tally 1 0) := by
  have indexed (link : Link) (member : link ∈ kernel.shownBridges) :=
    valid.index_lt_slotBound few (mem_of_mem_shownBridges member).1
  rw [outcome_listBridges_slots granted, filterMap_nameOfSlot _ indexed]

theorem vanish_of_quiet (quiet : kernel.vanishing = []) : kernel.vanish = kernel := by
  simp only [vanish, quiet, List.foldl_nil]
  cases kernel
  cases quiet
  rfl

/-- A kernel that grants handles and whose listings tell the truth: nothing is about to disappear,
and every index fits a slot. -/
structure Ready (kernel : Kernel) : Prop where
  valid : kernel.WellFormed
  granted : kernel.refusesHandles = false
  quiet : kernel.vanishing = []
  few : kernel.lastIndex < slotBound

theorem Ready.tally (ready : kernel.Ready) (handles requests : Nat) :
    (kernel.tally handles requests).Ready :=
  ⟨ready.valid.congr rfl rfl, ready.granted, ready.quiet, ready.few⟩

theorem Ready.outcome_listBridges (ready : kernel.Ready) :
    listBridges.outcome plane kernel =
      (.ok (kernel.shownBridges.map Link.name), kernel.tally 1 0) := by
  rw [outcome_listBridges_vanish ready.granted ready.valid ready.few, vanish_of_quiet ready.quiet,
    ← List.filterMap_eq_map']
  congr 2
  refine List.filterMap_congr fun link shown => ?_
  rw [ready.valid.get?_index (mem_of_mem_shownBridges shown).1, Option.map_some]

theorem Ready.outcome_bridgeExists (ready : kernel.Ready) {text : String} {name : IfName}
    (named : IfName.ofText policy text = .ok name) :
    (bridgeExists policy text).outcome plane kernel =
      (.ok ((kernel.shownBridges.map Link.name).contains name.text), kernel.tally 1 0) := by
  rw [bridgeExists, Procedure.outcome_bind_ok _ _ (outcome_name_ok plane kernel named),
    Procedure.outcome_bind_ok _ _ ready.outcome_listBridges]
  rfl

/-- The port of a bridge with this number. -/
def portAt? (kernel : Kernel) (bridge number : Nat) : Option Link :=
  (kernel.portsOf bridge).find? fun port => port.portNo = number

/-- The names of a bridge's ports by number, as far as an enumeration has room for. -/
def shownPorts (kernel : Kernel) (bridge : Nat) : List String :=
  (List.range enumSlots).filterMap fun number => (kernel.portAt? bridge number).map Link.name

/-- The ports of a bridge by number, as far as an enumeration has room for. -/
def listedPorts (kernel : Kernel) (bridge : Nat) : List Link :=
  (List.range enumSlots).filterMap (kernel.portAt? bridge)

theorem map_listedPorts (kernel : Kernel) (bridge : Nat) :
    (kernel.listedPorts bridge).map Link.name = kernel.shownPorts bridge := List.map_filterMap ..

/-- Ports of different numbers fill different slots. -/
theorem getElem_foldl_portSlots {capacity : Nat} (ports : List Link) (slots : Vector Int32 capacity)
    (distinct : ports.Pairwise fun a b => a.portNo ≠ b.portNo) {number : Nat}
    (inside : number < capacity) :
    (ports.foldl (fun slots link =>
        if within : link.portNo < capacity then
          slots.set link.portNo (Int32.ofNat link.index) within
        else slots) slots)[number] =
      match ports.find? fun port => port.portNo = number with
      | some port => Int32.ofNat port.index
      | none => slots[number] := by
  induction ports generalizing slots with
  | nil => rfl
  | cons port rest ih =>
    obtain ⟨apart, distinct⟩ := List.pairwise_cons.mp distinct
    rw [List.foldl_cons, ih _ distinct]
    by_cases here : port.portNo = number
    · have later : rest.find? (fun port => port.portNo = number) = none := by
        rw [List.find?_eq_none]
        intro other member same
        -- No later port writes over this slot.
        exact apart other member (here.trans (of_decide_eq_true same).symm)
      subst here
      simp only [later, List.find?_cons, decide_true, dif_pos inside]
      exact Vector.getElem_set_self _
    · simp only [List.find?_cons, here, decide_false]
      cases rest.find? fun port => port.portNo = number with
      | some found => rfl
      | none =>
        dsimp only
        split
        · exact Vector.getElem_set_ne _ _ here
        · rfl

theorem WellFormed.pairwise_portNo (valid : kernel.WellFormed) (bridge : Nat) :
    (kernel.portsOf bridge).Pairwise fun a b => a.portNo ≠ b.portNo := by
  refine (valid.ordered.filter _).imp_of_mem fun {a b} ha hb before same => ?_
  obtain ⟨memA, masterA⟩ := mem_portsOf.mp ha
  obtain ⟨memB, masterB⟩ := mem_portsOf.mp hb
  have owned : a.master ≠ none := by simp [masterA]
  have equal := valid.port_unique a memA b memB owned (masterA.trans masterB.symm) same
  exact Nat.lt_irrefl b.index (equal ▸ before)

def slotOf (kernel : Kernel) (bridge number : Nat) : Int32 :=
  match kernel.portAt? bridge number with
  | some port => Int32.ofNat port.index
  | none => 0

theorem WellFormed.toList_portSlots (valid : kernel.WellFormed) (bridge capacity : Nat) :
    (kernel.portSlots bridge capacity).toList =
      (List.range capacity).map (kernel.slotOf bridge) := by
  refine List.ext_getElem (by simp) fun number within _ => ?_
  have inside : number < capacity := by simpa using within
  rw [Vector.getElem_toList, List.getElem_map, List.getElem_range]
  refine (getElem_foldl_portSlots _ _ (valid.pairwise_portNo bridge) inside).trans ?_
  rw [Vector.getElem_replicate]
  rfl

theorem mem_of_portAt? {bridge number : Nat} {port : Link}
    (found : kernel.portAt? bridge number = some port) :
    port ∈ kernel.links ∧ port.master = some bridge ∧ port.portNo = number := by
  obtain ⟨member, owned⟩ := mem_portsOf.mp (List.mem_of_find?_eq_some found)
  exact ⟨member, owned, by simpa using List.find?_some found⟩

theorem WellFormed.nameOfSlot_slotOf (valid : kernel.WellFormed) (few : kernel.lastIndex < slotBound)
    (bridge number : Nat) :
    kernel.nameOfSlot (kernel.slotOf bridge number) =
      (kernel.portAt? bridge number).map Link.name := by
  unfold slotOf
  cases found : kernel.portAt? bridge number with
  | none => exact nameOfSlot_zero kernel
  | some port =>
    obtain ⟨member, -, -⟩ := mem_of_portAt? found
    obtain ⟨positive, small⟩ := valid.index_lt_slotBound few member
    dsimp only
    rw [nameOfSlot_ofNat kernel positive small, valid.get?_index member]

theorem WellFormed.filterMap_portSlots (valid : kernel.WellFormed)
    (few : kernel.lastIndex < slotBound) (bridge : Nat) :
    (kernel.portSlots bridge enumSlots).toList.filterMap kernel.nameOfSlot =
      kernel.shownPorts bridge := by
  rw [valid.toList_portSlots, List.filterMap_map]
  exact List.filterMap_congr fun number _ => valid.nameOfSlot_slotOf few bridge number

theorem outcome_listInterfaces_slots (granted : kernel.refusesHandles = false) {text : String}
    {name : IfName} (named : IfName.ofText policy text = .ok name) :
    (listInterfaces policy text).outcome plane kernel =
      match kernel.bridge name.text with
      | .error cause =>
        (.error (.kernelOperation .listInterfaces name.text (.errno cause)), kernel.tally 1 0)
      | .ok bridge =>
        (.ok ((kernel.portSlots bridge.index enumSlots).toList.filterMap kernel.vanish.nameOfSlot),
          kernel.vanish.tally 1 0) := by
  rw [listInterfaces, Procedure.outcome_bind_ok _ _ (outcome_name_ok plane kernel named)]
  cases opened : kernel.bridge name.text with
  | error cause =>
    rw [outcome_withHandle granted]
    dsimp only
    rw [Procedure.outcome_bind, outcome_issue]
    simp only [plane, answer, answerRequest, bridge_recount, opened]
    rfl
  | ok bridge =>
    refine outcome_enumeration granted fun handle openHandles acquired mutations => ?_
    have answered : plane.answer (.request handle (.portIndices name enumSlots))
        (kernel.recount openHandles acquired mutations) =
        (.ok (kernel.portSlots bridge.index enumSlots),
          kernel.vanish.recount openHandles acquired mutations) := by
      simp only [plane, answer, answerRequest, bridge_recount, opened, vanish_recount]
      rfl
    rw [Procedure.outcome_bind, outcome_issue, answered]
    exact outcome_liftM_namesOf _ _

theorem Ready.outcome_listInterfaces (ready : kernel.Ready) {text : String} {name : IfName}
    (named : IfName.ofText policy text = .ok name) :
    (listInterfaces policy text).outcome plane kernel =
      match kernel.bridge name.text with
      | .error cause =>
        (.error (.kernelOperation .listInterfaces name.text (.errno cause)), kernel.tally 1 0)
      | .ok bridge => (.ok (kernel.shownPorts bridge.index), kernel.tally 1 0) := by
  rw [outcome_listInterfaces_slots ready.granted named]
  cases kernel.bridge name.text with
  | error cause => rfl
  | ok bridge =>
    dsimp only
    rw [vanish_of_quiet ready.quiet, ready.valid.filterMap_portSlots ready.few bridge.index]

theorem WellFormed.portAt?_eq_some_iff (valid : kernel.WellFormed) {bridge number : Nat}
    {port : Link} : kernel.portAt? bridge number = some port ↔
      port ∈ kernel.links ∧ port.master = some bridge ∧ port.portNo = number := by
  refine ⟨mem_of_portAt?, ?_⟩
  rintro ⟨member, owned, rfl⟩
  cases found : kernel.portAt? bridge port.portNo with
  | none =>
    have absent := List.find?_eq_none.mp found port (mem_portsOf.mpr ⟨member, owned⟩)
    exact absurd (decide_eq_true rfl) absent
  | some other =>
    obtain ⟨memOther, ownedOther, same⟩ := mem_of_portAt? found
    have attached : other.master ≠ none := by simp [ownedOther]
    exact congrArg some (valid.port_unique other memOther port member attached
      (ownedOther.trans owned.symm) same)

/-- The ports listed are those whose number fits the enumeration. -/
theorem WellFormed.mem_listedPorts (valid : kernel.WellFormed) {bridge : Nat} {port : Link} :
    port ∈ kernel.listedPorts bridge ↔
      port ∈ kernel.links ∧ port.master = some bridge ∧ port.portNo < enumSlots := by
  simp only [listedPorts, List.mem_filterMap, List.mem_range, valid.portAt?_eq_some_iff]
  constructor
  · rintro ⟨number, inside, member, owned, rfl⟩
    exact ⟨member, owned, inside⟩
  · rintro ⟨member, owned, inside⟩
    exact ⟨port.portNo, inside, member, owned, rfl⟩

theorem WellFormed.mem_shownPorts (valid : kernel.WellFormed) {bridge : Nat} {name : String} :
    name ∈ kernel.shownPorts bridge ↔
      ∃ port ∈ kernel.links, port.master = some bridge ∧ port.portNo < enumSlots ∧
        port.name = name := by
  simp only [← map_listedPorts, List.mem_map, valid.mem_listedPorts, and_assoc]

end Kernel

end NetBridge
