import NetBridge.Kernel

namespace NetBridge

/-- A change of links that leaves alone what a link is looked up by. -/
structure Link.Keeps (change : Link → Link) : Prop where
  index : ∀ link, (change link).index = link.index
  name : ∀ link, (change link).name = link.name
  isBridge : ∀ link, (change link).isBridge = link.isBridge

def Link.only (index : Nat) (change : Link → Link) (link : Link) : Link :=
  if link.index = index then change link else link

/-- A port of the bridge let go; any other link as it is. -/
def Link.freed (bridge : Nat) (link : Link) : Link :=
  if link.master = some bridge then link.detached else link

namespace Link.Keeps

theorem detached : Keeps Link.detached := ⟨fun _ => rfl, fun _ => rfl, fun _ => rfl⟩

theorem attached (bridge port : Nat) : Keeps (Link.attached · bridge port) :=
  ⟨fun _ => rfl, fun _ => rfl, fun _ => rfl⟩

theorem flagged (flags : LinkFlags) : Keeps fun link => { link with flags := flags } :=
  ⟨fun _ => rfl, fun _ => rfl, fun _ => rfl⟩

theorem only {change : Link → Link} (keeps : Keeps change) (index : Nat) :
    Keeps (Link.only index change) := by
  constructor <;> intro link <;> unfold Link.only <;> split
  · exact keeps.index link
  · rfl
  · exact keeps.name link
  · rfl
  · exact keeps.isBridge link
  · rfl

theorem freed (bridge : Nat) : Keeps (Link.freed bridge) := by
  constructor <;> intro link <;> unfold Link.freed <;> split <;> rfl

end Link.Keeps

namespace Link

theorem isUp_fresh (index : Nat) (name : String) (isBridge : Bool) :
    (fresh index name isBridge).flags.isUp = false := by
  show (LinkFlags.union .broadcast .multicast).isUp = false
  decide

theorem only_of_eq {link : Link} {index : Nat} {change : Link → Link}
    (same : link.index = index) : only index change link = change link := if_pos same

theorem only_of_ne {link : Link} {index : Nat} {change : Link → Link}
    (other : link.index ≠ index) : only index change link = link := if_neg other

theorem freed_of_eq {link : Link} {bridge : Nat} (port : link.master = some bridge) :
    freed bridge link = link.detached := if_pos port

theorem freed_of_ne {link : Link} {bridge : Nat} (other : link.master ≠ some bridge) :
    freed bridge link = link := if_neg other

end Link

namespace Kernel

def change (kernel : Kernel) (f : Link → Link) : Kernel :=
  { kernel with links := kernel.links.map f }

theorem modify_eq_change (kernel : Kernel) (index : Nat) (f : Link → Link) :
    kernel.modify index f = kernel.change (Link.only index f) := rfl

theorem detachAll_eq_change (kernel : Kernel) (bridge : Nat) :
    kernel.detachAll bridge = kernel.change (Link.freed bridge) := rfl

theorem mem_of_find? {kernel : Kernel} {name : String} {link : Link}
    (found : kernel.find? name = some link) : link ∈ kernel.links :=
  List.mem_of_find?_eq_some found

theorem name_of_find? {kernel : Kernel} {name : String} {link : Link}
    (found : kernel.find? name = some link) : link.name = name := by
  simpa using List.find?_some found

theorem find?_eq_none_iff {kernel : Kernel} {name : String} :
    kernel.find? name = none ↔ ∀ link ∈ kernel.links, link.name ≠ name := by
  simp [find?]

theorem find?_change {f : Link → Link} (keeps : Link.Keeps f) (kernel : Kernel) (name : String) :
    (kernel.change f).find? name = (kernel.find? name).map f := by
  simp only [find?, change, List.find?_map]
  congr 2
  funext link
  simp only [Function.comp, keeps.name link]

theorem find?_insert (kernel : Kernel) (name : String) (isBridge : Bool) (other : String) :
    (kernel.insert name isBridge).find? other =
      (kernel.find? other).or
        (if name = other then some (Link.fresh (kernel.lastIndex + 1) name isBridge) else none) := by
  simp only [find?, insert, List.find?_append]
  congr 1
  by_cases same : name = other <;> simp [Link.fresh, same]

theorem find?_insert_of_ne {kernel : Kernel} {name other : String} (isBridge : Bool)
    (different : name ≠ other) :
    (kernel.insert name isBridge).find? other = kernel.find? other := by
  rw [find?_insert, if_neg different, Option.or_none]

theorem find?_insert_of_some {kernel : Kernel} {other : String} {link : Link}
    (found : kernel.find? other = some link) (name : String) (isBridge : Bool) :
    (kernel.insert name isBridge).find? other = some link := by
  rw [find?_insert, found, Option.some_or]

theorem find?_insert_self {kernel : Kernel} {name : String} (absent : kernel.find? name = none)
    (isBridge : Bool) :
    (kernel.insert name isBridge).find? name =
      some (Link.fresh (kernel.lastIndex + 1) name isBridge) := by
  rw [find?_insert, absent, if_pos rfl, Option.none_or]

/-- The oldest link of a name stays the oldest when a link of another index goes. -/
theorem find?_erase {kernel : Kernel} {name : String} {link : Link} {index : Nat}
    (found : kernel.find? name = some link) (other : link.index ≠ index) :
    (kernel.erase index).find? name = some link := by
  simp only [find?, erase, List.find?_filter] at found ⊢
  obtain ⟨named, before, after, split, earlier⟩ := List.find?_eq_some_iff_append.mp found
  refine List.find?_eq_some_iff_append.mpr ⟨?_, before, after, split, ?_⟩
  · simpa [other] using named
  · intro candidate member
    have unnamed := earlier candidate member
    simp only [Bool.not_eq_true', decide_eq_false_iff_not] at unnamed
    simp [unnamed]

theorem mem_of_get? {kernel : Kernel} {index : Nat} {link : Link}
    (found : kernel.get? index = some link) : link ∈ kernel.links :=
  List.mem_of_find?_eq_some found

theorem index_of_get? {kernel : Kernel} {index : Nat} {link : Link}
    (found : kernel.get? index = some link) : link.index = index := by
  simpa using List.find?_some found

theorem get?_eq_none_iff {kernel : Kernel} {index : Nat} :
    kernel.get? index = none ↔ ∀ link ∈ kernel.links, link.index ≠ index := by
  simp [get?]

theorem get?_change {f : Link → Link} (keeps : Link.Keeps f) (kernel : Kernel) (index : Nat) :
    (kernel.change f).get? index = (kernel.get? index).map f := by
  simp only [get?, change, List.find?_map]
  congr 2
  funext link
  simp only [Function.comp, keeps.index link]

def bridges (kernel : Kernel) : List Link := kernel.links.filter Link.isBridge

theorem mem_bridges {kernel : Kernel} {link : Link} :
    link ∈ kernel.bridges ↔ link ∈ kernel.links ∧ link.isBridge = true := List.mem_filter

theorem mem_portsOf {kernel : Kernel} {bridge : Nat} {link : Link} :
    link ∈ kernel.portsOf bridge ↔ link ∈ kernel.links ∧ link.master = some bridge := by
  simp [portsOf]

theorem bridges_insert (kernel : Kernel) (name : String) (isBridge : Bool) :
    (kernel.insert name isBridge).bridges = kernel.bridges ++
      if isBridge then [Link.fresh (kernel.lastIndex + 1) name isBridge] else [] := by
  cases isBridge <;> simp [bridges, insert, Link.fresh]

theorem bridges_change {f : Link → Link} (keeps : Link.Keeps f) (kernel : Kernel) :
    (kernel.change f).bridges = kernel.bridges.map f := by
  simp only [bridges, change, List.filter_map]
  congr 2
  funext link
  exact keeps.isBridge link

/-- A name looks up to a bridge when the oldest link of that name is one. -/
theorem bridge_eq_ok_iff {kernel : Kernel} {name : String} {link : Link} :
    kernel.bridge name = .ok link ↔ kernel.find? name = some link ∧ link.isBridge = true := by
  unfold bridge
  cases found : kernel.find? name with
  | none => simp
  | some other =>
    by_cases kind : other.isBridge = true
    · simp only [kind, if_true, Except.ok.injEq, Option.some.injEq]
      constructor
      · rintro rfl
        exact ⟨rfl, kind⟩
      · exact And.left
    · simp only [kind, if_false, reduceCtorEq, Option.some.injEq, false_iff, not_and]
      rintro rfl
      exact kind

theorem removeLink_eq (kernel : Kernel) (name : String) :
    ∃ left, left.Sublist kernel.links ∧ kernel.removeLink name = { kernel with links := left } := by
  unfold removeLink
  cases kernel.find? name with
  | none => exact ⟨kernel.links, List.Sublist.refl _, rfl⟩
  | some link => exact ⟨_, List.filter_sublist, rfl⟩

/-- What was to disappear has done so; nothing else changes. -/
theorem vanish_eq (kernel : Kernel) :
    ∃ left, left.Sublist kernel.links ∧
      kernel.vanish = { kernel with links := left, vanishing := [] } := by
  have dropped (names : List String) (kernel : Kernel) : ∃ left, left.Sublist kernel.links ∧
      names.foldl removeLink kernel = { kernel with links := left } := by
    induction names generalizing kernel with
    | nil => exact ⟨kernel.links, List.Sublist.refl _, rfl⟩
    | cons name rest ih =>
      obtain ⟨middle, fewer, removed⟩ := kernel.removeLink_eq name
      obtain ⟨left, fewest, gone⟩ := ih { kernel with links := middle }
      exact ⟨left, fewest.trans fewer, by rw [List.foldl_cons, removed, gone]⟩
  obtain ⟨left, fewer, gone⟩ := dropped kernel.vanishing kernel
  exact ⟨left, fewer, by rw [vanish, gone]⟩

private theorem lowestFree_search (taken : List Nat) (fuel candidate : Nat) :
    candidate ≤ lowestFree.search taken fuel candidate ∧
      (∀ number, candidate ≤ number → number < lowestFree.search taken fuel candidate →
        number ∈ taken) ∧
      (lowestFree.search taken fuel candidate ∈ taken →
        lowestFree.search taken fuel candidate = candidate + fuel) := by
  induction fuel generalizing candidate with
  | zero =>
    refine ⟨Nat.le_refl _, ?_, fun _ => rfl⟩
    intro number least below
    exact absurd below (Nat.not_lt.mpr least)
  | succ fuel ih =>
    by_cases occupied : candidate ∈ taken
    · simp only [lowestFree.search, occupied, if_true]
      obtain ⟨bound, below, last⟩ := ih (candidate + 1)
      refine ⟨by omega, ?_, fun stuck => by rw [last stuck]; omega⟩
      intro number least before
      rcases Nat.eq_or_lt_of_le least with same | later
      · exact same ▸ occupied
      · exact below number later before
    · simp only [lowestFree.search, occupied, if_false]
      refine ⟨Nat.le_refl _, ?_, fun stuck => stuck.elim⟩
      intro number least below
      exact absurd below (Nat.not_lt.mpr least)

theorem lowestFree_pos (taken : List Nat) : 0 < lowestFree taken :=
  (lowestFree_search taken taken.length 1).1

/-- Every positive number below the lowest free one is taken. -/
theorem mem_of_lt_lowestFree {taken : List Nat} {number : Nat} (positive : 0 < number)
    (below : number < lowestFree taken) : number ∈ taken :=
  (lowestFree_search taken taken.length 1).2.1 number positive below

/-- With all of one to the length taken there is no room in the list for one number more. -/
theorem lowestFree_not_mem (taken : List Nat) : lowestFree taken ∉ taken := by
  intro stuck
  have last : lowestFree taken = 1 + taken.length :=
    (lowestFree_search taken taken.length 1).2.2 stuck
  have all : List.range' 1 (taken.length + 1) ⊆ taken := by
    intro number member
    obtain ⟨positive, bound⟩ := List.mem_range'_1.mp member
    rcases Nat.lt_or_ge number (lowestFree taken) with below | reached
    · exact mem_of_lt_lowestFree positive below
    · have same : number = lowestFree taken := by omega
      exact same ▸ stuck
  have crowded := (List.nodup_range' (s := 1) (n := taken.length + 1)).length_le_of_subset all
  rw [List.length_range'] at crowded
  omega

/-- At most all of the taken numbers come before the lowest free one. -/
theorem lowestFree_le (taken : List Nat) : lowestFree taken ≤ taken.length + 1 := by
  have all : List.range' 1 (lowestFree taken - 1) ⊆ taken := by
    intro number member
    obtain ⟨positive, bound⟩ := List.mem_range'_1.mp member
    exact mem_of_lt_lowestFree positive (by omega)
  have fewer := (List.nodup_range' (s := 1) (n := lowestFree taken - 1)).length_le_of_subset all
  rw [List.length_range'] at fewer
  omega

end Kernel

end NetBridge
