import NetBridge.Proofs.Kernel.Remainder
import NetBridge.Proofs.Kernel.Sight

namespace NetBridge

/-- A bridge of one of these names. -/
def Link.Doomed (names : List String) (link : Link) : Prop :=
  link.isBridge = true ∧ link.name ∈ names

instance (names : List String) (link : Link) : Decidable (link.Doomed names) :=
  inferInstanceAs (Decidable (link.isBridge = true ∧ link.name ∈ names))

/-- A link once the bridges of these names are gone: a port of one of them is a port no more. -/
def Link.survivor (names : List String) (links : List Link) (link : Link) : Link :=
  if ∃ bridge ∈ links, bridge.Doomed names ∧ link.master = some bridge.index then link.detached
  else link

/-- The links that are left when the bridges of these names are deleted. -/
def razed (names : List String) (links : List Link) : List Link :=
  (links.filter fun link => ¬ link.Doomed names).map (Link.survivor names links)

section Razed

variable {names : List String} {links : List Link} {link bridge : Link}

theorem Link.Keeps.survivor (names : List String) (links : List Link) :
    Keeps (Link.survivor names links) := by
  constructor <;> intro link <;> unfold Link.survivor <;> split <;> rfl

theorem Link.flags_survivor (names : List String) (links : List Link) (link : Link) :
    (survivor names links link).flags = link.flags := by
  unfold survivor
  split <;> rfl

theorem Link.survivor_of_port (member : bridge ∈ links) (doomed : bridge.Doomed names)
    (owned : link.master = some bridge.index) : survivor names links link = link.detached :=
  if_pos ⟨bridge, member, doomed, owned⟩

theorem Link.survivor_of_spared
    (spared : ∀ bridge ∈ links, bridge.Doomed names → link.master ≠ some bridge.index) :
    survivor names links link = link :=
  if_neg fun ⟨bridge, member, doomed, owned⟩ => spared bridge member doomed owned

theorem Link.doomed_cons (name : String) (names : List String) (link : Link) :
    link.Doomed (name :: names) ↔ link.Doomed [name] ∨ link.Doomed names := by
  simp only [Doomed, List.mem_cons, List.not_mem_nil, or_false, ← and_or_left]

theorem mem_razed : link ∈ razed names links ↔
    ∃ old ∈ links, ¬ old.Doomed names ∧ old.survivor names links = link := by
  simp only [razed, List.mem_map, List.mem_filter, decide_eq_true_eq, and_assoc]

theorem razed_of_absent (absent : ∀ link ∈ links, ¬ link.Doomed names) :
    razed names links = links := by
  have all : links.filter (fun link => ¬ link.Doomed names) = links :=
    List.filter_eq_self.mpr fun link member => by simpa using absent link member
  rw [razed, all]
  refine (List.map_congr_left fun link _ => ?_).trans (List.map_id _)
  exact Link.survivor_of_spared fun bridge member doomed => absurd doomed (absent bridge member)

/-- Bridges may go one name after another. -/
theorem razed_razed (name : String) (names : List String) (links : List Link) :
    razed names (razed [name] links) = razed (name :: names) links := by
  have keeps := Link.Keeps.survivor [name] links
  have doomed (link : Link) :
      (link.survivor [name] links).Doomed names ↔ link.Doomed names := by
    simp only [Link.Doomed, keeps.isBridge, keeps.name]
  have twice (link : Link) : (link.survivor [name] links).survivor names (razed [name] links) =
      link.survivor (name :: names) links := by
    by_cases port : ∃ bridge ∈ links, bridge.Doomed [name] ∧ link.master = some bridge.index
    · obtain ⟨bridge, member, gone, owned⟩ := port
      -- Once let go, the link has no master that a later deletion could take.
      rw [Link.survivor_of_port member gone owned,
        Link.survivor_of_port member ((Link.doomed_cons ..).mpr (.inl gone)) owned]
      exact Link.survivor_of_spared fun _ _ _ => nofun
    · have spared : ∀ bridge ∈ links, bridge.Doomed [name] → link.master ≠ some bridge.index :=
        fun bridge member gone owned => port ⟨bridge, member, gone, owned⟩
      rw [Link.survivor_of_spared spared, Link.survivor, Link.survivor]
      refine if_congr ?_ rfl rfl
      constructor
      · rintro ⟨bridge, member, gone, owned⟩
        obtain ⟨old, live, -, rfl⟩ := mem_razed.mp member
        exact ⟨old, live, (Link.doomed_cons ..).mpr (.inr ((doomed old).mp gone)),
          owned.trans (congrArg some (keeps.index old))⟩
      · rintro ⟨bridge, member, gone, owned⟩
        rcases (Link.doomed_cons ..).mp gone with first | later
        · exact absurd owned (spared bridge member first)
        · refine ⟨bridge.survivor [name] links, mem_razed.mpr ⟨bridge, member, ?_, rfl⟩,
            (doomed bridge).mpr later, owned.trans (congrArg some (keeps.index bridge).symm)⟩
          exact fun first => spared bridge member first owned
  rw [razed, razed, List.filter_map, List.map_map, List.filter_filter]
  refine (List.map_congr_left fun link _ => twice link).trans ?_
  refine congrArg (List.map _) (List.filter_congr fun link _ => ?_)
  simp only [Function.comp, doomed, Link.doomed_cons name names, not_or, Bool.decide_and,
    Bool.and_comm]

theorem razed_congr {others : List String} (same : ∀ name, name ∈ names ↔ name ∈ others)
    (links : List Link) : razed names links = razed others links := by
  have doomed (link : Link) : link.Doomed names ↔ link.Doomed others := by
    simp only [Link.Doomed, same]
  have kept : Link.survivor names links = Link.survivor others links :=
    funext fun link => by simp only [Link.survivor, doomed]
  simp only [razed, kept, doomed]

theorem map_name_razed (names : List String) (links : List Link) :
    ((razed names links).map Link.name).Sublist (links.map Link.name) := by
  rw [razed, List.map_map]
  have kept : Link.name ∘ Link.survivor names links = Link.name :=
    funext (Link.Keeps.survivor names links).name
  rw [kept]
  exact List.filter_sublist.map Link.name

end Razed

namespace Kernel

open Control

variable {kernel after : Kernel} {names : List String} {name iface : String}

/-- Deleting a bridge deletes the bridges of its name. -/
theorem WellFormed.razed_singleton (valid : kernel.WellFormed) {bridge : Link}
    (live : bridge ∈ kernel.links) (kind : bridge.isBridge = true) :
    razed [bridge.name] kernel.links = kernel.without bridge.index := by
  have doomed : ∀ link ∈ kernel.links,
      link.Doomed [bridge.name] ↔ link.index = bridge.index := by
    intro link member
    constructor
    · rintro ⟨isBridge, named⟩
      have same := List.mem_singleton.mp named
      exact congrArg Link.index (valid.bridge_unique member live isBridge kind same)
    · intro same
      obtain rfl := valid.eq_of_index member live same
      exact ⟨kind, List.mem_singleton_self _⟩
  have kept (link : Link) :
      link.survivor [bridge.name] kernel.links = Link.freed bridge.index link := by
    refine if_congr ⟨?_, fun owned => ⟨bridge, live, (doomed bridge live).mpr rfl, owned⟩⟩ rfl rfl
    rintro ⟨other, member, gone, owned⟩
    rw [owned, (doomed other member).mp gone]
  rw [razed, without_eq]
  refine (List.map_congr_left fun link _ => kept link).trans ?_
  refine congrArg (List.map _) (List.filter_congr fun link member => ?_)
  simp only [doomed link member, ne_eq]

section Listed

variable (fits : kernel.bridges.length ≤ enumSlots)
include fits

theorem showsBridge_iff_of_fits : kernel.ShowsBridge name ↔
    ∃ bridge ∈ kernel.links, bridge.isBridge = true ∧ bridge.name = name := by
  simp only [ShowsBridge, shownBridges_of_le fits, mem_bridges, and_assoc]

theorem showsPort_iff_of_fits : kernel.ShowsPort name iface ↔
    ∃ bridge ∈ kernel.links, bridge.isBridge = true ∧ bridge.name = name ∧
      ∃ port ∈ kernel.links, port.master = some bridge.index ∧ port.portNo < enumSlots ∧
        port.name = iface := by
  simp only [ShowsPort, shownBridges_of_le fits, mem_bridges, and_assoc]

theorem showsUp_iff_of_fits : kernel.ShowsUp name ↔
    ∃ bridge ∈ kernel.links, bridge.isBridge = true ∧ bridge.name = name ∧
      bridge.flags.isUp = true := by
  simp only [ShowsUp, shownBridges_of_le fits, mem_bridges, and_assoc]

end Listed

theorem bridges_razed (left : after.links = razed names kernel.links) :
    after.bridges.length ≤ kernel.bridges.length := by
  rw [bridges, left, razed, List.filter_map, List.length_map, List.filter_filter, bridges]
  refine List.Sublist.length_le ?_
  refine List.monotone_filter_right kernel.links fun link both => ?_
  simp only [Function.comp, (Link.Keeps.survivor names kernel.links).isBridge,
    Bool.and_eq_true] at both
  exact both.1

section Razed

variable (fits : kernel.bridges.length ≤ enumSlots) (left : after.links = razed names kernel.links)
  (other : name ∉ names)
include fits left other

theorem showsBridge_razed : after.ShowsBridge name ↔ kernel.ShowsBridge name := by
  have keeps := Link.Keeps.survivor names kernel.links
  rw [showsBridge_iff_of_fits fits,
    showsBridge_iff_of_fits (Nat.le_trans (bridges_razed left) fits), left]
  constructor
  · rintro ⟨bridge, member, kind, named⟩
    obtain ⟨old, live, -, rfl⟩ := mem_razed.mp member
    exact ⟨old, live, (keeps.isBridge old).symm.trans kind, (keeps.name old).symm.trans named⟩
  · rintro ⟨bridge, live, kind, rfl⟩
    exact ⟨_, mem_razed.mpr ⟨bridge, live, fun gone => other gone.2, rfl⟩,
      (keeps.isBridge bridge).trans kind, keeps.name bridge⟩

theorem showsUp_razed : after.ShowsUp name ↔ kernel.ShowsUp name := by
  have keeps := Link.Keeps.survivor names kernel.links
  have flags := Link.flags_survivor names kernel.links
  rw [showsUp_iff_of_fits fits, showsUp_iff_of_fits (Nat.le_trans (bridges_razed left) fits), left]
  constructor
  · rintro ⟨bridge, member, kind, named, risen⟩
    obtain ⟨old, live, -, rfl⟩ := mem_razed.mp member
    exact ⟨old, live, (keeps.isBridge old).symm.trans kind, (keeps.name old).symm.trans named,
      flags old ▸ risen⟩
  · rintro ⟨bridge, live, kind, rfl, risen⟩
    exact ⟨_, mem_razed.mpr ⟨bridge, live, fun gone => other gone.2, rfl⟩,
      (keeps.isBridge bridge).trans kind, keeps.name bridge, (flags bridge).symm ▸ risen⟩

/-- A port that is no bridge to be deleted itself stays where it is seen. -/
theorem showsPort_razed (valid : kernel.WellFormed) (apart : iface ∉ names) :
    after.ShowsPort name iface ↔ kernel.ShowsPort name iface := by
  have keeps := Link.Keeps.survivor names kernel.links
  rw [showsPort_iff_of_fits fits,
    showsPort_iff_of_fits (Nat.le_trans (bridges_razed left) fits), left]
  constructor
  · rintro ⟨bridge, member, kind, named, port, shown, owned, inside, called⟩
    obtain ⟨old, live, -, rfl⟩ := mem_razed.mp member
    obtain ⟨link, alive, -, rfl⟩ := mem_razed.mp shown
    refine ⟨old, live, (keeps.isBridge old).symm.trans kind, (keeps.name old).symm.trans named,
      link, alive, ?_⟩
    rw [keeps.index] at owned
    rw [keeps.name] at called
    unfold Link.survivor at owned inside
    split at owned
    · cases owned
    · rw [if_neg ‹_›] at inside
      exact ⟨owned, inside, called⟩
  · rintro ⟨bridge, live, kind, rfl, port, alive, owned, inside, rfl⟩
    have still : port.survivor names kernel.links = port := by
      refine Link.survivor_of_spared fun doomed member gone lost => ?_
      have index : bridge.index = doomed.index := Option.some.inj (owned.symm.trans lost)
      obtain rfl := valid.eq_of_index live member index
      exact other gone.2
    refine ⟨_, mem_razed.mpr ⟨bridge, live, fun gone => other gone.2, rfl⟩,
      (keeps.isBridge bridge).trans kind, keeps.name bridge,
      _, mem_razed.mpr ⟨port, alive, fun gone => apart gone.2, rfl⟩, ?_⟩
    rw [still, keeps.index]
    exact ⟨owned, inside, rfl⟩

end Razed

theorem not_showsBridge_razed (left : after.links = razed names kernel.links)
    (member : name ∈ names) : ¬ after.ShowsBridge name := by
  rintro ⟨bridge, listed, rfl⟩
  obtain ⟨live, kind⟩ := mem_of_mem_shownBridges listed
  rw [left] at live
  obtain ⟨old, -, spared, rfl⟩ := mem_razed.mp live
  have keeps := Link.Keeps.survivor names kernel.links
  rw [keeps.isBridge] at kind
  rw [keeps.name] at member
  exact spared ⟨kind, member⟩

end Kernel

end NetBridge
