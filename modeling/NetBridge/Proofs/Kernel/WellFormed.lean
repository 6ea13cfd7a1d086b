import NetBridge.Proofs.Kernel.Table
import NetBridge.Proofs.Session

/-! The representation invariant of the link table. Indices grow and are never given twice, so a
master that is no longer live stays below every index given later. -/

namespace NetBridge

/-- What holds of one link by itself; `last` is the last index given. -/
structure Link.Sound (last : Nat) (link : Link) : Prop where
  index_pos : 0 < link.index
  index_le : link.index ≤ last
  master_pos : ∀ master, link.master = some master → 0 < master
  master_le : ∀ master, link.master = some master → master ≤ last
  master_ne : link.master ≠ some link.index
  portNo_eq_zero_iff : link.portNo = 0 ↔ link.master = none

/-- The representation invariant of the link table. -/
structure Kernel.WellFormed (kernel : Kernel) : Prop where
  ordered : kernel.links.Pairwise fun a b => a.index < b.index
  sound : ∀ link ∈ kernel.links, link.Sound kernel.lastIndex
  port_unique : ∀ a ∈ kernel.links, ∀ b ∈ kernel.links, a.master ≠ none →
    a.master = b.master → a.portNo = b.portNo → a = b
  master_isBridge : ∀ port ∈ kernel.links, ∀ bridge ∈ kernel.links,
    port.master = some bridge.index → bridge.isBridge = true
  /-- A bridge is older than any other link of its name. -/
  find?_bridge : ∀ bridge ∈ kernel.links, bridge.isBridge = true →
    kernel.find? bridge.name = some bridge

namespace Link.Sound

theorem mono {link : Link} {last later : Nat} (sound : link.Sound last) (le : last ≤ later) :
    link.Sound later where
  index_pos := sound.index_pos
  index_le := Nat.le_trans sound.index_le le
  master_pos := sound.master_pos
  master_le master same := Nat.le_trans (sound.master_le master same) le
  master_ne := sound.master_ne
  portNo_eq_zero_iff := sound.portNo_eq_zero_iff

theorem fresh (last : Nat) (name : String) (isBridge : Bool) :
    (Link.fresh (last + 1) name isBridge).Sound (last + 1) where
  index_pos := Nat.succ_pos last
  index_le := Nat.le_refl _
  master_pos _ same := nomatch same
  master_le _ same := nomatch same
  master_ne same := nomatch same
  portNo_eq_zero_iff := ⟨fun _ => rfl, fun _ => rfl⟩

theorem detached {link : Link} {last : Nat} (sound : link.Sound last) :
    link.detached.Sound last where
  index_pos := sound.index_pos
  index_le := sound.index_le
  master_pos _ same := nomatch same
  master_le _ same := nomatch same
  master_ne same := nomatch same
  portNo_eq_zero_iff := ⟨fun _ => rfl, fun _ => rfl⟩

theorem attached {link bridge : Link} {last port : Nat} (sound : link.Sound last)
    (soundBridge : bridge.Sound last) (other : bridge.index ≠ link.index) (positive : 0 < port) :
    (link.attached bridge.index port).Sound last where
  index_pos := sound.index_pos
  index_le := sound.index_le
  master_pos _ same := Option.some.inj same ▸ soundBridge.index_pos
  master_le _ same := Option.some.inj same ▸ soundBridge.index_le
  master_ne same := other (Option.some.inj same)
  portNo_eq_zero_iff := ⟨fun none => absurd none (Nat.ne_of_gt positive), nofun⟩

theorem flagged {link : Link} {last : Nat} (sound : link.Sound last) (flags : LinkFlags) :
    Sound last { link with flags := flags } :=
  ⟨sound.index_pos, sound.index_le, sound.master_pos, sound.master_le, sound.master_ne,
    sound.portNo_eq_zero_iff⟩

end Link.Sound

namespace Kernel.WellFormed

variable {kernel : Kernel}

theorem eq_of_index (valid : kernel.WellFormed) {a b : Link} (ha : a ∈ kernel.links)
    (hb : b ∈ kernel.links) (same : a.index = b.index) : a = b := by
  have distinct := valid.ordered
  obtain ⟨i, inside, rfl⟩ := List.getElem_of_mem ha
  obtain ⟨j, within, rfl⟩ := List.getElem_of_mem hb
  rw [List.pairwise_iff_getElem] at distinct
  rcases Nat.lt_trichotomy i j with before | here | after
  · exact absurd same (Nat.ne_of_lt (distinct i j inside within before))
  · subst here
    rfl
  · exact absurd same.symm (Nat.ne_of_lt (distinct j i within inside after))

theorem get?_index (valid : kernel.WellFormed) {link : Link} (member : link ∈ kernel.links) :
    kernel.get? link.index = some link := by
  cases found : kernel.get? link.index with
  | none => exact absurd rfl (get?_eq_none_iff.mp found link member)
  | some other =>
    exact congrArg some (valid.eq_of_index (mem_of_get? found) member (index_of_get? found))

/-- Bridges of one name are one bridge. -/
theorem bridge_unique (valid : kernel.WellFormed) {a b : Link} (ha : a ∈ kernel.links)
    (hb : b ∈ kernel.links) (bridgeA : a.isBridge = true) (bridgeB : b.isBridge = true)
    (same : a.name = b.name) : a = b := by
  have found := valid.find?_bridge a ha bridgeA
  rw [same, valid.find?_bridge b hb bridgeB] at found
  exact (Option.some.inj found).symm

theorem find?_modify_self {f : Link → Link} (keeps : Link.Keeps f) {name : String} {link : Link}
    (found : kernel.find? name = some link) :
    (kernel.modify link.index f).find? name = some (f link) := by
  rw [modify_eq_change, find?_change (keeps.only link.index), found, Option.map_some,
    Link.only_of_eq rfl]

theorem find?_modify_of_ne (valid : kernel.WellFormed) {f : Link → Link} (keeps : Link.Keeps f)
    {name other : String} {link : Link} (found : kernel.find? name = some link)
    (different : other ≠ name) : (kernel.modify link.index f).find? other = kernel.find? other := by
  rw [modify_eq_change, find?_change (keeps.only link.index)]
  cases located : kernel.find? other with
  | none => rfl
  | some second =>
    have apart : second.index ≠ link.index := by
      intro same
      obtain rfl := valid.eq_of_index (mem_of_find? located) (mem_of_find? found) same
      exact different ((name_of_find? located).symm.trans (name_of_find? found))
    rw [Option.map_some, Link.only_of_ne apart]

theorem new : Kernel.WellFormed .new where
  ordered := List.pairwise_singleton _ _
  sound link member := by
    obtain rfl := List.mem_singleton.mp member
    exact Link.Sound.flagged (.fresh 0 "lo" false) _
  port_unique a ha b hb _ _ _ :=
    (List.mem_singleton.mp ha).trans (List.mem_singleton.mp hb).symm
  master_isBridge port member _ _ attached := by
    obtain rfl := List.mem_singleton.mp member
    cases attached
  find?_bridge bridge member isBridge := by
    obtain rfl := List.mem_singleton.mp member
    cases isBridge

theorem congr {other : Kernel} (valid : kernel.WellFormed) (links : other.links = kernel.links)
    (last : other.lastIndex = kernel.lastIndex) : other.WellFormed where
  ordered := links ▸ valid.ordered
  sound := by rw [links, last]; exact valid.sound
  port_unique := by rw [links]; exact valid.port_unique
  master_isBridge := by rw [links]; exact valid.master_isBridge
  find?_bridge := by
    simp only [find?, links]
    exact valid.find?_bridge

/-- A link that is no bridge may take any name, a bridge only one that no live link has. -/
theorem insert (valid : kernel.WellFormed) {name : String} {isBridge : Bool}
    (free : isBridge = true → kernel.find? name = none) :
    (kernel.insert name isBridge).WellFormed where
  ordered := by
    refine List.pairwise_append.mpr ⟨valid.ordered, List.pairwise_singleton _ _, ?_⟩
    intro link member added fresh
    obtain rfl := List.mem_singleton.mp fresh
    exact Nat.lt_succ_of_le (valid.sound link member).index_le
  sound link member := by
    rcases List.mem_append.mp member with old | fresh
    · exact (valid.sound link old).mono (Nat.le_succ _)
    · obtain rfl := List.mem_singleton.mp fresh
      exact .fresh kernel.lastIndex name isBridge
  port_unique a ha b hb port sameMaster samePort := by
    rcases List.mem_append.mp ha with oldA | freshA
    · rcases List.mem_append.mp hb with oldB | freshB
      · exact valid.port_unique a oldA b oldB port sameMaster samePort
      · obtain rfl := List.mem_singleton.mp freshB
        exact absurd sameMaster port
    · obtain rfl := List.mem_singleton.mp freshA
      exact absurd rfl port
  master_isBridge port hport bridge hbridge attached := by
    rcases List.mem_append.mp hport with oldPort | freshPort
    · rcases List.mem_append.mp hbridge with oldBridge | freshBridge
      · exact valid.master_isBridge port oldPort bridge oldBridge attached
      · -- No master, dangling or not, is as high as the new index.
        obtain rfl := List.mem_singleton.mp freshBridge
        have low := (valid.sound port oldPort).master_le _ attached
        exact absurd low (Nat.not_succ_le_self _)
    · obtain rfl := List.mem_singleton.mp freshPort
      cases attached
  find?_bridge bridge member kind := by
    rcases List.mem_append.mp member with old | fresh
    · exact find?_insert_of_some (valid.find?_bridge bridge old kind) name isBridge
    · obtain rfl := List.mem_singleton.mp fresh
      exact find?_insert_self (free kind) isBridge

theorem erase (valid : kernel.WellFormed) (index : Nat) : (kernel.erase index).WellFormed where
  ordered := valid.ordered.filter _
  sound link member := valid.sound link (List.mem_filter.mp member).1
  port_unique a ha b hb :=
    valid.port_unique a (List.mem_filter.mp ha).1 b (List.mem_filter.mp hb).1
  master_isBridge port hport bridge hbridge :=
    valid.master_isBridge port (List.mem_filter.mp hport).1 bridge (List.mem_filter.mp hbridge).1
  find?_bridge bridge member kind := by
    obtain ⟨old, kept⟩ := List.mem_filter.mp member
    exact find?_erase (valid.find?_bridge bridge old kind) (by simpa using kept)

/-- A change of links that are looked up as before needs to respect the ports alone. -/
theorem change (valid : kernel.WellFormed) {f : Link → Link} (keeps : Link.Keeps f)
    (sound : ∀ link ∈ kernel.links, (f link).Sound kernel.lastIndex)
    (port_unique : ∀ a ∈ kernel.links, ∀ b ∈ kernel.links, (f a).master ≠ none →
      (f a).master = (f b).master → (f a).portNo = (f b).portNo → a = b)
    (master_isBridge : ∀ port ∈ kernel.links, ∀ bridge ∈ kernel.links,
      (f port).master = some bridge.index → bridge.isBridge = true) :
    (kernel.change f).WellFormed where
  ordered := by
    rw [Kernel.change, List.pairwise_map]
    exact valid.ordered.imp fun {a b} before => by rwa [keeps.index a, keeps.index b]
  sound link member := by
    obtain ⟨old, mem, rfl⟩ := List.mem_map.mp member
    exact sound old mem
  port_unique a ha b hb port sameMaster samePort := by
    obtain ⟨oldA, memA, rfl⟩ := List.mem_map.mp ha
    obtain ⟨oldB, memB, rfl⟩ := List.mem_map.mp hb
    rw [port_unique oldA memA oldB memB port sameMaster samePort]
  master_isBridge port hport bridge hbridge attached := by
    obtain ⟨oldPort, memPort, rfl⟩ := List.mem_map.mp hport
    obtain ⟨oldBridge, memBridge, rfl⟩ := List.mem_map.mp hbridge
    rw [keeps.index] at attached
    rw [keeps.isBridge]
    exact master_isBridge oldPort memPort oldBridge memBridge attached
  find?_bridge bridge member kind := by
    obtain ⟨old, mem, rfl⟩ := List.mem_map.mp member
    rw [keeps.isBridge] at kind
    rw [keeps.name, find?_change keeps, valid.find?_bridge old mem kind, Option.map_some]

/-- Links that keep their ports or lose them keep the invariant. -/
theorem change_of_fewer_ports (valid : kernel.WellFormed) {f : Link → Link} (keeps : Link.Keeps f)
    (sound : ∀ link ∈ kernel.links, (f link).Sound kernel.lastIndex)
    (fewer : ∀ link ∈ kernel.links, (f link).master = none ∨
      (f link).master = link.master ∧ (f link).portNo = link.portNo) :
    (kernel.change f).WellFormed := by
  refine valid.change keeps sound ?_ ?_
  · intro a ha b hb port sameMaster samePort
    rcases fewer a ha with lostA | ⟨masterA, numberA⟩
    · exact absurd lostA port
    rcases fewer b hb with lostB | ⟨masterB, numberB⟩
    · exact absurd (sameMaster.trans lostB) port
    · exact valid.port_unique a ha b hb (masterA ▸ port)
        (masterA.symm.trans (sameMaster.trans masterB))
        (numberA.symm.trans (samePort.trans numberB))
  · intro port hport bridge hbridge attached
    rcases fewer port hport with lost | ⟨master, -⟩
    · rw [lost] at attached
      cases attached
    · exact valid.master_isBridge port hport bridge hbridge (master ▸ attached)

theorem modify_flags (valid : kernel.WellFormed) (index : Nat) (flags : LinkFlags) :
    (kernel.modify index fun link => { link with flags := flags }).WellFormed := by
  rw [modify_eq_change]
  refine valid.change_of_fewer_ports ((Link.Keeps.flagged flags).only index) ?_ ?_
  · intro link member
    unfold Link.only
    split
    · exact (valid.sound link member).flagged flags
    · exact valid.sound link member
  · intro link _
    unfold Link.only
    split <;> exact .inr ⟨rfl, rfl⟩

theorem modify_detached (valid : kernel.WellFormed) (index : Nat) :
    (kernel.modify index Link.detached).WellFormed := by
  rw [modify_eq_change]
  refine valid.change_of_fewer_ports (Link.Keeps.detached.only index) ?_ ?_
  · intro link member
    unfold Link.only
    split
    · exact (valid.sound link member).detached
    · exact valid.sound link member
  · intro link _
    unfold Link.only
    split
    · exact .inl rfl
    · exact .inr ⟨rfl, rfl⟩

theorem detachAll (valid : kernel.WellFormed) (bridge : Nat) :
    (kernel.detachAll bridge).WellFormed := by
  rw [detachAll_eq_change]
  refine valid.change_of_fewer_ports (Link.Keeps.freed bridge) ?_ ?_
  · intro link member
    unfold Link.freed
    split
    · exact (valid.sound link member).detached
    · exact valid.sound link member
  · intro link _
    unfold Link.freed
    split
    · exact .inl rfl
    · exact .inr ⟨rfl, rfl⟩

/-- A link may become a port of another link that is a bridge, under a number no port there has. -/
theorem modify_attached (valid : kernel.WellFormed) {bridge : Link} {port number : Nat}
    (present : bridge ∈ kernel.links) (kind : bridge.isBridge = true) (other : bridge.index ≠ port)
    (positive : 0 < number)
    (unused : ∀ link ∈ kernel.portsOf bridge.index, link.portNo ≠ number) :
    (kernel.modify port (Link.attached · bridge.index number)).WellFormed := by
  have unclaimed : ∀ link ∈ kernel.links, link.master = some bridge.index →
      link.portNo ≠ number :=
    fun link member attached => unused link (mem_portsOf.mpr ⟨member, attached⟩)
  rw [modify_eq_change]
  refine valid.change ((Link.Keeps.attached bridge.index number).only port) ?_ ?_ ?_
  · intro target mem
    by_cases same : target.index = port
    · rw [Link.only_of_eq same]
      exact (valid.sound target mem).attached (valid.sound bridge present) (same ▸ other) positive
    · rw [Link.only_of_ne same]
      exact valid.sound target mem
  · intro a ha b hb owned sameMaster samePort
    by_cases sameA : a.index = port <;> by_cases sameB : b.index = port
    · exact valid.eq_of_index ha hb (sameA.trans sameB.symm)
    · rw [Link.only_of_eq sameA, Link.only_of_ne sameB] at sameMaster samePort
      exact absurd samePort.symm (unclaimed b hb sameMaster.symm)
    · rw [Link.only_of_ne sameA, Link.only_of_eq sameB] at sameMaster samePort
      exact absurd samePort (unclaimed a ha sameMaster)
    · rw [Link.only_of_ne sameA] at owned sameMaster samePort
      rw [Link.only_of_ne sameB] at sameMaster samePort
      exact valid.port_unique a ha b hb owned sameMaster samePort
  · intro link hlink master hmaster attached
    by_cases same : link.index = port
    · rw [Link.only_of_eq same] at attached
      have bridgeIndex : bridge.index = master.index := Option.some.inj attached
      exact valid.eq_of_index present hmaster bridgeIndex ▸ kind
    · rw [Link.only_of_ne same] at attached
      exact valid.master_isBridge link hlink master hmaster attached

end Kernel.WellFormed

end NetBridge
