import Mathlib.Data.List.Forall2
import NetBridge.Proofs.Kernel.WellFormed

namespace NetBridge

/-- What may be added to a table, by name. -/
structure Demand where
  bridges : String → Prop
  /-- Links, given second, that may join a bridge. -/
  members : String → String → Prop
  raised : String → Prop

/-- What may become of a link under a demand; `later` are the links beside it afterwards. -/
structure Link.Grows (demand : Demand) (later : List Link) (before after : Link) : Prop where
  index : after.index = before.index
  name : after.name = before.name
  isBridge : after.isBridge = before.isBridge
  stays : ∀ master, before.master = some master →
    after.master = some master ∧ after.portNo = before.portNo
  /-- Any other link is attached as is demanded, to a live bridge, or not at all. -/
  joins : before.master = none →
    after.master = none ∧ after.portNo = before.portNo ∨
      ∃ bridge ∈ later, bridge.isBridge = true ∧ after.master = some bridge.index ∧
        demand.members bridge.name before.name
  keeps : ∀ i, before.flags.bits.getLsbD i = true → after.flags.bits.getLsbD i = true
  /-- No flag is set but the up bit, and that on a bridge, as is demanded. -/
  gains : ∀ i, before.flags.bits.getLsbD i = false → after.flags.bits.getLsbD i = true →
    i = 0 ∧ before.isBridge = true ∧ demand.raised before.name

namespace Link.Grows

variable {demand : Demand} {later : List Link} {before middle after : Link}

theorem refl (demand : Demand) (later : List Link) (link : Link) : link.Grows demand later link where
  index := rfl
  name := rfl
  isBridge := rfl
  stays _ owned := ⟨owned, rfl⟩
  joins free := .inl ⟨free, rfl⟩
  keeps _ set := set
  gains i clear set := by
    rw [clear] at set
    cases set

theorem attached {link bridge : Link} (live : bridge ∈ later) (kind : bridge.isBridge = true)
    (asked : demand.members bridge.name link.name) (free : link.master = none) (number : Nat) :
    link.Grows demand later (link.attached bridge.index number) where
  index := rfl
  name := rfl
  isBridge := rfl
  stays _ owned := by
    rw [free] at owned
    cases owned
  joins _ := .inr ⟨bridge, live, kind, rfl, asked⟩
  keeps _ set := set
  gains i clear set := by
    rw [show (link.attached bridge.index number).flags = link.flags from rfl, clear] at set
    cases set

theorem raised {link : Link} (kind : link.isBridge = true) (asked : demand.raised link.name) :
    link.Grows demand later { link with flags := link.flags.setUp true } where
  index := rfl
  name := rfl
  isBridge := rfl
  stays _ owned := ⟨owned, rfl⟩
  joins free := .inl ⟨free, rfl⟩
  keeps i set := by
    rw [LinkFlags.getLsbD_setUp, set, ite_self]
  gains i clear set := by
    rw [LinkFlags.getLsbD_setUp, clear] at set
    by_cases first : i = 0
    · exact ⟨first, kind, asked⟩
    · rw [if_neg first] at set
      cases set

/-- Growing further, beside links that stay with their names and kinds. -/
theorem trans {further : List Link} (first : before.Grows demand later middle)
    (second : middle.Grows demand further after)
    (lasting : ∀ link ∈ later, ∃ other ∈ further, other.index = link.index ∧
      other.name = link.name ∧ other.isBridge = link.isBridge) :
    before.Grows demand further after where
  index := second.index.trans first.index
  name := second.name.trans first.name
  isBridge := second.isBridge.trans first.isBridge
  stays master owned := by
    obtain ⟨owned, number⟩ := first.stays master owned
    obtain ⟨still, same⟩ := second.stays master owned
    exact ⟨still, same.trans number⟩
  joins free := by
    rcases first.joins free with ⟨free, number⟩ | ⟨bridge, live, kind, owned, asked⟩
    · rcases second.joins free with ⟨still, same⟩ | ⟨bridge, live, kind, owned, asked⟩
      · exact .inl ⟨still, same.trans number⟩
      · exact .inr ⟨bridge, live, kind, owned, first.name ▸ asked⟩
    · obtain ⟨other, present, index, name, isBridge⟩ := lasting bridge live
      obtain ⟨still, -⟩ := second.stays bridge.index owned
      exact .inr ⟨other, present, isBridge.trans kind, index ▸ still, name ▸ asked⟩
  keeps i set := second.keeps i (first.keeps i set)
  gains i clear set := by
    cases between : middle.flags.bits.getLsbD i with
    | true => exact first.gains i clear between
    | false =>
      obtain ⟨up, kind, asked⟩ := second.gains i between set
      exact ⟨up, first.isBridge ▸ kind, first.name ▸ asked⟩

end Link.Grows

theorem forall₂_comp {first : α → β → Prop} {second : β → γ → Prop} {both : α → γ → Prop}
    (compose : ∀ a b c, first a b → second b c → both a c) {xs : List α} {ys : List β} {zs : List γ}
    (left : List.Forall₂ first xs ys) (right : List.Forall₂ second ys zs) :
    List.Forall₂ both xs zs := by
  induction left generalizing zs with
  | nil =>
    cases right
    exact .nil
  | cons head _ ih =>
    cases right with
    | cons next rest => exact .cons (compose _ _ _ head next) (ih rest)

namespace Kernel

/-- Nothing is taken from the table: its links are those of before, grown, and after them new
bridges, as they first appear and then grown likewise. -/
def Grows (demand : Demand) (before after : Kernel) : Prop :=
  ∃ created, List.Forall₂ (Link.Grows demand after.links) (before.links ++ created) after.links ∧
    ∀ link ∈ created, ∃ index name, link = .fresh index name true ∧ demand.bridges name

namespace Grows

variable {demand : Demand} {kernel before middle after : Kernel}

theorem change {f : Link → Link} (links : after.links = kernel.links.map f)
    (each : ∀ link ∈ kernel.links, link.Grows demand after.links (f link)) :
    kernel.Grows demand after := by
  refine ⟨[], ?_, nofun⟩
  rw [List.append_nil]
  generalize after.links = later at links each
  subst links
  exact List.forall₂_map_right_iff.mpr (List.forall₂_same.mpr each)

theorem modify (valid : kernel.WellFormed) {link : Link} {f : Link → Link}
    (live : link ∈ kernel.links) (links : after.links = (kernel.modify link.index f).links)
    (grown : link.Grows demand after.links (f link)) : kernel.Grows demand after := by
  refine change (f := Link.only link.index f) links fun target present => ?_
  by_cases same : target.index = link.index
  · obtain rfl := valid.eq_of_index present live same
    rwa [Link.only_of_eq rfl]
  · rw [Link.only_of_ne same]
    exact .refl demand _ target

theorem of_links_eq (same : after.links = kernel.links) : kernel.Grows demand after :=
  change (f := id) (same.trans (List.map_id _).symm) fun link _ => .refl demand _ link

theorem insert {name : String} (asked : demand.bridges name)
    (links : after.links = (kernel.insert name true).links) : kernel.Grows demand after := by
  refine ⟨[Link.fresh (kernel.lastIndex + 1) name true], ?_, ?_⟩
  · rw [← show (kernel.insert name true).links = kernel.links ++ _ from rfl, links]
    exact List.forall₂_same.mpr fun link _ => .refl demand _ link
  · intro link member
    exact ⟨_, name, List.mem_singleton.mp member, asked⟩

theorem lasting (grows : before.Grows demand after) {link : Link} (live : link ∈ before.links) :
    ∃ other ∈ after.links, link.Grows demand after.links other := by
  obtain ⟨created, related, -⟩ := grows
  have present : link ∈ before.links ++ created := List.mem_append_left _ live
  obtain ⟨i, inside, rfl⟩ := List.getElem_of_mem present
  have within : i < after.links.length := related.length_eq ▸ inside
  exact ⟨after.links[i], List.getElem_mem within, related.get inside within⟩

theorem trans (first : before.Grows demand middle) (second : middle.Grows demand after) :
    before.Grows demand after := by
  have lasting : ∀ link ∈ middle.links, ∃ other ∈ after.links, other.index = link.index ∧
      other.name = link.name ∧ other.isBridge = link.isBridge := by
    intro link live
    obtain ⟨other, present, grown⟩ := second.lasting live
    exact ⟨other, present, grown.index, grown.name, grown.isBridge⟩
  obtain ⟨created, early, asked⟩ := first
  obtain ⟨further, late, askedFurther⟩ := second
  refine ⟨created ++ further, ?_, ?_⟩
  · have paused : List.Forall₂ (Link.Grows demand middle.links) further further :=
      List.forall₂_same.mpr fun link _ => .refl demand _ link
    rw [← List.append_assoc]
    exact forall₂_comp (fun _ _ _ grown more => grown.trans more lasting)
      (List.rel_append early paused) late
  · intro link member
    rcases List.mem_append.mp member with old | new
    · exact asked link old
    · exact askedFurther link new

end Grows

end Kernel

end NetBridge
