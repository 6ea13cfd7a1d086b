import NetBridge.Proofs.Kernel.Listing

namespace NetBridge.Kernel

variable {kernel : Kernel} {index number : Nat} {link : Link}

/-- The links that deleting a bridge leaves: the others, with its ports let go. -/
def without (kernel : Kernel) (index : Nat) : List Link :=
  ((kernel.erase index).detachAll index).links

theorem without_eq (kernel : Kernel) (index : Nat) : kernel.without index =
    (kernel.links.filter fun link => link.index ≠ index).map (Link.freed index) := rfl

/-- A change that is lost when the bridge goes. -/
theorem without_change {f : Link → Link} (keeps : Link.Keeps f)
    (lost : ∀ link ∈ kernel.links, link.index ≠ index →
      Link.freed index (f link) = Link.freed index link) :
    (kernel.change f).without index = kernel.without index := by
  simp only [without_eq, change, List.filter_map, List.map_map, Function.comp_def, keeps.index]
  refine List.map_congr_left fun link member => ?_
  obtain ⟨live, other⟩ := List.mem_filter.mp member
  exact lost link live (by simpa using other)

/-- A bridge that was just created leaves the table as it was before. -/
theorem WellFormed.without_insert (valid : kernel.WellFormed) (name : String) :
    (kernel.insert name true).without (kernel.lastIndex + 1) = kernel.links := by
  have older : kernel.links.filter (fun link => link.index ≠ kernel.lastIndex + 1) =
      kernel.links := by
    refine List.filter_eq_self.mpr fun link member => ?_
    have bound := (valid.sound link member).index_le
    simp only [decide_eq_true_eq]
    omega
  have untouched : kernel.links.map (Link.freed (kernel.lastIndex + 1)) = kernel.links := by
    refine (List.map_congr_left fun link member => ?_).trans (List.map_id _)
    refine Link.freed_of_ne fun attached => ?_
    exact absurd ((valid.sound link member).master_le _ attached) (Nat.not_succ_le_self _)
  rw [without_eq, Kernel.insert, List.filter_append, older]
  simp [Link.fresh, untouched]

theorem WellFormed.without_attached (valid : kernel.WellFormed) (member : link ∈ kernel.links)
    (free : link.master = none) :
    (kernel.modify link.index (Link.attached · index number)).without index =
      kernel.without index := by
  rw [modify_eq_change]
  refine without_change ((Link.Keeps.attached index number).only link.index) ?_
  intro port live _
  by_cases same : port.index = link.index
  · obtain rfl := valid.eq_of_index live member same
    have unnumbered := (valid.sound port live).portNo_eq_zero_iff.mpr free
    rw [Link.only_of_eq rfl, Link.freed_of_eq rfl, Link.freed_of_ne (by simp [free])]
    cases port
    simp_all [Link.attached, Link.detached]
  · rw [Link.only_of_ne same]

theorem WellFormed.without_detached (valid : kernel.WellFormed) (member : link ∈ kernel.links)
    (attached : link.master = some index) :
    (kernel.modify link.index Link.detached).without index = kernel.without index := by
  rw [modify_eq_change]
  refine without_change (Link.Keeps.detached.only link.index) ?_
  intro port live _
  by_cases same : port.index = link.index
  · obtain rfl := valid.eq_of_index live member same
    rw [Link.only_of_eq rfl, Link.freed_of_eq attached, Link.freed_of_ne (by simp [Link.detached])]
  · rw [Link.only_of_ne same]

theorem without_flagged (flags : LinkFlags) :
    (kernel.modify index fun link => { link with flags := flags }).without index =
      kernel.without index := by
  rw [modify_eq_change]
  refine without_change ((Link.Keeps.flagged flags).only index) ?_
  intro port _ other
  rw [Link.only_of_ne other]

end NetBridge.Kernel
