import Mathlib.Data.List.Forall2
import Mathlib.Data.List.Nodup
import NetBridge.Name
import NetBridge.Topology.Action
import NetBridge.Topology.Declaration

namespace NetBridge

/-- The link that a step works on, the bridge for a member. -/
def Action.bridge : Action → String
  | createBridge bridge => bridge
  | addMember bridge _ => bridge
  | linkUp name => name
  | removeMember bridge _ => bridge
  | linkDown name => name
  | deleteBridge bridge => bridge

/-- A declared bridge with the names its texts denote. -/
structure Blueprint where
  name : IfName
  members : List IfName
  up : Bool
deriving DecidableEq, Repr

namespace Blueprint

/-- What a declaration comes to under a policy. -/
structure Denoted (policy : NamePolicy) (declared : Declaration) (blueprint : Blueprint) : Prop where
  name : IfName.ofText policy declared.name = .ok blueprint.name
  members : List.Forall₂ (fun text iface => IfName.ofText policy text = .ok iface)
    declared.members blueprint.members
  up : declared.up = blueprint.up

/-- Every step that building the bridge from nothing takes. -/
def building (blueprint : Blueprint) : List Action :=
  .createBridge blueprint.name.text ::
    (blueprint.members.map fun iface => .addMember blueprint.name.text iface.text) ++
    if blueprint.up then [.linkUp blueprint.name.text] else []

/-- Every step that taking the bridge apart can take. -/
def dismantling (blueprint : Blueprint) : List Action :=
  (blueprint.members.map fun iface => .removeMember blueprint.name.text iface.text) ++
    [.linkDown blueprint.name.text, .deleteBridge blueprint.name.text]

abbrev Denotes (policy : NamePolicy) (declared : List Declaration) (blueprints : List Blueprint) :
    Prop :=
  List.Forall₂ (Denoted policy) declared blueprints

theorem denoted_unique {policy : NamePolicy} {declared : Declaration} {first second : Blueprint}
    (one : Denoted policy declared first) (two : Denoted policy declared second) :
    first = second := by
  have name := Except.ok.inj (one.name.symm.trans two.name)
  have functional : Relator.RightUnique fun text iface => IfName.ofText policy text = .ok iface :=
    fun _ _ _ here there => Except.ok.inj (here.symm.trans there)
  have members := functional.forall₂ one.members two.members
  have up := one.up.symm.trans two.up
  cases first
  cases second
  simp_all

theorem denotes_unique {policy : NamePolicy} {declared : List Declaration}
    {first second : List Blueprint} (one : Denotes policy declared first)
    (two : Denotes policy declared second) : first = second := by
  have functional : Relator.RightUnique (Denoted policy) :=
    fun _ _ _ here there => denoted_unique here there
  exact functional.forall₂ one two

theorem exists_forall₂ {related : α → β → Prop} {left : List α}
    (each : ∀ a ∈ left, ∃ b, related a b) : ∃ right, List.Forall₂ related left right := by
  induction left with
  | nil => exact ⟨[], .nil⟩
  | cons first rest ih =>
    obtain ⟨head, others⟩ := List.forall_mem_cons.mp each
    obtain ⟨b, pair⟩ := head
    obtain ⟨right, pairs⟩ := ih others
    exact ⟨b :: right, .cons pair pairs⟩

/-- Declarations of valid names denote blueprints. -/
theorem exists_denotes {policy : NamePolicy} {declared : List Declaration}
    (valid : ∀ declaration ∈ declared, ∀ text ∈ declaration.name :: declaration.members,
      ∃ name, IfName.ofText policy text = .ok name) :
    ∃ blueprints, Denotes policy declared blueprints := by
  refine exists_forall₂ fun declaration member => ?_
  obtain ⟨⟨name, named⟩, each⟩ := List.forall_mem_cons.mp (valid declaration member)
  obtain ⟨members, others⟩ := exists_forall₂ each
  exact ⟨⟨name, members, declaration.up⟩, named, others, rfl⟩

theorem exists_of_mem_right {related : α → β → Prop} {left : List α} {right : List β}
    (paired : List.Forall₂ related left right) {b : β} (member : b ∈ right) :
    ∃ a ∈ left, related a b := by
  induction paired with
  | nil => cases member
  | cons head tail ih =>
    rcases List.mem_cons.mp member with rfl | later
    · exact ⟨_, List.mem_cons_self .., head⟩
    · obtain ⟨a, found, pair⟩ := ih later
      exact ⟨a, List.mem_cons_of_mem _ found, pair⟩

/-- No bridge is declared twice, no interface is a member twice, and no bridge is a member of
itself. -/
structure Consistent (blueprints : List Blueprint) : Prop where
  names : (blueprints.map Blueprint.name).Nodup
  members : (blueprints.flatMap Blueprint.members).Nodup
  apart : ∀ blueprint ∈ blueprints, blueprint.name ∉ blueprint.members

theorem consistent_cons_iff {first : Blueprint} {rest : List Blueprint} :
    Consistent (first :: rest) ↔
      (∀ blueprint ∈ rest, blueprint.name ≠ first.name) ∧ first.name ∉ first.members ∧
        first.members.Nodup ∧ (∀ iface ∈ first.members, iface ∉ rest.flatMap Blueprint.members) ∧
        Consistent rest := by
  constructor
  · rintro ⟨names, members, apart⟩
    obtain ⟨once, names⟩ := List.nodup_cons.mp names
    obtain ⟨distinct, members, disjoint⟩ := List.nodup_append.mp members
    refine ⟨fun other member same => once (List.mem_map.mpr ⟨other, member, same⟩),
      apart first (List.mem_cons_self ..), distinct,
      fun iface mine theirs => disjoint iface mine iface theirs rfl, names, members,
      fun other member => apart other (List.mem_cons_of_mem _ member)⟩
  · rintro ⟨once, itself, distinct, disjoint, names, members, apart⟩
    refine ⟨List.nodup_cons.mpr ⟨fun again => ?_, names⟩, List.nodup_append.mpr
      ⟨distinct, members, ?_⟩, List.forall_mem_cons.mpr ⟨itself, apart⟩⟩
    · obtain ⟨other, member, same⟩ := List.mem_map.mp again
      exact once other member same
    · rintro iface mine other theirs rfl
      exact disjoint iface mine theirs

/-- A bridge is brought up only after the step that creates it. -/
def Led (actions : List Action) : Prop :=
  ∀ before name later, actions = before ++ .linkUp name :: later → .createBridge name ∈ before

theorem Led.append {first second : List Action} (ledFirst : Led first) (ledSecond : Led second) :
    Led (first ++ second) := by
  intro before name later split
  rcases List.append_eq_append_iff.mp split with ⟨between, rfl, rest⟩ | ⟨between, rfl, rest⟩
  · exact List.mem_append_right _ (ledSecond between name later rest)
  · cases between with
    | nil =>
      have created := ledSecond [] name later rest.symm
      cases created
    | cons head tail =>
      obtain ⟨rfl, -⟩ := List.cons.inj rest
      exact ledFirst before name tail rfl

theorem bridge_of_mem_building {blueprint : Blueprint} {action : Action}
    (member : action ∈ blueprint.building) : action.bridge = blueprint.name.text := by
  rcases List.mem_append.mp member with early | late
  · rcases List.mem_cons.mp early with rfl | adding
    · rfl
    · obtain ⟨iface, -, rfl⟩ := List.mem_map.mp adding
      rfl
  · split at late
    · obtain rfl := List.mem_singleton.mp late
      rfl
    · cases late

theorem led_building (blueprint : Blueprint) : Led blueprint.building := by
  intro before name later split
  have raised : Action.linkUp name ∈ blueprint.building := by simp [split]
  have named : name = blueprint.name.text := bridge_of_mem_building raised
  cases before with
  | nil => cases split
  | cons head tail =>
    obtain ⟨rfl, -⟩ := List.cons.inj split
    exact named ▸ List.mem_cons_self ..

theorem led_flatMap_building (blueprints : List Blueprint) :
    Led (blueprints.flatMap building) := by
  induction blueprints with
  | nil =>
    intro before name later split
    simp at split
  | cons first rest ih => exact (led_building first).append ih

theorem nodup_building {blueprint : Blueprint} (distinct : blueprint.members.Nodup) :
    blueprint.building.Nodup := by
  have adding : (blueprint.members.map fun iface =>
      Action.addMember blueprint.name.text iface.text).Nodup := by
    refine distinct.map_on fun a _ b _ same => ?_
    exact IfName.ext_text (Action.addMember.inj same).2
  refine List.nodup_append.mpr ⟨List.nodup_cons.mpr ⟨?_, adding⟩, ?_, ?_⟩
  · simp
  · split
    · exact List.nodup_singleton _
    · exact List.nodup_nil
  · rintro first early second late rfl
    split at late
    · obtain rfl := List.mem_singleton.mp late
      simp at early
    · cases late

theorem Consistent.nodup_building {blueprints : List Blueprint} (consistent : Consistent blueprints) :
    (blueprints.flatMap building).Nodup := by
  induction blueprints with
  | nil => exact List.nodup_nil
  | cons first rest ih =>
    obtain ⟨once, -, distinct, -, consistent⟩ := consistent_cons_iff.mp consistent
    refine List.nodup_append.mpr ⟨Blueprint.nodup_building distinct, ih consistent, ?_⟩
    rintro action mine other theirs rfl
    obtain ⟨second, member, theirs⟩ := List.mem_flatMap.mp theirs
    have same := (bridge_of_mem_building theirs).symm.trans (bridge_of_mem_building mine)
    exact once second member (IfName.ext_text same)

end Blueprint

end NetBridge
