import NetBridge.Config
import NetBridge.Proofs.Topology.Blueprint

namespace NetBridge

namespace Reported

theorem result_bind_of_ok {first : Reported ε α} {next : α → Reported ε β} {value : α}
    (reached : first.result = .ok value) : (first >>= next).result = (next value).result := by
  rw [result_bind, reached]
  rfl

theorem result_bind_of_error {first : Reported ε α} {next : α → Reported ε β} {cause : ε}
    (failed : first.result = .error cause) : (first >>= next).result = .error cause := by
  rw [result_bind, failed]
  rfl

end Reported

theorem Reported.result_bind_eq_ok_iff {first : Reported ε α} {next : α → Reported ε β}
    {value : β} : (first >>= next).result = .ok value ↔
      ∃ middle, first.result = .ok middle ∧ (next middle).result = .ok value := by
  rw [result_bind]
  cases first.result with
  | error cause => exact ⟨nofun, fun ⟨_, reached, _⟩ => nomatch reached⟩
  | ok middle =>
    refine ⟨fun done => ⟨middle, rfl, done⟩, ?_⟩
    rintro ⟨reached, same, done⟩
    exact Except.ok.inj same ▸ done

namespace Config

open Blueprint

variable {policy : NamePolicy} {text bridge : String} {own iface : IfName}

theorem admitName_eq_ok_iff :
    (admitName policy text).result = .ok iface ↔ IfName.ofText policy text = .ok iface := by
  rw [admitName, normalise]
  cases IfName.ofText policy text <;> simp [Reported.mapError, Except.mapError]

theorem lookup_eq_none_iff {owners : Owners} :
    owners.lookup iface = none ↔ iface ∉ owners.map Prod.fst := by
  simp only [List.lookup_eq_none_iff, bne_iff_ne, List.mem_map, not_exists, not_and]
  exact ⟨fun apart owner member same => apart owner member same.symm,
    fun apart owner member same => apart owner member same.symm⟩

theorem admitMembers_cons_eq_ok_iff {rest : List String} {owners after : Owners} :
    (admitMembers policy bridge own (text :: rest) owners).result = .ok after ↔
      ∃ iface, IfName.ofText policy text = .ok iface ∧ iface ≠ own ∧
        iface ∉ owners.map Prod.fst ∧
        (admitMembers policy bridge own rest ((iface, bridge) :: owners)).result = .ok after := by
  rw [admitMembers, Reported.result_bind_eq_ok_iff]
  refine exists_congr fun iface => ?_
  rw [admitName_eq_ok_iff, ← lookup_eq_none_iff]
  refine and_congr_right fun _ => ?_
  by_cases itself : iface = own
  · simp only [itself, if_true, Reported.result_bind, Reported.result_throw]
    exact ⟨nofun, fun held => absurd rfl held.1⟩
  · cases owners.lookup iface with
    | none => simp [itself]
    | some owner => simp [itself]

/-- The members of one bridge are admitted when they are named, apart from the bridge, all
different, and none has an owner yet; they then belong to this bridge. -/
theorem admitMembers_eq_ok_iff {texts : List String} {owners after : Owners} :
    (admitMembers policy bridge own texts owners).result = .ok after ↔
      ∃ ifaces, List.Forall₂ (fun text iface => IfName.ofText policy text = .ok iface)
          texts ifaces ∧ own ∉ ifaces ∧ ifaces.Nodup ∧
        (∀ iface ∈ ifaces, iface ∉ owners.map Prod.fst) ∧
        after = ifaces.reverse.map (·, bridge) ++ owners := by
  induction texts generalizing owners with
  | nil =>
    constructor
    · intro done
      obtain rfl := Except.ok.inj done
      exact ⟨[], .nil, List.not_mem_nil, List.nodup_nil, nofun, rfl⟩
    · rintro ⟨ifaces, named, -, -, -, rfl⟩
      obtain rfl := List.forall₂_nil_left_iff.mp named
      rfl
  | cons text rest ih =>
    rw [admitMembers_cons_eq_ok_iff]
    constructor
    · rintro ⟨iface, named, other, unowned, later⟩
      obtain ⟨ifaces, others, apart, distinct, fresh, rfl⟩ := ih.mp later
      refine ⟨iface :: ifaces, .cons named others, ?_, ?_, ?_, by simp⟩
      · exact List.not_mem_cons_of_ne_of_not_mem (Ne.symm other) apart
      · exact List.nodup_cons.mpr ⟨fun again => fresh iface again (List.mem_cons_self ..), distinct⟩
      · intro member found
        rcases List.mem_cons.mp found with rfl | tail
        · exact unowned
        · exact fun owned => fresh member tail (List.mem_cons_of_mem _ owned)
    · rintro ⟨ifaces, named, apart, distinct, fresh, rfl⟩
      obtain ⟨iface, others, head, tail, rfl⟩ := List.forall₂_cons_left_iff.mp named
      have different := List.ne_of_not_mem_cons apart
      have apart := List.not_mem_of_not_mem_cons apart
      obtain ⟨once, distinct⟩ := List.nodup_cons.mp distinct
      refine ⟨iface, head, Ne.symm different, fresh iface (List.mem_cons_self ..), ?_⟩
      refine ih.mpr ⟨others, tail, apart, distinct, fun member found owned => ?_, by simp⟩
      rcases List.mem_cons.mp owned with rfl | before
      · exact once found
      · exact fresh member (List.mem_cons_of_mem _ found) before

theorem admitBridges_cons_eq_ok_iff {declared : Declaration} {rest : List Declaration}
    {taken : List IfName} {owners : Owners} :
    (admitBridges policy (declared :: rest) taken owners).result = .ok () ↔
      ∃ blueprint : Blueprint, Denoted policy declared blueprint ∧ blueprint.name ∉ taken ∧
        blueprint.name ∉ blueprint.members ∧ blueprint.members.Nodup ∧
        (∀ iface ∈ blueprint.members, iface ∉ owners.map Prod.fst) ∧
        (admitBridges policy rest (blueprint.name :: taken)
          (blueprint.members.reverse.map (·, declared.name) ++ owners)).result = .ok () := by
  rw [admitBridges, Reported.result_bind_eq_ok_iff]
  constructor
  · rintro ⟨name, named, done⟩
    rw [admitName_eq_ok_iff] at named
    by_cases twice : name ∈ taken
    · simp only [twice, if_true, Reported.result_bind, Reported.result_throw] at done
      cases done
    · simp only [twice, if_false] at done
      obtain ⟨after, admitted, later⟩ := Reported.result_bind_eq_ok_iff.mp done
      obtain ⟨members, others, apart, distinct, fresh, rfl⟩ := admitMembers_eq_ok_iff.mp admitted
      exact ⟨⟨name, members, declared.up⟩, ⟨named, others, rfl⟩, twice, apart, distinct, fresh,
        later⟩
  · rintro ⟨blueprint, denoted, once, apart, distinct, fresh, later⟩
    refine ⟨blueprint.name, admitName_eq_ok_iff.mpr denoted.name, ?_⟩
    simp only [once, if_false]
    exact Reported.result_bind_eq_ok_iff.mpr ⟨_, admitMembers_eq_ok_iff.mpr
      ⟨blueprint.members, denoted.members, apart, distinct, fresh, rfl⟩, later⟩

/-- Bridges are admitted when they denote consistent blueprints that keep clear of the names taken
and the members owned before. -/
theorem admitBridges_eq_ok_iff {declared : List Declaration} {taken : List IfName}
    {owners : Owners} :
    (admitBridges policy declared taken owners).result = .ok () ↔
      ∃ blueprints, Denotes policy declared blueprints ∧ Consistent blueprints ∧
        (∀ blueprint ∈ blueprints, blueprint.name ∉ taken) ∧
        ∀ iface ∈ blueprints.flatMap Blueprint.members, iface ∉ owners.map Prod.fst := by
  induction declared generalizing taken owners with
  | nil =>
    constructor
    · exact fun _ => ⟨[], .nil, ⟨List.nodup_nil, List.nodup_nil, nofun⟩, nofun, nofun⟩
    · exact fun _ => rfl
  | cons declared rest ih =>
    -- The owners are noted latest first, which makes no difference to who is among them.
    have keys (blueprint : Blueprint) :
        (blueprint.members.reverse.map (·, declared.name) ++ owners).map Prod.fst =
          blueprint.members.reverse ++ owners.map Prod.fst := by simp [Function.comp_def]
    rw [admitBridges_cons_eq_ok_iff]
    constructor
    · rintro ⟨blueprint, denoted, untaken, apart, distinct, fresh, later⟩
      obtain ⟨blueprints, others, consistent, clear, unowned⟩ := ih.mp later
      rw [keys] at unowned
      refine ⟨blueprint :: blueprints, .cons denoted others,
        consistent_cons_iff.mpr ⟨?_, apart, distinct, ?_, consistent⟩, ?_, ?_⟩
      · exact fun other member same => clear other member (same ▸ List.mem_cons_self ..)
      · exact fun iface mine theirs =>
          unowned iface theirs (List.mem_append_left _ (List.mem_reverse.mpr mine))
      · exact List.forall_mem_cons.mpr ⟨untaken, fun other member before =>
          clear other member (List.mem_cons_of_mem _ before)⟩
      · intro iface member owned
        rcases List.mem_append.mp member with mine | theirs
        · exact fresh iface mine owned
        · exact unowned iface theirs (List.mem_append_right _ owned)
    · rintro ⟨blueprints, named, consistent, clear, unowned⟩
      obtain ⟨blueprint, others, head, tail, rfl⟩ := List.forall₂_cons_left_iff.mp named
      obtain ⟨once, apart, distinct, disjoint, consistent⟩ := consistent_cons_iff.mp consistent
      obtain ⟨untaken, clear⟩ := List.forall_mem_cons.mp clear
      refine ⟨blueprint, head, untaken, apart, distinct,
        fun iface mine => unowned iface (List.mem_append_left _ mine), ?_⟩
      refine ih.mpr ⟨others, tail, consistent, fun other member taken => ?_, ?_⟩
      · rcases List.mem_cons.mp taken with same | before
        · exact once other member same
        · exact clear other member before
      · rw [keys]
        intro iface theirs owned
        rcases List.mem_append.mp owned with mine | before
        · exact disjoint iface (List.mem_reverse.mp mine) theirs
        · exact unowned iface (List.mem_append_right _ theirs) before

/-- A configuration passes its check exactly when its level is known and its declarations denote
consistent blueprints. -/
theorem validate_eq_ok_iff {config : Config} : config.validate = .ok () ↔
    (Level.ofText? config.level).isSome ∧
      ∃ blueprints, Denotes config.policy config.bridges blueprints ∧ Consistent blueprints := by
  rw [validate, inspect]
  by_cases unknown : (Level.ofText? config.level).isNone = true
  · simp only [unknown, if_true, Reported.result_bind, Reported.result_throw]
    refine ⟨nofun, fun held => ?_⟩
    rw [Option.isNone_iff_eq_none.mp unknown] at held
    exact absurd held.1 (by decide)
  · have known : (Level.ofText? config.level).isSome = true := by
      simpa [Option.isSome_iff_ne_none] using unknown
    simp only [unknown, known, true_and]
    refine admitBridges_eq_ok_iff.trans (exists_congr fun blueprints => ?_)
    simp

end Config

end NetBridge
