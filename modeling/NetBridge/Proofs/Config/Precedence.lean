import NetBridge.Proofs.Config.Consistency

namespace NetBridge

/-- One name that is declared, as it is written: that of a bridge, or that of a member of it. -/
inductive Mention where
  | bridge (declared : Declaration)
  | member (declared : Declaration) (text : String)

namespace Mention

def text : Mention → String
  | bridge declared => declared.name
  | member _ text => text

/-- The bridge that declares the interface to be its member here. -/
def owner? (policy : NamePolicy) (iface : IfName) : Mention → Option String
  | bridge _ => none
  | member declared text =>
    if IfName.ofText policy text = .ok iface then some declared.name else none

/-- What is wrong with a declared name, given those that are declared before it. -/
inductive Violates (policy : NamePolicy) (earlier : List Mention) :
    Mention → ConfigFault → Prop where
  | illNamed {mention : Mention} {fault : NameFault}
      (unnamed : IfName.ofText policy mention.text = .error fault) :
      Violates policy earlier mention (.illNamed mention.text fault)
  | duplicateBridge {declared other : Declaration} {name : IfName}
      (named : IfName.ofText policy declared.name = .ok name) (before : bridge other ∈ earlier)
      (same : IfName.ofText policy other.name = .ok name) :
      Violates policy earlier (bridge declared) (.duplicateBridge declared.name)
  | selfMember {declared : Declaration} {text : String} {name : IfName}
      (named : IfName.ofText policy text = .ok name)
      (own : IfName.ofText policy declared.name = .ok name) :
      Violates policy earlier (member declared text) (.selfMember declared.name)
  /-- The bridge that declared the interface first is at odds with this one. -/
  | sharedMember {declared : Declaration} {text owner : String} {iface : IfName}
      (named : IfName.ofText policy text = .ok iface)
      (other : IfName.ofText policy declared.name ≠ .ok iface)
      (first : earlier.findSome? (owner? policy iface) = some owner) :
      Violates policy earlier (member declared text) (.sharedMember text owner declared.name)

/-- The fault of the first name at fault, of those that follow the `earlier` ones. -/
inductive FirstViolation (policy : NamePolicy) :
    List Mention → List Mention → ConfigFault → Prop where
  | here {earlier rest : List Mention} {mention : Mention} {fault : ConfigFault}
      (violates : Violates policy earlier mention fault) :
      FirstViolation policy earlier (mention :: rest) fault
  | later {earlier rest : List Mention} {mention : Mention} {fault : ConfigFault}
      (clean : ∀ other, ¬ Violates policy earlier mention other)
      (first : FirstViolation policy (earlier ++ [mention]) rest fault) :
      FirstViolation policy earlier (mention :: rest) fault

end Mention

def Declaration.mentions (declared : Declaration) : List Mention :=
  .bridge declared :: declared.members.map (.member declared)

def Config.mentions (config : Config) : List Mention :=
  config.bridges.flatMap Declaration.mentions

namespace Mention

variable {policy : NamePolicy} {earlier rest : List Mention} {mention : Mention}
  {declared : Declaration} {text : String} {fault other : ConfigFault}

theorem violates_unique (one : Violates policy earlier mention fault)
    (two : Violates policy earlier mention other) : fault = other := by
  cases one with
  | illNamed unnamed =>
    cases two with
    | illNamed again =>
      obtain rfl := Except.error.inj (unnamed.symm.trans again)
      rfl
    | duplicateBridge named | selfMember named | sharedMember named =>
      cases unnamed.symm.trans named
  | duplicateBridge named =>
    cases two with
    | illNamed unnamed => cases named.symm.trans unnamed
    | duplicateBridge => rfl
  | selfMember named own =>
    cases two with
    | illNamed unnamed => cases named.symm.trans unnamed
    | selfMember => rfl
    | sharedMember again other =>
      obtain rfl := Except.ok.inj (named.symm.trans again)
      exact absurd own other
  | sharedMember named other first =>
    cases two with
    | illNamed unnamed => cases named.symm.trans unnamed
    | selfMember again own =>
      obtain rfl := Except.ok.inj (named.symm.trans again)
      exact absurd own other
    | sharedMember again _ second =>
      obtain rfl := Except.ok.inj (named.symm.trans again)
      obtain rfl := Option.some.inj (first.symm.trans second)
      rfl

/-- The result is an error exactly if one of the names is at fault, and then its first fault. -/
def Reports (policy : NamePolicy) (earlier mentions : List Mention)
    (result : Except ConfigFault Unit) : Prop :=
  ∀ fault, result = .error fault ↔ FirstViolation policy earlier mentions fault

theorem reports_nil : Reports policy earlier [] (.ok ()) :=
  fun _ => ⟨nofun, nofun⟩

theorem reports_here (violates : Violates policy earlier mention fault) :
    Reports policy earlier (mention :: rest) (.error fault) := by
  intro other
  constructor
  · intro same
    exact .here (Except.error.inj same ▸ violates)
  · intro first
    cases first with
    | here again => rw [violates_unique violates again]
    | later clean => exact absurd violates (clean fault)

theorem reports_later {result : Except ConfigFault Unit}
    (clean : ∀ other, ¬ Violates policy earlier mention other)
    (later : Reports policy (earlier ++ [mention]) rest result) :
    Reports policy earlier (mention :: rest) result := by
  intro fault
  rw [later fault]
  constructor
  · exact .later clean
  · intro first
    cases first with
    | here violates => exact absurd violates (clean fault)
    | later _ first => exact first

end Mention

namespace Config

open Blueprint Mention

variable {policy : NamePolicy} {earlier rest : List Mention} {taken : List IfName}
  {owners : Owners} {declared : Declaration} {text : String} {own name iface : IfName}

/-- What the check has noted of the names before. -/
structure Notes (policy : NamePolicy) (earlier : List Mention) (taken : List IfName)
    (owners : Owners) : Prop where
  bridges : ∀ name, name ∈ taken ↔
    ∃ other, .bridge other ∈ earlier ∧ IfName.ofText policy other.name = .ok name
  members : ∀ iface, owners.lookup iface = earlier.findSome? (owner? policy iface)

namespace Notes

theorem nil : Notes policy [] [] [] := ⟨by simp, fun _ => rfl⟩

theorem bridge (notes : Notes policy earlier taken owners)
    (named : IfName.ofText policy declared.name = .ok name) :
    Notes policy (earlier ++ [.bridge declared]) (name :: taken) owners where
  bridges other := by
    rw [List.mem_cons, notes.bridges]
    constructor
    · rintro (rfl | ⟨before, member, same⟩)
      · exact ⟨declared, by simp, named⟩
      · exact ⟨before, List.mem_append_left _ member, same⟩
    · rintro ⟨before, member, same⟩
      rcases List.mem_append.mp member with old | new
      · exact .inr ⟨before, old, same⟩
      · obtain rfl := Mention.bridge.inj (List.mem_singleton.mp new)
        exact .inl (Except.ok.inj (same.symm.trans named))
  members iface := by
    rw [notes.members, List.findSome?_append]
    simp [owner?]

/-- A member that had no owner has one now; of the others nothing is new. -/
theorem member (notes : Notes policy earlier taken owners)
    (named : IfName.ofText policy text = .ok iface) (unowned : owners.lookup iface = none) :
    Notes policy (earlier ++ [.member declared text]) taken ((iface, declared.name) :: owners) where
  bridges name := by
    rw [notes.bridges]
    simp
  members other := by
    rw [List.findSome?_append, ← notes.members, List.lookup_cons]
    by_cases same : other = iface
    · subst same
      simp [unowned, owner?, named]
    · have apart : (other == iface) = false := beq_eq_false_iff_ne.mpr same
      simp [owner?, named, apart, Ne.symm same]

end Notes

theorem result_admitName_error {fault : NameFault}
    (unnamed : IfName.ofText policy text = .error fault) :
    (admitName policy text).result = .error (.illNamed text fault) := by
  rw [admitName, normalise, unnamed]
  rfl

theorem result_admitMembers_cons {bridge : String} {texts : List String}
    (named : IfName.ofText policy text = .ok iface) :
    (admitMembers policy bridge own (text :: texts) owners).result =
      if iface = own then .error (.selfMember bridge)
      else match owners.lookup iface with
        | some owner => .error (.sharedMember text owner bridge)
        | none => (admitMembers policy bridge own texts ((iface, bridge) :: owners)).result := by
  rw [admitMembers, Reported.result_bind_of_ok (admitName_eq_ok_iff.mpr named)]
  by_cases itself : iface = own
  · rw [if_pos itself, if_pos itself]
    exact Reported.result_bind_of_error rfl
  · rw [if_neg itself, if_neg itself]
    cases owners.lookup iface <;> rfl

theorem result_admitBridges_cons {later : List Declaration}
    (named : IfName.ofText policy declared.name = .ok own) :
    (admitBridges policy (declared :: later) taken owners).result =
      if own ∈ taken then .error (.duplicateBridge declared.name)
      else (admitMembers policy declared.name own declared.members owners).result >>= fun after =>
        (admitBridges policy later (own :: taken) after).result := by
  rw [admitBridges, Reported.result_bind_of_ok (admitName_eq_ok_iff.mpr named)]
  by_cases twice : own ∈ taken
  · rw [if_pos twice, if_pos twice]
    exact Reported.result_bind_of_error rfl
  · rw [if_neg twice, if_neg twice]
    exact Reported.result_bind ..

theorem clean_member (named : IfName.ofText policy text = .ok iface)
    (ownNamed : IfName.ofText policy declared.name = .ok own) (apart : iface ≠ own)
    (unowned : earlier.findSome? (owner? policy iface) = none) (fault : ConfigFault) :
    ¬ Violates policy earlier (.member declared text) fault := by
  intro violates
  cases violates with
  | illNamed unnamed => cases named.symm.trans unnamed
  | selfMember again itself =>
    obtain rfl := Except.ok.inj (named.symm.trans again)
    exact apart (Except.ok.inj (itself.symm.trans ownNamed))
  | sharedMember again _ first =>
    obtain rfl := Except.ok.inj (named.symm.trans again)
    cases unowned.symm.trans first

theorem clean_bridge (named : IfName.ofText policy declared.name = .ok own)
    (once : ∀ other, .bridge other ∈ earlier → IfName.ofText policy other.name ≠ .ok own)
    (fault : ConfigFault) : ¬ Violates policy earlier (.bridge declared) fault := by
  intro violates
  cases violates with
  | illNamed unnamed => cases named.symm.trans unnamed
  | duplicateBridge again before same =>
    obtain rfl := Except.ok.inj (named.symm.trans again)
    exact once _ before same

/-- The names of members are checked one by one, and then those that come `next`. -/
theorem reports_admitMembers (ownNamed : IfName.ofText policy declared.name = .ok own)
    {texts : List String} (notes : Notes policy earlier taken owners)
    {next : Owners → Except ConfigFault Unit}
    (later : ∀ after, Notes policy (earlier ++ texts.map (.member declared)) taken after →
      Reports policy (earlier ++ texts.map (.member declared)) rest (next after)) :
    Reports policy earlier (texts.map (.member declared) ++ rest)
      ((admitMembers policy declared.name own texts owners).result >>= next) := by
  induction texts generalizing earlier owners with
  | nil =>
    rw [List.map_nil, List.append_nil] at later
    exact later owners notes
  | cons text texts ih =>
    rw [List.map_cons, List.append_cons] at later
    rw [List.map_cons, List.cons_append]
    cases named : IfName.ofText policy text with
    | error fault =>
      rw [admitMembers, Reported.result_bind_of_error (result_admitName_error named)]
      exact reports_here (.illNamed named)
    | ok iface =>
      rw [result_admitMembers_cons named]
      by_cases itself : iface = own
      · subst itself
        rw [if_pos rfl]
        exact reports_here (.selfMember named ownNamed)
      · rw [if_neg itself]
        have other : IfName.ofText policy declared.name ≠ .ok iface :=
          fun same => itself (Except.ok.inj (same.symm.trans ownNamed))
        cases owned : owners.lookup iface with
        | some owner =>
          exact reports_here (.sharedMember named other ((notes.members iface).symm.trans owned))
        | none =>
          have unowned := (notes.members iface).symm.trans owned
          exact reports_later (clean_member named ownNamed itself unowned)
            (ih (notes.member named owned) later)

/-- The check reports the first name at fault. -/
theorem reports_admitBridges {declarations : List Declaration}
    (notes : Notes policy earlier taken owners) :
    Reports policy earlier (declarations.flatMap Declaration.mentions)
      (admitBridges policy declarations taken owners).result := by
  induction declarations generalizing earlier taken owners with
  | nil => exact reports_nil
  | cons declared declarations ih =>
    rw [List.flatMap_cons, Declaration.mentions, List.cons_append]
    cases named : IfName.ofText policy declared.name with
    | error fault =>
      rw [admitBridges, Reported.result_bind_of_error (result_admitName_error named)]
      exact reports_here (.illNamed named)
    | ok own =>
      rw [result_admitBridges_cons named]
      by_cases twice : own ∈ taken
      · rw [if_pos twice]
        obtain ⟨other, before, same⟩ := (notes.bridges own).mp twice
        exact reports_here (.duplicateBridge named before same)
      · rw [if_neg twice]
        have once (other : Declaration) (before : .bridge other ∈ earlier) :
            IfName.ofText policy other.name ≠ .ok own :=
          fun same => twice ((notes.bridges own).mpr ⟨other, before, same⟩)
        exact reports_later (clean_bridge named once)
          (reports_admitMembers named (notes.bridge named) fun after noted => ih noted)

theorem validate_of_known {config : Config} (known : (Level.ofText? config.level).isSome) :
    config.validate = (admitBridges config.policy config.bridges [] []).result := by
  have level : (Level.ofText? config.level).isNone = false := by
    simpa [Option.isSome_iff_ne_none] using known
  rw [validate, inspect]
  simp only [level]
  rfl

theorem validate_of_unknown {config : Config} (unknown : Level.ofText? config.level = none) :
    config.validate = .error (.unknownLevel config.level) := by
  rw [validate, inspect]
  simp only [unknown]
  rfl

/-- A configuration passes its check exactly when it is consistent. Otherwise the level is at fault,
or, with a known level, the first of the declared names that is. -/
theorem validate_precedence (config : Config) :
    (config.validate = .ok () ↔
      (Level.ofText? config.level).isSome ∧
        ∃ blueprints, Denotes config.policy config.bridges blueprints ∧
          (blueprints.map Blueprint.name).Nodup ∧
          (∀ blueprint ∈ blueprints, blueprint.name ∉ blueprint.members) ∧
          (blueprints.flatMap Blueprint.members).Nodup) ∧
    ∀ fault, config.validate = .error fault ↔
      (Level.ofText? config.level = none ∧ fault = .unknownLevel config.level) ∨
      ((Level.ofText? config.level).isSome ∧
        FirstViolation config.policy [] config.mentions fault) := by
  constructor
  · rw [validate_eq_ok_iff]
    refine and_congr_right fun _ => exists_congr fun blueprints => and_congr_right fun _ => ?_
    constructor
    · exact fun consistent => ⟨consistent.names, consistent.apart, consistent.members⟩
    · exact fun ⟨names, apart, members⟩ => ⟨names, members, apart⟩
  · intro fault
    cases level : Level.ofText? config.level with
    | none => simp [validate_of_unknown level, eq_comm]
    | some known =>
      have reports : Reports config.policy [] config.mentions
          (admitBridges config.policy config.bridges [] []).result := reports_admitBridges .nil
      rw [validate_of_known (level ▸ rfl), reports fault]
      simp

/-- Names that only the cut makes equal collide. -/
example :
    validate ⟨.truncate, "info",
        [⟨"bridge-for-hotspot-a", [], false⟩, ⟨"bridge-for-hotspot-b", [], false⟩]⟩ =
      .error (.duplicateBridge "bridge-for-hotspot-b") := by
  decide +kernel

end Config

end NetBridge
