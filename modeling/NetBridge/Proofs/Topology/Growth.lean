import NetBridge.Proofs.Kernel.Growth
import NetBridge.Proofs.Topology.Atomicity

namespace NetBridge

def NamePolicy.Denotes (policy : NamePolicy) (text name : String) : Prop :=
  ∃ iface, IfName.ofText policy text = .ok iface ∧ iface.text = name

namespace Demand

def ofDeclared (policy : NamePolicy) (declared : List Declaration) : Demand where
  bridges name := ∃ item ∈ declared, policy.Denotes item.name name
  members bridge iface := ∃ item ∈ declared, policy.Denotes item.name bridge ∧
    ∃ text ∈ item.members, policy.Denotes text iface
  raised name := ∃ item ∈ declared, item.up = true ∧ policy.Denotes item.name name

variable {demand : Demand} {live more : String → Prop} {first second : List Action}

/-- A plan that adds what is demanded, and brings a bridge up only if it is live to begin with or
was created by an earlier step. -/
inductive Allows (demand : Demand) : (String → Prop) → List Action → Prop where
  | nil {live : String → Prop} : Allows demand live []
  | createBridge {live : String → Prop} {rest : List Action} (bridge : IfName)
      (asked : demand.bridges bridge.text)
      (later : Allows demand (fun name => live name ∨ name = bridge.text) rest) :
      Allows demand live (.createBridge bridge.text :: rest)
  | addMember {live : String → Prop} {rest : List Action} (bridge iface : IfName)
      (asked : demand.members bridge.text iface.text) (later : Allows demand live rest) :
      Allows demand live (.addMember bridge.text iface.text :: rest)
  | linkUp {live : String → Prop} {rest : List Action} (bridge : IfName)
      (asked : demand.raised bridge.text) (present : live bridge.text)
      (later : Allows demand live rest) : Allows demand live (.linkUp bridge.text :: rest)

namespace Allows

theorem mono (allowed : demand.Allows live first) (included : ∀ name, live name → more name) :
    demand.Allows more first := by
  induction allowed generalizing more with
  | nil => exact .nil
  | createBridge bridge asked later ih =>
    exact .createBridge bridge asked (ih fun name => Or.imp_left (included name))
  | addMember bridge iface asked later ih => exact .addMember bridge iface asked (ih included)
  | linkUp bridge asked present later ih =>
    exact .linkUp bridge asked (included _ present) (ih included)

/-- The bridges of the first plan only add to what the second may rely on. -/
theorem append (allowed : demand.Allows live first) (next : demand.Allows live second) :
    demand.Allows live (first ++ second) := by
  induction allowed with
  | nil => exact next
  | createBridge bridge asked later ih =>
    exact .createBridge bridge asked (ih (next.mono fun name => Or.inl))
  | addMember bridge iface asked later ih => exact .addMember bridge iface asked (ih next)
  | linkUp bridge asked present later ih => exact .linkUp bridge asked present (ih next)

end Allows

end Demand

namespace Kernel

/-- A live bridge has this name. -/
def LiveBridge (kernel : Kernel) (name : String) : Prop :=
  ∃ bridge ∈ kernel.links, bridge.isBridge = true ∧ bridge.name = name

theorem Grows.liveBridge {demand : Demand} {before after : Kernel}
    (grows : before.Grows demand after) {name : String} (live : before.LiveBridge name) :
    after.LiveBridge name := by
  obtain ⟨bridge, present, kind, rfl⟩ := live
  obtain ⟨other, still, grown⟩ := grows.lasting present
  exact ⟨other, still, grown.isBridge.trans kind, grown.name⟩

theorem Reachable.of_outcome {kernel after : Kernel} (reached : kernel.Reachable) {p : Procedure α}
    {result : Except Error α} (ended : p.outcome plane kernel = (result, after)) :
    after.Reachable := by
  have left := reached.outcome p
  rwa [ended] at left

end Kernel

namespace Topology

open Control Kernel

variable {kernel after : Kernel} {policy : NamePolicy} {demand : Demand} {live : String → Prop}

theorem grows_createBridge {bridge : IfName} (asked : demand.bridges bridge.text)
    (done : (perform policy (.createBridge bridge.text)).outcome plane kernel = (.ok (), after)) :
    kernel.Grows demand after ∧ after.LiveBridge bridge.text := by
  obtain ⟨-, rfl⟩ := (perform_createBridge_ok_iff (granted_of_perform done)).mp done
  have newest : Link.fresh (kernel.lastIndex + 1) bridge.text true ∈
      (kernel.insert bridge.text true).links := List.mem_append_right _ (List.mem_singleton_self _)
  exact ⟨.insert asked rfl, _, newest, rfl, rfl⟩

theorem grows_addMember (valid : kernel.WellFormed) (words : kernel.lastIndex < UInt32.size)
    {bridge iface : IfName} (asked : demand.members bridge.text iface.text)
    (done : (perform policy (.addMember bridge.text iface.text)).outcome plane kernel =
      (.ok (), after)) : kernel.Grows demand after := by
  obtain ⟨owner, link, opened, kind, found, other, free, rfl⟩ :=
    (perform_addMember_eq_ok_iff (granted_of_perform done) valid words).mp done
  have bystander : owner ∈ kernel.links.map (Link.only link.index
      (Link.attached · owner.index (kernel.freeNumber owner.index))) :=
    List.mem_map.mpr ⟨owner, mem_of_find? opened, Link.only_of_ne other⟩
  refine .modify valid (mem_of_find? found) rfl (.attached bystander kind ?_ free _)
  rwa [name_of_find? opened, name_of_find? found]

/-- A name that a live bridge has is looked up to the bridge, whatever plain links have it too. -/
theorem grows_linkUp (valid : kernel.WellFormed) {bridge : IfName}
    (asked : demand.raised bridge.text) (present : kernel.LiveBridge bridge.text)
    (done : (perform policy (.linkUp bridge.text)).outcome plane kernel = (.ok (), after)) :
    kernel.Grows demand after := by
  obtain ⟨link, found, rfl⟩ := (setLinkUp_ok_iff (granted_of_perform done)).mp done
  obtain ⟨owner, live, kind, called⟩ := present
  obtain rfl : owner = link := by
    have looked := valid.find?_bridge owner live kind
    rw [called, found] at looked
    exact (Option.some.inj looked).symm
  split
  · exact .of_links_eq rfl
  · exact .modify valid live rfl (.raised kind (called ▸ asked))

/-- A step that fails adds nothing; after one that succeeds it is the rest that counts. -/
theorem grows_execute_cons {action : Action} {rest : List Action}
    (onward : ∀ middle, (perform policy action).outcome plane kernel = (.ok (), middle) →
      (execute policy (action :: rest)).outcome plane kernel =
        (execute policy rest).outcome plane middle →
      kernel.Grows demand ((execute policy rest).outcome plane middle).2) :
    kernel.Grows demand ((execute policy (action :: rest)).outcome plane kernel).2 := by
  have whole : (execute policy (action :: rest)).outcome plane kernel = _ :=
    execute_cons plane kernel action rest
  cases step : (perform policy action).outcome plane kernel with
  | mk result middle =>
    rw [step] at whole
    cases result with
    | error cause =>
      obtain ⟨handles, requests, rfl⟩ := harmless_perform action cause middle step
      rw [whole]
      exact .of_links_eq rfl
    | ok done =>
      rw [whole]
      exact onward middle step whole

/-- Whatever comes of a plan that is allowed, the table grows. -/
theorem grows_execute {plan : List Action} (allowed : demand.Allows live plan)
    (reached : kernel.Reachable) (present : ∀ name, live name → kernel.LiveBridge name)
    (words : ((execute policy plan).outcome plane kernel).2.lastIndex < UInt32.size) :
    kernel.Grows demand ((execute policy plan).outcome plane kernel).2 := by
  induction allowed generalizing kernel with
  | nil => exact .of_links_eq rfl
  | createBridge bridge asked later ih =>
    apply grows_execute_cons
    intro middle step whole
    obtain ⟨grows, new⟩ := grows_createBridge asked step
    refine grows.trans (ih ?_ ?_ (whole ▸ words))
    · exact reached.of_outcome step
    · rintro name (old | rfl)
      · exact grows.liveBridge (present name old)
      · exact new
  | addMember bridge iface asked later ih =>
    apply grows_execute_cons
    intro middle step whole
    have small := Nat.lt_of_le_of_lt (lastIndex_le_outcome kernel _) words
    have grows := grows_addMember reached.wellFormed small asked step
    refine grows.trans (ih ?_ ?_ (whole ▸ words))
    · exact reached.of_outcome step
    · exact fun name old => grows.liveBridge (present name old)
  | linkUp bridge asked relied later ih =>
    apply grows_execute_cons
    intro middle step whole
    have grows := grows_linkUp reached.wellFormed asked (present _ relied) step
    refine grows.trans (ih ?_ ?_ (whole ▸ words))
    · exact reached.of_outcome step
    · exact fun name old => grows.liveBridge (present name old)

/-- The procedure changes nothing but the count of handles, and what it returns, if it returns, is
as told. -/
def Observes (kernel : Kernel) (p : Procedure α) (tells : α → Prop) : Prop :=
  ∀ handles, ∃ result more,
    p.outcome plane (kernel.tally handles 0) = (result, kernel.tally (handles + more) 0) ∧
      ∀ value, result = .ok value → tells value

namespace Observes

variable {tells : α → Prop}

theorem pure {value : α} (told : tells value) : Observes kernel (Pure.pure value) tells := by
  intro handles
  refine ⟨.ok value, 0, rfl, ?_⟩
  intro other same
  exact Except.ok.inj same ▸ told

theorem bind {p : Procedure β} {k : β → Procedure α} {middle : β → Prop}
    (first : Observes kernel p middle)
    (rest : ∀ value, middle value → Observes kernel (k value) tells) :
    Observes kernel (p >>= k) tells := by
  intro handles
  obtain ⟨result, more, outcome, told⟩ := first handles
  cases result with
  | error cause =>
    exact ⟨.error cause, more, Procedure.outcome_bind_error _ _ outcome k, nofun⟩
  | ok value =>
    obtain ⟨last, further, ended, said⟩ := rest value (told value rfl) (handles + more)
    refine ⟨last, more + further, ?_, said⟩
    rw [Procedure.outcome_bind_ok _ _ outcome, ended, Nat.add_assoc]

theorem name (text : String) :
    Observes kernel (name policy text) fun iface => IfName.ofText policy text = .ok iface := by
  intro handles
  rw [outcome_name]
  cases IfName.ofText policy text with
  | error fault => exact ⟨.error (.invalidName text fault), 0, rfl, nofun⟩
  | ok iface => exact ⟨.ok iface, 0, rfl, fun _ same => congrArg _ (Except.ok.inj same)⟩

theorem of_denies (closed : kernel.refusesHandles = true) {p : Procedure α}
    (denied : ∀ other : Kernel, other.refusesHandles = true → other.Denies p) :
    Observes kernel p tells := by
  intro handles
  obtain ⟨cause, outcome⟩ := denied (kernel.tally handles 0) closed
  exact ⟨.error cause, 0, outcome, nofun⟩

/-- A slot shows the name of its own link, or none: an index that a slot cannot hold is negative
there. -/
theorem eq_name_of_nameOfSlot (valid : kernel.WellFormed) (words : kernel.lastIndex < UInt32.size)
    {link : Link} (live : link ∈ kernel.links) {shown : String}
    (named : kernel.nameOfSlot (Int32.ofNat link.index) = some shown) : shown = link.name := by
  have sound := valid.sound link live
  rcases Nat.lt_or_ge link.index slotBound with small | large
  · rw [nameOfSlot_ofNat kernel sound.index_pos small, valid.get?_index live] at named
    exact (Option.some.inj named).symm
  · have negative : ¬ 0 < (Int32.ofNat link.index).toInt := by
      have bound := sound.index_le
      simp only [slotBound, UInt32.size] at large words
      rw [Int32.toInt_ofNat']
      simp only [Int.bmod, Int32.size]
      omega
    rw [nameOfSlot, IfIndex.ofSlot?, if_neg negative] at named
    cases named

theorem listBridges (valid : kernel.WellFormed) (quiet : kernel.vanishing = [])
    (words : kernel.lastIndex < UInt32.size) :
    Observes kernel listBridges fun names => ∀ shown ∈ names, kernel.LiveBridge shown := by
  cases closed : kernel.refusesHandles with
  | true => exact of_denies closed fun _ closed => .withHandle closed rfl
  | false =>
    intro handles
    have granted : (kernel.tally handles 0).refusesHandles = false := closed
    have still : (kernel.tally handles 0).vanish = kernel.tally handles 0 := vanish_of_quiet quiet
    have listed := outcome_listBridges_slots granted
    rw [still, tally_tally] at listed
    refine ⟨_, 1, listed, ?_⟩
    intro names same shown member
    obtain rfl := Except.ok.inj same
    obtain ⟨slot, used, named⟩ := List.mem_filterMap.mp member
    obtain ⟨bridge, present, rfl⟩ := List.mem_map.mp used
    obtain ⟨live, kind⟩ := mem_of_mem_shownBridges present
    exact ⟨bridge, live, kind, (eq_name_of_nameOfSlot valid words live named).symm⟩

theorem bridgeExists (valid : kernel.WellFormed) (quiet : kernel.vanishing = [])
    (words : kernel.lastIndex < UInt32.size) (bridge : IfName) :
    Observes kernel (bridgeExists policy bridge.text) fun found =>
      found = true → kernel.LiveBridge bridge.text := by
  refine (name bridge.text).bind fun iface named => ?_
  refine (listBridges valid quiet words).bind fun names live => .pure fun found => ?_
  rw [IfName.ofText_text] at named
  obtain rfl := Except.ok.inj named
  exact live _ (List.contains_iff_mem.mp found)

theorem listInterfaces (quiet : kernel.vanishing = []) (text : String) :
    Observes kernel (listInterfaces policy text) fun _ => True := by
  intro handles
  have still : (kernel.tally handles 0).vanishing = [] := quiet
  rcases listInterfaces_cases still policy text with
    ⟨cause, more, refused⟩ | ⟨-, -, members, -, -, -, listed⟩
  · rw [tally_tally] at refused
    exact ⟨_, more, refused, nofun⟩
  · rw [tally_tally] at listed
    exact ⟨_, 1, listed, fun _ _ => trivial⟩

theorem linkFlags (bridge : IfName) :
    Observes kernel (linkFlags policy bridge.text) fun _ => True := by
  cases closed : kernel.refusesHandles with
  | true => exact of_denies closed fun _ closed => .named fun _ => .withHandle closed rfl
  | false =>
    intro handles
    have granted : (kernel.tally handles 0).refusesHandles = false := closed
    have read := outcome_linkFlags granted (IfName.ofText_text policy bridge)
    rw [find?_tally] at read
    cases found : kernel.find? bridge.text with
    | none =>
      rw [found] at read
      exact ⟨_, 1, read, nofun⟩
    | some link =>
      rw [found] at read
      exact ⟨_, 1, read, fun _ _ => trivial⟩

/-- The members of a declaration are those of the demand, whichever are left out. -/
theorem additions (bridge : IfName) (attached texts : List String)
    (asked : ∀ text ∈ texts, ∀ iface, policy.Denotes text iface →
      demand.members bridge.text iface) :
    Observes kernel (additions policy bridge attached texts) (demand.Allows live) := by
  induction texts with
  | nil => exact .pure .nil
  | cons text rest ih =>
    refine (name text).bind fun iface named => ?_
    refine (ih fun other member => asked other (List.mem_cons_of_mem _ member)).bind
      fun later allowed => ?_
    split
    · exact .pure allowed
    · have wanted := asked text (List.mem_cons_self ..) iface.text ⟨iface, named, rfl⟩
      exact .pure (.addMember bridge iface wanted allowed)

variable (valid : kernel.WellFormed) (quiet : kernel.vanishing = [])
  (words : kernel.lastIndex < UInt32.size)
include valid quiet words

/-- A bridge is planned to come up where it was listed, or after it was created. -/
theorem completion {declared : List Declaration} {item : Declaration} (member : item ∈ declared) :
    Observes kernel (completion policy item)
      ((Demand.ofDeclared policy declared).Allows kernel.LiveBridge) := by
  refine (name item.name).bind fun bridge named => ?_
  have denoted : policy.Denotes item.name bridge.text := ⟨bridge, named, rfl⟩
  have members : ∀ text ∈ item.members, ∀ iface, policy.Denotes text iface →
      (Demand.ofDeclared policy declared).members bridge.text iface :=
    fun text listed iface meant => ⟨item, member, denoted, text, listed, meant⟩
  refine (bridgeExists valid quiet words bridge).bind fun present known => ?_
  cases present with
  | true =>
    have live := known rfl
    refine (listInterfaces quiet bridge.text).bind fun attached _ => ?_
    have added : Observes kernel (Topology.additions policy bridge attached item.members)
        ((Demand.ofDeclared policy declared).Allows kernel.LiveBridge) :=
      additions bridge attached item.members members
    refine added.bind fun adding allowed => ?_
    cases up : item.up with
    | false => exact .pure (allowed.append .nil)
    | true =>
      refine (linkFlags bridge).bind fun flags _ => .pure (allowed.append ?_)
      split
      · exact .nil
      · exact .linkUp bridge ⟨item, member, up, denoted⟩ live .nil
  | false =>
    -- The bridge may be live and beyond the listing; then creating it fails, and nothing follows.
    have added : Observes kernel (Topology.additions policy bridge [] item.members)
        ((Demand.ofDeclared policy declared).Allows
          fun name => kernel.LiveBridge name ∨ name = bridge.text) :=
      additions bridge [] item.members members
    refine added.bind fun adding allowed => ?_
    cases up : item.up with
    | false => exact .pure (.createBridge bridge ⟨item, member, denoted⟩ (allowed.append .nil))
    | true =>
      have raised : (Demand.ofDeclared policy declared).raised bridge.text :=
        ⟨item, member, up, denoted⟩
      have rising := allowed.append (.linkUp bridge raised (.inr rfl) .nil)
      exact .pure (.createBridge bridge ⟨item, member, denoted⟩ rising)

theorem planUp (declared : List Declaration) :
    Observes kernel (planUp policy declared)
      ((Demand.ofDeclared policy declared).Allows kernel.LiveBridge) := by
  suffices each : ∀ items, items ⊆ declared →
      Observes kernel (planEach (Topology.completion policy) items)
        ((Demand.ofDeclared policy declared).Allows kernel.LiveBridge) from
    each declared fun _ => id
  intro items included
  induction items with
  | nil => exact .pure .nil
  | cons item rest ih =>
    obtain ⟨member, others⟩ := List.cons_subset.mp included
    refine (completion valid quiet words member).bind fun first allowed => ?_
    exact (ih others).bind fun later further => .pure (allowed.append further)

end Observes

def bringUp (policy : NamePolicy) (declared : List Declaration) : Procedure Unit := do
  execute policy (← planUp policy declared)

/-- Bringing declared bridges up destroys nothing, whatever comes of the planning and of the plan:
no link goes or changes its name or kind, no port leaves its bridge, no flag is cleared. What is new
is declared: bridges of declared names, the up bit of live bridges declared up, and ports of a
declared bridge that have the name of one of its members. Indices are words of 32 bits, so no more of
them can be given than fit. -/
theorem up_only_adds (reached : kernel.Reachable) (quiet : kernel.vanishing = [])
    (policy : NamePolicy) (declared : List Declaration)
    (words : ((bringUp policy declared).outcome plane kernel).2.lastIndex < UInt32.size) :
    kernel.Grows (Demand.ofDeclared policy declared)
      ((bringUp policy declared).outcome plane kernel).2 := by
  have small := Nat.lt_of_le_of_lt (lastIndex_le_outcome kernel _) words
  obtain ⟨result, handles, planned, told⟩ :=
    Observes.planUp reached.wellFormed quiet small declared 0
  rw [tally_zero] at planned
  cases result with
  | error cause =>
    rw [bringUp, Procedure.outcome_bind_error _ _ planned]
    exact .of_links_eq rfl
  | ok plan =>
    rw [bringUp, Procedure.outcome_bind_ok _ _ planned] at words ⊢
    have grows := grows_execute (told plan rfl) (reached.of_outcome planned) (fun _ => id) words
    exact Kernel.Grows.trans (.of_links_eq rfl) grows

/-- A bridge declared to be its own member is created and given its other member, and then the plan
fails. -/
theorem up_only_adds_own_member :
    ((bringUp .truncate [⟨"br0", ["eth0", "br0"], true⟩]).outcome plane
      (Kernel.new.after [.happen (.addLink "eth0")])).1 =
        .error (.portOperation .addInterface "br0" "br0" (.errno .ELOOP)) ∧
    (Kernel.new.after [.happen (.addLink "eth0")]).Grows
      (Demand.ofDeclared .truncate [⟨"br0", ["eth0", "br0"], true⟩])
      ((bringUp .truncate [⟨"br0", ["eth0", "br0"], true⟩]).outcome plane
        (Kernel.new.after [.happen (.addLink "eth0")])).2 := by
  refine ⟨by decide +kernel, ?_⟩
  exact up_only_adds (Reachable.new.after [.happen (.addLink "eth0")]) rfl .truncate
    [⟨"br0", ["eth0", "br0"], true⟩] (by decide +kernel)

end Topology

end NetBridge
