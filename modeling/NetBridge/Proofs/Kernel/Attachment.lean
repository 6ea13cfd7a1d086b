import NetBridge.Proofs.Kernel.Membership

/-! Attachments of different interfaces in any order. What an attachment comes to depends on the bridge
and the link that it names, and attaching another link changes neither. The number a new port gets
does depend on those that came before it, but the numbers in use on a bridge in the end do not. -/

namespace NetBridge

/-- A call that attaches an interface to a bridge, each given by a text. -/
structure Attachment where
  policy : NamePolicy
  bridge : String
  iface : String

namespace Attachment

def iface? (call : Attachment) : Option IfName := (IfName.ofText call.policy call.iface).toOption

/-- The calls name different interfaces, as far as they name any. -/
def Apart (call other : Attachment) : Prop :=
  ∀ iface, call.iface? = some iface → other.iface? ≠ some iface

@[reducible] def move (call : Attachment) : Move :=
  .operate call.policy (.addInterface call.bridge call.iface)

theorem apart_of_nodup {call : Attachment} {calls : List Attachment}
    (distinct : ((call :: calls).filterMap iface?).Nodup) : ∀ other ∈ calls, call.Apart other := by
  intro other member iface named again
  rw [List.filterMap_cons_some named] at distinct
  exact (List.nodup_cons.mp distinct).1 (List.mem_filterMap.mpr ⟨other, member, again⟩)

theorem nodup_tail {call : Attachment} {calls : List Attachment}
    (distinct : ((call :: calls).filterMap iface?).Nodup) : (calls.filterMap iface?).Nodup :=
  distinct.sublist ((List.sublist_cons_self call calls).filterMap iface?)

end Attachment

/-- What an attachment comes to. -/
inductive Prospect where
  /-- It ends before the kernel is asked to attach anything. -/
  | declined (cause : Error)
  /-- The kernel is asked, and refuses. -/
  | refused (cause : Error)
  /-- The link of one index becomes a port of the bridge of another. -/
  | joins (bridge port : Nat)

def Prospect.result : Prospect → Except Error Unit
  | declined cause => .error cause
  | refused cause => .error cause
  | joins _ _ => .ok ()

/-- The link with its port number forgotten. -/
def Link.unnumbered (link : Link) : Link := { link with portNo := 0 }

theorem Link.Keeps.unnumbered : Link.Keeps Link.unnumbered :=
  ⟨fun _ => rfl, fun _ => rfl, fun _ => rfl⟩

namespace Kernel

open Control

variable {kernel : Kernel} {call other : Attachment}

/-- What the call returns when it is made at once. -/
def verdict (kernel : Kernel) (call : Attachment) : Except Error Unit :=
  (kernel.play call.move).value

def verdicts : List Attachment → Kernel → List (Except Error Unit)
  | [], _ => []
  | call :: rest, kernel => kernel.verdict call :: verdicts rest (kernel.play call.move).state

def unnumbered (kernel : Kernel) : Kernel := kernel.change Link.unnumbered

/-- A port of the bridge has this number. -/
def Uses (kernel : Kernel) (bridge number : Nat) : Prop :=
  ∃ port ∈ kernel.links, port.master = some bridge ∧ port.portNo = number

def join (kernel : Kernel) (bridge port : Nat) : Kernel :=
  kernel.modify port (Link.attached · bridge (kernel.freeNumber bridge))

/-- The bridge of this name, if the link may become a port of it. -/
def admits (kernel : Kernel) (name : String) (link : Link) : Except Errno Link :=
  match kernel.bridge name with
  | .error cause => .error cause
  | .ok owner =>
    if owner.index = link.index then .error .ELOOP
    else if link.master.isSome then .error .EBUSY
    else .ok owner

def prospect (kernel : Kernel) (call : Attachment) : Prospect :=
  match IfName.ofText call.policy call.bridge with
  | .error fault => .declined (.invalidName call.bridge fault)
  | .ok bridge =>
    match IfName.ofText call.policy call.iface with
    | .error fault => .declined (.invalidName call.iface fault)
    | .ok iface =>
      match kernel.find? iface.text with
      | none => .declined (.interfaceNotFound iface.text)
      | some link =>
        if kernel.refusesHandles then .declined (.handleAcquisition (.errno .EMFILE))
        else match kernel.admits bridge.text link with
          | .error cause =>
            .refused (.portOperation .addInterface iface.text bridge.text (.errno cause))
          | .ok owner => .joins owner.index link.index

def undergo (kernel : Kernel) : Prospect → Kernel
  | .declined _ => kernel
  | .refused _ => kernel.tally 1 1
  | .joins bridge port => (kernel.join bridge port).tally 1 1

/-! ## What an attachment comes to -/

theorem addPort_eq_admits {name : String} {link : Link}
    (located : kernel.get? link.index = some link) :
    kernel.addPort name link.index =
      (kernel.admits name link).map fun owner => kernel.join owner.index link.index := by
  unfold addPort admits
  cases kernel.bridge name with
  | error cause => rfl
  | ok owner =>
    by_cases loop : owner.index = link.index
    · simp only [bind, Except.bind, loop, if_true]
      rfl
    · simp only [bind, Except.bind, loop, if_false, located]
      cases link.master <;> rfl

theorem acquire_refused (refusing : kernel.refusesHandles = true) :
    plane.answer .acquire kernel = (.error .EMFILE, kernel) := by
  show kernel.acquire = _
  rw [acquire, if_pos refusing]

/-- An attachment ends with what was to be expected of it, and changes the kernel accordingly. -/
theorem WellFormed.play_move (valid : kernel.WellFormed) (words : kernel.lastIndex < UInt32.size)
    (call : Attachment) :
    (addInterface call.policy call.bridge call.iface).outcome plane kernel =
      ((kernel.prospect call).result, kernel.undergo (kernel.prospect call)) := by
  unfold prospect
  cases namedBridge : IfName.ofText call.policy call.bridge with
  | error fault =>
    rw [addInterface, Procedure.outcome_bind_error _ _ (outcome_name_error plane kernel namedBridge)]
    rfl
  | ok bridge =>
    rw [addInterface, Procedure.outcome_bind_ok _ _ (outcome_name_ok plane kernel namedBridge)]
    cases namedIface : IfName.ofText call.policy call.iface with
    | error fault =>
      rw [Procedure.outcome_bind_error _ _ (outcome_resolve_error plane kernel namedIface)]
      rfl
    | ok iface =>
      rw [Procedure.outcome_bind, outcome_resolve plane kernel namedIface, plane_nameToIndex]
      dsimp only
      cases found : kernel.find? iface.text with
      | none =>
        rw [nameToIndex, found]
        rfl
      | some link =>
        obtain ⟨index, resolved, same⟩ := valid.nameToIndex_eq words found
        have located := valid.get?_index (mem_of_find? found)
        rw [resolved]
        cases handles : kernel.refusesHandles with
        | true =>
          dsimp only
          rw [Control.outcome_withHandle, acquire_refused handles]
          rfl
        | false =>
          dsimp only
          rw [outcome_mutation handles (.addPort bridge index) (.addPort bridge.text index.toNat) _ _
            fun _ _ => rfl, same, addPort_eq_admits located]
          cases kernel.admits bridge.text link <;> rfl

theorem WellFormed.verdict_eq (valid : kernel.WellFormed) (words : kernel.lastIndex < UInt32.size)
    (call : Attachment) : kernel.verdict call = (kernel.prospect call).result :=
  congrArg Prod.fst (valid.play_move words call)

theorem WellFormed.state_eq (valid : kernel.WellFormed) (words : kernel.lastIndex < UInt32.size)
    (call : Attachment) :
    (kernel.play call.move).state = kernel.undergo (kernel.prospect call) :=
  congrArg Prod.snd (valid.play_move words call)

theorem admits_eq_ok_iff {name : String} {link owner : Link} :
    kernel.admits name link = .ok owner ↔
      kernel.bridge name = .ok owner ∧ owner.index ≠ link.index ∧ link.master = none := by
  unfold admits
  cases kernel.bridge name with
  | error cause => simp
  | ok found =>
    by_cases loop : found.index = link.index
    · simp only [loop, if_true, reduceCtorEq, Except.ok.injEq, false_iff]
      rintro ⟨rfl, other, -⟩
      exact other loop
    · cases free : link.master with
      | some master => simp [loop]
      | none =>
        simp only [loop, if_false, Option.isSome_none, Bool.false_eq_true, Except.ok.injEq, and_true]
        exact ⟨fun same => ⟨same, same ▸ loop⟩, And.left⟩

/-- A link that is to join a bridge is the one its name is looked up to, and belongs to none. -/
theorem prospect_eq_joins {bridge port : Nat} (joins : kernel.prospect call = .joins bridge port) :
    ∃ iface link, call.iface? = some iface ∧ kernel.find? iface.text = some link ∧
      link.index = port ∧ link.master = none := by
  unfold prospect at joins
  split at joins
  · cases joins
  · split at joins
    · cases joins
    · next iface named =>
      split at joins
      · cases joins
      · next link found =>
        split at joins
        · cases joins
        · split at joins
          · cases joins
          · next owner admitted =>
            obtain ⟨-, -, free⟩ := admits_eq_ok_iff.mp admitted
            cases joins
            exact ⟨iface, link, by rw [Attachment.iface?, named]; rfl, found, rfl, free⟩

/-! ## Changes that an attachment does not see -/

theorem bridge_change {f : Link → Link} (keeps : Link.Keeps f) (kernel : Kernel) (name : String) :
    (kernel.change f).bridge name = (kernel.bridge name).map f := by
  unfold bridge
  rw [find?_change keeps]
  cases kernel.find? name with
  | none => rfl
  | some link =>
    simp only [Option.map_some, keeps.isBridge]
    split <;> rfl

theorem admits_change {f : Link → Link} (keeps : Link.Keeps f) {name : String} {link : Link}
    (same : (f link).master = link.master) :
    (kernel.change f).admits name (f link) = (kernel.admits name link).map f := by
  unfold admits
  rw [bridge_change keeps]
  cases kernel.bridge name with
  | error cause => rfl
  | ok owner =>
    simp only [Except.map, keeps.index, same]
    split
    · rfl
    · split <;> rfl

/-- A change of links that keeps the master of the link to be attached makes no difference. -/
theorem prospect_change {f : Link → Link} (keeps : Link.Keeps f)
    (same : ∀ iface link, call.iface? = some iface → kernel.find? iface.text = some link →
      (f link).master = link.master) :
    (kernel.change f).prospect call = kernel.prospect call := by
  unfold prospect
  cases IfName.ofText call.policy call.bridge with
  | error fault => rfl
  | ok bridge =>
    cases named : IfName.ofText call.policy call.iface with
    | error fault => rfl
    | ok iface =>
      dsimp only
      rw [find?_change keeps]
      cases found : kernel.find? iface.text with
      | none => rfl
      | some link =>
        have master := same iface link (by rw [Attachment.iface?, named]; rfl) found
        simp only [Option.map_some, admits_change keeps master]
        cases kernel.admits bridge.text link with
        | error cause => rfl
        | ok owner =>
          simp only [Except.map, keeps.index]
          rfl

theorem prospect_unnumbered (kernel : Kernel) (call : Attachment) :
    kernel.unnumbered.prospect call = kernel.prospect call :=
  prospect_change .unnumbered fun _ _ _ _ => rfl

/-- Interfaces of different names are different links. -/
theorem WellFormed.index_ne_of_named (valid : kernel.WellFormed) {first second : IfName} {a b : Link}
    (namedA : call.iface? = some first) (namedB : other.iface? = some second)
    (apart : call.Apart other)
    (foundA : kernel.find? first.text = some a) (foundB : kernel.find? second.text = some b) :
    a.index ≠ b.index := by
  intro same
  obtain rfl := valid.eq_of_index (mem_of_find? foundA) (mem_of_find? foundB) same
  have alike : first = second :=
    IfName.ext_text ((name_of_find? foundA).symm.trans (name_of_find? foundB))
  exact apart first namedA (alike ▸ namedB)

/-- What an attachment comes to is not changed by another that names a different interface. -/
theorem WellFormed.prospect_undergo (valid : kernel.WellFormed)
    (apart : call.Apart other) :
    (kernel.undergo (kernel.prospect call)).prospect other = kernel.prospect other := by
  cases comes : kernel.prospect call with
  | declined cause => rfl
  | refused cause => rfl
  | joins bridge port =>
    obtain ⟨first, link, named, found, rfl, -⟩ := prospect_eq_joins comes
    refine prospect_change ((Link.Keeps.attached _ _).only link.index) ?_
    intro second target called located
    have other := valid.index_ne_of_named named called apart found located
    exact congrArg Link.master (if_neg other.symm)

/-! ## Kernels that differ in who has which number -/

/-- The two kernels are the same but for the port numbers, and of these the same are in use on each
bridge. -/
structure Alike (a b : Kernel) : Prop where
  unnumbered : a.unnumbered = b.unnumbered
  uses : ∀ bridge number, a.Uses bridge number ↔ b.Uses bridge number

namespace Alike

variable {a b c : Kernel}

theorem refl (kernel : Kernel) : Alike kernel kernel := ⟨rfl, fun _ _ => Iff.rfl⟩

theorem trans (first : Alike a b) (second : Alike b c) : Alike a c :=
  ⟨first.unnumbered.trans second.unnumbered,
    fun bridge number => (first.uses bridge number).trans (second.uses bridge number)⟩

theorem tally (alike : Alike a b) (handles requests : Nat) :
    Alike (a.tally handles requests) (b.tally handles requests) :=
  ⟨congrArg (·.tally handles requests) alike.unnumbered, alike.uses⟩

theorem prospect (alike : Alike a b) (call : Attachment) : a.prospect call = b.prospect call := by
  rw [← prospect_unnumbered a, ← prospect_unnumbered b, alike.unnumbered]

end Alike

/-- The next number on a bridge depends on the numbers in use there alone. -/
theorem freeNumber_congr {a b : Kernel} {bridge : Nat}
    (same : ∀ number, a.Uses bridge number ↔ b.Uses bridge number) :
    a.freeNumber bridge = b.freeNumber bridge := by
  have below {a b : Kernel} (same : ∀ number, a.Uses bridge number ↔ b.Uses bridge number) :
      a.freeNumber bridge ≤ b.freeNumber bridge := by
    have lowest := a.lowestUnused_freeNumber bridge
    have unused := (b.lowestUnused_freeNumber bridge).unused
    refine lowest.least _ (b.lowestUnused_freeNumber bridge).positive ?_
    intro port member owned number
    obtain ⟨other, live, theirs, equal⟩ := (same _).mp ⟨port, member, owned, number⟩
    exact unused other live theirs equal
  exact Nat.le_antisymm (below same) (below fun number => (same number).symm)

/-- A link that joins a bridge brings the next number there into use, and changes nothing elsewhere. -/
theorem WellFormed.uses_join (valid : kernel.WellFormed) {link : Link} (member : link ∈ kernel.links)
    (free : link.master = none) (owner bridge number : Nat) :
    (kernel.join owner link.index).Uses bridge number ↔
      kernel.Uses bridge number ∨ bridge = owner ∧ number = kernel.freeNumber owner := by
  constructor
  · rintro ⟨port, live, owned, rfl⟩
    rcases valid.mem_modify member live with rfl | old
    · exact .inr ⟨(Option.some.inj owned).symm, rfl⟩
    · exact .inl ⟨port, old, owned, rfl⟩
  · rintro (⟨port, live, owned, rfl⟩ | ⟨rfl, rfl⟩)
    · have apart : port.index ≠ link.index := by
        intro same
        obtain rfl := valid.eq_of_index live member same
        rw [free] at owned
        cases owned
      exact ⟨port, List.mem_map.mpr ⟨port, live, if_neg apart⟩, owned, rfl⟩
    · exact ⟨_, List.mem_map.mpr ⟨link, member, if_pos rfl⟩, rfl, rfl⟩

theorem unnumbered_join (kernel : Kernel) (bridge port : Nat) :
    (kernel.join bridge port).unnumbered =
      kernel.unnumbered.change (Link.only port (Link.attached · bridge 0)) := by
  simp only [unnumbered, join, modify_eq_change, change, List.map_map]
  congr 2
  funext link
  by_cases here : link.index = port
  · have still : link.unnumbered.index = port := here
    simp only [Function.comp, Link.only_of_eq here, Link.only_of_eq still]
    rfl
  · have still : link.unnumbered.index ≠ port := here
    simp only [Function.comp, Link.only_of_ne here, Link.only_of_ne still]

/-- Changes of different links can be made in either order. -/
theorem change_only_comm {f g : Link → Link} (keepsF : Link.Keeps f) (keepsG : Link.Keeps g)
    {first second : Nat} (apart : first ≠ second) (kernel : Kernel) :
    (kernel.change (Link.only first f)).change (Link.only second g) =
      (kernel.change (Link.only second g)).change (Link.only first f) := by
  simp only [change, List.map_map]
  congr 2
  funext link
  by_cases here : link.index = first
  · have other : link.index ≠ second := here ▸ apart
    have later : (f link).index ≠ second := by rwa [keepsF.index]
    simp only [Function.comp, Link.only_of_eq here, Link.only_of_ne other, Link.only_of_ne later]
  · have later : (Link.only second g link).index ≠ first := by
      rwa [(keepsG.only second).index]
    simp only [Function.comp, Link.only_of_ne here, Link.only_of_ne later]

theorem mem_join {link : Link} {port : Nat} (member : link ∈ kernel.links) (other : link.index ≠ port)
    (bridge : Nat) : link ∈ (kernel.join bridge port).links :=
  List.mem_map.mpr ⟨link, member, if_neg other⟩

/-- Two links can join their bridges in either order. On one bridge the first comes by the same number
whichever it is, and then so does the second. -/
theorem WellFormed.join_comm (valid : kernel.WellFormed) {a b : Link} {one two : Nat}
    (memberA : a ∈ kernel.links) (freeA : a.master = none) (memberB : b ∈ kernel.links)
    (freeB : b.master = none) (apart : a.index ≠ b.index)
    (validA : (kernel.join one a.index).WellFormed) (validB : (kernel.join two b.index).WellFormed) :
    Alike ((kernel.join one a.index).join two b.index)
      ((kernel.join two b.index).join one a.index) where
  unnumbered := by
    simp only [unnumbered_join]
    exact change_only_comm (.attached one 0) (.attached two 0) apart _
  uses bridge number := by
    have afterA := valid.uses_join memberA freeA one
    have afterB := valid.uses_join memberB freeB two
    rw [validA.uses_join (mem_join memberB apart.symm one) freeB, afterA,
      validB.uses_join (mem_join memberA apart two) freeA, afterB]
    -- On one bridge the first to join gets the same number either way; on two bridges neither
    -- joining is seen by the other.
    by_cases same : one = two
    · subst same
      have next : (kernel.join one a.index).freeNumber one =
          (kernel.join one b.index).freeNumber one :=
        freeNumber_congr fun number => (afterA one number).trans (afterB one number).symm
      rw [next]
    · have nextB : (kernel.join one a.index).freeNumber two = kernel.freeNumber two :=
        freeNumber_congr fun number => (afterA two number).trans (or_iff_left (same ·.1.symm))
      have nextA : (kernel.join two b.index).freeNumber one = kernel.freeNumber one :=
        freeNumber_congr fun number => (afterB one number).trans (or_iff_left (same ·.1))
      rw [nextA, nextB, or_right_comm]

/-- Every link has an index of its own that survives a lookup. -/
structure Indexed (kernel : Kernel) : Prop where
  valid : kernel.WellFormed
  words : kernel.lastIndex < UInt32.size

theorem Indexed.play (indexed : kernel.Indexed) (call : Attachment) :
    (kernel.play call.move).state.Indexed where
  valid := Procedure.outcome_preserves (fun _ _ valid => valid.answer _) _ indexed.valid
  words := by
    rw [indexed.valid.state_eq indexed.words]
    cases kernel.prospect call <;> exact indexed.words

theorem Indexed.undergo_comm (indexed : kernel.Indexed)
    (apart : call.Apart other) :
    Alike ((kernel.undergo (kernel.prospect call)).undergo (kernel.prospect other))
      ((kernel.undergo (kernel.prospect other)).undergo (kernel.prospect call)) := by
  have valid := indexed.valid
  have validA := (indexed.play call).valid
  have validB := (indexed.play other).valid
  rw [valid.state_eq indexed.words] at validA validB
  cases comes : kernel.prospect call with
  | declined cause => exact .refl _
  | refused cause => cases kernel.prospect other <;> exact .refl _
  | joins one port =>
    cases goes : kernel.prospect other with
    | declined cause => exact .refl _
    | refused cause => exact .refl _
    | joins two target =>
      rw [comes] at validA
      rw [goes] at validB
      obtain ⟨first, a, namedA, foundA, rfl, freeA⟩ := prospect_eq_joins comes
      obtain ⟨second, b, namedB, foundB, rfl, freeB⟩ := prospect_eq_joins goes
      have indices := valid.index_ne_of_named namedA namedB apart foundA foundB
      exact (valid.join_comm (mem_of_find? foundA) freeA (mem_of_find? foundB) freeB indices
        (validA.congr rfl rfl) (validB.congr rfl rfl)).tally 2 2

/-! ## Calls one after another -/

theorem Alike.play {a b : Kernel} (alike : Alike a b) (left : a.Indexed) (right : b.Indexed)
    (call : Attachment) : Alike (a.play call.move).state (b.play call.move).state := by
  rw [left.valid.state_eq left.words, right.valid.state_eq right.words, ← alike.prospect call]
  have there := alike.prospect call
  cases comes : a.prospect call with
  | declined cause => exact alike
  | refused cause => exact alike.tally 1 1
  | joins bridge port =>
    rw [comes] at there
    obtain ⟨iface, link, -, found, rfl, free⟩ := prospect_eq_joins comes
    obtain ⟨again, twin, -, located, same, unowned⟩ := prospect_eq_joins there.symm
    have next : a.freeNumber bridge = b.freeNumber bridge := freeNumber_congr (alike.uses bridge)
    refine Alike.tally ⟨?_, fun owner number => ?_⟩ 1 1
    · rw [unnumbered_join, unnumbered_join, alike.unnumbered]
    · rw [left.valid.uses_join (mem_of_find? found) free, ← same,
        right.valid.uses_join (mem_of_find? located) unowned, alike.uses, next]

theorem Alike.after {a b : Kernel} (alike : Alike a b) (left : a.Indexed) (right : b.Indexed)
    (calls : List Attachment) :
    Alike (a.after (calls.map Attachment.move)) (b.after (calls.map Attachment.move)) := by
  induction calls generalizing a b with
  | nil => exact alike
  | cons call rest ih => exact ih (alike.play left right call) (left.play call) (right.play call)

/-- Each of several calls returns what it would return alone. -/
theorem Indexed.verdicts_eq (indexed : kernel.Indexed) {calls : List Attachment}
    (distinct : (calls.filterMap Attachment.iface?).Nodup) :
    verdicts calls kernel = calls.map kernel.verdict := by
  induction calls generalizing kernel with
  | nil => rfl
  | cons call rest ih =>
    have same : rest.map (kernel.play call.move).state.verdict = rest.map kernel.verdict := by
      refine List.map_congr_left fun other member => ?_
      have after := indexed.play call
      rw [after.valid.verdict_eq after.words, indexed.valid.verdict_eq indexed.words,
        indexed.valid.state_eq indexed.words,
        indexed.valid.prospect_undergo (Attachment.apart_of_nodup distinct other member)]
    rw [verdicts, ih (indexed.play call) (Attachment.nodup_tail distinct), same]
    rfl

theorem Indexed.play_comm (indexed : kernel.Indexed) (apart : call.Apart other)
    (back : other.Apart call) :
    Alike ((kernel.play call.move).state.play other.move).state
      ((kernel.play other.move).state.play call.move).state := by
  have first := indexed.play call
  have second := indexed.play other
  rw [first.valid.state_eq first.words, second.valid.state_eq second.words,
    indexed.valid.state_eq indexed.words, indexed.valid.state_eq indexed.words,
    indexed.valid.prospect_undergo apart, indexed.valid.prospect_undergo back]
  exact indexed.undergo_comm apart

theorem Indexed.after_perm (indexed : kernel.Indexed) {calls order : List Attachment}
    (reordered : order.Perm calls) (distinct : (order.filterMap Attachment.iface?).Nodup) :
    Alike (kernel.after (order.map Attachment.move)) (kernel.after (calls.map Attachment.move)) := by
  induction reordered generalizing kernel with
  | nil => exact .refl kernel
  | cons call _ ih => exact ih (indexed.play call) (Attachment.nodup_tail distinct)
  | swap call other rest =>
    have apart := Attachment.apart_of_nodup distinct call (List.mem_cons_self ..)
    have back : call.Apart other := fun iface named again => apart iface again named
    exact (indexed.play_comm apart back).after ((indexed.play other).play call)
      ((indexed.play call).play other) rest
  | trans first second ihFirst ihSecond =>
    have middle := (first.filterMap Attachment.iface?).nodup_iff.mp distinct
    exact (ihFirst indexed distinct).trans (ihSecond indexed middle)

/-- Attachments of different interfaces may be made in any order. Each returns what it would return
if it were the only one; in the end every link has the same master, on every bridge the same port
numbers are in use, and as many requests were counted. Only which port has which number depends on
the order. An index is a word of 32 bits, and `words` says that none has outgrown it. -/
theorem attachments_commute (reached : kernel.Reachable) (words : kernel.lastIndex < UInt32.size)
    {calls order : List Attachment} (distinct : (calls.filterMap Attachment.iface?).Nodup)
    (reordered : order.Perm calls) :
    let first := kernel.after (calls.map Attachment.move)
    let second := kernel.after (order.map Attachment.move)
    verdicts calls kernel = calls.map kernel.verdict ∧
    verdicts order kernel = order.map kernel.verdict ∧
    (∀ index, (first.get? index).map Link.master = (second.get? index).map Link.master) ∧
    (∀ bridge number, first.Uses bridge number ↔ second.Uses bridge number) ∧
    first.mutations = second.mutations ∧
    first.unnumbered = second.unnumbered := by
  intro first second
  have indexed : kernel.Indexed := ⟨reached.wellFormed, words⟩
  have alike : Alike first second := indexed.after_perm reordered.symm distinct
  have unordered := (reordered.filterMap Attachment.iface?).nodup_iff.mpr distinct
  have counted : first.unnumbered.mutations = second.unnumbered.mutations := by
    rw [alike.unnumbered]
  refine ⟨indexed.verdicts_eq distinct, indexed.verdicts_eq unordered, fun index => ?_, alike.uses,
    counted, alike.unnumbered⟩
  have master (kernel : Kernel) :
      (kernel.unnumbered.get? index).map Link.master = (kernel.get? index).map Link.master := by
    rw [Kernel.unnumbered, get?_change .unnumbered, Option.map_map]
    rfl
  rw [← master first, alike.unnumbered, master second]

/-- A session after which a bridge has a port with number two and none with number one. -/
def gapped : List Move :=
  [.happen (.addLink "eth0"), .happen (.addLink "eth1"), .happen (.addLink "eth2"),
    .operate .truncate (.createBridge "br0"), .operate .truncate (.createBridge "br1"),
    .operate .truncate (.addInterface "br0" "eth0"), .operate .truncate (.addInterface "br0" "eth1"),
    .operate .truncate (.removeInterface "br0" "eth0")]

/-- Of two links that join the bridge one fills the gap; a link that belongs elsewhere is refused, and
so is a text that is no name. -/
def joining : List Attachment :=
  [⟨.truncate, "br0", "eth0"⟩, ⟨.truncate, "br1", "eth1"⟩, ⟨.reject, "br0", ""⟩,
    ⟨.truncate, "br0", "eth2"⟩]

theorem attachments_commute_gapped :
    let kernel := Kernel.new.after gapped
    let first := kernel.after (joining.map Attachment.move)
    let second := kernel.after (joining.reverse.map Attachment.move)
    verdicts joining kernel = [.ok (),
      .error (.portOperation .addInterface "eth1" "br1" (.errno .EBUSY)),
      .error (.invalidName "" .empty), .ok ()] ∧
    verdicts joining.reverse kernel = (verdicts joining kernel).reverse ∧
    (first.get? 2).map Link.portNo = some 1 ∧ (second.get? 2).map Link.portNo = some 3 ∧
    (∀ bridge number, first.Uses bridge number ↔ second.Uses bridge number) ∧
    first.mutations = second.mutations := by
  intro kernel first second
  obtain ⟨forth, back, -, uses, counted, -⟩ := attachments_commute (Reachable.new.after gapped)
    (by decide +kernel) (by decide +kernel) (List.reverse_perm joining)
  refine ⟨by decide +kernel, ?_, by decide +kernel, by decide +kernel, uses, counted⟩
  rw [forth, back, List.map_reverse]

end Kernel

end NetBridge
