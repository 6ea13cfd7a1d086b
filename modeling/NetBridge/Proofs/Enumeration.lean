import NetBridge.Proofs.Blame
import NetBridge.Proofs.Kernel.Listing
import NetBridge.Proofs.Kernel.Turns

namespace NetBridge

open Dialogue

/-- The index that a step asks the name of, and the name if one is given. -/
def Step.resolution? : Step → Option (IfIndex × Option String)
  | asked (.indexToName index) text => some (index, text)
  | _ => none

def firstValues {capacity : Nat} (slots : Vector Int32 capacity) (limit : Nat)
    (inside : limit ≤ capacity) : List Int :=
  List.ofFn fun position : Fin limit => (slots.get (position.castLE inside)).toInt

/-- The positive values are asked for in order, each once, and the names given are the result. -/
structure Decodes (values : List Int) (steps : List Step) (result : Except Error (List String)) :
    Prop where
  asked : (steps.filterMap Step.resolution?).map (fun resolution => (resolution.1.toNat : Int)) =
    values.filter (0 < ·)
  listed : result = .ok ((steps.filterMap Step.resolution?).filterMap Prod.snd)

/-- Among the steps a handle or the request is refused, and this is the error made of it. -/
inductive Refuses (request : Request) (fault : Errno → Error) (steps : List Step) : Error → Prop where
  | handle {cause : Errno} (denied : .asked .acquire (.error cause) ∈ steps) :
      Refuses request fault steps (.handleAcquisition (.errno cause))
  | request {handle : Handle} {cause : Errno}
      (denied : .asked (.request handle request) (.error cause) ∈ steps) :
      Refuses request fault steps (fault cause)

/-- A listing of one request: once the request is granted its values are decoded, whatever they are;
without a grant something was refused, and no name is asked for. -/
structure Enumerates (request : Request) (fault : Errno → Error)
    (values : request.Reply → List Int) (steps : List Step) (result : Except Error (List String)) :
    Prop where
  granted : ∀ handle reply, .asked (.request handle request) (.ok reply) ∈ steps →
    Decodes (values reply) steps result
  refused : (∀ handle reply, .asked (.request handle request) (.ok reply) ∉ steps) →
    steps.filterMap Step.resolution? = [] ∧
      ∃ error, Refuses request fault steps error ∧ result = .error error

theorem firstValues_eq {capacity : Nat} (slots : Vector Int32 capacity) (limit : Nat)
    (inside : limit ≤ capacity) :
    firstValues slots limit inside = (firstSlots slots limit inside).map Int32.toInt := by
  rw [firstSlots, List.map_ofFn]
  rfl

theorem firstValues_all {capacity : Nat} (slots : Vector Int32 capacity) :
    firstValues slots capacity (Nat.le_refl _) = slots.toList.map Int32.toInt := by
  rw [firstValues_eq, firstSlots_eq_take,
    List.take_of_length_le (Nat.le_of_eq Vector.length_toList)]

/-- Slots that were never written hold no positive value. -/
theorem filter_firstValues_fillSlots {capacity limit : Nat} (values : List Int32)
    (inside : limit ≤ capacity) :
    (firstValues (fillSlots capacity values) limit inside).filter (0 < ·) =
      ((values.take limit).map Int32.toInt).filter (0 < ·) := by
  have filled : (fillSlots capacity values).toList.take limit =
      values.take limit ++ List.replicate (limit - values.length) 0 := by
    rw [Kernel.toList_fillSlots, List.take_take, Nat.min_eq_left inside, List.take_append,
      List.take_replicate, Nat.min_eq_left (by omega)]
  rw [firstValues_eq, firstSlots_eq_take, filled, List.map_append, List.filter_append,
    List.map_replicate, List.filter_replicate_of_neg (by decide), List.append_nil]

theorem IfIndex.ofSlot?_of_not_pos {slot : Int32} (unused : ¬ 0 < slot.toInt) :
    IfIndex.ofSlot? slot = none := if_neg unused

theorem IfIndex.ofSlot?_of_pos {slot : Int32} (used : 0 < slot.toInt) :
    ∃ index, IfIndex.ofSlot? slot = some index ∧ (index.toNat : Int) = slot.toInt := by
  have signed : slot.toInt < 2 ^ 31 := slot.toInt_lt
  have positive : 0 < slot.toInt.toNat := by omega
  have small : slot.toInt.toNat < UInt32.size := by
    show slot.toInt.toNat < 4294967296
    omega
  obtain ⟨index, found, same⟩ := IfIndex.ofUInt32?_ofNat positive small
  refine ⟨index, by rw [ofSlot?, if_pos used, found], ?_⟩
  rw [same, Int.toNat_of_nonneg (Int.le_of_lt used)]

/-- One more positive value, asked for before the others. -/
theorem Decodes.cons {values : List Int} {steps : List Step} {names : List String}
    (decodes : Decodes values steps (.ok names)) {index : IfIndex} {value : Int}
    (positive : 0 < value) (same : (index.toNat : Int) = value) (name : Option String) :
    Decodes (value :: values) (.asked (.indexToName index) name :: steps)
      (.ok (name.toList ++ names)) where
  asked := by
    rw [List.filter_cons_of_pos (by simpa using positive), ← decodes.asked, ← same]
    rfl
  listed := by
    rw [Except.ok.inj decodes.listed]
    cases name <;> rfl

theorem Decodes.congr {values : List Int} {steps further : List Step}
    {result : Except Error (List String)} (decodes : Decodes values steps result)
    (same : further.filterMap Step.resolution? = steps.filterMap Step.resolution?) :
    Decodes values further result :=
  ⟨same ▸ decodes.asked, same ▸ decodes.listed⟩

theorem not_mem_of_requests {steps : List Step} (unmade : steps.filterMap Step.request? = [])
    (handle : Handle) (request : Request) (answer : Except Errno request.Reply) :
    .asked (.request handle request) answer ∉ steps := by
  intro member
  cases List.filterMap_eq_nil_iff.mp unmade _ member

/-- Steps that make no request and ask for no name. -/
structure Aside (steps : List Step) : Prop where
  requests : steps.filterMap Step.request? = []
  resolutions : steps.filterMap Step.resolution? = []

theorem Aside.of_silent {steps : List Step} (silent : steps.filterMap Step.call? = []) :
    Aside steps := by
  have uncalled := List.filterMap_eq_nil_iff.mp silent
  constructor <;> refine List.filterMap_eq_nil_iff.mpr fun step member => ?_
  all_goals
    cases step with
    | logged event => rfl
    | asked call answer => cases uncalled _ member

theorem Refuses.mono {request : Request} {fault : Errno → Error} {steps further : List Step}
    {error : Error} (refuses : Refuses request fault steps error) (among : steps ⊆ further) :
    Refuses request fault further error := by
  cases refuses with
  | handle denied => exact .handle (among denied)
  | request denied => exact .request (among denied)

namespace Enumerates

variable {request : Request} {fault : Errno → Error} {values : request.Reply → List Int}
  {steps : List Step} {result : Except Error (List String)}

theorem of_refuses {error : Error} (refuses : Refuses request fault steps error)
    (ungranted : ∀ handle reply, .asked (.request handle request) (.ok reply) ∉ steps)
    (unasked : steps.filterMap Step.resolution? = []) :
    Enumerates request fault values steps (.error error) :=
  ⟨fun handle reply member => absurd member (ungranted handle reply),
    fun _ => ⟨unasked, error, refuses, rfl⟩⟩

/-- A listing stays one among steps of other kinds. -/
theorem within (enumerates : Enumerates request fault values steps result)
    {before after : List Step} (early : Aside before) (late : Aside after) :
    Enumerates request fault values (before ++ steps ++ after) result := by
  have same : (before ++ steps ++ after).filterMap Step.resolution? =
      steps.filterMap Step.resolution? := by
    rw [List.filterMap_append, List.filterMap_append, early.resolutions, late.resolutions,
      List.nil_append, List.append_nil]
  refine ⟨fun handle reply member => ?_, fun ungranted => ?_⟩
  · have made : .asked (.request handle request) (.ok reply) ∈ steps := by
      simpa [not_mem_of_requests early.requests, not_mem_of_requests late.requests] using member
    exact (enumerates.granted handle reply made).congr same
  · have among : steps ⊆ before ++ steps ++ after :=
      fun _ member => List.mem_append_left _ (List.mem_append_right _ member)
    obtain ⟨unasked, error, refuses, failed⟩ := enumerates.refused fun handle reply made =>
      ungranted handle reply (among made)
    exact ⟨same.trans unasked, error, refuses.mono among, failed⟩

end Enumerates

namespace Control

variable {policy : NamePolicy} {text : String} {steps : List Step}
  {result : Except Error (List String)}

theorem plays_namesOf_decodes {slots : List Int32} {names : List String}
    (played : Plays (namesOf slots) steps names) :
    Decodes (slots.map Int32.toInt) steps (.ok names) ∧ steps.filterMap Step.request? = [] := by
  induction slots generalizing steps names with
  | nil =>
    obtain ⟨rfl, rfl⟩ := plays_done_iff.mp played
    exact ⟨⟨rfl, rfl⟩, rfl⟩
  | cons slot rest ih =>
    rw [namesOf] at played
    by_cases used : 0 < slot.toInt
    · obtain ⟨index, found, same⟩ := IfIndex.ofSlot?_of_pos used
      rw [found] at played
      obtain ⟨answer, back, rfl, later⟩ := plays_query_bind_iff.mp played
      cases answer with
      | some name =>
        obtain ⟨front, tail, others, rfl, begun, ended⟩ := plays_bind_iff.mp later
        obtain ⟨rfl, rfl⟩ := plays_done_iff.mp ended
        obtain ⟨decodes, silent⟩ := ih begun
        rw [List.append_nil]
        exact ⟨decodes.cons used same (some name), silent⟩
      | none =>
        obtain ⟨tail, rfl, others⟩ := plays_log_iff.mp later
        obtain ⟨decodes, silent⟩ := ih others
        exact ⟨(decodes.cons used same none).congr rfl, silent⟩
    · rw [IfIndex.ofSlot?_of_not_pos used] at played
      obtain ⟨⟨asked, listed⟩, silent⟩ := ih played
      refine ⟨⟨?_, listed⟩, silent⟩
      rw [asked, List.map_cons, List.filter_cons_of_neg (by simpa using used)]

theorem plays_liftM_namesOf {slots : List Int32}
    (played : Plays (ExceptT.run (liftM (namesOf slots) : Procedure (List String))) steps result) :
    Decodes (slots.map Int32.toInt) steps result ∧ steps.filterMap Step.request? = [] := by
  obtain ⟨names, rfl, asked⟩ := Procedure.plays_liftM_iff.mp played
  exact plays_namesOf_decodes asked

variable {request : Request} {values : request.Reply → List Int} {refused : Errno → Dialogue Error}
  {fault : Errno → Error}

/-- A listing makes its request and goes on with the reply. -/
theorem enumerates_issue {handle : Handle} (said : ∀ cause, (refused cause).Says (fault cause))
    {k : request.Reply → Procedure (List String)}
    (decodes : ∀ reply steps result, Plays (ExceptT.run (k reply)) steps result →
      Decodes (values reply) steps result ∧ steps.filterMap Step.request? = [])
    (played : Plays (ExceptT.run (issue handle request refused >>= k)) steps result) :
    Enumerates request fault values steps result := by
  rcases Procedure.plays_bind_iff.mp played with
    ⟨error, rfl, begun⟩ | ⟨front, back, reply, rfl, begun, continued⟩
  · rcases plays_issue begun with ⟨cause, later, other, rfl, spoken, same⟩ | ⟨reply, -, same⟩
    · obtain rfl := Except.error.inj same
      obtain ⟨rfl, silent⟩ := said cause later _ spoken
      have aside := Aside.of_silent silent
      refine .of_refuses (.request List.mem_cons_self) (fun holder reply member => ?_)
        aside.resolutions
      rcases List.mem_cons.mp member with same | after
      · cases same
      · exact not_mem_of_requests aside.requests holder request _ after
    · cases same
  · rcases plays_issue begun with ⟨cause, later, other, -, -, same⟩ | ⟨given, rfl, same⟩
    · cases same
    · obtain rfl := Except.ok.inj same
      obtain ⟨decoded, silent⟩ := decodes reply back result continued
      refine ⟨fun holder other member => ?_, fun ungranted => ?_⟩
      · rcases List.mem_cons.mp member with same | after
        · cases same
          exact decoded.congr rfl
        · exact absurd after (not_mem_of_requests silent holder request _)
      · exact absurd List.mem_cons_self (ungranted handle reply)

/-- The handle of a listing makes no difference to it; without one there is no listing. -/
theorem enumerates_withHandle
    (said : ∀ cause, (refused cause).Says (.handleAcquisition (.errno cause)))
    {body : Handle → Procedure (List String)}
    (each : ∀ handle steps result, Plays (ExceptT.run (body handle)) steps result →
      Enumerates request fault values steps result)
    (played : Plays (ExceptT.run (withHandle refused body)) steps result) :
    Enumerates request fault values steps result := by
  rcases plays_withHandle played with
    ⟨cause, later, error, rfl, spoken, rfl⟩ | ⟨handle, middle, rfl, worked⟩
  · obtain ⟨rfl, silent⟩ := said cause later error spoken
    have aside := Aside.of_silent silent
    have denied : Aside (.asked .acquire (.error cause) :: later) :=
      ⟨aside.requests, aside.resolutions⟩
    exact .of_refuses (.handle List.mem_cons_self)
      (fun handle reply => not_mem_of_requests denied.requests handle request _) denied.resolutions
  · have taken : Aside [.asked .acquire (.ok handle)] := ⟨rfl, rfl⟩
    have given : Aside [.asked (.release handle) ()] := ⟨rfl, rfl⟩
    exact (each handle middle result worked).within taken given

theorem enumerates_listBridges (played : Plays (ExceptT.run listBridges) steps result) :
    Enumerates (.bridgeIndices enumSlots)
      (fun cause => .kernelOperation .listBridges "*" (.errno cause))
      (fun found => firstValues found.slots (min found.count enumSlots) (Nat.min_le_right ..))
      steps result := by
  refine enumerates_withHandle (fun cause => .bind (.report _) (.done _)) ?_ played
  intro handle steps result worked
  refine enumerates_issue (fun cause => .bind (.report _) (.done _)) ?_ worked
  intro found steps result named
  rw [firstValues_eq]
  dsimp only at named
  -- Reporting that the enumeration is full asks nothing.
  split at named
  · obtain ⟨back, rfl, later⟩ := plays_log_iff.mp named
    obtain ⟨decodes, silent⟩ := plays_liftM_namesOf later
    exact ⟨decodes.congr rfl, silent⟩
  · exact plays_liftM_namesOf named

theorem enumerates_listInterfaces {bridge : IfName} (named : IfName.ofText policy text = .ok bridge)
    (played : Plays (ExceptT.run (listInterfaces policy text)) steps result) :
    Enumerates (.portIndices bridge enumSlots)
      (fun cause => .kernelOperation .listInterfaces bridge.text (.errno cause))
      (fun slots => firstValues slots enumSlots (Nat.le_refl _)) steps result := by
  obtain ⟨front, back, rfl, silent, later⟩ := plays_named named played
  have enumerates : Enumerates (.portIndices bridge enumSlots)
      (fun cause => .kernelOperation .listInterfaces bridge.text (.errno cause))
      (fun slots => firstValues slots enumSlots (Nat.le_refl _)) back result := by
    refine enumerates_withHandle (says_noHandle _ bridge) ?_ later
    intro handle steps result worked
    refine enumerates_issue (says_refusal _ bridge) ?_ worked
    intro slots steps result named
    rw [firstValues_all]
    exact plays_liftM_namesOf named
  have whole := enumerates.within (.of_silent silent) (.of_silent rfl : Aside [])
  rwa [List.append_nil] at whole

end Control

/-- Whatever a control plane answers, listings make sense of it. The bridges listed are the names
given for the positive values among the slots that the reported count and the buffer both allow, and
the members of a bridge those for the positive values of all slots: each is asked for once, in the
order of the slots, with what has no name left out. No other slot is asked for, and a listing fails
only where its text is no name, or its handle or its request is refused. -/
theorem listings_decode_any_answer (policy : NamePolicy) (text : String) (steps : List Step)
    (result : Except Error (List String)) :
    (Plays (ExceptT.run Control.listBridges) steps result →
      Enumerates (.bridgeIndices Control.enumSlots)
        (fun cause => .kernelOperation .listBridges "*" (.errno cause))
        (fun found =>
          firstValues found.slots (min found.count Control.enumSlots) (Nat.min_le_right ..))
        steps result) ∧
    (Plays (ExceptT.run (Control.listInterfaces policy text)) steps result →
      (∀ bridge, IfName.ofText policy text = .ok bridge →
        Enumerates (.portIndices bridge Control.enumSlots)
          (fun cause => .kernelOperation .listInterfaces bridge.text (.errno cause))
          (fun slots => firstValues slots Control.enumSlots (Nat.le_refl _)) steps result) ∧
      ∀ fault, IfName.ofText policy text = .error fault →
        steps.filterMap Step.call? = [] ∧ result = .error (.invalidName text fault)) := by
  refine ⟨Control.enumerates_listBridges, fun played => ⟨fun bridge named => ?_, ?_⟩⟩
  · exact Control.enumerates_listInterfaces named played
  · intro fault unnamed
    exact (Control.says_rejected unnamed _ steps result played).symm

/-- A count beyond the buffer, slots that are empty or negative, and indices without a name; and a
handle that is refused. -/
theorem listings_decode_any_answer_hostile :
    let script : Script := ⟨[], [(3, "br0")], [], [], [], [], [],
      [.ok ([3, 0, -1, 9, 3], 5000)], [.ok [0, 3, -2147483648, 7]], [], []⟩
    let bridges := Control.listBridges.run Script.plane script
    let members := (Control.listInterfaces .reject "br0").run Script.plane script
    let denied := (Control.listInterfaces .reject "br0").run Script.plane
      { script with acquisitions := [.error .EMFILE] }
    (bridges.steps.filterMap Step.resolution?).map (fun resolution => (resolution.1.toNat : Int)) =
      [3, 9, 3] ∧ (∃ names, bridges.value = .ok names ∧ names.length ≤ 3) ∧
    (members.steps.filterMap Step.resolution?).map (fun resolution => (resolution.1.toNat : Int)) =
      [3, 7] ∧ (∃ names, members.value = .ok names ∧ names.length ≤ 2) ∧
    denied.steps.filterMap Step.resolution? = [] ∧ ∃ error, denied.value = .error error := by
  intro script bridges members denied
  let br0 : IfName := ⟨"br0", by decide, by decide, by decide⟩
  have named : IfName.ofText .reject "br0" = .ok br0 := by decide
  obtain ⟨first, -⟩ := listings_decode_any_answer .reject "br0" bridges.steps bridges.value
  obtain ⟨-, second⟩ := listings_decode_any_answer .reject "br0" members.steps members.value
  obtain ⟨-, third⟩ := listings_decode_any_answer .reject "br0" denied.steps denied.value
  have listed : .asked (.request ⟨0⟩ (.bridgeIndices Control.enumSlots))
      (.ok ⟨5000, fillSlots Control.enumSlots [3, 0, -1, 9, 3]⟩) ∈ bridges.steps :=
    List.mem_cons_of_mem _ List.mem_cons_self
  have reported : .asked (.request ⟨0⟩ (.portIndices br0 Control.enumSlots))
      (.ok (fillSlots Control.enumSlots [0, 3, -2147483648, 7])) ∈ members.steps :=
    List.mem_cons_of_mem _ List.mem_cons_self
  obtain ⟨asked, found⟩ := (first (plays_run _ _ _)).granted _ _ listed
  obtain ⟨askedPorts, foundPorts⟩ := ((second (plays_run _ _ _)).1 br0 named).granted _ _ reported
  obtain ⟨unasked, error, -, failed⟩ := ((third (plays_run _ _ _)).1 br0 named).refused nofun
  rw [filter_firstValues_fillSlots] at asked askedPorts
  have three := congrArg List.length asked
  have two := congrArg List.length askedPorts
  rw [List.length_map] at three two
  exact ⟨asked, ⟨_, found, Nat.le_trans (List.length_filterMap_le _ _) (Nat.le_of_eq three)⟩,
    askedPorts, ⟨_, foundPorts, Nat.le_trans (List.length_filterMap_le _ _) (Nat.le_of_eq two)⟩,
    unasked, error, failed⟩

end NetBridge
