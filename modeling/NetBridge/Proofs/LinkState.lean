import NetBridge.Proofs.Inquiry
import NetBridge.Proofs.Topology.Atomicity

namespace NetBridge

open Dialogue

theorem mem_requests (before later : List Step) (handle : Handle) (request : Request)
    (answer : Except Errno request.Reply) :
    request ∈
      (before ++ .asked (.request handle request) answer :: later).filterMap Step.request? := by
  rw [List.filterMap_append]
  exact List.mem_append_right _ (List.mem_cons_self ..)

def Request.SparesFlags (request : Request) : Prop :=
  ∀ name flags, request ≠ .setLinkFlags name flags

/-- Each flag word is written right after the word of the same link was read on the same handle, and
differs from it in the up bit. -/
def Rewritten (steps : List Step) : Prop :=
  ∀ before handle name flags answer later,
    steps = before ++ .asked (.request handle (.setLinkFlags name flags)) answer :: later →
    ∃ earlier word, before = earlier ++ [.asked (.request handle (.linkFlags name)) (.ok word)] ∧
      flags = word.setUp !word.isUp

namespace Rewritten

variable {front back steps : List Step}

/-- The first step of a part is no writing, so none goes with the end of another part. -/
theorem append (first : Rewritten front) (second : Rewritten back) : Rewritten (front ++ back) := by
  intro before handle name flags answer later split
  rcases List.append_eq_append_iff.mp split with ⟨between, rfl, tail⟩ | ⟨between, rfl, tail⟩
  · obtain ⟨earlier, word, rfl, flipped⟩ := second _ _ _ _ _ _ tail
    exact ⟨front ++ earlier, word, (List.append_assoc ..).symm, flipped⟩
  · cases between with
    | nil =>
      -- The writing would be the first step of the second part, with no reading before it.
      obtain ⟨earlier, word, same, -⟩ := second [] _ _ _ _ _ tail.symm
      cases List.append_eq_nil_iff.mp same.symm |>.2
    | cons step others =>
      obtain ⟨rfl, -⟩ := List.cons.inj tail
      exact first _ _ _ _ _ _ rfl

theorem of_spared (spared : ∀ request ∈ steps.filterMap Step.request?, request.SparesFlags) :
    Rewritten steps := by
  rintro before handle name flags answer later rfl
  exact absurd rfl (spared _ (mem_requests ..) name flags)

theorem read_write (handle : Handle) (name : IfName) {word : LinkFlags} {up : Bool}
    (differs : word.isUp ≠ up) (answer : Except Errno Unit) :
    Rewritten [.asked (.request handle (.linkFlags name)) (.ok word),
      .asked (.request handle (.setLinkFlags name (word.setUp up))) answer] := by
  intro before other written flags given later split
  cases before with
  | nil => cases split
  | cons read others =>
    cases others with
    | nil =>
      cases split
      exact ⟨[], word, rfl, congrArg word.setUp (Bool.eq_not.mpr differs.symm)⟩
    | cons write rest =>
      obtain ⟨-, none⟩ := List.cons.inj (List.cons.inj split).2
      cases List.append_eq_nil_iff.mp none.symm |>.2

end Rewritten

/-- Every course rewrites the flag words that it writes. -/
def Procedure.Rewrites (p : Procedure α) : Prop :=
  ∀ steps result, Plays (ExceptT.run p) steps result → Rewritten steps

namespace Procedure.Rewrites

theorem of_asks {p : Procedure α}
    (asks : p.Asks Request.SparesFlags) : Rewrites p :=
  fun steps result played => .of_spared (asks steps result played)

theorem bind {p : Procedure α} {k : α → Procedure β} (first : Rewrites p)
    (rest : ∀ value, Rewrites (k value)) : Rewrites (p >>= k) := by
  intro steps result played
  rcases plays_bind_iff.mp played with ⟨error, -, begun⟩ | ⟨front, back, value, rfl, begun, later⟩
  · exact first steps _ begun
  · exact (first front _ begun).append (rest value back result later)

theorem withHandle {refused : Errno → Dialogue Error} {body : Handle → Procedure α}
    (said : ∀ cause, (refused cause).Asks Request.SparesFlags)
    (each : ∀ handle, Rewrites (body handle)) : Rewrites (Control.withHandle refused body) := by
  intro steps result played
  rcases Control.plays_withHandle played with
    ⟨cause, later, error, rfl, spoken, -⟩ | ⟨handle, middle, rfl, worked⟩
  · exact .of_spared (said cause later error spoken)
  · have acquired : Rewritten [.asked .acquire (.ok handle)] := .of_spared nofun
    have released : Rewritten [.asked (.release handle) ()] := .of_spared nofun
    exact acquired.append ((each handle middle result worked).append released)

end Procedure.Rewrites

namespace Control

open Procedure

theorem rewrites_setLinkUp (policy : NamePolicy) (text : String) (up : Bool) :
    Rewrites (setLinkUp policy text up) := by
  refine .bind (.of_asks (asks_name text)) fun iface => ?_
  refine .withHandle (asks_noHandle _ iface) fun handle steps result played => ?_
  rcases Procedure.plays_bind_iff.mp played with
    ⟨error, -, begun⟩ | ⟨front, back, word, rfl, begun, later⟩
  · exact .of_spared (asks_issue nofun (asks_refusal _ iface) steps _ begun)
  obtain ⟨_, _, _, -, -, same⟩ | ⟨_, rfl, same⟩ := plays_issue begun
  · cases same
  obtain rfl := Except.ok.inj same
  have told (event : Event) : Procedure.Asks Request.SparesFlags (liftM (report event)) :=
    .report event
  by_cases differs : word.isUp = up
  · rw [if_pos differs] at later
    have read : Rewritten [.asked (.request handle (.linkFlags iface)) (.ok word)] :=
      .of_spared (List.forall_mem_singleton.mpr nofun)
    exact read.append (.of_spared (told _ back result later))
  rw [if_neg differs] at later
  have written := Rewritten.read_write handle iface differs
  rcases Procedure.plays_bind_iff.mp later with
    ⟨error, -, asked⟩ | ⟨asking, telling, _, rfl, asked, ended⟩
  · obtain ⟨cause, last, _, rfl, spoken, -⟩ | ⟨_, -, same⟩ := plays_issue asked
    · exact (written (.error cause)).append (.of_spared (asks_refusal _ iface cause last _ spoken))
    · cases same
  · obtain ⟨_, _, _, -, -, same⟩ | ⟨_, rfl, -⟩ := plays_issue asked
    · cases same
    · exact (written (.ok _)).append (.of_spared (told _ telling result ended))

theorem rewriting (policy : NamePolicy) : Operating policy Rewrites where
  pure value := .of_asks (.pure value)
  bind := .bind
  name text := .of_asks (asks_name text)
  listBridges := .of_asks (asks_listBridges nofun)
  listInterfaces _ := .of_asks (asks_listInterfaces nofun)
  interfaceExists text := .of_asks (asks_interfaceExists text)
  linkFlags _ := .of_asks (asks_linkFlags nofun)
  createBridge _ := .of_asks (asks_createBridge nofun)
  deleteBridge _ := .of_asks (asks_deleteBridge nofun)
  addInterface _ iface := .of_asks (asks_addInterface iface nofun)
  removeInterface _ iface := .of_asks (asks_removeInterface iface nofun)
  setLinkUp := rewrites_setLinkUp policy
  decline _ _ := .of_asks (.throw _)

end Control

theorem Topology.rewrites_execute (policy : NamePolicy) (plan : List Action) :
    Procedure.Rewrites (execute policy plan) := by
  induction plan with
  | nil => exact .of_asks (.pure ())
  | cons action rest ih =>
    exact .bind (.of_asks (.report _)) fun _ =>
      .bind ((Control.rewriting policy).perform action) fun _ => ih

theorem Intent.rewrites (policy : NamePolicy) (intent : Intent) :
    Procedure.Rewrites (intent.procedure policy) := by
  cases intent with
  | execute plan => exact Topology.rewrites_execute policy plan
  | _ => exact (Control.rewriting policy).intent _ nofun

def Link.switched (link : Link) (up : Bool) : Link := { link with flags := link.flags.setUp up }

/-- How many requests to change the table this takes. -/
def Link.switches (link : Link) (up : Bool) : Nat := if link.flags.isUp = up then 0 else 1

namespace Kernel

open Control

variable {kernel after : Kernel} {policy : NamePolicy} {text : String} {up : Bool} {link : Link}

def switched (kernel : Kernel) (link : Link) (up : Bool) : Kernel :=
  { kernel with
    links := kernel.links.map fun other => if other = link then link.switched up else other }

theorem mutations_outcome {p : Procedure α} {result : Except Error α}
    (done : p.outcome plane kernel = (result, after)) :
    after.mutations = kernel.mutations + (changesAsked (p.run plane kernel).steps).length := by
  obtain rfl : (p.run plane kernel).state = after := congrArg Prod.snd done
  have counted := mutations_run (ExceptT.run p) kernel
  exact counted.trans (congrArg _ List.countP_eq_length_filter)

/-- Links have different indices, so that a change by index is one of a single link. -/
theorem WellFormed.modify_eq_switched (valid : kernel.WellFormed) (member : link ∈ kernel.links)
    (up : Bool) :
    (kernel.modify link.index fun other => { other with flags := link.flags.setUp up }) =
      kernel.switched link up := by
  have same : ∀ other ∈ kernel.links,
      (if other.index = link.index then { other with flags := link.flags.setUp up } else other) =
        if other = link then link.switched up else other := by
    intro other present
    by_cases same : other.index = link.index
    · obtain rfl := valid.eq_of_index present member same
      rw [if_pos rfl, if_pos rfl]
      rfl
    · rw [if_neg same, if_neg fun equal => same (congrArg Link.index equal)]
  exact congrArg (fun links => { kernel with links := links }) (List.map_congr_left same)

theorem switched_of_isUp (kernel : Kernel) (same : link.flags.isUp = up) :
    kernel.switched link up = kernel := by
  subst same
  have kept : kernel.links.map (fun other =>
      if other = link then link.switched link.flags.isUp else other) = kernel.links := by
    refine (List.map_congr_left fun other _ => ?_).trans (List.map_id _)
    rw [Link.switched, LinkFlags.setUp_isUp]
    split
    · next equal => exact equal.symm
    · rfl
  exact congrArg (fun links => { kernel with links := links }) kept

theorem find?_switched (valid : kernel.WellFormed) {name : String}
    (found : kernel.find? name = some link) (up : Bool) :
    (kernel.switched link up).find? name = some (link.switched up) := by
  rw [← valid.modify_eq_switched (mem_of_find? found)]
  exact WellFormed.find?_modify_self (.flagged _) found

/-- The last switch alone counts. -/
theorem WellFormed.switched_switched (valid : kernel.WellFormed) (member : link ∈ kernel.links)
    (before up : Bool) :
    (kernel.switched link before).switched (link.switched before) up = kernel.switched link up := by
  have same : (kernel.switched link before).links.map (fun other =>
        if other = link.switched before then (link.switched before).switched up else other) =
      kernel.links.map fun other => if other = link then link.switched up else other := by
    rw [switched, List.map_map]
    refine List.map_congr_left fun other present => ?_
    by_cases equal : other = link
    · simp only [Function.comp, if_pos equal, if_true, Link.switched, LinkFlags.setUp_setUp]
    · have apart : other ≠ link.switched before := fun same =>
        equal (valid.eq_of_index present member (congrArg Link.index same :))
      simp only [Function.comp, if_neg equal, if_neg apart]
  exact congrArg (fun links => { kernel with links := links }) same

theorem WellFormed.outcome_setLinkUp (valid : kernel.WellFormed)
    (granted : kernel.refusesHandles = false) {name : IfName}
    (named : IfName.ofText policy text = .ok name) (found : kernel.find? name.text = some link)
    (up : Bool) : (setLinkUp policy text up).outcome plane kernel =
      (.ok (), (kernel.switched link up).tally 1 (link.switches up)) := by
  rw [Kernel.outcome_setLinkUp granted named, found]
  dsimp only
  rw [valid.modify_eq_switched (mem_of_find? found), Link.switches]
  by_cases same : link.flags.isUp = up
  · rw [if_pos same, if_pos same, switched_of_isUp _ same]
  · rw [if_neg same, if_neg same]

theorem found_of_setLinkUp
    (done : (setLinkUp policy text up).outcome plane kernel = (.ok (), after)) :
    kernel.refusesHandles = false ∧ ∃ name link, IfName.ofText policy text = .ok name ∧
      kernel.find? name.text = some link := by
  have granted : kernel.refusesHandles = false := by
    cases up with
    | true => exact @granted_of_perform kernel policy (.linkUp text) after done
    | false => exact @granted_of_perform kernel policy (.linkDown text) after done
  refine ⟨granted, ?_⟩
  cases named : IfName.ofText policy text with
  | error fault =>
    rw [setLinkUp, Procedure.outcome_bind_error _ _ (outcome_name_error plane kernel named)] at done
    cases done
  | ok name =>
    rw [Kernel.outcome_setLinkUp granted named] at done
    cases found : kernel.find? name.text with
    | none =>
      rw [found] at done
      cases done
    | some link => exact ⟨name, link, rfl, found⟩

/-- Where the state of a link is set with success, the flag word of the link that its name is looked
up to has the up bit as requested and every other bit as before, and nothing else has changed. One
change is asked for if the state differed and none if it did not, so none when it is set once more;
and a state that differed is set back to the very table there was. Whatever the control plane
answers, a flag word is written right after it was read on the same handle, with its up bit alone
changed. -/
theorem link_state_is_one_bit :
    (∀ kernel : Kernel, kernel.Reachable → ∀ policy text up after,
      (setLinkUp policy text up).outcome plane kernel = (.ok (), after) →
      ∃ name link flags, IfName.ofText policy text = .ok name ∧
        kernel.find? name.text = some link ∧
        after.find? name.text = some { link with flags := flags } ∧
        flags.isUp = up ∧ (∀ i, i ≠ 0 → flags.bits.getLsbD i = link.flags.bits.getLsbD i) ∧
        after = { kernel with
          links := kernel.links.map fun other =>
            if other = link then { link with flags := flags } else other
          acquired := kernel.acquired + 1
          mutations := kernel.mutations + if link.flags.isUp = up then 0 else 1 } ∧
        (changesAsked ((setLinkUp policy text up).run plane kernel).steps).length =
          (if link.flags.isUp = up then 0 else 1) ∧
        (∃ again, (setLinkUp policy text up).outcome plane after = (.ok (), again) ∧
          again.links = after.links ∧
          changesAsked ((setLinkUp policy text up).run plane after).steps = []) ∧
        (link.flags.isUp ≠ up → ∃ back,
          (setLinkUp policy text !up).outcome plane after = (.ok (), back) ∧
          back.links = kernel.links)) ∧
    ∀ policy (intent : Intent) before handle name flags answer later result,
      Plays (ExceptT.run (intent.procedure policy))
        (before ++ .asked (.request handle (.setLinkFlags name flags)) answer :: later) result →
      ∃ earlier word, before = earlier ++ [.asked (.request handle (.linkFlags name)) (.ok word)] ∧
        flags.isUp = (!word.isUp) ∧
        (∀ i, i ≠ 0 → flags.bits.getLsbD i = word.bits.getLsbD i) ∧
        ∀ text up, intent = .setLinkUp text up →
          IfName.ofText policy text = .ok name ∧ flags.isUp = up := by
  constructor
  · intro kernel reached policy text up after done
    have valid := reached.wellFormed
    obtain ⟨granted, name, link, named, found⟩ := found_of_setLinkUp done
    have valid_after : after.WellFormed := by
      have ended := (reached.outcome (setLinkUp policy text up)).wellFormed
      rwa [done] at ended
    obtain rfl : (kernel.switched link up).tally 1 (link.switches up) = after :=
      congrArg Prod.snd ((valid.outcome_setLinkUp granted named found up).symm.trans done)
    have found_after := find?_switched valid found up
    have once_more (next : Bool) := valid_after.outcome_setLinkUp granted named found_after next
    have risen : (link.switched up).flags.isUp = up := LinkFlags.isUp_setUp link.flags up
    refine ⟨name, link, link.flags.setUp up, named, found, found_after, risen, fun i other => ?_,
      rfl, ?_, ⟨_, once_more up, ?_, ?_⟩, fun differs => ⟨_, once_more !up, ?_⟩⟩
    · rw [LinkFlags.getLsbD_setUp, if_neg other]
    · exact (Nat.add_left_cancel (mutations_outcome done)).symm
    · have kept := congrArg links
        (switched_of_isUp ((kernel.switched link up).tally 1 (link.switches up)) risen)
      exact kept
    · have none : (link.switched up).switches up = 0 := if_pos risen
      have counted := mutations_outcome (once_more up)
      rw [none] at counted
      exact List.eq_nil_of_length_eq_zero (Nat.add_left_cancel counted).symm
    · have back := valid.switched_switched (mem_of_find? found) up !up
      have original : (!up) = link.flags.isUp := (Bool.eq_not.mpr differs).symm
      rw [switched_of_isUp kernel original.symm] at back
      have restored := congrArg links back
      exact restored
  · intro policy intent before handle name flags answer later result played
    obtain ⟨earlier, word, rfl, rfl⟩ := intent.rewrites policy _ result played _ _ _ _ _ _ rfl
    refine ⟨earlier, word, rfl, LinkFlags.isUp_setUp word _, fun i other => ?_, ?_⟩
    · rw [LinkFlags.getLsbD_setUp, if_neg other]
    · rintro text up rfl
      have asks : Procedure.Asks (fun request => ∀ other flags,
          request = .setLinkFlags other flags →
            IfName.ofText policy text = .ok other ∧ flags.isUp = up)
          (setLinkUp policy text up) := by
        refine asks_setLinkUp (fun _ _ => nofun) fun iface read denoted other flags same => ?_
        cases same
        exact ⟨denoted, LinkFlags.isUp_setUp read up⟩
      exact asks _ result played _ (mem_requests ..) name _ rfl

/-- A bridge that is down, with the sign bit and bits without a name set. A plain link has its name,
too. -/
def flagged : List Move :=
  [.operate .truncate (.createBridge "br0"), .happen (.addLink "br0"),
    .happen (.call (.request ⟨0⟩
      (.setLinkFlags ⟨"br0", by decide, by decide, by decide⟩ ⟨0xa0f2⟩)))]

theorem link_state_is_one_bit_flagged :
    let kernel := Kernel.new.after flagged
    let course := (setLinkUp .truncate "br0" true).run plane kernel
    (∃ back flags, course.value = .ok () ∧
      (changesAsked course.steps).length = 1 ∧
      course.state.find? "br0" = some { Link.fresh 2 "br0" true with flags := flags } ∧
      flags.isUp = true ∧ flags.bits.getLsbD 15 = true ∧
      (setLinkUp .truncate "br0" false).outcome plane course.state = (.ok (), back) ∧
      back.links = kernel.links) ∧
    ∃ name earlier word later, course.steps =
        earlier ++ .asked (.request ⟨1⟩ (.linkFlags name)) (.ok word) ::
          .asked (.request ⟨1⟩ (.setLinkFlags name ⟨0xa0f3⟩)) (.ok ()) :: later ∧
      word.isUp = false ∧ word.bits.getLsbD 15 = true := by
  intro kernel course
  obtain ⟨switches, writes⟩ := link_state_is_one_bit
  let br0 : IfName := ⟨"br0", by decide, by decide, by decide⟩
  have done : course.value = .ok () := by decide +kernel
  have found : kernel.find? "br0" = some { Link.fresh 2 "br0" true with flags := ⟨0xa0f2⟩ } := by
    decide +kernel
  have split : course.steps =
      [.asked .acquire (.ok ⟨1⟩), .asked (.request ⟨1⟩ (.linkFlags br0)) (.ok ⟨0xa0f2⟩)] ++
        .asked (.request ⟨1⟩ (.setLinkFlags br0 ⟨0xa0f3⟩)) (.ok ()) ::
          [.logged (.linkChanged br0 true), .asked (.release ⟨1⟩) ()] := by rfl
  constructor
  · obtain ⟨name, link, flags, named, looked, after, risen, others, -, counted, -, back⟩ :=
      switches kernel (Reachable.new.after flagged) .truncate "br0" true _ (Prod.ext done rfl)
    obtain rfl : name = br0 := Except.ok.inj (named.symm.trans (by decide))
    obtain rfl := Option.some.inj (found.symm.trans looked)
    obtain ⟨last, switched, same⟩ := back (by decide)
    have sign := others 15 (by decide)
    exact ⟨last, flags, done, counted, after, risen, sign, switched, same⟩
  · have played := plays_run plane (ExceptT.run (setLinkUp .truncate "br0" true)) kernel
    rw [show ((ExceptT.run (setLinkUp .truncate "br0" true)).run plane kernel).steps = _ from split]
      at played
    obtain ⟨earlier, word, before, flipped, others, -⟩ :=
      writes .truncate (.setLinkUp "br0" true) _ _ _ _ _ _ _ played
    rw [before] at split
    have sign := others 15 (by decide)
    refine ⟨br0, earlier, word, _, split.trans (List.append_assoc ..), ?_, sign.symm⟩
    exact (Bool.not_eq_true' _).mp flipped.symm

end Kernel

end NetBridge
