import NetBridge.Proofs.Topology.Ordering
import NetBridge.Proofs.Yield

namespace NetBridge.Topology

open Blueprint Control Procedure

variable {policy : NamePolicy} {texts : List String} {ifaces : List IfName}
  {declared : Declaration} {blueprint : Blueprint}

theorem yields_additions (bridge : IfName) (live : List String)
    (named : List.Forall₂ (fun text iface => IfName.ofText policy text = .ok iface) texts ifaces) :
    (additions policy bridge live texts).Yields
      (·.Sublist (ifaces.map fun iface => .addMember bridge.text iface.text)) := by
  induction named with
  | nil => exact .pure List.Sublist.slnil
  | cons head tail ih =>
    refine yields_named head (.bind ih fun later part => ?_)
    split
    · exact .pure (part.cons _)
    · exact .pure (part.cons_cons _)

theorem yields_removals (bridge : IfName) (live : List String)
    (named : List.Forall₂ (fun text iface => IfName.ofText policy text = .ok iface) texts ifaces) :
    (removals policy bridge live texts).Yields
      (·.Sublist (ifaces.map fun iface => .removeMember bridge.text iface.text)) := by
  induction named with
  | nil => exact .pure List.Sublist.slnil
  | cons head tail ih =>
    refine yields_named head (.bind ih fun later part => ?_)
    split
    · exact .pure (part.cons_cons _)
    · exact .pure (part.cons _)

theorem yields_completion (denoted : Denoted policy declared blueprint) :
    (completion policy declared).Yields (·.Sublist blueprint.building) := by
  have own := IfName.ofText_text policy blueprint.name
  have parts {creating adding rising : List Action}
      (first : creating.Sublist [.createBridge blueprint.name.text])
      (second : adding.Sublist (blueprint.members.map fun iface : IfName =>
        .addMember blueprint.name.text iface.text))
      (third : rising.Sublist (if blueprint.up then [.linkUp blueprint.name.text] else [])) :
      (creating ++ adding ++ rising).Sublist blueprint.building := (first.append second).append third
  have adding (live : List String) := yields_additions blueprint.name live denoted.members
  refine yields_named denoted.name (.bind (yields_bridgeExists own) fun present _ => ?_)
  rw [denoted.up]
  cases present with
  | false =>
    simp only [Bool.false_eq_true, if_false, pure_bind]
    refine .bind (adding []) fun joining second => ?_
    cases up : blueprint.up with
    | false => exact .pure (parts (.refl _) second (List.nil_sublist _))
    | true => exact .pure (parts (.refl _) second (if_pos up ▸ .refl _))
  | true =>
    simp only [if_true, pure_bind]
    refine .bind (yields_listInterfaces own) fun live _ => .bind (adding live) fun joining second => ?_
    cases up : blueprint.up with
    | false => exact .pure (parts (List.nil_sublist _) second (List.nil_sublist _))
    | true =>
      refine .bind (yields_linkFlags own) fun flags _ =>
        .pure (parts (List.nil_sublist _) second ?_)
      rw [if_pos up]
      split
      · exact List.nil_sublist _
      · exact .refl _

theorem yields_demolition (denoted : Denoted policy declared blueprint) :
    (demolition policy declared).Yields (·.Sublist blueprint.dismantling) := by
  have own := IfName.ofText_text policy blueprint.name
  refine yields_named denoted.name (.bind (yields_bridgeExists own) fun present _ => ?_)
  split
  · refine .bind (yields_listInterfaces own) fun live _ => ?_
    refine .bind (yields_removals blueprint.name live denoted.members) fun removing part => ?_
    refine .bind (yields_linkFlags own) fun flags _ => .pure ?_
    have sinking : (if flags.isUp then [Action.linkDown blueprint.name.text] else []).Sublist
        [.linkDown blueprint.name.text] := by
      split
      · exact .refl _
      · exact List.nil_sublist _
    rw [List.append_assoc]
    exact part.append (sinking.append (.refl [Action.deleteBridge blueprint.name.text]))
  · exact .pure (List.nil_sublist _)

theorem yields_planEach {piece : Declaration → Procedure (List Action)}
    {steps : Blueprint → List Action}
    (each : ∀ declared blueprint, Denoted policy declared blueprint →
      (piece declared).Yields (·.Sublist (steps blueprint)))
    {declared : List Declaration} {blueprints : List Blueprint}
    (denoted : Denotes policy declared blueprints) :
    (planEach piece declared).Yields (·.Sublist (blueprints.flatMap steps)) := by
  induction denoted with
  | nil => exact .pure List.Sublist.slnil
  | cons head tail ih =>
    refine .bind (each _ _ head) fun first part => .bind ih fun others rest => .pure ?_
    rw [List.flatMap_cons]
    exact part.append rest

theorem yields_perform {action : Action} (canonical : action.Canonical) :
    (perform policy action).Yields fun _ => True := by
  have named (text : String) (given : text ∈ action.names) :
      ∃ name, IfName.ofText policy text = .ok name := by
    obtain ⟨name, valid, -⟩ := canonical text given policy
    exact ⟨name, valid⟩
  cases action with
  | createBridge bridge =>
    obtain ⟨name, valid⟩ := named bridge (List.mem_singleton_self _)
    exact yields_createBridge valid
  | addMember bridge iface =>
    obtain ⟨owner, first⟩ := named bridge (List.mem_cons_self ..)
    obtain ⟨port, second⟩ := named iface (List.mem_cons_of_mem _ (List.mem_singleton_self _))
    exact yields_addInterface first second
  | linkUp bridge =>
    obtain ⟨name, valid⟩ := named bridge (List.mem_singleton_self _)
    exact yields_setLinkUp valid true
  | removeMember bridge iface =>
    obtain ⟨owner, first⟩ := named bridge (List.mem_cons_self ..)
    obtain ⟨port, second⟩ := named iface (List.mem_cons_of_mem _ (List.mem_singleton_self _))
    exact yields_removeInterface first second
  | linkDown bridge =>
    obtain ⟨name, valid⟩ := named bridge (List.mem_singleton_self _)
    exact yields_setLinkUp valid false
  | deleteBridge bridge =>
    obtain ⟨name, valid⟩ := named bridge (List.mem_singleton_self _)
    exact yields_deleteBridge valid

theorem yields_execute {plan : List Action} (canonical : ∀ action ∈ plan, action.Canonical) :
    (execute policy plan).Yields fun _ => True := by
  induction plan with
  | nil => exact .pure trivial
  | cons action rest ih =>
    obtain ⟨first, later⟩ := List.forall_mem_cons.mp canonical
    exact .bind (.lift _) fun _ _ => .bind (yields_perform first) fun _ _ => ih later

variable {declared : List Declaration} {blueprints : List Blueprint}

/-- Plans for consistent blueprints are well-ordered, whatever was answered. -/
theorem yields_planUp (denoted : Denotes policy declared blueprints)
    (consistent : Consistent blueprints) : (planUp policy declared).Yields UpOrdered :=
  (yields_planEach (fun _ _ => yields_completion) denoted).mono fun _ part =>
    consistent.upOrdered.sublist part

theorem yields_planDown (denoted : Denotes policy declared blueprints)
    (consistent : Consistent blueprints) : (planDown policy declared).Yields DownOrdered := by
  have distinct : (blueprints.reverse.map Blueprint.name).Nodup := by
    rw [List.map_reverse, List.nodup_reverse]
    exact consistent.names
  exact (yields_planEach (fun _ _ => yields_demolition) (List.rel_reverse denoted)).mono
    fun _ part => (downOrdered distinct).sublist part

end NetBridge.Topology
