import NetBridge.Proofs.Kernel.Invariant
import NetBridge.Proofs.Kernel.Remainder

namespace NetBridge.Kernel

open Control

variable {kernel : Kernel} {policy : NamePolicy} {text : String} {name : IfName} {bridge : Link}

/-- A bridge that was just brought down is not refused its deletion. -/
theorem outcome_setLinkUp_deleteBridge (granted : kernel.refusesHandles = false)
    (named : IfName.ofText policy text = .ok name) (opened : kernel.bridge name.text = .ok bridge) :
    ∃ after, (do
        setLinkUp policy text false
        Control.deleteBridge policy text : Procedure Unit).outcome plane kernel = (.ok (), after) ∧
      after.links = kernel.without bridge.index := by
  obtain ⟨found, kind⟩ := bridge_eq_ok_iff.mp opened
  obtain ⟨lowered, sunk, still, link, present, shape, down, rest⟩ : ∃ lowered : Kernel,
      (setLinkUp policy text false).outcome plane kernel = (.ok (), lowered) ∧
        lowered.refusesHandles = false ∧ ∃ link, lowered.find? name.text = some link ∧
          link.isBridge = true ∧ link.flags.isUp = false ∧
          lowered.without link.index = kernel.without bridge.index := by
    rw [outcome_setLinkUp granted named, found]
    dsimp only
    split
    · next down => exact ⟨_, rfl, granted, bridge, found, kind, down, rfl⟩
    · next up =>
      refine ⟨_, rfl, granted, { bridge with flags := bridge.flags.setUp false }, ?_, kind,
        bridge.flags.isUp_setUp false, without_flagged _⟩
      exact WellFormed.find?_modify_self (Link.Keeps.flagged _) found
  have gone := (deleteBridge_ok_iff still).mpr ⟨name, link, named, present, shape, down, rfl⟩
  rw [Procedure.outcome_bind_ok _ _ sunk]
  exact ⟨_, gone, rest⟩

theorem outcome_destroyBridge_forced (granted : kernel.refusesHandles = false)
    (quiet : kernel.vanishing = []) (named : IfName.ofText policy text = .ok name)
    (opened : kernel.bridge name.text = .ok bridge) :
    ∃ after, (destroyBridge policy text true).outcome plane kernel = (.ok (), after) ∧
      after.links = kernel.without bridge.index := by
  have listed := outcome_listInterfaces_slots granted named
  rw [opened, vanish_of_quiet quiet] at listed
  have granted' : (kernel.tally 1 0).refusesHandles = false := granted
  obtain ⟨after, done, rest⟩ := outcome_setLinkUp_deleteBridge granted' named opened
  rw [destroyBridge, Procedure.outcome_bind_ok _ _ listed, Bool.not_true, Bool.and_false]
  exact ⟨after, done, rest⟩

/-- What is no bridge has no members to list, and nothing is done to it. -/
theorem outcome_destroyBridge_unopened (granted : kernel.refusesHandles = false)
    (unopened : ∀ name bridge, IfName.ofText policy text = .ok name →
      kernel.bridge name.text ≠ .ok bridge) (force : Bool) :
    ∃ error handles, (destroyBridge policy text force).outcome plane kernel =
      (.error error, kernel.tally handles 0) := by
  obtain ⟨error, handles, refused⟩ : ∃ error handles, (listInterfaces policy text).outcome plane
      kernel = (.error error, kernel.tally handles 0) := by
    cases named : IfName.ofText policy text with
    | error fault =>
      have unnamed := outcome_name_error plane kernel named
      exact ⟨_, 0, Procedure.outcome_bind_error plane kernel unnamed _⟩
    | ok name =>
      rw [outcome_listInterfaces_slots granted named]
      cases opened : kernel.bridge name.text with
      | error cause => exact ⟨_, 1, rfl⟩
      | ok bridge => exact absurd opened (unopened name bridge named)
  refine ⟨error, handles, ?_⟩
  rw [destroyBridge, Procedure.outcome_bind_error _ _ refused]

theorem WellFormed.without_bridge (valid : kernel.WellFormed) (member : bridge ∈ kernel.links) :
    kernel.without bridge.index = (kernel.links.filter (· ≠ bridge)).map fun link =>
      if link.master = some bridge.index then { link with master := none, portNo := 0 }
      else link := by
  have others : kernel.links.filter (fun link => link.index ≠ bridge.index) =
      kernel.links.filter (· ≠ bridge) := by
    refine List.filter_congr fun link live => ?_
    refine decide_eq_decide.mpr (not_congr ⟨fun same => ?_, congrArg Link.index⟩)
    exact valid.eq_of_index live member same
  rw [without_eq, others]
  rfl

/-- With force a bridge is destroyed exactly when the text denotes a name that is looked up to one,
whether it is up or down and whatever ports it has. Then the bridge is gone, its ports belong to no
bridge any more, and every other link is as it was. Otherwise no link is changed, and no request to
change one is made. -/
theorem destroyBridge_forced (reached : kernel.Reachable)
    (granted : kernel.refusesHandles = false) (quiet : kernel.vanishing = [])
    (policy : NamePolicy) (text : String) :
    ((∃ after, (destroyBridge policy text true).outcome plane kernel = (.ok (), after)) ↔
      ∃ name bridge, IfName.ofText policy text = .ok name ∧
        kernel.find? name.text = some bridge ∧ bridge.isBridge = true) ∧
    (∀ name bridge, IfName.ofText policy text = .ok name → kernel.find? name.text = some bridge →
      bridge.isBridge = true →
      ∃ after, (destroyBridge policy text true).outcome plane kernel = (.ok (), after) ∧
        after.links = (kernel.links.filter (· ≠ bridge)).map fun link =>
          if link.master = some bridge.index then { link with master := none, portNo := 0 }
          else link) ∧
    ∀ error after, (destroyBridge policy text true).outcome plane kernel = (.error error, after) →
      after.links = kernel.links ∧ after.mutations = kernel.mutations := by
  by_cases doomed : ∃ name bridge, IfName.ofText policy text = .ok name ∧
      kernel.bridge name.text = .ok bridge
  · obtain ⟨name, bridge, named, opened⟩ := doomed
    have looked := bridge_eq_ok_iff.mp opened
    obtain ⟨after, done, left⟩ := outcome_destroyBridge_forced granted quiet named opened
    refine ⟨⟨fun _ => ⟨name, bridge, named, looked⟩, fun _ => ⟨after, done⟩⟩, ?_, ?_⟩
    · intro other link same found kind
      obtain rfl := Except.ok.inj (named.symm.trans same)
      obtain rfl := Option.some.inj (looked.1.symm.trans found)
      exact ⟨after, done, left.trans (reached.wellFormed.without_bridge (mem_of_find? found))⟩
    · intro error other failed
      cases done.symm.trans failed
  · have spared : ¬ ∃ name bridge, IfName.ofText policy text = .ok name ∧
        kernel.find? name.text = some bridge ∧ bridge.isBridge = true :=
      fun ⟨name, bridge, named, looked⟩ => doomed ⟨name, bridge, named, bridge_eq_ok_iff.mpr looked⟩
    have unopened : ∀ name bridge, IfName.ofText policy text = .ok name →
        kernel.bridge name.text ≠ .ok bridge :=
      fun name bridge named opened => doomed ⟨name, bridge, named, opened⟩
    obtain ⟨error, handles, refused⟩ := outcome_destroyBridge_unopened granted unopened true
    refine ⟨⟨?_, fun some => absurd some spared⟩, ?_, ?_⟩
    · rintro ⟨after, done⟩
      cases refused.symm.trans done
    · exact fun name bridge named found kind => absurd ⟨name, bridge, named, found, kind⟩ spared
    · intro other after failed
      cases refused.symm.trans failed
      exact ⟨rfl, rfl⟩

/-- A bridge that is up goes, and its member stays behind with a later link of the bridge's name. -/
theorem destroyBridge_forced_up :
    let kernel := Kernel.new.after [.happen (.addLink "eth0"),
      .operate .reject (.createBridge "br0"), .operate .reject (.addInterface "br0" "eth0"),
      .operate .reject (.setLinkUp "br0" true), .happen (.addLink "br0")]
    (∃ after, (destroyBridge .reject "br0" true).outcome plane kernel = (.ok (), after) ∧
      after.links = [{ Link.fresh 1 "lo" false with flags := .union .up .loopback },
        Link.fresh 2 "eth0" false, Link.fresh 4 "br0" false]) ∧
    ¬ ∃ after, (destroyBridge .reject "eth0" true).outcome plane kernel = (.ok (), after) := by
  intro kernel
  have reached : kernel.Reachable := Reachable.new.after _
  have granted : kernel.refusesHandles = false := by decide +kernel
  have quiet : kernel.vanishing = [] := by decide +kernel
  constructor
  · obtain ⟨-, destroyed, -⟩ := destroyBridge_forced reached granted quiet .reject "br0"
    obtain ⟨after, done, left⟩ := destroyed ⟨"br0", by decide, by decide, by decide⟩
      { Link.fresh 3 "br0" true with flags := (Link.fresh 3 "br0" true).flags.setUp true }
      (by decide) (by decide +kernel) rfl
    exact ⟨after, done, left.trans (by decide +kernel)⟩
  · obtain ⟨decided, -, -⟩ := destroyBridge_forced reached granted quiet .reject "eth0"
    rw [decided]
    rintro ⟨name, bridge, named, found, kind⟩
    have eth0 : IfName.ofText .reject "eth0" = .ok ⟨"eth0", by decide, by decide, by decide⟩ := by
      decide
    obtain rfl := Except.ok.inj (eth0.symm.trans named)
    have plain : (kernel.find? "eth0").any Link.isBridge = false := by decide +kernel
    rw [found] at plain
    cases kind.symm.trans plain

end NetBridge.Kernel
