import NetBridge.Proofs.Blame

namespace NetBridge

open Dialogue

/-- The error finds fault with a name. -/
inductive Error.OfName : Error → Prop where
  | invalid (text : String) (fault : NameFault) : OfName (.invalidName text fault)

/-- On every course the procedure ends with a value of this kind, or with an error that finds no fault
with a name. -/
def Procedure.Yields (p : Procedure α) (kind : α → Prop) : Prop :=
  ∀ steps result, Plays (ExceptT.run p) steps result →
    (∀ error, result = .error error → ¬ error.OfName) ∧ ∀ value, result = .ok value → kind value

namespace Procedure.Yields

variable {kind : α → Prop}

theorem of_says_ok {p : Procedure α} {value : α} (said : Dialogue.Says (ExceptT.run p) (.ok value))
    (told : kind value) : p.Yields kind := by
  intro steps result played
  obtain ⟨rfl, -⟩ := said steps result played
  refine ⟨nofun, fun other same => ?_⟩
  exact Except.ok.inj same ▸ told

theorem of_says_error {p : Procedure α} {error : Error}
    (said : Dialogue.Says (ExceptT.run p) (.error error)) (own : ¬ error.OfName) :
    p.Yields kind := by
  intro steps result played
  obtain ⟨rfl, -⟩ := said steps result played
  refine ⟨fun other same => ?_, nofun⟩
  exact Except.error.inj same ▸ own

theorem pure {value : α} (told : kind value) : Yields (Pure.pure value) kind :=
  of_says_ok (says_pure value) told

theorem throw {error : Error} (own : ¬ error.OfName) :
    Yields (MonadExcept.throw error : Procedure α) kind :=
  of_says_error (says_throw error) own

theorem mono {broad : α → Prop} {p : Procedure α} (yields : p.Yields kind)
    (wider : ∀ value, kind value → broad value) : p.Yields broad := by
  intro steps result played
  obtain ⟨own, told⟩ := yields steps result played
  exact ⟨own, fun value same => wider value (told value same)⟩

theorem bind {middle : β → Prop} {p : Procedure β} {k : β → Procedure α} (first : p.Yields middle)
    (rest : ∀ value, middle value → (k value).Yields kind) : (p >>= k).Yields kind := by
  intro steps result played
  rcases plays_bind_iff.mp played with ⟨error, rfl, begun⟩ | ⟨front, back, value, rfl, begun, later⟩
  · refine ⟨fun other same => ?_, nofun⟩
    exact Except.error.inj same ▸ (first steps _ begun).1 error rfl
  · exact rest value ((first front _ begun).2 value rfl) back result later

theorem lift (d : Dialogue α) : Yields (liftM d : Procedure α) fun _ => True := by
  intro steps result played
  obtain ⟨value, rfl, -⟩ := plays_liftM_iff.mp played
  exact ⟨nofun, fun _ _ => trivial⟩

end Procedure.Yields

namespace Control

variable {policy : NamePolicy} {text : String}

theorem yields_named {kind : α → Prop} {name : IfName} {k : IfName → Procedure α}
    (named : IfName.ofText policy text = .ok name) (rest : (k name).Yields kind) :
    (Control.name policy text >>= k).Yields kind := by
  have said := says_name policy text
  rw [named] at said
  exact .bind (.of_says_ok said (rfl : name = name)) fun _ same => same ▸ rest

theorem yields_issue (handle : Handle) (request : Request) {refused : Errno → Dialogue Error}
    {fault : Errno → Error} (said : ∀ cause, (refused cause).Says (fault cause))
    (own : ∀ cause, ¬ (fault cause).OfName) :
    (issue handle request refused).Yields fun _ => True := by
  intro steps result played
  rcases plays_issue played with ⟨cause, later, error, rfl, spoken, rfl⟩ | ⟨reply, rfl, rfl⟩
  · obtain ⟨rfl, -⟩ := said cause later error spoken
    exact ⟨fun other same => Except.error.inj same ▸ own cause, nofun⟩
  · exact ⟨nofun, fun _ _ => trivial⟩

theorem yields_withHandle {kind : α → Prop} {refused : Errno → Dialogue Error}
    {body : Handle → Procedure α}
    (said : ∀ cause, (refused cause).Says (.handleAcquisition (.errno cause)))
    (each : ∀ handle, (body handle).Yields kind) : (withHandle refused body).Yields kind := by
  intro steps result played
  rcases plays_withHandle played with
    ⟨cause, later, error, rfl, spoken, rfl⟩ | ⟨handle, middle, rfl, worked⟩
  · obtain ⟨rfl, -⟩ := said cause later error spoken
    exact ⟨fun other same => Except.error.inj same ▸ nofun, nofun⟩
  · exact each handle middle result worked

theorem yields_request (op : Operation) (dev : IfName) (request : Request) (event : Event)
    {refused : Errno → Dialogue Error} {fault : Errno → Error}
    (said : ∀ cause, (refused cause).Says (fault cause)) (own : ∀ cause, ¬ (fault cause).OfName) :
    Procedure.Yields (withHandle (noHandle op dev) fun handle => do
      let _ ← issue handle request refused
      report event) fun _ => True :=
  yields_withHandle (says_noHandle op dev) fun handle =>
    .bind (yields_issue handle request said own) fun _ _ => .lift _

section Named

variable {name bridge iface : IfName} {bridgeText ifaceText : String}

theorem yields_createBridge (named : IfName.ofText policy text = .ok name) :
    (createBridge policy text).Yields fun _ => True :=
  yields_named named (yields_request _ name _ _ (says_refusal _ name) nofun)

theorem yields_deleteBridge (named : IfName.ofText policy text = .ok name) :
    (deleteBridge policy text).Yields fun _ => True :=
  yields_named named (yields_request _ name _ _ (says_refusal _ name) nofun)

theorem yields_resolve (named : IfName.ofText policy text = .ok name) :
    (resolve policy text).Yields fun _ => True := by
  refine yields_named named (.bind (.lift (query (.nameToIndex name))) fun answer _ => ?_)
  cases answer with
  | some index => exact .bind (.lift _) fun _ _ => .pure trivial
  | none => exact .bind (.lift _) fun _ _ => .throw nofun

theorem yields_addInterface (namedBridge : IfName.ofText policy bridgeText = .ok bridge)
    (namedIface : IfName.ofText policy ifaceText = .ok iface) :
    (addInterface policy bridgeText ifaceText).Yields fun _ => True :=
  yields_named namedBridge (.bind (yields_resolve namedIface) fun (_, _) _ =>
    yields_request _ bridge _ _ (fun _ => .bind (.report _) (.done _)) nofun)

theorem yields_removeInterface (namedBridge : IfName.ofText policy bridgeText = .ok bridge)
    (namedIface : IfName.ofText policy ifaceText = .ok iface) :
    (removeInterface policy bridgeText ifaceText).Yields fun _ => True :=
  yields_named namedBridge (.bind (yields_resolve namedIface) fun (_, _) _ =>
    yields_request _ bridge _ _ (fun _ => .bind (.report _) (.done _)) nofun)

theorem yields_listBridges : listBridges.Yields fun _ => True := by
  refine yields_withHandle (fun _ => .bind (.report _) (.done _)) fun handle => ?_
  refine .bind (yields_issue handle _ (fun _ => .bind (.report _) (.done _)) nofun) fun found _ => ?_
  dsimp only
  split
  · exact .bind (.lift _) fun _ _ => .lift _
  · exact .lift _

theorem yields_listInterfaces (named : IfName.ofText policy text = .ok name) :
    (listInterfaces policy text).Yields fun _ => True := by
  refine yields_named named (yields_withHandle (says_noHandle _ name) fun handle => ?_)
  exact .bind (yields_issue handle _ (says_refusal _ name) nofun) fun _ _ => .lift _

theorem yields_bridgeExists (named : IfName.ofText policy text = .ok name) :
    (bridgeExists policy text).Yields fun _ => True :=
  yields_named named (.bind yields_listBridges fun _ _ => .pure trivial)

theorem yields_linkFlags (named : IfName.ofText policy text = .ok name) :
    (linkFlags policy text).Yields fun _ => True :=
  yields_named named (yields_withHandle (says_noHandle _ name) fun handle =>
    yields_issue handle _ (says_refusal _ name) nofun)

theorem yields_setLinkUp (named : IfName.ofText policy text = .ok name) (up : Bool) :
    (setLinkUp policy text up).Yields fun _ => True := by
  refine yields_named named (yields_withHandle (says_noHandle _ name) fun handle => ?_)
  refine .bind (yields_issue handle _ (says_refusal _ name) nofun) fun flags _ => ?_
  split
  · exact .lift _
  · exact .bind (yields_issue handle _ (says_refusal _ name) nofun) fun _ _ => .lift _

end Named

end Control

end NetBridge
