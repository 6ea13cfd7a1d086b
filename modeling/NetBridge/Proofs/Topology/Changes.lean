import NetBridge.Proofs.Audit
import NetBridge.Proofs.Inquiry

namespace NetBridge

open Dialogue

/-- One change is asked for, and it is one of these; or none, in failure or where there is nothing
to do. -/
def Procedure.Proposes (allowed : Request → Prop) (idle : Prop) (p : Procedure α) : Prop :=
  ∀ steps result, Plays (ExceptT.run p) steps result →
    (changesAsked steps = [] ∧ ∀ value, result = .ok value → idle) ∨
      ∃ request, changesAsked steps = [request] ∧ allowed request

namespace Procedure.Proposes

variable {allowed : Request → Prop} {idle : Prop}

theorem before_reading {p : Procedure α} {k : α → Procedure β} (first : Proposes allowed idle p)
    (reads : ∀ value, (k value).Reads) : Proposes allowed idle (p >>= k) := by
  intro steps result played
  rcases plays_bind_iff.mp played with
    ⟨error, rfl, begun⟩ | ⟨front, back, value, rfl, begun, later⟩
  · rcases first steps _ begun with ⟨none, -⟩ | one
    · exact .inl ⟨none, nofun⟩
    · exact .inr one
  · rw [changesAsked_append, Dialogue.Reads.changesAsked_eq_nil (reads value) later,
      List.append_nil]
    rcases first front _ begun with ⟨none, may⟩ | one
    · exact .inl ⟨none, fun _ _ => may value rfl⟩
    · exact .inr one

theorem named {policy : NamePolicy} {text : String} {k : IfName → Procedure α}
    (each : ∀ iface, IfName.ofText policy text = .ok iface → Proposes allowed idle (k iface)) :
    Proposes allowed idle (Control.name policy text >>= k) := by
  intro steps result played
  have reads : (Control.name policy text).Reads := Control.asks_name text
  rcases plays_bind_iff.mp played with
    ⟨error, rfl, begun⟩ | ⟨front, back, iface, rfl, begun, later⟩
  · exact .inl ⟨Dialogue.Reads.changesAsked_eq_nil reads begun, nofun⟩
  · rw [changesAsked_append, Dialogue.Reads.changesAsked_eq_nil reads begun, List.nil_append]
    exact each iface (Control.ofText_of_plays begun) back result later

theorem issue {handle : Handle} {request : Request} {refused : Errno → Dialogue Error}
    (mutates : request.mutates = true) (may : allowed request)
    (said : ∀ cause, (refused cause).Reads) :
    Proposes allowed idle (Control.issue handle request refused) := by
  intro steps result played
  refine .inr ⟨request, ?_, may⟩
  obtain ⟨cause, later, error, rfl, spoken, -⟩ | ⟨reply, rfl, -⟩ := Control.plays_issue played
  · rw [changesAsked_change handle mutates, (said cause).changesAsked_eq_nil spoken]
  · rw [changesAsked_change handle mutates]
    rfl

theorem withHandle {refused : Errno → Dialogue Error} {body : Handle → Procedure α}
    (said : ∀ cause, (refused cause).Reads)
    (each : ∀ handle, Proposes allowed idle (body handle)) :
    Proposes allowed idle (Control.withHandle refused body) := by
  intro steps result played
  obtain ⟨cause, later, error, rfl, spoken, rfl⟩ | ⟨handle, middle, rfl, worked⟩ :=
    Control.plays_withHandle played
  · have silent : changesAsked later = [] := (said cause).changesAsked_eq_nil spoken
    exact .inl ⟨silent, nofun⟩
  · have same : changesAsked (.asked .acquire (.ok handle) ::
        (middle ++ [.asked (.release handle) ()])) = changesAsked middle := by
      refine (changesAsked_append middle _).trans (List.append_nil _)
    rw [same]
    exact each handle middle result worked

theorem request {op : Operation} {dev : IfName} {request : Request} {event : Event}
    {refused : Errno → Dialogue Error} (mutates : request.mutates = true) (may : allowed request)
    (said : ∀ cause, (refused cause).Reads) :
    Proposes allowed idle (Control.withHandle (Control.noHandle op dev) fun handle => do
      let _ ← Control.issue handle request refused
      report event : Procedure Unit) :=
  withHandle (Control.asks_noHandle op dev) fun _ =>
    before_reading (issue mutates may said) fun _ => .report event

end Procedure.Proposes

namespace Topology

open Procedure

variable (policy : NamePolicy)

variable {policy} {plan attempted : List Action} {steps : List Step}

end Topology

end NetBridge
