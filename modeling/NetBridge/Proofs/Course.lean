import NetBridge.Dialogue

namespace NetBridge

namespace Dialogue

theorem plays_done_iff {value result : α} {steps : List Step} :
    Plays (done value) steps result ↔ steps = [] ∧ result = value := by
  constructor
  · rintro ⟨⟩
    exact ⟨rfl, rfl⟩
  · rintro ⟨rfl, rfl⟩
    exact .done _

theorem plays_log_iff {event : Event} {next : Dialogue α} {steps : List Step} {value : α} :
    Plays (log event next) steps value ↔
      ∃ rest, steps = .logged event :: rest ∧ Plays next rest value := by
  constructor
  · rintro (_ | ⟨rest⟩)
    exact ⟨_, rfl, rest⟩
  · rintro ⟨rest, rfl, later⟩
    exact .log later

theorem plays_ask_iff {call : Call} {next : call.Answer → Dialogue α} {steps : List Step}
    {value : α} : Plays (ask call next) steps value ↔
      ∃ answer rest, steps = .asked call answer :: rest ∧ Plays (next answer) rest value := by
  constructor
  · rintro (_ | _ | ⟨answer, rest⟩)
    exact ⟨answer, _, rfl, rest⟩
  · rintro ⟨answer, rest, rfl, later⟩
    exact .ask answer later

theorem plays_bind_iff {d : Dialogue α} {k : α → Dialogue β} {steps : List Step} {value : β} :
    Plays (d >>= k) steps value ↔
      ∃ first rest middle, steps = first ++ rest ∧ Plays d first middle ∧
        Plays (k middle) rest value := by
  induction d generalizing steps with
  | done result =>
    constructor
    · exact fun played => ⟨[], steps, result, rfl, .done result, played⟩
    · rintro ⟨first, rest, middle, rfl, begun, later⟩
      obtain ⟨rfl, rfl⟩ := plays_done_iff.mp begun
      exact later
  | log event next ih =>
    rw [log_bind, plays_log_iff]
    constructor
    · rintro ⟨steps, rfl, played⟩
      obtain ⟨first, rest, middle, rfl, begun, later⟩ := ih.mp played
      exact ⟨_, rest, middle, rfl, .log begun, later⟩
    · rintro ⟨first, rest, middle, rfl, begun, later⟩
      obtain ⟨others, rfl, played⟩ := plays_log_iff.mp begun
      exact ⟨_, rfl, ih.mpr ⟨others, rest, middle, rfl, played, later⟩⟩
  | ask call next ih =>
    rw [ask_bind, plays_ask_iff]
    constructor
    · rintro ⟨answer, steps, rfl, played⟩
      obtain ⟨first, rest, middle, rfl, begun, later⟩ := (ih answer).mp played
      exact ⟨_, rest, middle, rfl, .ask answer begun, later⟩
    · rintro ⟨first, rest, middle, rfl, begun, later⟩
      obtain ⟨answer, others, rfl, played⟩ := plays_ask_iff.mp begun
      exact ⟨answer, _, rfl, (ih answer).mpr ⟨others, rest, middle, rfl, played, later⟩⟩

end Dialogue

end NetBridge
