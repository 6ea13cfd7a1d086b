import NetBridge.Log.Event

namespace NetBridge

/-- A result together with the events logged before it was known. -/
structure Reported (ε α : Type) where
  events : List Event
  result : Except ε α

namespace Reported

variable {ε α β : Type}

def bind (first : Reported ε α) (next : α → Reported ε β) : Reported ε β :=
  match first.result with
  | .ok value => ⟨first.events ++ (next value).events, (next value).result⟩
  | .error cause => ⟨first.events, .error cause⟩

instance : Monad (Reported ε) where
  pure value := ⟨[], .ok value⟩
  bind := bind

instance : MonadExcept ε (Reported ε) where
  throw cause := ⟨[], .error cause⟩
  tryCatch body handler :=
    match body.result with
    | .ok _ => body
    | .error cause => ⟨body.events ++ (handler cause).events, (handler cause).result⟩

def mapError {δ : Type} (f : ε → δ) (reported : Reported ε α) : Reported δ α :=
  ⟨reported.events, reported.result.mapError f⟩

@[simp] theorem result_pure (value : α) : (pure value : Reported ε α).result = .ok value := rfl
@[simp] theorem result_throw (cause : ε) : (throw cause : Reported ε α).result = .error cause := rfl

@[simp] theorem result_bind (first : Reported ε α) (next : α → Reported ε β) :
    (first >>= next).result = first.result >>= fun value => (next value).result := by
  show (first.bind next).result = _
  unfold bind
  cases first.result <;> rfl

end Reported

end NetBridge
