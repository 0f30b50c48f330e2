import TxSubmission.Act

/-!
Laws of sequencing. Operations with effects form a monad, and the first operation of a sequence
decides how the rest is run: a value is handed on together with the state, the events that were
seen before stay in front, and a failure ends the sequence.
-/

namespace TxSubmission

theorem exists_of_bind_eq_ok {ε α β : Type} {first : Except ε α} {next : α → Except ε β} {b : β}
    (ended : (first >>= next) = .ok b) : ∃ a, first = .ok a ∧ next a = .ok b := by
  cases first with
  | error fault => cases ended
  | ok a => exact ⟨a, rfl, ended⟩

theorem bind_eq_ok {ε α β : Type} {first : Except ε α} {next : α → Except ε β} {a : α} {b : β}
    (ended : first = .ok a) (goes : next a = .ok b) : (first >>= next) = .ok b := by
  rw [ended]
  exact goes

theorem exists_of_map_eq_ok {ε α β : Type} {result : Except ε α} {f : α → β} {b : β}
    (ended : result.map f = .ok b) : ∃ a, result = .ok a ∧ f a = b := by
  cases result with
  | error fault => cases ended
  | ok a =>
    cases ended
    exact ⟨a, rfl, rfl⟩

theorem eq_ok_of_mapError {ε φ α : Type} {tell : ε → φ} {result : Except ε α} {a : α}
    (ended : result.mapError tell = .ok a) : result = .ok a := by
  cases result with
  | error fault => cases ended
  | ok b =>
    cases ended
    rfl

def Ran.after {σ α : Type} (shown : Trace) (ran : Ran σ α) : Ran σ α :=
  { ran with trace := shown ++ ran.trace }

namespace Act

variable {σ α β γ : Type}

theorem bind_apply (first : Act σ α) (next : α → Act σ β) (state : σ) :
    (first >>= next) state =
      match (first state).outcome with
      | .error failure => ⟨.error failure, (first state).state, (first state).trace⟩
      | .ok a => (next a (first state).state).after (first state).trace := rfl

theorem bind_of_ok {first : Act σ α} {state middle : σ} {a : α} {shown : Trace}
    (ran : first state = ⟨.ok a, middle, shown⟩) (next : α → Act σ β) :
    (first >>= next) state = (next a middle).after shown := by
  rw [bind_apply, ran]

theorem bind_of_error {first : Act σ α} {state middle : σ} {failure : Failure} {shown : Trace}
    (ran : first state = ⟨.error failure, middle, shown⟩) (next : α → Act σ β) :
    (first >>= next) state = ⟨.error failure, middle, shown⟩ := by
  rw [bind_apply, ran]

theorem pure_then (a : α) (next : α → Act σ β) : (Pure.pure a >>= next) = next a := rfl

theorem then_pure (act : Act σ α) : (act >>= Pure.pure) = act := by
  funext state
  cases ended : act state with
  | mk outcome left shown =>
    cases outcome with
    | error failure => rw [bind_of_error ended]
    | ok a =>
      rw [bind_of_ok ended]
      exact congrArg (Ran.mk (.ok a) left) (List.append_nil shown)

theorem then_assoc (first : Act σ α) (second : α → Act σ β) (third : β → Act σ γ) :
    (first >>= second >>= third) = first >>= fun a => second a >>= third := by
  funext state
  cases ended : first state with
  | mk outcome middle shown =>
    cases outcome with
    | error failure =>
      rw [bind_of_error ended]
      exact bind_of_error (bind_of_error ended second) third
    | ok a =>
      rw [bind_of_ok ended, bind_apply, bind_of_ok ended, bind_apply]
      simp only [Ran.after]
      cases (second a middle).outcome with
      | error failure => rfl
      | ok b => simp only [List.append_assoc]

instance : LawfulMonad (Act σ) :=
  .mk' (Act σ) (fun act => then_pure act) pure_then then_assoc

@[simp]
theorem fail_then (failure : Failure) (next : α → Act σ β) :
    (fail failure >>= next) = fail failure := rfl

@[simp]
theorem ofFault_ok (a : α) : ofFault (.ok a) = (Pure.pure a : Act σ α) := rfl

@[simp]
theorem ofInvalid_ok (a : α) : ofInvalid (.ok a) = (Pure.pure a : Act σ α) := rfl

@[simp]
theorem ofInvalid_error (cause : Invalid) :
    ofInvalid (.error cause) = (fail (.fault (.invalid cause)) : Act σ α) := rfl

theorem emit_then (event : Event) (next : Unit → Act σ β) (state : σ) :
    (emit event >>= next) state = (next () state).after [event] := rfl

theorem log_then (severity : Log.Severity) (component : Component) (text : String)
    (next : Unit → Act σ β) (state : σ) :
    (log severity component text >>= next) state =
      (next () state).after [.logged severity component text] := rfl

theorem modifyGet_then (f : σ → α × σ) (next : α → Act σ β) (state : σ) :
    (modifyGet f >>= next) state = next (f state).1 (f state).2 := rfl

end Act

end TxSubmission
