import WaypointMap.Call

/-!
# Running calls

What each call does to a state, one equation each, and the monad laws.
-/

namespace WaypointMap

namespace Call

variable {ω σ τ α β : Type}

@[ext] theorem ext {c d : Call ω σ α} (h : ∀ s, c.run s = d.run s) : c = d := by
  cases c
  cases d
  congr
  exact funext h

@[simp] theorem run_pure (a : α) (s : σ) : (pure a : Call ω σ α).run s = ⟨.ok a, s, []⟩ := rfl

@[simp] theorem run_check (a : Checked α) (s : σ) :
    (check a : Call ω σ α).run s = ⟨a, s, []⟩ := rfl

@[simp] theorem run_read (s : σ) : (read : Call ω σ σ).run s = ⟨.ok s, s, []⟩ := rfl

@[simp] theorem run_update (f : σ → σ) (s : σ) :
    (update f : Call ω σ Unit).run s = ⟨.ok (), f s, []⟩ := rfl

@[simp] theorem run_log (event : ω) (s : σ) : (log event).run s = ⟨.ok (), s, [event]⟩ := rfl

@[simp] theorem run_ask (f : σ → Checked α) (s : σ) :
    (ask f : Call ω σ α).run s = ⟨f s, s, []⟩ := rfl

/-- A call on a part leaves the whole with the part as it was left. -/
@[simp] theorem run_onPart (part : σ → τ) (put : σ → τ → σ) (c : Call ω τ α) (s : σ) :
    (onPart part put c).run s =
      ⟨(c.run (part s)).result, put s (c.run (part s)).state, (c.run (part s)).log⟩ := rfl

/-- What a sequence leaves behind, by what its first call leaves behind. -/
theorem run_bind (c : Call ω σ α) (next : α → Call ω σ β) (s : σ) :
    (c >>= next).run s =
      match (c.run s).result with
      | .error e => ⟨.error e, (c.run s).state, (c.run s).log⟩
      | .ok a =>
        { (next a).run (c.run s).state with
          log := (c.run s).log ++ ((next a).run (c.run s).state).log } := rfl

/-- A call that fails ends the sequence. -/
theorem run_bind_error {c : Call ω σ α} {s : σ} {e : Error} (next : α → Call ω σ β)
    (h : (c.run s).result = .error e) :
    (c >>= next).run s = ⟨.error e, (c.run s).state, (c.run s).log⟩ := by
  change (Call.bind c next).run s = _
  simp only [Call.bind, h]

/-- A call that succeeds hands its state on, and the logs are joined. -/
theorem run_bind_ok {c : Call ω σ α} {s : σ} {a : α} (next : α → Call ω σ β)
    (h : (c.run s).result = .ok a) :
    (c >>= next).run s =
      ⟨((next a).run (c.run s).state).result, ((next a).run (c.run s).state).state,
        (c.run s).log ++ ((next a).run (c.run s).state).log⟩ := by
  change (Call.bind c next).run s = _
  simp only [Call.bind, h]

/-- To read first is to start from the state. -/
theorem run_read_bind (next : σ → Call ω σ α) (s : σ) :
    (read >>= next).run s = (next s).run s := by
  rw [run_bind_ok (a := s) next rfl]
  rfl

@[simp] theorem pure_bind (a : α) (next : α → Call ω σ β) :
    ((pure a : Call ω σ α) >>= next) = next a := by
  ext s : 1
  have h : ((pure a : Call ω σ α).run s).result = .ok a := rfl
  rw [run_bind_ok next h]
  simp

@[simp] theorem bind_pure (c : Call ω σ α) : (c >>= pure) = c := by
  ext s : 1
  cases h : (c.run s).result with
  | error e => rw [run_bind_error pure h, ← h]
  | ok a => rw [run_bind_ok pure h]; simp [← h]

theorem bind_assoc {γ : Type} (c : Call ω σ α) (next : α → Call ω σ β)
    (last : β → Call ω σ γ) :
    ((c >>= next) >>= last) = (c >>= fun a => next a >>= last) := by
  ext s : 1
  cases h : (c.run s).result with
  | error e =>
    have inner := run_bind_error next h
    rw [run_bind_error last (by rw [inner]), inner,
      run_bind_error (fun a => next a >>= last) h]
  | ok a =>
    have inner := run_bind_ok next h
    rw [run_bind_ok _ h]
    cases h' : ((next a).run (c.run s).state).result with
    | error e =>
      rw [run_bind_error last (by rw [inner]; exact h'), run_bind_error last h', inner]
    | ok b =>
      rw [run_bind_ok last (by rw [inner]; exact h'), run_bind_ok last h', inner]
      simp

instance lawful : LawfulMonad (Call ω σ) :=
  LawfulMonad.mk' (Call ω σ) bind_pure pure_bind bind_assoc

/-- What is made of the answer leaves state and log alone. -/
@[simp] theorem run_map (f : α → β) (c : Call ω σ α) (s : σ) :
    (f <$> c).run s = ⟨(c.run s).result.map f, (c.run s).state, (c.run s).log⟩ := by
  rw [map_eq_pure_bind, run_bind]
  cases (c.run s).result with
  | error e => rfl
  | ok a => simp [Except.map]

end Call

end WaypointMap
