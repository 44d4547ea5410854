import WaypointMap.Error

/-!
# Calls

A call works on a state and logs what happens. It may fail half-way: then the state and the
log are as they were at that moment, and nothing is rolled back. That failed calls leave no
trace is a property of the single operations.
-/

namespace WaypointMap

/-- What a call leaves behind: its value or the reason why there is none, the state, and what
was logged, in order. -/
structure Outcome (ω σ α : Type) where
  result : Checked α
  state : σ
  log : List ω

/-- A call on a state `σ` that logs events `ω` and answers with `α`. -/
structure Call (ω σ α : Type) where
  run : σ → Outcome ω σ α

namespace Call

variable {ω σ τ α β : Type}

protected def pure (a : α) : Call ω σ α := ⟨fun s => ⟨.ok a, s, []⟩⟩

/-- Continues with the answer and the state of the first call, if it succeeds. -/
protected def bind (c : Call ω σ α) (next : α → Call ω σ β) : Call ω σ β where
  run s :=
    let first := c.run s
    match first.result with
    | .error e => ⟨.error e, first.state, first.log⟩
    | .ok a =>
      let rest := (next a).run first.state
      { rest with log := first.log ++ rest.log }

instance monad : Monad (Call ω σ) where
  pure := Call.pure
  bind := Call.bind

def check (a : Checked α) : Call ω σ α := ⟨fun s => ⟨a, s, []⟩⟩

def read : Call ω σ σ := ⟨fun s => ⟨.ok s, s, []⟩⟩

def update (f : σ → σ) : Call ω σ Unit := ⟨fun s => ⟨.ok (), f s, []⟩⟩

def log (event : ω) : Call ω σ Unit := ⟨fun s => ⟨.ok (), s, [event]⟩⟩

/-- Asks for something that the state determines, or not. -/
def ask (f : σ → Checked α) : Call ω σ α := ⟨fun s => ⟨f s, s, []⟩⟩

/-- Runs a call on a part of a larger state. -/
def onPart (part : σ → τ) (put : σ → τ → σ) (c : Call ω τ α) : Call ω σ α where
  run s :=
    let inner := c.run (part s)
    { inner with state := put s inner.state }

end Call

end WaypointMap
