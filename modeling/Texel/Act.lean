import Texel.Log

namespace Texel

/-- What an operation gives: its value, the state it leaves and the lines it logged in order. -/
structure Outcome (σ α : Type) where
  value : α
  state : σ
  log : List LogLine

/-- An operation on a state of type `σ` that answers with an `α`. The state never holds the log, so
that "nothing changed" is an equality of states. -/
def Act (σ α : Type) : Type :=
  σ → Outcome σ α

namespace Act

variable {σ τ α β : Type}

/-- Runs the operation on a state. -/
def run (act : Act σ α) (state : σ) : Outcome σ α :=
  act state

/-- Log lines of the second part follow those of the first. -/
def bind (act : Act σ α) (next : α → Act σ β) : Act σ β := fun state =>
  let first := act.run state
  let second := (next first.value).run first.state
  ⟨second.value, second.state, first.log ++ second.log⟩

instance : Monad (Act σ) where
  pure value := fun state => ⟨value, state, []⟩
  bind := bind

def get : Act σ σ := fun state => ⟨state, state, []⟩

def gets (read : σ → α) : Act σ α := fun state => ⟨read state, state, []⟩

def set (state : σ) : Act σ Unit := fun _ => ⟨(), state, []⟩

def modify (change : σ → σ) : Act σ Unit := fun state => ⟨(), change state, []⟩

def log (severity : Severity) (text : String) : Act σ Unit := fun state =>
  ⟨(), state, [⟨severity, text⟩]⟩

/-- An operation on a part of the state, with `put` to set the part back into the whole. -/
def focus (part : σ → τ) (put : σ → τ → σ) (act : Act τ α) : Act σ α := fun state =>
  let inner := act.run (part state)
  ⟨inner.value, put state inner.state, inner.log⟩

@[simp] theorem run_pure (value : α) (state : σ) :
    (pure value : Act σ α).run state = ⟨value, state, []⟩ :=
  rfl

/-- The second part runs on the state that the first one leaves. -/
@[simp] theorem run_bind (act : Act σ α) (next : α → Act σ β) (state : σ) :
    (act >>= next).run state =
      ⟨((next (act.run state).value).run (act.run state).state).value,
        ((next (act.run state).value).run (act.run state).state).state,
        (act.run state).log ++ ((next (act.run state).value).run (act.run state).state).log⟩ :=
  rfl

@[simp] theorem run_get (state : σ) : (get : Act σ σ).run state = ⟨state, state, []⟩ :=
  rfl

@[simp] theorem run_gets (read : σ → α) (state : σ) :
    (gets read).run state = ⟨read state, state, []⟩ :=
  rfl

@[simp] theorem run_set (new state : σ) : (set new).run state = ⟨(), new, []⟩ :=
  rfl

@[simp] theorem run_modify (change : σ → σ) (state : σ) :
    (modify change).run state = ⟨(), change state, []⟩ :=
  rfl

@[simp] theorem run_log (severity : Severity) (text : String) (state : σ) :
    (log severity text).run state = ⟨(), state, [⟨severity, text⟩]⟩ :=
  rfl

@[simp] theorem run_focus (part : σ → τ) (put : σ → τ → σ) (act : Act τ α) (state : σ) :
    (focus part put act).run state =
      ⟨(act.run (part state)).value, put state (act.run (part state)).state,
        (act.run (part state)).log⟩ :=
  rfl

/-- Operations that give the same from every state are the same. -/
theorem ext {first second : Act σ α} (h : ∀ state, first.run state = second.run state) :
    first = second :=
  funext h

@[simp] theorem run_map (change : α → β) (act : Act σ α) (state : σ) :
    (change <$> act).run state =
      ⟨change (act.run state).value, (act.run state).state, (act.run state).log⟩ := by
  change Outcome.mk _ _ ((act.run state).log ++ []) = _
  rw [List.append_nil]
  rfl

instance : LawfulMonad (Act σ) :=
  LawfulMonad.mk' (Act σ)
    (fun act => ext fun state => by simp)
    (fun value next => ext fun state => by simp)
    (fun act next last => ext fun state => by simp)

end Act

/-- An operation that may be refused with an `ε`. It keeps the state it reached when refused. -/
structure Attempt (ε σ α : Type) where
  act : Act σ (Except ε α)

namespace Attempt

variable {ε δ σ τ α β : Type}

def run (attempt : Attempt ε σ α) (state : σ) : Outcome σ (Except ε α) :=
  attempt.act.run state

/-- What follows a refusal is left out. -/
def bind (attempt : Attempt ε σ α) (next : α → Attempt ε σ β) : Attempt ε σ β :=
  ⟨fun state =>
    let first := attempt.run state
    match first.value with
    | .ok value =>
      let second := (next value).run first.state
      ⟨second.value, second.state, first.log ++ second.log⟩
    | .error error => ⟨.error error, first.state, first.log⟩⟩

instance : Monad (Attempt ε σ) where
  pure value := ⟨pure (.ok value)⟩
  bind := bind

/-- An operation that is never refused. -/
def lift (act : Act σ α) : Attempt ε σ α := ⟨Except.ok <$> act⟩

def get : Attempt ε σ σ := lift Act.get

def gets (read : σ → α) : Attempt ε σ α := lift (Act.gets read)

def modify (change : σ → σ) : Attempt ε σ Unit := lift (Act.modify change)

def log (severity : Severity) (text : String) : Attempt ε σ Unit := lift (Act.log severity text)

/-- Goes on with the answer of an attempt, refusal or not. -/
def answer (attempt : Attempt δ σ α) : Attempt ε σ (Except δ α) := lift attempt.act

def refuse (error : ε) : Attempt ε σ α := ⟨pure (.error error)⟩

/-- Takes a finished answer as an attempt that does nothing else. -/
def ofExcept (answer : Except ε α) : Attempt ε σ α := ⟨pure answer⟩

/-- The same attempt, refused with another kind of error. -/
def mapError (change : ε → δ) (attempt : Attempt ε σ α) : Attempt δ σ α :=
  ⟨(fun answer => answer.mapError change) <$> attempt.act⟩

/-- An attempt on a part of the state, with `put` to set the part back into the whole. -/
def focus (part : σ → τ) (put : σ → τ → σ) (attempt : Attempt ε τ α) : Attempt ε σ α :=
  ⟨Act.focus part put attempt.act⟩

@[simp] theorem run_pure (value : α) (state : σ) :
    (pure value : Attempt ε σ α).run state = ⟨.ok value, state, []⟩ :=
  rfl

@[simp] theorem run_refuse (error : ε) (state : σ) :
    (refuse error : Attempt ε σ α).run state = ⟨.error error, state, []⟩ :=
  rfl

@[simp] theorem run_ofExcept (answer : Except ε α) (state : σ) :
    (ofExcept answer : Attempt ε σ α).run state = ⟨answer, state, []⟩ :=
  rfl

@[simp] theorem run_lift (act : Act σ α) (state : σ) :
    (lift act : Attempt ε σ α).run state =
      ⟨.ok (act.run state).value, (act.run state).state, (act.run state).log⟩ :=
  Act.run_map Except.ok act state

@[simp] theorem run_get (state : σ) :
    (get : Attempt ε σ σ).run state = ⟨.ok state, state, []⟩ :=
  rfl

@[simp] theorem run_gets (read : σ → α) (state : σ) :
    (gets read : Attempt ε σ α).run state = ⟨.ok (read state), state, []⟩ :=
  rfl

@[simp] theorem run_modify (change : σ → σ) (state : σ) :
    (modify change : Attempt ε σ Unit).run state = ⟨.ok (), change state, []⟩ :=
  rfl

@[simp] theorem run_log (severity : Severity) (text : String) (state : σ) :
    (log severity text : Attempt ε σ Unit).run state = ⟨.ok (), state, [⟨severity, text⟩]⟩ :=
  rfl

@[simp] theorem run_answer (attempt : Attempt δ σ α) (state : σ) :
    (answer attempt : Attempt ε σ (Except δ α)).run state =
      ⟨.ok (attempt.run state).value, (attempt.run state).state, (attempt.run state).log⟩ :=
  run_lift attempt.act state

@[simp] theorem run_mapError (change : ε → δ) (attempt : Attempt ε σ α) (state : σ) :
    (attempt.mapError change).run state =
      ⟨(attempt.run state).value.mapError change, (attempt.run state).state,
        (attempt.run state).log⟩ :=
  Act.run_map _ attempt.act state

@[simp] theorem run_focus (part : σ → τ) (put : σ → τ → σ) (attempt : Attempt ε τ α) (state : σ) :
    (focus part put attempt).run state =
      ⟨(attempt.run (part state)).value, put state (attempt.run (part state)).state,
        (attempt.run (part state)).log⟩ :=
  rfl

/-- The second part runs on the state that the first one leaves, if that one is not refused. -/
theorem run_bind (attempt : Attempt ε σ α) (next : α → Attempt ε σ β) (state : σ) :
    (attempt >>= next).run state =
      match (attempt.run state).value with
      | .ok value =>
        ⟨((next value).run (attempt.run state).state).value,
          ((next value).run (attempt.run state).state).state,
          (attempt.run state).log ++ ((next value).run (attempt.run state).state).log⟩
      | .error error => ⟨.error error, (attempt.run state).state, (attempt.run state).log⟩ :=
  rfl

/-- A sequence goes on after an answer. -/
theorem run_bind_ok {attempt : Attempt ε σ α} {state : σ} {value : α}
    (h : (attempt.run state).value = .ok value) (next : α → Attempt ε σ β) :
    (attempt >>= next).run state =
      ⟨((next value).run (attempt.run state).state).value,
        ((next value).run (attempt.run state).state).state,
        (attempt.run state).log ++ ((next value).run (attempt.run state).state).log⟩ := by
  rw [run_bind, h]

/-- A sequence ends with the first refusal. -/
theorem run_bind_error {attempt : Attempt ε σ α} {state : σ} {error : ε}
    (h : (attempt.run state).value = .error error) (next : α → Attempt ε σ β) :
    (attempt >>= next).run state =
      ⟨.error error, (attempt.run state).state, (attempt.run state).log⟩ := by
  rw [run_bind, h]

end Attempt

end Texel
