import Texel.Act

namespace Texel

namespace Act

variable {σ τ α β : Type}

/-- From a state in `before`, the answer and the state left are in `after`. -/
def Meets (act : Act σ α) (before : σ → Prop) (after : α → σ → Prop) : Prop :=
  ∀ state, before state → after (act.run state).value (act.run state).state

/-- A condition that holds before holds after, whatever the answer. -/
def Keeps (act : Act σ α) (condition : σ → Prop) : Prop :=
  act.Meets condition fun _ => condition

namespace Meets

variable {act : Act σ α} {before before' : σ → Prop} {after after' : α → σ → Prop}

/-- A contract may ask for more and promise less. -/
theorem mono (h : act.Meets before after) (hbefore : ∀ state, before' state → before state)
    (hafter : ∀ value state, after value state → after' value state) :
    act.Meets before' after' := by
  intro state hstate
  exact hafter _ _ (h state (hbefore state hstate))

/-- What the condition says of more than the state is known throughout. -/
theorem knowing {known : Prop} (hknown : ∀ state, before state → known)
    (h : known → act.Meets before after) : act.Meets before after :=
  fun state hstate => h (hknown state hstate) state hstate

/-- A contract for each of several cases is one for whichever of them it is. -/
theorem of_forall {ι : Type} {before : ι → σ → Prop} {after : ι → α → σ → Prop}
    (h : ∀ index, act.Meets (before index) (after index)) :
    act.Meets (fun state => ∃ index, before index state)
      fun value state => ∃ index, after index value state := by
  rintro state ⟨index, hstate⟩
  exact ⟨index, h index state hstate⟩

/-- An answer alone leaves the state as it is. -/
theorem pure {value : α} (h : ∀ state, before state → after value state) :
    (Pure.pure value : Act σ α).Meets before after :=
  h

/-- The contract of a sequence is put together from those of its parts: what the first part promises
is what the second one may ask for. -/
theorem bind {next : α → Act σ β} {final : β → σ → Prop} (h : act.Meets before after)
    (hnext : ∀ value, (next value).Meets (after value) final) :
    (act >>= next).Meets before final := by
  intro state hstate
  exact hnext _ _ (h state hstate)

/-- The rule for a sequence, with what holds in between. -/
theorem through (between : α → σ → Prop) {next : α → Act σ β} {final : β → σ → Prop}
    (h : act.Meets before between) (hnext : ∀ value, (next value).Meets (between value) final) :
    (act >>= next).Meets before final :=
  bind h hnext

/-- Going on with the state itself. -/
theorem get {next : σ → Act σ β} {final : β → σ → Prop}
    (h : ∀ state, (next state).Meets (fun now => now = state ∧ before now) final) :
    (Act.get >>= next).Meets before final := by
  intro state hstate
  exact h state state ⟨rfl, hstate⟩

/-- Going on with a state that is known. -/
theorem get_of_eq {origin : σ} {next : σ → Act σ β} {final : β → σ → Prop}
    (h : (next origin).Meets (fun state => state = origin) final) :
    (Act.get >>= next).Meets (fun state => state = origin) final := by
  refine get fun state => ?_
  rintro now ⟨rfl, rfl⟩
  exact h now rfl

/-- The state that is put in has to be as promised. -/
theorem set {new : σ} {final : Unit → σ → Prop} (h : ∀ state, before state → final () new) :
    (Act.set new).Meets before final :=
  h

/-- The change has to lead to what is promised. -/
theorem modify {change : σ → σ} {final : Unit → σ → Prop}
    (h : ∀ state, before state → final () (change state)) :
    (Act.modify change).Meets before final :=
  h

/-- A log line leaves the state as it is. -/
theorem log {severity : Severity} {text : String} {final : Unit → σ → Prop}
    (h : ∀ state, before state → final () state) :
    (Act.log severity text).Meets before final :=
  h

/-- A line logged first makes no difference. -/
theorem after_log {severity : Severity} {text : String} {next : Unit → Act σ β}
    {final : β → σ → Prop} (h : (next ()).Meets before final) :
    (Act.log severity text >>= next).Meets before final :=
  through (fun _ => before) (log fun _ hstate => hstate) fun _ => h

/-- A contract, together with a condition that is kept anyway. -/
theorem keeping {condition : σ → Prop} (h : act.Meets before after)
    (hkeeps : act.Meets condition fun _ => condition) :
    act.Meets (fun state => before state ∧ condition state)
      fun value state => after value state ∧ condition state :=
  fun state hstate => ⟨h state hstate.1, hkeeps state hstate.2⟩

/-- An operation on a part of the state, whatever the rest is. -/
theorem focus {part : σ → τ} {put : σ → τ → σ} {inner : Act τ α}
    (h : ∀ state, before state →
      inner.Meets (fun now => now = part state) fun value now => after value (put state now)) :
    (Act.focus part put inner).Meets before after := by
  intro state hstate
  exact h state hstate (part state) rfl

end Meets

/-- What is made of the answer changes nothing else. -/
theorem Meets.map {act : Act σ α} {change : α → β} {before : σ → Prop} {after : β → σ → Prop}
    (h : act.Meets before fun value => after (change value)) :
    (change <$> act).Meets before after := by
  intro state hstate
  rw [run_map]
  exact h state hstate

/-- An operation whose answer nobody looks at. -/
theorem Meets.discard {act : Act σ α} {before final : σ → Prop} {after : α → σ → Prop}
    (h : act.Meets before after) (hafter : ∀ value state, after value state → final state) :
    (discard act).Meets before fun _ => final := by
  intro state hstate
  change final ((_ <$> act).run state).state
  rw [run_map]
  exact hafter _ _ (h state hstate)

/-- An answer that nobody reads changes nothing else. -/
@[simp] theorem state_discard (act : Act σ α) (state : σ) :
    ((discard act).run state).state = (act.run state).state :=
  rfl

namespace Keeps

variable {act : Act σ α} {condition : σ → Prop}

/-- An answer alone keeps every condition. -/
theorem pure (value : α) : (Pure.pure value : Act σ α).Keeps condition :=
  fun _ h => h

/-- A sequence keeps what both of its parts keep. -/
theorem bind {next : α → Act σ β} (h : act.Keeps condition)
    (hnext : ∀ value, (next value).Keeps condition) : (act >>= next).Keeps condition :=
  Meets.bind h hnext

/-- A look at the state keeps every condition. -/
theorem get : (Act.get : Act σ σ).Keeps condition :=
  fun _ h => h

/-- A log line keeps every condition. -/
theorem log (severity : Severity) (text : String) :
    (Act.log severity text : Act σ Unit).Keeps condition :=
  fun _ h => h

/-- A condition on the state has nothing to do with the answer. -/
theorem map {change : α → β} (h : act.Keeps condition) : (change <$> act).Keeps condition := by
  intro state hstate
  rw [run_map]
  exact h state hstate

/-- An operation whose answer nobody looks at. -/
theorem discard (h : act.Keeps condition) : (discard act).Keeps condition :=
  map h

end Keeps

end Act

namespace Attempt

variable {ε δ σ τ α β : Type}

/-- An answer and the state left are in `after`, a refusal and the state left are in `refused`. -/
def Settles (after : α → σ → Prop) (refused : ε → σ → Prop) (answer : Except ε α) (state : σ) :
    Prop :=
  match answer with
  | .ok value => after value state
  | .error error => refused error state

/-- From a state in `before`, the attempt is answered as in `after` or refused as in `refused`. -/
def Meets (attempt : Attempt ε σ α) (before : σ → Prop) (after : α → σ → Prop)
    (refused : ε → σ → Prop) : Prop :=
  attempt.act.Meets before (Settles after refused)

/-- A condition that holds before holds after, refused or not. -/
def Keeps (attempt : Attempt ε σ α) (condition : σ → Prop) : Prop :=
  attempt.act.Keeps condition

namespace Meets

variable {attempt : Attempt ε σ α} {before before' : σ → Prop} {after after' : α → σ → Prop}
  {refused refused' : ε → σ → Prop}

/-- A contract may ask for more and promise less, also of refusals. -/
theorem mono (h : attempt.Meets before after refused)
    (hbefore : ∀ state, before' state → before state)
    (hafter : ∀ value state, after value state → after' value state)
    (hrefused : ∀ error state, refused error state → refused' error state) :
    attempt.Meets before' after' refused' := by
  refine Act.Meets.mono h hbefore fun answer state hanswer => ?_
  cases answer with
  | ok value => exact hafter value state hanswer
  | error error => exact hrefused error state hanswer

/-- A contract may ask for more. -/
theorem narrow (h : attempt.Meets before after refused)
    (hbefore : ∀ state, before' state → before state) : attempt.Meets before' after refused :=
  h.mono hbefore (fun _ _ hanswer => hanswer) fun _ _ hrefused => hrefused

/-- A contract may promise less of answers. -/
theorem answering (h : attempt.Meets before after refused)
    (hafter : ∀ value state, after value state → after' value state) :
    attempt.Meets before after' refused :=
  h.mono (fun _ hstate => hstate) hafter fun _ _ hrefused => hrefused

/-- A contract may promise less of refusals. -/
theorem refusing (h : attempt.Meets before after refused)
    (hrefused : ∀ error state, refused error state → refused' error state) :
    attempt.Meets before after refused' :=
  h.mono (fun _ hstate => hstate) (fun _ _ hanswer => hanswer) hrefused

/-- A contract may be shown for each state that satisfies its condition. -/
theorem each (h : ∀ origin, before origin →
    attempt.Meets (fun state => state = origin) after refused) :
    attempt.Meets before after refused :=
  fun state hstate => h state hstate state rfl

/-- A condition that is kept is kept by answers and by refusals. -/
theorem of_keeps {condition : σ → Prop} (h : attempt.Keeps condition) :
    attempt.Meets condition (fun _ => condition) fun _ => condition := by
  intro state hstate
  have hkept : condition (attempt.run state).state := h state hstate
  change Settles _ _ (attempt.run state).value _
  cases (attempt.run state).value <;> exact hkept

/-- A contract, together with a condition that is kept anyway. -/
theorem keeping {condition : σ → Prop} (h : attempt.Meets before after refused)
    (hkeeps : attempt.Keeps condition) :
    attempt.Meets (fun state => before state ∧ condition state)
      (fun value state => after value state ∧ condition state)
      fun error state => refused error state ∧ condition state := by
  rintro state ⟨hbefore, hcondition⟩
  have hrun : Settles after refused (attempt.run state).value _ := h state hbefore
  have hkept : condition (attempt.run state).state := hkeeps state hcondition
  change Settles _ _ (attempt.run state).value _
  cases hvalue : (attempt.run state).value with
  | ok value =>
    rw [hvalue] at hrun
    exact ⟨hrun, hkept⟩
  | error error =>
    rw [hvalue] at hrun
    exact ⟨hrun, hkept⟩

/-- Two contracts at once. -/
theorem both (h : attempt.Meets before after refused) (h' : attempt.Meets before after' refused') :
    attempt.Meets before (fun value state => after value state ∧ after' value state)
      fun error state => refused error state ∧ refused' error state := by
  intro state hstate
  have hfirst : Settles after refused (attempt.run state).value _ := h state hstate
  have hsecond : Settles after' refused' (attempt.run state).value _ := h' state hstate
  change Settles _ _ (attempt.run state).value _
  cases hvalue : (attempt.run state).value with
  | ok value =>
    rw [hvalue] at hfirst hsecond
    exact ⟨hfirst, hsecond⟩
  | error error =>
    rw [hvalue] at hfirst hsecond
    exact ⟨hfirst, hsecond⟩

/-- An attempt on a state that is known comes to what it comes to there. -/
theorem itself (attempt : Attempt ε σ α) (origin : σ) :
    attempt.Meets (fun state => state = origin)
      (fun value state =>
        (attempt.run origin).value = .ok value ∧ state = (attempt.run origin).state)
      fun error state =>
        (attempt.run origin).value = .error error ∧ state = (attempt.run origin).state := by
  rintro _ rfl
  change Settles _ _ (attempt.run _).value (attempt.run _).state
  cases (attempt.run _).value <;> exact ⟨rfl, rfl⟩

/-- An answer alone leaves the state as it is. -/
theorem pure {value : α} (h : ∀ state, before state → after value state) :
    (Pure.pure value : Attempt ε σ α).Meets before after refused :=
  h

/-- The second part starts from what the first one promises with its answer; a refusal of either
part is one of the whole. -/
theorem bind {next : α → Attempt ε σ β} {final : β → σ → Prop}
    (h : attempt.Meets before after refused)
    (hnext : ∀ value, (next value).Meets (after value) final refused) :
    (attempt >>= next).Meets before final refused := by
  intro state hstate
  have hfirst : Settles after refused (attempt.run state).value _ := h state hstate
  change Settles final refused ((attempt >>= next).run state).value
    ((attempt >>= next).run state).state
  rw [run_bind]
  cases hvalue : (attempt.run state).value with
  | ok value =>
    rw [hvalue] at hfirst
    exact hnext value _ hfirst
  | error error =>
    rw [hvalue] at hfirst
    exact hfirst

/-- The rule for a sequence, with what holds in between. -/
theorem through (between : α → σ → Prop) {next : α → Attempt ε σ β} {final : β → σ → Prop}
    (h : attempt.Meets before between refused)
    (hnext : ∀ value, (next value).Meets (between value) final refused) :
    (attempt >>= next).Meets before final refused :=
  bind h hnext

/-- What cannot be refused may promise anything of refusals. -/
theorem lift {act : Act σ α} (h : act.Meets before after) :
    (Attempt.lift act : Attempt ε σ α).Meets before after refused := by
  intro state hstate
  change Settles after refused ((Attempt.lift act : Attempt ε σ α).run state).value
    ((Attempt.lift act : Attempt ε σ α).run state).state
  rw [run_lift]
  exact h state hstate

/-- Going on with the state itself. -/
theorem get {next : σ → Attempt ε σ β} {final : β → σ → Prop}
    (h : ∀ state, (next state).Meets (fun now => now = state ∧ before now) final refused) :
    (Attempt.get >>= next).Meets before final refused :=
  bind (lift fun _ hstate => ⟨rfl, hstate⟩) h

/-- Going on with a state that is known. -/
theorem get_of_eq {origin : σ} {next : σ → Attempt ε σ β} {final : β → σ → Prop}
    (h : (next origin).Meets (fun state => state = origin) final refused) :
    (Attempt.get >>= next).Meets (fun state => state = origin) final refused := by
  refine get fun state => ?_
  rintro now ⟨rfl, rfl⟩
  exact h now rfl

/-- A refusal leaves the state as it is. -/
theorem refuse {error : ε} (h : ∀ state, before state → refused error state) :
    (Attempt.refuse error : Attempt ε σ α).Meets before after refused :=
  h

/-- A log line leaves the state as it is. -/
theorem log {severity : Severity} {text : String} {final : Unit → σ → Prop}
    (h : ∀ state, before state → final () state) :
    (Attempt.log severity text : Attempt ε σ Unit).Meets before final refused :=
  lift (Act.Meets.log h)

/-- A line logged first makes no difference. -/
theorem after_log {severity : Severity} {text : String} {next : Unit → Attempt ε σ β}
    {final : β → σ → Prop} (h : (next ()).Meets before final refused) :
    (Attempt.log severity text >>= next).Meets before final refused :=
  through (fun _ => before) (log fun _ hstate => hstate) fun _ => h

/-- A finished answer changes no state. -/
theorem ofExcept {answer : Except ε α}
    (hafter : ∀ value, answer = .ok value → ∀ state, before state → after value state)
    (hrefused : ∀ error, answer = .error error → ∀ state, before state → refused error state) :
    (Attempt.ofExcept answer).Meets before after refused := by
  intro state hstate
  cases answer with
  | ok value => exact hafter value rfl state hstate
  | error error => exact hrefused error rfl state hstate

/-- Going on after an answer or a refusal. -/
theorem answer {attempt : Attempt δ σ α} {refused : δ → σ → Prop}
    {next : Except δ α → Attempt ε σ β} {final : β → σ → Prop} {failed : ε → σ → Prop}
    (h : attempt.Meets before after refused)
    (hok : ∀ value, (next (.ok value)).Meets (after value) final failed)
    (herror : ∀ error, (next (.error error)).Meets (refused error) final failed) :
    (Attempt.answer attempt >>= next).Meets before final failed := by
  refine bind (lift h) fun answer => ?_
  cases answer with
  | ok value => exact hok value
  | error error => exact herror error

/-- An error by another name leaves the same state behind. -/
theorem mapError {attempt : Attempt δ σ α} {change : δ → ε}
    (h : attempt.Meets before after fun error => refused (change error)) :
    (attempt.mapError change).Meets before after refused := by
  intro state hstate
  have hinner : Settles after (fun error => refused (change error)) (attempt.run state).value _ :=
    h state hstate
  change Settles after refused ((attempt.mapError change).run state).value
    ((attempt.mapError change).run state).state
  rw [run_mapError]
  cases hvalue : (attempt.run state).value with
  | ok value =>
    rw [hvalue] at hinner
    exact hinner
  | error error =>
    rw [hvalue] at hinner
    exact hinner

/-- An attempt on a part of the state, whatever the rest is. -/
theorem focus {part : σ → τ} {put : σ → τ → σ} {inner : Attempt ε τ α}
    (h : ∀ state, before state → inner.Meets (fun now => now = part state)
      (fun value now => after value (put state now))
      fun error now => refused error (put state now)) :
    (Attempt.focus part put inner).Meets before after refused := by
  intro state hstate
  exact h state hstate (part state) rfl

/-- An attempt whose answer nobody looks at. -/
theorem discard {final : σ → Prop} (h : attempt.Meets before after refused)
    (hafter : ∀ value state, after value state → final state)
    (hrefused : ∀ error state, refused error state → final state) :
    (discard attempt.act).Meets before fun _ => final := by
  refine Act.Meets.discard h fun answer state hanswer => ?_
  cases answer with
  | ok value => exact hafter value state hanswer
  | error error => exact hrefused error state hanswer

/-- What an attempt leaves behind, told apart by its answer. -/
theorem of_run {state : σ} (h : attempt.Meets before after refused) (hstate : before state) :
    (∀ value, (attempt.run state).value = .ok value → after value (attempt.run state).state) ∧
      ∀ error, (attempt.run state).value = .error error →
        refused error (attempt.run state).state := by
  have hrun : Settles after refused (attempt.run state).value _ := h state hstate
  cases hvalue : (attempt.run state).value with
  | ok value =>
    rw [hvalue] at hrun
    exact ⟨fun _ heq => Except.ok.inj heq ▸ hrun, fun _ heq => nomatch heq⟩
  | error error =>
    rw [hvalue] at hrun
    exact ⟨fun _ heq => (nomatch heq), fun _ heq => Except.error.inj heq ▸ hrun⟩

/-- What an attempt leaves behind, refused or not. -/
theorem state_run {state : σ} {final : σ → Prop}
    (h : attempt.Meets before (fun _ => final) fun _ => final) (hstate : before state) :
    final (attempt.run state).state := by
  have hrun := h.of_run hstate
  cases hvalue : (attempt.run state).value with
  | ok value => exact hrun.1 value hvalue
  | error error => exact hrun.2 error hvalue

end Meets

namespace Keeps

variable {attempt : Attempt ε σ α} {condition : σ → Prop}

/-- An answer alone keeps every condition. -/
theorem pure (value : α) : (Pure.pure value : Attempt ε σ α).Keeps condition :=
  fun _ h => h

/-- A sequence keeps what both of its parts keep, refused or not. -/
theorem bind {next : α → Attempt ε σ β} (h : attempt.Keeps condition)
    (hnext : ∀ value, (next value).Keeps condition) : (attempt >>= next).Keeps condition := by
  intro state hstate
  have hfirst : condition (attempt.run state).state := h state hstate
  change condition ((attempt >>= next).run state).state
  rw [run_bind]
  cases (attempt.run state).value with
  | ok value => exact hnext value _ hfirst
  | error error => exact hfirst

/-- An operation that is never refused keeps the same as an attempt. -/
theorem lift {act : Act σ α} (h : act.Keeps condition) :
    (Attempt.lift act : Attempt ε σ α).Keeps condition := by
  intro state hstate
  change condition ((Attempt.lift act : Attempt ε σ α).run state).state
  rw [run_lift]
  exact h state hstate

/-- A look at the state keeps every condition. -/
theorem get : (Attempt.get : Attempt ε σ σ).Keeps condition :=
  lift Act.Keeps.get

/-- An attempt keeps the same when its refusals are answers. -/
theorem answer {attempt : Attempt δ σ α} (h : attempt.Keeps condition) :
    (Attempt.answer attempt : Attempt ε σ (Except δ α)).Keeps condition :=
  lift h

/-- A log line keeps every condition. -/
theorem log (severity : Severity) (text : String) :
    (Attempt.log severity text : Attempt ε σ Unit).Keeps condition :=
  lift (Act.Keeps.log severity text)

/-- A refusal on the spot keeps every condition. -/
theorem refuse (error : ε) : (Attempt.refuse error : Attempt ε σ α).Keeps condition :=
  fun _ h => h

/-- An answer that was there before keeps every condition. -/
theorem ofExcept (answer : Except ε α) : (Attempt.ofExcept answer).Keeps condition :=
  fun _ h => h

/-- The name of an error has nothing to do with the state. -/
theorem mapError {attempt : Attempt δ σ α} (change : δ → ε) (h : attempt.Keeps condition) :
    (attempt.mapError change).Keeps condition := by
  intro state hstate
  change condition ((attempt.mapError change).run state).state
  rw [run_mapError]
  exact h state hstate

/-- An attempt whose answer nobody looks at. -/
theorem discard (h : attempt.Keeps condition) : (discard attempt.act).Keeps condition :=
  Act.Keeps.discard h

/-- An attempt that keeps a condition may be refused anywhere. -/
theorem of_meets (h : attempt.Meets condition (fun _ => condition) fun _ => condition) :
    attempt.Keeps condition :=
  fun _ hstate => h.state_run hstate

end Keeps

end Attempt

end Texel
