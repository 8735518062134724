import Texel.Device.Simulated
import Texel.Proofs.Act

namespace Texel

namespace LogLine

/-- What a device logs that is asked to destroy a resource it does not have. -/
def unknownResource (id : ResourceId) : LogLine :=
  ⟨.error, s!"DummyDevice: destroying unknown resource {id.describe}"⟩

/-- What a heap logs that is asked to take back a slot it has not handed out. -/
def foreignSlot (slot : Slot) (kind : ViewKind) : LogLine :=
  ⟨.warn, s!"{slot.describe} freed into {kind.name} heap that does not own it"⟩

/-- The line tells of something that was freed without being there. -/
def Complains (line : LogLine) : Prop :=
  (∃ id, line = unknownResource id) ∨ ∃ slot kind, line = foreignSlot slot kind

end LogLine

/-- A device complains exactly of what it does not have. -/
theorem SimulatedDevice.log_destroyResource (id : ResourceId) (device : SimulatedDevice) :
    ((Device.destroyResource id).run device).log = [if device.isLive id then
      ⟨.trace, s!"DummyDevice: destroyed {id.describe}"⟩ else .unknownResource id] := by
  change ((SimulatedDevice.destroyResource id).run device).log = _
  unfold SimulatedDevice.destroyResource isLive
  simp only [Act.run_bind, Act.run_get]
  by_cases hlive : device.resources.contains id = true
  · simp only [hlive, if_true]
    rfl
  · simp only [hlive]
    rfl

@[simp] theorem toString_text (text : String) : toString text = text :=
  rfl

namespace LogLine

variable {severity : Severity} {text : String}

/-- Complaints are errors or warnings. -/
theorem severity_of_complains {line : LogLine} (h : line.Complains) :
    line.severity = .error ∨ line.severity = .warn := by
  rcases h with ⟨id, rfl⟩ | ⟨slot, kind, rfl⟩
  · exact .inl rfl
  · exact .inr rfl

/-- Complaints begin with the name of a device or a slot; other lines of their severity do not. -/
theorem head?_of_complains {line : LogLine} (h : line.Complains) :
    line.text.toList.head? = some 'D' := by
  rcases h with ⟨id, rfl⟩ | ⟨slot, kind, rfl⟩
  · simp [unknownResource]
  · unfold foreignSlot Slot.describe
    simp only [String.toList_append, List.head?_append, toString_text]
    rfl

/-- Lines of other severities are no complaints. -/
theorem not_complains_of_mild (h : severity ≠ .error ∧ severity ≠ .warn) :
    ¬ (⟨severity, text⟩ : LogLine).Complains := fun hcomplains =>
  (severity_of_complains hcomplains).elim h.1 h.2

/-- Lines that begin with another letter are no complaints. -/
theorem not_complains_of_head? (h : text.toList.head? ≠ some 'D') :
    ¬ (⟨severity, text⟩ : LogLine).Complains := fun hcomplains =>
  h (head?_of_complains hcomplains)

end LogLine

namespace Act

variable {σ τ α β : Type}

/-- From a state in `before`, no complaint is logged. As with contracts, the rules follow the way
operations are put together. -/
def Quiet (act : Act σ α) (before : σ → Prop) : Prop :=
  ∀ state, before state → ∀ line ∈ (act.run state).log, ¬ line.Complains

namespace Quiet

variable {act : Act σ α} {before before' : σ → Prop} {severity : Severity} {text : String}

/-- It is quiet under a stronger condition. -/
theorem mono (h : act.Quiet before) (hbefore : ∀ state, before' state → before state) :
    act.Quiet before' :=
  fun state hstate => h state (hbefore state hstate)

/-- It is quiet in a state that satisfies the condition. -/
theorem at_state {state : σ} (h : act.Quiet before) (hstate : before state) :
    act.Quiet fun now => now = state :=
  h.mono fun _ hnow => hnow ▸ hstate

/-- An operation that logs nothing. -/
theorem silent (h : ∀ state, (act.run state).log = []) : act.Quiet before := by
  intro state _ line hline
  rw [h] at hline
  exact absurd hline List.not_mem_nil

/-- A single line that is no complaint. -/
theorem log (h : ¬ (⟨severity, text⟩ : LogLine).Complains) :
    (Act.log severity text).Quiet before := by
  intro state _ line hline
  rw [List.mem_singleton.mp hline]
  exact h

/-- A sequence is quiet if both of its parts are, the second one from where the first one leads. -/
theorem bind {between : α → σ → Prop} {next : α → Act σ β} (h : act.Quiet before)
    (hbetween : act.Meets before between) (hnext : ∀ value, (next value).Quiet (between value)) :
    (act >>= next).Quiet before := by
  intro state hstate line hline
  rcases List.mem_append.mp hline with hfirst | hsecond
  · exact h state hstate line hfirst
  · exact hnext _ _ (hbetween state hstate) line hsecond

/-- The rule for a sequence, with what holds in between. -/
theorem through (between : α → σ → Prop) {next : α → Act σ β} (h : act.Quiet before)
    (hbetween : act.Meets before between) (hnext : ∀ value, (next value).Quiet (between value)) :
    (act >>= next).Quiet before :=
  bind h hbetween hnext

/-- The rule for a sequence if nothing needs to be known in between. -/
theorem andThen {next : α → Act σ β} (h : act.Quiet before)
    (hnext : ∀ value, (next value).Quiet fun _ => True) : (act >>= next).Quiet before :=
  bind h (fun _ _ => trivial) hnext

/-- Going on with the state itself. -/
theorem get {next : σ → Act σ β}
    (h : ∀ state, (next state).Quiet fun now => now = state ∧ before now) :
    (Act.get >>= next).Quiet before :=
  fun state hstate => h state state ⟨rfl, hstate⟩

/-- A line that is not grave enough for a complaint. -/
theorem note (h : severity ≠ .error ∧ severity ≠ .warn) :
    (Act.log severity text).Quiet before :=
  .log (LogLine.not_complains_of_mild h)

/-- A line that begins like no complaint. -/
theorem report (h : text.toList.head? ≠ some 'D') : (Act.log severity text).Quiet before :=
  .log (LogLine.not_complains_of_head? h)

/-- A quiet line may be logged first. -/
theorem after {next : Unit → Act σ β} (h : (Act.log severity text : Act σ Unit).Quiet before)
    (hnext : (next ()).Quiet before) : (Act.log severity text >>= next).Quiet before :=
  bind h (fun _ hstate => hstate) fun _ => hnext

/-- What is made of the answer is not logged. -/
theorem map {change : α → β} (h : act.Quiet before) : (change <$> act).Quiet before := by
  intro state hstate line hline
  rw [run_map] at hline
  exact h state hstate line hline

/-- An answer that nobody reads is not logged. -/
theorem discard (h : act.Quiet before) : (discard act).Quiet before :=
  map h

/-- An operation on a part of the state. -/
theorem focus {part : σ → τ} {put : σ → τ → σ} {inner : Act τ α}
    (h : ∀ state, before state → inner.Quiet fun now => now = part state) :
    (Act.focus part put inner).Quiet before :=
  fun state hstate => h state hstate (part state) rfl

end Quiet

end Act

namespace Attempt

variable {ε δ σ τ α β : Type}

/-- From a state in `before`, no complaint is logged, refused or not. -/
def Quiet (attempt : Attempt ε σ α) (before : σ → Prop) : Prop :=
  attempt.act.Quiet before

namespace Quiet

variable {attempt : Attempt ε σ α} {before before' : σ → Prop} {severity : Severity}
  {text : String}

/-- It is quiet under a stronger condition. -/
theorem mono (h : attempt.Quiet before) (hbefore : ∀ state, before' state → before state) :
    attempt.Quiet before' :=
  Act.Quiet.mono h hbefore

/-- It is quiet in a state that satisfies the condition. -/
theorem at_state {state : σ} (h : attempt.Quiet before) (hstate : before state) :
    attempt.Quiet fun now => now = state :=
  Act.Quiet.at_state h hstate

/-- It may be shown for each state that satisfies the condition. -/
theorem each (h : ∀ origin, before origin → attempt.Quiet fun state => state = origin) :
    attempt.Quiet before :=
  fun state hstate => h state hstate state rfl

/-- An operation that is never refused is as quiet as it was. -/
theorem lift {act : Act σ α} (h : act.Quiet before) :
    (Attempt.lift act : Attempt ε σ α).Quiet before :=
  Act.Quiet.map h

/-- An answer alone logs nothing. -/
theorem pure {value : α} : (Pure.pure value : Attempt ε σ α).Quiet before :=
  .silent fun _ => rfl

/-- A refusal alone logs nothing. -/
theorem refuse {error : ε} : (Attempt.refuse error : Attempt ε σ α).Quiet before :=
  .silent fun _ => rfl

/-- An answer that was there before logs nothing. -/
theorem ofExcept (answer : Except ε α) : (Attempt.ofExcept answer).Quiet before :=
  .silent fun _ => rfl

/-- After a refusal nothing more is logged; otherwise the second part is quiet from where the first
one leads. -/
theorem bind {between : α → σ → Prop} {refused : ε → σ → Prop} {next : α → Attempt ε σ β}
    (h : attempt.Quiet before) (hbetween : attempt.Meets before between refused)
    (hnext : ∀ value, (next value).Quiet (between value)) : (attempt >>= next).Quiet before := by
  intro state hstate line hline
  have hquiet : ∀ line ∈ (attempt.run state).log, ¬ line.Complains := h state hstate
  have hsettles := (hbetween.of_run hstate).1
  change line ∈ ((attempt >>= next).run state).log at hline
  rw [run_bind] at hline
  cases hvalue : (attempt.run state).value with
  | ok value =>
    rw [hvalue] at hline
    rcases List.mem_append.mp hline with hfirst | hsecond
    · exact hquiet line hfirst
    · exact hnext value _ (hsettles value hvalue) line hsecond
  | error error =>
    rw [hvalue] at hline
    exact hquiet line hline

/-- The rule for a sequence that begins with an operation that is never refused. -/
theorem lifted (between : α → σ → Prop) {act : Act σ α} {next : α → Attempt ε σ β}
    (h : act.Quiet before) (hbetween : act.Meets before between)
    (hnext : ∀ value, (next value).Quiet (between value)) :
    (Attempt.lift act >>= next).Quiet before := by
  have hlift : (Attempt.lift act : Attempt ε σ α).Meets before between fun _ _ => False :=
    .lift hbetween
  exact bind (lift h) hlift hnext

/-- The rule for a sequence if nothing needs to be known in between. -/
theorem andThen {next : α → Attempt ε σ β} (h : attempt.Quiet before)
    (hnext : ∀ value, (next value).Quiet fun _ => True) : (attempt >>= next).Quiet before := by
  have hanything : attempt.Meets before (fun _ _ => True) fun _ _ => True := by
    intro state _
    unfold Settles
    split <;> trivial
  exact bind h hanything hnext

/-- Going on with the state itself. -/
theorem get {next : σ → Attempt ε σ β}
    (h : ∀ state, (next state).Quiet fun now => now = state ∧ before now) :
    (Attempt.get >>= next).Quiet before :=
  fun state hstate => h state state ⟨rfl, hstate⟩

/-- A quiet line may be logged first. -/
theorem after {next : Unit → Attempt ε σ β} (h : (Act.log severity text : Act σ Unit).Quiet before)
    (hnext : (next ()).Quiet before) : (Attempt.log severity text >>= next).Quiet before :=
  lifted (fun _ => before) h (fun _ hstate => hstate) fun _ => hnext

/-- Going on after an answer or a refusal. -/
theorem answer {attempt : Attempt δ σ α} {after : α → σ → Prop} {refused : δ → σ → Prop}
    {next : Except δ α → Attempt ε σ β} (h : attempt.Quiet before)
    (hmeets : attempt.Meets before after refused)
    (hok : ∀ value, (next (.ok value)).Quiet (after value))
    (herror : ∀ error, (next (.error error)).Quiet (refused error)) :
    (Attempt.answer attempt >>= next).Quiet before := by
  refine lifted (Settles after refused) h hmeets fun answer => ?_
  cases answer with
  | ok value => exact hok value
  | error error => exact herror error

/-- The name of an error is not logged. -/
theorem mapError {attempt : Attempt δ σ α} (change : δ → ε) (h : attempt.Quiet before) :
    (attempt.mapError change).Quiet before :=
  Act.Quiet.map h

/-- An answer that nobody reads is not logged. -/
theorem discard (h : attempt.Quiet before) : (discard attempt.act).Quiet before :=
  Act.Quiet.discard h

/-- An attempt on a part of the state. -/
theorem focus {part : σ → τ} {put : σ → τ → σ} {inner : Attempt ε τ α}
    (h : ∀ state, before state → inner.Quiet fun now => now = part state) :
    (Attempt.focus part put inner).Quiet before :=
  Act.Quiet.focus h

end Quiet

end Attempt

end Texel
