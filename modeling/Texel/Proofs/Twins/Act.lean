import Texel.Proofs.Act

namespace Texel

namespace Act

variable {σ τ σ' τ' α β : Type}

/-- From states that `before` relates, both give the same answer and leave states that `after`
relates. -/
def Matches (first : Act σ α) (second : Act τ α) (before : σ → τ → Prop)
    (after : α → σ → τ → Prop) : Prop :=
  ∀ left right, before left right → (first.run left).value = (second.run right).value ∧
    after (first.run left).value (first.run left).state (second.run right).state

/-- States that are related stay related, whatever the answer. -/
def Mirrors (first : Act σ α) (second : Act τ α) (relation : σ → τ → Prop) : Prop :=
  first.Matches second relation fun _ => relation

namespace Matches

variable {first : Act σ α} {second : Act τ α} {before before' : σ → τ → Prop}
  {after after' : α → σ → τ → Prop}

theorem mono (h : first.Matches second before after)
    (hbefore : ∀ left right, before' left right → before left right)
    (hafter : ∀ value left right, after value left right → after' value left right) :
    first.Matches second before' after' := by
  intro left right hrelated
  obtain ⟨hvalue, hstates⟩ := h left right (hbefore left right hrelated)
  exact ⟨hvalue, hafter _ _ _ hstates⟩

theorem pure {value : α} (h : ∀ left right, before left right → after value left right) :
    (Pure.pure value : Act σ α).Matches (Pure.pure value : Act τ α) before after :=
  fun left right hrelated => ⟨rfl, h left right hrelated⟩

theorem bind {next : α → Act σ β} {next' : α → Act τ β} {final : β → σ → τ → Prop}
    (h : first.Matches second before after)
    (hnext : ∀ value, (next value).Matches (next' value) (after value) final) :
    (first >>= next).Matches (second >>= next') before final := by
  intro left right hrelated
  obtain ⟨hvalue, hstates⟩ := h left right hrelated
  simp only [run_bind]
  rw [← hvalue]
  exact hnext _ _ _ hstates

theorem get {next : σ → Act σ β} {next' : τ → Act τ β} {final : β → σ → τ → Prop}
    (h : ∀ left right, before left right → (next left).Matches (next' right) before final) :
    (Act.get >>= next).Matches (Act.get >>= next') before final :=
  fun left right hrelated => h left right hrelated left right hrelated

theorem gets {read : σ → α} {read' : τ → α}
    (h : ∀ left right, before left right → read left = read' right ∧ after (read left) left right) :
    (Act.gets read).Matches (Act.gets read') before after :=
  h

theorem set {new : σ} {new' : τ} {final : Unit → σ → τ → Prop} (h : final () new new') :
    (Act.set new).Matches (Act.set new') before final :=
  fun _ _ _ => ⟨rfl, h⟩

theorem modify {change : σ → σ} {change' : τ → τ} {final : Unit → σ → τ → Prop}
    (h : ∀ left right, before left right → final () (change left) (change' right)) :
    (Act.modify change).Matches (Act.modify change') before final :=
  fun left right hrelated => ⟨rfl, h left right hrelated⟩

theorem log {severity severity' : Severity} {text text' : String} {final : Unit → σ → τ → Prop}
    (h : ∀ left right, before left right → final () left right) :
    (Act.log severity text).Matches (Act.log severity' text') before final :=
  fun left right hrelated => ⟨rfl, h left right hrelated⟩

theorem map {change : α → β} {final : β → σ → τ → Prop}
    (h : first.Matches second before fun value => final (change value)) :
    (change <$> first).Matches (change <$> second) before final := by
  intro left right hrelated
  obtain ⟨hvalue, hstates⟩ := h left right hrelated
  rw [run_map, run_map]
  exact ⟨congrArg change hvalue, hstates⟩

theorem ite {condition : Prop} [Decidable condition] {other : Act σ α} {other' : Act τ α}
    (h : condition → first.Matches second before after)
    (hother : ¬condition → other.Matches other' before after) :
    (if condition then first else other).Matches (if condition then second else other') before
      after := by
  by_cases hcondition : condition
  · rw [if_pos hcondition, if_pos hcondition]
    exact h hcondition
  · rw [if_neg hcondition, if_neg hcondition]
    exact hother hcondition

/-- Operations on parts that are related if the wholes are. -/
theorem focus {part : σ → σ'} {put : σ → σ' → σ} {part' : τ → τ'} {put' : τ → τ' → τ}
    {inner : Act σ' α} {inner' : Act τ' α} {parts : σ' → τ' → Prop} {left' : α → σ' → τ' → Prop}
    (h : inner.Matches inner' parts left')
    (hpart : ∀ left right, before left right → parts (part left) (part' right))
    (hput : ∀ left right, before left right → ∀ value now now', left' value now now' →
      after value (put left now) (put' right now')) :
    (Act.focus part put inner).Matches (Act.focus part' put' inner') before after := by
  intro left right hrelated
  obtain ⟨hvalue, hstates⟩ := h _ _ (hpart left right hrelated)
  exact ⟨hvalue, hput left right hrelated _ _ _ hstates⟩

end Matches

namespace Mirrors

variable {first : Act σ α} {second : Act τ α} {relation : σ → τ → Prop}

/-- An operation mirrors itself on equal states. -/
theorem refl (act : Act σ α) : act.Mirrors act Eq := by
  rintro left _ rfl
  exact ⟨rfl, rfl⟩

theorem pure (value : α) :
    (Pure.pure value : Act σ α).Mirrors (Pure.pure value : Act τ α) relation :=
  Matches.pure fun _ _ h => h

theorem bind {next : α → Act σ β} {next' : α → Act τ β} (h : first.Mirrors second relation)
    (hnext : ∀ value, (next value).Mirrors (next' value) relation) :
    (first >>= next).Mirrors (second >>= next') relation :=
  Matches.bind h hnext

theorem get {next : σ → Act σ β} {next' : τ → Act τ β}
    (h : ∀ left right, relation left right → (next left).Mirrors (next' right) relation) :
    (Act.get >>= next).Mirrors (Act.get >>= next') relation :=
  Matches.get h

theorem modify {change : σ → σ} {change' : τ → τ}
    (h : ∀ left right, relation left right → relation (change left) (change' right)) :
    (Act.modify change).Mirrors (Act.modify change') relation :=
  Matches.modify h

theorem log {severity severity' : Severity} {text text' : String} :
    (Act.log severity text).Mirrors (Act.log severity' text') relation :=
  Matches.log fun _ _ h => h

theorem map {change : α → β} (h : first.Mirrors second relation) :
    (change <$> first).Mirrors (change <$> second) relation :=
  Matches.map h

theorem ite {condition : Prop} [Decidable condition] {other : Act σ α} {other' : Act τ α}
    (h : condition → first.Mirrors second relation)
    (hother : ¬condition → other.Mirrors other' relation) :
    (if condition then first else other).Mirrors (if condition then second else other')
      relation :=
  Matches.ite h hother

end Mirrors

end Act

namespace Attempt

variable {ε δ σ τ σ' τ' α β : Type}

/-- After an answer the states are related by `after`, after a refusal by `refused`. -/
def Relates (after : α → σ → τ → Prop) (refused : σ → τ → Prop) (answer : Except ε α) (left : σ)
    (right : τ) : Prop :=
  match answer with
  | .ok value => after value left right
  | .error _ => refused left right

/-- From states that `before` relates, both are answered alike and leave states that `after`
relates, or are refused alike and leave states that `refused` relates. -/
def Matches (first : Attempt ε σ α) (second : Attempt ε τ α) (before : σ → τ → Prop)
    (after : α → σ → τ → Prop) (refused : σ → τ → Prop) : Prop :=
  first.act.Matches second.act before (Relates after refused)

/-- States that are related stay related, refused or not. -/
def Mirrors (first : Attempt ε σ α) (second : Attempt ε τ α) (relation : σ → τ → Prop) : Prop :=
  first.act.Mirrors second.act relation

namespace Matches

variable {first : Attempt ε σ α} {second : Attempt ε τ α} {before before' : σ → τ → Prop}
  {after after' : α → σ → τ → Prop} {refused refused' : σ → τ → Prop}

theorem mono (h : first.Matches second before after refused)
    (hbefore : ∀ left right, before' left right → before left right)
    (hafter : ∀ value left right, after value left right → after' value left right)
    (hrefused : ∀ left right, refused left right → refused' left right) :
    first.Matches second before' after' refused' := by
  refine Act.Matches.mono h hbefore fun answer left right hanswer => ?_
  cases answer with
  | ok value => exact hafter value left right hanswer
  | error error => exact hrefused left right hanswer

/-- Attempts match that are both answered with the same value. -/
theorem of_answers (h : ∀ left right, before left right → ∃ value next,
    first.Meets (fun now => now = left) (fun answer now => answer = value ∧ now = next)
      (fun _ _ => False) ∧
    second.Meets (fun now => now = right) (fun answer now => answer = value ∧ after value next now)
      fun _ _ => False) :
    first.Matches second before after refused := by
  intro left right hrelated
  obtain ⟨value, next, hfirst, hsecond⟩ := h left right hrelated
  have hleft : Settles _ _ (first.run left).value (first.run left).state := hfirst left rfl
  have hright : Settles _ _ (second.run right).value (second.run right).state := hsecond right rfl
  change (first.run left).value = (second.run right).value ∧
    Relates after refused (first.run left).value (first.run left).state (second.run right).state
  cases hanswer : (first.run left).value with
  | error error =>
    rw [hanswer] at hleft
    exact hleft.elim
  | ok answer =>
    cases hanswer' : (second.run right).value with
    | error error =>
      rw [hanswer'] at hright
      exact hright.elim
    | ok answer' =>
      rw [hanswer] at hleft
      rw [hanswer'] at hright
      obtain ⟨rfl, hnext⟩ := hleft
      obtain ⟨rfl, hafter⟩ := hright
      rw [hnext]
      exact ⟨rfl, hafter⟩

/-- Attempts that mirror each other match with one relation throughout. -/
theorem of_mirrors {relation : σ → τ → Prop} (h : first.Mirrors second relation) :
    first.Matches second relation (fun _ => relation) relation := by
  refine Act.Matches.mono (show first.act.Matches second.act relation fun _ => relation from h)
    (fun _ _ hrelated => hrelated) fun answer left right hrelated => ?_
  cases answer <;> exact hrelated

/-- What relates the states after answers and refusals alike relates them after the operation. -/
theorem act {relation : σ → τ → Prop}
    (h : first.Matches second before (fun _ => relation) relation) :
    first.act.Matches second.act before fun _ => relation := by
  refine Act.Matches.mono h (fun _ _ hrelated => hrelated) fun answer left right hrelated => ?_
  cases answer <;> exact hrelated

theorem pure {value : α} (h : ∀ left right, before left right → after value left right) :
    (Pure.pure value : Attempt ε σ α).Matches (Pure.pure value : Attempt ε τ α) before after
      refused :=
  fun left right hrelated => ⟨rfl, h left right hrelated⟩

theorem bind {next : α → Attempt ε σ β} {next' : α → Attempt ε τ β} {final : β → σ → τ → Prop}
    (h : first.Matches second before after refused)
    (hnext : ∀ value, (next value).Matches (next' value) (after value) final refused) :
    (first >>= next).Matches (second >>= next') before final refused := by
  intro left right hrelated
  obtain ⟨hvalue, hstates⟩ : (first.run left).value = (second.run right).value ∧
      Relates after refused (first.run left).value (first.run left).state
        (second.run right).state := h left right hrelated
  change ((first >>= next).run left).value = ((second >>= next').run right).value ∧
    Relates final refused ((first >>= next).run left).value ((first >>= next).run left).state
      ((second >>= next').run right).state
  cases hanswer : (first.run left).value with
  | ok value =>
    rw [run_bind_ok hanswer, run_bind_ok (hvalue.symm.trans hanswer)]
    rw [hanswer] at hstates
    exact hnext value _ _ hstates
  | error error =>
    rw [run_bind_error hanswer, run_bind_error (hvalue.symm.trans hanswer)]
    rw [hanswer] at hstates
    exact ⟨rfl, hstates⟩

/-- The rule for a sequence, with what relates the states in between. -/
theorem through (between : α → σ → τ → Prop) {next : α → Attempt ε σ β}
    {next' : α → Attempt ε τ β} {final : β → σ → τ → Prop}
    (h : first.Matches second before between refused)
    (hnext : ∀ value, (next value).Matches (next' value) (between value) final refused) :
    (first >>= next).Matches (second >>= next') before final refused :=
  bind h hnext

theorem lift {act : Act σ α} {act' : Act τ α} (h : act.Matches act' before after) :
    (Attempt.lift act : Attempt ε σ α).Matches (Attempt.lift act') before after refused :=
  Act.Matches.map h

/-- Going on with states that are known. -/
theorem get_of_eq {next : σ → Attempt ε σ β} {next' : τ → Attempt ε τ β} {final : β → σ → τ → Prop}
    (h : ∀ left right, before left right → (next left).Matches (next' right)
      (fun now now' => now = left ∧ now' = right) final refused) :
    (Attempt.get >>= next).Matches (Attempt.get >>= next') before final refused :=
  fun left right hrelated => h left right hrelated left right ⟨rfl, rfl⟩

theorem refuse {error : ε} (h : ∀ left right, before left right → refused left right) :
    (Attempt.refuse error : Attempt ε σ α).Matches (Attempt.refuse error) before after refused :=
  fun left right hrelated => ⟨rfl, h left right hrelated⟩

theorem log {severity severity' : Severity} {text text' : String} {final : Unit → σ → τ → Prop}
    (h : ∀ left right, before left right → final () left right) :
    (Attempt.log severity text : Attempt ε σ Unit).Matches (Attempt.log severity' text') before
      final refused :=
  lift (.log h)

/-- A finished answer changes no state. -/
theorem ofExcept {answer : Except ε α}
    (hafter : ∀ value, answer = .ok value → ∀ left right, before left right →
      after value left right)
    (hrefused : ∀ left right, before left right → refused left right) :
    (Attempt.ofExcept answer).Matches (Attempt.ofExcept answer) before after refused := by
  intro left right hrelated
  cases answer with
  | ok value => exact ⟨rfl, hafter value rfl left right hrelated⟩
  | error error => exact ⟨rfl, hrefused left right hrelated⟩

/-- A condition that does not look at the states may be taken as known. -/
theorem knowing {condition : Prop} (h : condition → first.Matches second before after refused) :
    first.Matches second (fun left right => condition ∧ before left right) after refused :=
  fun left right hrelated => h hrelated.1 left right hrelated.2

theorem answer {first : Attempt δ σ α} {second : Attempt δ τ α}
    {next : Except δ α → Attempt ε σ β} {next' : Except δ α → Attempt ε τ β}
    {final : β → σ → τ → Prop} {failed : σ → τ → Prop}
    (h : first.Matches second before after refused)
    (hok : ∀ value, (next (.ok value)).Matches (next' (.ok value)) (after value) final failed)
    (herror : ∀ error, (next (.error error)).Matches (next' (.error error)) refused final failed) :
    (Attempt.answer first >>= next).Matches (Attempt.answer second >>= next') before final
      failed := by
  refine bind (lift h) fun answer => ?_
  cases answer with
  | ok value => exact hok value
  | error error => exact herror error

theorem mapError {first : Attempt δ σ α} {second : Attempt δ τ α} (change : δ → ε)
    (h : first.Matches second before after refused) :
    (first.mapError change).Matches (second.mapError change) before after refused := by
  refine Act.Matches.map (Act.Matches.mono h (fun _ _ hrelated => hrelated)
    fun answer left right hanswer => ?_)
  cases answer <;> exact hanswer

theorem ite {condition : Prop} [Decidable condition] {other : Attempt ε σ α}
    {other' : Attempt ε τ α} (h : condition → first.Matches second before after refused)
    (hother : ¬condition → other.Matches other' before after refused) :
    (if condition then first else other).Matches (if condition then second else other') before
      after refused := by
  by_cases hcondition : condition
  · rw [if_pos hcondition, if_pos hcondition]
    exact h hcondition
  · rw [if_neg hcondition, if_neg hcondition]
    exact hother hcondition

/-- Attempts on parts that are related if the wholes are. -/
theorem focus {part : σ → σ'} {put : σ → σ' → σ} {part' : τ → τ'} {put' : τ → τ' → τ}
    {inner : Attempt ε σ' α} {inner' : Attempt ε τ' α} {parts failed : σ' → τ' → Prop}
    {left' : α → σ' → τ' → Prop} (h : inner.Matches inner' parts left' failed)
    (hpart : ∀ left right, before left right → parts (part left) (part' right))
    (hput : ∀ left right, before left right → ∀ value now now', left' value now now' →
      after value (put left now) (put' right now'))
    (hfailed : ∀ left right, before left right → ∀ now now', failed now now' →
      refused (put left now) (put' right now')) :
    (Attempt.focus part put inner).Matches (Attempt.focus part' put' inner') before after
      refused := by
  refine Act.Matches.focus h hpart fun left right hrelated answer now now' hstates => ?_
  cases answer with
  | ok value => exact hput left right hrelated value now now' hstates
  | error error => exact hfailed left right hrelated now now' hstates

end Matches

namespace Mirrors

variable {first : Attempt ε σ α} {second : Attempt ε τ α} {relation : σ → τ → Prop}

/-- Attempts that match with one relation throughout mirror each other. -/
theorem of_matches (h : first.Matches second relation (fun _ => relation) relation) :
    first.Mirrors second relation :=
  h.act

theorem pure (value : α) :
    (Pure.pure value : Attempt ε σ α).Mirrors (Pure.pure value : Attempt ε τ α) relation :=
  fun _ _ hrelated => ⟨rfl, hrelated⟩

theorem bind {next : α → Attempt ε σ β} {next' : α → Attempt ε τ β}
    (h : first.Mirrors second relation)
    (hnext : ∀ value, (next value).Mirrors (next' value) relation) :
    (first >>= next).Mirrors (second >>= next') relation :=
  of_matches (.bind (.of_mirrors h) fun value => .of_mirrors (hnext value))

theorem lift {act : Act σ α} {act' : Act τ α} (h : act.Mirrors act' relation) :
    (Attempt.lift act : Attempt ε σ α).Mirrors (Attempt.lift act') relation :=
  Act.Mirrors.map h

theorem get {next : σ → Attempt ε σ β} {next' : τ → Attempt ε τ β}
    (h : ∀ left right, relation left right → (next left).Mirrors (next' right) relation) :
    (Attempt.get >>= next).Mirrors (Attempt.get >>= next') relation :=
  fun left right hrelated => h left right hrelated left right hrelated

theorem answer {first : Attempt δ σ α} {second : Attempt δ τ α}
    (h : first.Mirrors second relation) :
    (Attempt.answer first : Attempt ε σ (Except δ α)).Mirrors (Attempt.answer second) relation :=
  lift h

theorem log {severity severity' : Severity} {text text' : String} :
    (Attempt.log severity text : Attempt ε σ Unit).Mirrors (Attempt.log severity' text')
      relation :=
  lift .log

theorem refuse (error : ε) :
    (Attempt.refuse error : Attempt ε σ α).Mirrors (Attempt.refuse error : Attempt ε τ α)
      relation :=
  fun _ _ hrelated => ⟨rfl, hrelated⟩

theorem ofExcept (answer : Except ε α) :
    (Attempt.ofExcept answer : Attempt ε σ α).Mirrors (Attempt.ofExcept answer : Attempt ε τ α)
      relation :=
  fun _ _ hrelated => ⟨rfl, hrelated⟩

theorem mapError {first : Attempt δ σ α} {second : Attempt δ τ α} (change : δ → ε)
    (h : first.Mirrors second relation) :
    (first.mapError change).Mirrors (second.mapError change) relation :=
  Act.Mirrors.map h

theorem ite {condition : Prop} [Decidable condition] {other : Attempt ε σ α}
    {other' : Attempt ε τ α} (h : condition → first.Mirrors second relation)
    (hother : ¬condition → other.Mirrors other' relation) :
    (if condition then first else other).Mirrors (if condition then second else other')
      relation :=
  .of_matches (.ite (fun hcondition => .of_mirrors (h hcondition))
    fun hcondition => .of_mirrors (hother hcondition))

end Mirrors

end Attempt

end Texel
