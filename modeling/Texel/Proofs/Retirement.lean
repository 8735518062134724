import Texel.Retirement
import Mathlib.Data.List.TakeWhile

namespace Texel

namespace RetirementQueue

/-- A call on a queue. -/
inductive Call where
  | retire (item : Retired) (fence : Nat)
  | reap (completed : Nat)
  | drain
  deriving DecidableEq, Repr

/-- The entry that a call adds. -/
def Call.entry? : Call → Option (Nat × Retired)
  | .retire item fence => some (fence, item)
  | _ => none

/-- The entries that calls add, in order. -/
def retiredBy (calls : List Call) : List (Nat × Retired) := calls.filterMap Call.entry?

/-- What a sequence of calls retires, call by call. -/
theorem retiredBy_cons (call : Call) (rest : List Call) :
    retiredBy (call :: rest) = call.entry?.toList ++ retiredBy rest := by
  cases call <;> rfl

/-- Items that are retired one after the other under one fence. -/
theorem retiredBy_retire (items : List Retired) (fence : Nat) :
    retiredBy (items.map fun item => .retire item fence) = items.map fun item => (fence, item) := by
  simp [retiredBy, Call.entry?, List.filterMap_map, Function.comp_def]

/-- Entries whose fences never decrease. -/
def InOrder (entries : List (Nat × Retired)) : Prop :=
  entries.Pairwise fun first second => first.1 ≤ second.1

instance (entries : List (Nat × Retired)) : Decidable (InOrder entries) :=
  inferInstanceAs (Decidable (entries.Pairwise _))

/-- A queue with all that it has given back. -/
structure Account where
  queue : RetirementQueue := {}
  returned : List Retired := []
  deriving DecidableEq, Repr

namespace Account

/-- What a reap or a drain has given back is remembered. -/
def giveBack (account : Account) (given : List Retired × RetirementQueue) : Account :=
  ⟨given.2, account.returned ++ given.1⟩

/-- The account after a call. -/
def call (account : Account) : Call → Account
  | .retire item fence => { account with queue := account.queue.retire item fence }
  | .reap completed => account.giveBack (account.queue.reap completed)
  | .drain => account.giveBack account.queue.drain

/-- The account after a sequence of calls. -/
def run (account : Account) (calls : List Call) : Account := calls.foldl call account

/-- Retiring puts items at the end of the queue and gives nothing back. -/
theorem run_retire (account : Account) (items : List Retired) (fence : Nat) :
    account.run (items.map fun item => .retire item fence) =
      { account with
        queue := ⟨account.queue.entries ++ items.map fun item => (fence, item)⟩ } := by
  induction items generalizing account with
  | nil => simp [run]
  | cons item rest ih =>
    have hrest := ih (account.call (.retire item fence))
    simp only [call, retire, List.append_assoc, List.singleton_append] at hrest
    exact hrest

/-- Of all entries that were added some have been given back, and all later ones are queued. -/
def Balances (account : Account) (entries : List (Nat × Retired)) : Prop :=
  ∃ gone, entries = gone ++ account.queue.entries ∧ account.returned = gone.map Prod.snd

variable {account : Account} {entries : List (Nat × Retired)}

/-- A queue that was never used balances. -/
theorem balances_empty : ({} : Account).Balances [] := ⟨[], rfl, rfl⟩

/-- What was given back and what is still queued are together what was retired, in order. -/
theorem Balances.conserves (h : account.Balances entries) :
    account.returned ++ account.queue.entries.map Prod.snd = entries.map Prod.snd := by
  obtain ⟨gone, rfl, hreturned⟩ := h
  rw [hreturned, List.map_append]

/-- The queue is in the order of its fences if what was retired came in that order. -/
theorem Balances.inOrder (h : account.Balances entries) (horder : InOrder entries) :
    InOrder account.queue.entries := by
  obtain ⟨gone, rfl, -⟩ := h
  exact (List.pairwise_append.mp horder).2.1

/-- What is given back comes off the front of the queue. -/
theorem Balances.giveBack (h : account.Balances entries) {front : List (Nat × Retired)}
    {queue : RetirementQueue} (hfront : account.queue.entries = front ++ queue.entries) :
    (account.giveBack (front.map Prod.snd, queue)).Balances entries := by
  obtain ⟨gone, rfl, hreturned⟩ := h
  refine ⟨gone ++ front, ?_, ?_⟩
  · rw [hfront]
    exact (List.append_assoc ..).symm
  · simp only [Account.giveBack, hreturned, List.map_append]

/-- Every call keeps the balance. -/
theorem balances_call (call : Call) (h : account.Balances entries) :
    (account.call call).Balances (entries ++ call.entry?.toList) := by
  cases call with
  | retire item fence =>
    obtain ⟨gone, rfl, hreturned⟩ := h
    exact ⟨gone, List.append_assoc .., hreturned⟩
  | reap completed =>
    simp only [Call.entry?, Option.toList_none, List.append_nil]
    exact h.giveBack List.takeWhile_append_dropWhile.symm
  | drain =>
    simp only [Call.entry?, Option.toList_none, List.append_nil]
    exact h.giveBack (List.append_nil _).symm

/-- So does every sequence of calls. -/
theorem balances_run (calls : List Call) (h : account.Balances entries) :
    (account.run calls).Balances (entries ++ retiredBy calls) := by
  induction calls generalizing account entries with
  | nil =>
    rw [retiredBy, List.filterMap_nil, List.append_nil]
    exact h
  | cons call rest ih =>
    have hrest := ih (balances_call call h)
    rw [List.append_assoc, ← retiredBy_cons] at hrest
    exact hrest

end Account

/-- In a queue with fences in order, nothing that is left behind has completed. -/
theorem lt_of_mem_dropWhile {entries : List (Nat × Retired)} {completed : Nat}
    (horder : InOrder entries) {entry : Nat × Retired}
    (h : entry ∈ entries.dropWhile fun entry => entry.1 ≤ completed) : completed < entry.1 := by
  induction entries with
  | nil => cases h
  | cons first rest ih =>
    obtain ⟨hfirst, hrest⟩ := List.pairwise_cons.mp horder
    by_cases hdue : first.1 ≤ completed
    · rw [List.dropWhile_cons_of_pos (by simpa using hdue)] at h
      exact ih hrest h
    · rw [List.dropWhile_cons_of_neg (by simpa using hdue)] at h
      rcases List.mem_cons.mp h with rfl | hlater
      · exact Nat.lt_of_not_le hdue
      · exact Nat.lt_of_lt_of_le (Nat.lt_of_not_le hdue) (hfirst entry hlater)

/-- A queue that falls into a part that is due and a part that waits is reaped where they meet. -/
theorem reap_of_split {queue : RetirementQueue} {completed : Nat}
    {front rest : List (Nat × Retired)} (h : queue.entries = front ++ rest)
    (hdue : ∀ entry ∈ front, entry.1 ≤ completed) (hwaits : ∀ entry ∈ rest, completed < entry.1) :
    queue.reap completed = (front.map Prod.snd, ⟨rest⟩) := by
  have hfront : ∀ entry ∈ front, decide (entry.1 ≤ completed) = true := by simpa using hdue
  have htake : rest.takeWhile (fun entry => entry.1 ≤ completed) = [] := by
    cases rest with
    | nil => rfl
    | cons first later =>
      have hfirst := hwaits first List.mem_cons_self
      exact List.takeWhile_cons_of_neg (by simpa using hfirst)
  have hdrop : rest.dropWhile (fun entry => entry.1 ≤ completed) = rest := by
    cases rest with
    | nil => rfl
    | cons first later =>
      have hfirst := hwaits first List.mem_cons_self
      exact List.dropWhile_cons_of_neg (by simpa using hfirst)
  unfold reap
  rw [h, List.takeWhile_append_of_pos hfront, List.dropWhile_append_of_pos hfront, htake, hdrop,
    List.append_nil]

/-- In order, the part that is due is all that is due. -/
theorem reap_of_inOrder {queue : RetirementQueue} (completed : Nat)
    (h : InOrder queue.entries) :
    queue.reap completed =
      ((queue.entries.filter fun entry => entry.1 ≤ completed).map Prod.snd,
        ⟨queue.entries.filter fun entry => completed < entry.1⟩) := by
  have hdue : ∀ entry ∈ queue.entries.takeWhile fun entry => entry.1 ≤ completed,
      entry.1 ≤ completed := fun entry hentry => by simpa using List.mem_takeWhile_imp hentry
  have hwaits : ∀ entry ∈ queue.entries.dropWhile fun entry => entry.1 ≤ completed,
      completed < entry.1 := fun entry hentry => lt_of_mem_dropWhile h hentry
  have hsplit : queue.entries = queue.entries.takeWhile (fun entry => entry.1 ≤ completed) ++
      queue.entries.dropWhile fun entry => entry.1 ≤ completed :=
    List.takeWhile_append_dropWhile.symm
  generalize queue.entries.takeWhile (fun entry => entry.1 ≤ completed) = front at hdue hsplit
  generalize queue.entries.dropWhile (fun entry => entry.1 ≤ completed) = rest at hwaits hsplit
  have hnone : ∀ entry ∈ rest, ¬ entry.1 ≤ completed := fun entry hentry =>
    Nat.not_le_of_lt (hwaits entry hentry)
  have hnone' : ∀ entry ∈ front, ¬ completed < entry.1 := fun entry hentry =>
    Nat.not_lt_of_le (hdue entry hentry)
  rw [reap_of_split hsplit hdue hwaits, hsplit, List.filter_append, List.filter_append,
    List.filter_eq_self.mpr (by simpa using hdue),
    List.filter_eq_nil_iff.mpr (by simpa using hnone),
    List.filter_eq_nil_iff.mpr (by simpa using hnone'),
    List.filter_eq_self.mpr (by simpa using hwaits), List.append_nil, List.nil_append]

/-- Whatever was called on a queue before, if the fences that items were retired with never
decrease: a reap gives back exactly the items whose fences have completed, in the order in which
they were retired, and keeps exactly the others. All that was given back followed by what is queued
is all that was retired. -/
theorem reaps_what_is_due (calls : List Call) (horder : InOrder (retiredBy calls)) :
    let now := ({} : Account).run calls
    (∀ completed, now.queue.reap completed =
      ((now.queue.entries.filter fun entry => entry.1 ≤ completed).map Prod.snd,
        ⟨now.queue.entries.filter fun entry => completed < entry.1⟩)) ∧
    now.returned ++ now.queue.entries.map Prod.snd = (retiredBy calls).map Prod.snd := by
  intro now
  have hbalances : now.Balances (retiredBy calls) :=
    Account.balances_run calls Account.balances_empty
  exact ⟨fun completed => reap_of_inOrder completed (hbalances.inOrder horder),
    hbalances.conserves⟩

end RetirementQueue

end Texel
