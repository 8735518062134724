import Texel.Ring
import Mathlib.Tactic.SplitIfs

namespace Texel

namespace Ring

/-- How far a position lies ahead of the read position. One step more than the capacity makes a full
turn, so that the end of the ring and its start are different positions. -/
def ahead (ring : Ring) (position : Nat) : Nat :=
  if position < ring.readPosition then position + (ring.capacity + 1) - ring.readPosition
  else position - ring.readPosition

/-- Room for `size` bytes at the cursor that reaches neither the end of the ring nor, behind the
read position, the read position itself. -/
def Fits (ring : Ring) (size : Nat) : Prop :=
  ring.cursor + size ≤ ring.capacity ∧
    (ring.cursor < ring.readPosition → ring.cursor + size < ring.readPosition)

/-- The positions of a ring go round it at most once: the read position, the tracked positions from
the oldest on, and the cursor. An outstanding reservation fits behind all of them. -/
structure Ordered (ring : Ring) : Prop where
  read_le : ring.readPosition ≤ ring.capacity
  cursor_le : ring.cursor ≤ ring.capacity
  tracked_le : ∀ entry ∈ ring.tracked, entry.2 ≤ ring.capacity
  fences : ring.tracked.Pairwise fun first second => first.1 < second.1
  positions : ring.tracked.Pairwise fun first second => ring.ahead first.2 ≤ ring.ahead second.2
  tracked_ahead : ∀ entry ∈ ring.tracked, ring.ahead entry.2 ≤ ring.ahead ring.cursor
  reserved_fits : ∀ size, ring.reserved = some size → ring.Fits size

/-- The ring keeps the bytes from `start` on for work that reads them. The work signals `fence`, or
is not submitted yet: what lies between the read position and the region then includes every
tracked position. -/
structure Keeps (ring : Ring) (start size : Nat) (fence : Option Nat) : Prop where
  within : start + size ≤ ring.capacity
  before_cursor : ring.ahead start + size ≤ ring.ahead ring.cursor
  after_tracked : ∀ entry ∈ ring.tracked, (∀ later, fence = some later → entry.1 < later) →
    ring.ahead entry.2 ≤ ring.ahead start

/-- A ring that was never used is in order. -/
theorem ordered_empty (capacity : Nat) : Ordered { capacity } where
  read_le := Nat.zero_le _
  cursor_le := Nat.zero_le _
  tracked_le := by simp
  fences := .nil
  positions := .nil
  tracked_ahead := by simp
  reserved_fits := by simp

/-- The oldest fence has passed: the read position moves to where the cursor was then. -/
def advance (ring : Ring) (position : Nat) (rest : List (Nat × Nat)) : Ring :=
  { ring with readPosition := position, tracked := rest }

/-- The read position moves on its own. -/
@[simp] theorem cursor_advance (ring : Ring) (position : Nat) (rest : List (Nat × Nat)) :
    (ring.advance position rest).cursor = ring.cursor :=
  rfl

/-- When the read position moves forward to `position`, every position ahead of that one comes
closer by the same distance. -/
theorem ahead_advance (ring : Ring) {position other : Nat} (rest : List (Nat × Nat))
    (hread : ring.readPosition ≤ ring.capacity) (hposition : position ≤ ring.capacity)
    (hother : other ≤ ring.capacity) (h : ring.ahead position ≤ ring.ahead other) :
    (ring.advance position rest).ahead other + ring.ahead position = ring.ahead other := by
  have hmoved : (ring.advance position rest).ahead other =
      if other < position then other + (ring.capacity + 1) - position else other - position := rfl
  rw [hmoved]
  simp only [ahead] at h ⊢
  split_ifs at h ⊢ <;> omega

/-- The cursor moves forward within the room that a reservation has found. -/
theorem ahead_cursor_add {ring : Ring} {size : Nat} (h : ring.Fits size)
    (hread : ring.readPosition ≤ ring.capacity) :
    ring.ahead (ring.cursor + size) = ring.ahead ring.cursor + size := by
  obtain ⟨_, hbehind⟩ := h
  simp only [ahead]
  split_ifs <;> omega

/-- A region that is kept does not overlap the room at the cursor. -/
theorem Keeps.disjoint {ring : Ring} {start size room : Nat} {fence : Option Nat}
    (h : ring.Keeps start size fence) (hroom : ring.Fits room)
    (hread : ring.readPosition ≤ ring.capacity) (hsize : 0 < size) :
    start + size ≤ ring.cursor ∨ ring.cursor + room ≤ start := by
  obtain ⟨_, hbehind⟩ := hroom
  have hwithin := h.within
  have hbefore := h.before_cursor
  simp only [ahead] at hbefore
  split_ifs at hbefore <;> omega

/-- With nothing tracked there is nothing to get back. -/
theorem reclaim_of_tracked_nil {ring : Ring} (h : ring.tracked = []) (completed : Nat) :
    ring.reclaim completed = ring := by
  cases ring
  simp only at h
  subst h
  rfl

/-- The read position follows a submission that has completed, and then the next ones. -/
theorem reclaim_of_passed {ring : Ring} {fence position completed : Nat}
    {rest : List (Nat × Nat)} (h : ring.tracked = (fence, position) :: rest)
    (hfence : fence ≤ completed) :
    ring.reclaim completed = (ring.advance position rest).reclaim completed := by
  simp only [reclaim, advance, h, passed, if_pos hfence]

/-- A submission that has not completed holds up all behind it. -/
theorem reclaim_of_pending {ring : Ring} {fence position completed : Nat}
    {rest : List (Nat × Nat)} (h : ring.tracked = (fence, position) :: rest)
    (hfence : ¬ fence ≤ completed) : ring.reclaim completed = ring := by
  cases ring
  simp only at h
  subst h
  simp only [reclaim, passed, if_neg hfence]

/-- Reclaiming is a chain of advances past fences that have completed. -/
theorem reclaim_induction {motive : Ring → Prop} {completed : Nat}
    (hadvance : ∀ ring fence position rest, ring.tracked = (fence, position) :: rest →
      fence ≤ completed → motive ring → motive (ring.advance position rest))
    (ring : Ring) (h : motive ring) : motive (ring.reclaim completed) := by
  generalize htracked : ring.tracked = tracked
  induction tracked generalizing ring with
  | nil => rwa [reclaim_of_tracked_nil htracked]
  | cons entry rest ih =>
    obtain ⟨fence, position⟩ := entry
    by_cases hfence : fence ≤ completed
    · rw [reclaim_of_passed htracked hfence]
      exact ih _ (hadvance ring fence position rest htracked hfence h) rfl
    · rwa [reclaim_of_pending htracked hfence]

/-- Getting space back tracks nothing new. -/
theorem mem_tracked_reclaim {ring : Ring} {completed : Nat} {entry : Nat × Nat}
    (h : entry ∈ (ring.reclaim completed).tracked) : entry ∈ ring.tracked := by
  refine reclaim_induction (motive := fun after => ∀ other ∈ after.tracked,
    other ∈ ring.tracked) ?_ ring (fun _ hother => hother) entry h
  intro after fence position rest htracked _ hafter other hother
  exact hafter other (htracked ▸ List.mem_cons_of_mem _ hother)

/-- Positions stay in order when the read position follows the first of them. -/
theorem ordered_advance {ring : Ring} {fence position : Nat} {rest : List (Nat × Nat)}
    (h : ring.Ordered) (htracked : ring.tracked = (fence, position) :: rest) :
    (ring.advance position rest).Ordered := by
  obtain ⟨hread, hcursor, hle, hfences, hpositions, hahead, hreserved⟩ := h
  rw [htracked] at hle hfences hpositions hahead
  have hposition : position ≤ ring.capacity := hle (fence, position) (by simp)
  have hcloser {other : Nat} (hother : other ≤ ring.capacity) :=
    ahead_advance ring rest hread hposition hother
  have hrest : ∀ entry ∈ rest, (ring.advance position rest).ahead entry.2 + ring.ahead position =
      ring.ahead entry.2 := fun entry hentry =>
    hcloser (hle entry (List.mem_cons_of_mem _ hentry))
      (List.rel_of_pairwise_cons hpositions hentry)
  have hlast : (ring.advance position rest).ahead ring.cursor + ring.ahead position =
      ring.ahead ring.cursor := hcloser hcursor (hahead (fence, position) (by simp))
  refine ⟨hposition, hcursor, fun entry hentry => hle entry (List.mem_cons_of_mem _ hentry),
    hfences.of_cons, ?_, ?_, ?_⟩
  · refine hpositions.of_cons.imp_of_mem fun {first second} hfirst hsecond hle => ?_
    have := hrest first hfirst
    have := hrest second hsecond
    omega
  · intro entry hentry
    have := hrest entry hentry
    have := hahead entry (List.mem_cons_of_mem _ hentry)
    simp only [cursor_advance]
    omega
  · intro size hsize
    obtain ⟨hend, hbehind⟩ := hreserved size hsize
    have hclose := hahead (fence, position) (by simp)
    refine ⟨hend, fun hlt => ?_⟩
    simp only [advance, ahead] at hlt hclose ⊢
    split_ifs at hclose <;> omega

/-- A region of later work stays behind the cursor when the read position follows earlier work. -/
theorem keeps_advance {ring : Ring} {fence position start size : Nat} {rest : List (Nat × Nat)}
    {pending : Option Nat} (h : ring.Ordered) (htracked : ring.tracked = (fence, position) :: rest)
    (hpending : ∀ later, pending = some later → fence < later)
    (hkeeps : ring.Keeps start size pending) :
    (ring.advance position rest).Keeps start size pending := by
  obtain ⟨hwithin, hbefore, hafter⟩ := hkeeps
  have hmem : (fence, position) ∈ ring.tracked := by simp [htracked]
  have hposition : position ≤ ring.capacity := h.tracked_le _ hmem
  have hcloser {other : Nat} (hother : other ≤ ring.capacity) :=
    ahead_advance ring rest h.read_le hposition hother
  have hstart := hcloser (by omega) (hafter _ hmem hpending)
  have hcursor := hcloser h.cursor_le (h.tracked_ahead _ hmem)
  refine ⟨hwithin, ?_, ?_⟩
  · simp only [cursor_advance]
    omega
  · intro entry hentry hlater
    have hold : entry ∈ ring.tracked := by
      rw [htracked]
      exact List.mem_cons_of_mem _ hentry
    have hpositions := h.positions
    rw [htracked] at hpositions
    have hfurther := hcloser (h.tracked_le _ hold) (List.rel_of_pairwise_cons hpositions hentry)
    have := hafter entry hold hlater
    omega

/-- Getting space back keeps positions in order. -/
theorem ordered_reclaim {ring : Ring} (h : ring.Ordered) (completed : Nat) :
    (ring.reclaim completed).Ordered :=
  reclaim_induction (motive := Ordered)
    (fun _ _ _ _ htracked _ hring => ordered_advance hring htracked) ring h

/-- Work whose fence has not completed keeps what it reads. -/
theorem keeps_reclaim {ring : Ring} {start size completed : Nat} {pending : Option Nat}
    (h : ring.Ordered) (hpending : ∀ later, pending = some later → completed < later)
    (hkeeps : ring.Keeps start size pending) :
    (ring.reclaim completed).Keeps start size pending := by
  refine (reclaim_induction (motive := fun ring => ring.Ordered ∧ ring.Keeps start size pending)
    ?_ ring ⟨h, hkeeps⟩).2
  rintro ring fence position rest htracked hfence ⟨hordered, hring⟩
  refine ⟨ordered_advance hordered htracked, keeps_advance hordered htracked ?_ hring⟩
  intro later hlater
  have := hpending later hlater
  omega

end Ring

end Texel
