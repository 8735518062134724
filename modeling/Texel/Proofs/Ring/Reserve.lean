import Texel.Proofs.Alignment
import Texel.Proofs.Ring.Order

namespace Texel

namespace Ring

/-- The cursor moves forward, to room that the ring has. -/
theorem ordered_forward {ring : Ring} {start wraps : Nat} {reserved : Option Nat} (h : ring.Ordered)
    (hstart : start ≤ ring.capacity) (hahead : ring.ahead ring.cursor ≤ ring.ahead start)
    (hfits : ∀ size, reserved = some size →
      ({ ring with cursor := start, wraps, reserved } : Ring).Fits size) :
    ({ ring with cursor := start, wraps, reserved } : Ring).Ordered where
  read_le := h.read_le
  cursor_le := hstart
  tracked_le := h.tracked_le
  fences := h.fences
  positions := h.positions
  tracked_ahead entry hentry := Nat.le_trans (h.tracked_ahead entry hentry) hahead
  reserved_fits := hfits

/-- A region stays behind a cursor that moves forward. -/
theorem keeps_forward {ring : Ring} {start wraps first size : Nat} {reserved pending : Option Nat}
    (hahead : ring.ahead ring.cursor ≤ ring.ahead start) (h : ring.Keeps first size pending) :
    ({ ring with cursor := start, wraps, reserved } : Ring).Keeps first size pending where
  within := h.within
  before_cursor := Nat.le_trans h.before_cursor hahead
  after_tracked := h.after_tracked

/-- Starting again keeps positions in order. -/
theorem ordered_restart {ring : Ring} (h : ring.Ordered) : ring.restart.Ordered := by
  unfold restart
  split
  · next hidle =>
    refine ⟨Nat.zero_le _, Nat.zero_le _, h.tracked_le, h.fences, ?_, ?_, ?_⟩
    · simp [hidle.2]
    · simp [hidle.2]
    · intro size hsize
      have hfits := (h.reserved_fits size hsize).1
      exact ⟨by simp only; omega, fun hlt => absurd hlt (Nat.lt_irrefl 0)⟩
  · exact h

/-- Starting again moves the cursor to the beginning, if at all. -/
theorem restart_cursor_le (ring : Ring) : ring.restart.cursor ≤ ring.cursor := by
  unfold restart
  split
  · exact Nat.zero_le _
  · exact Nat.le_refl _

/-- A ring that keeps some bytes is not idle. -/
theorem restart_of_keeps {ring : Ring} {start size : Nat} {pending : Option Nat}
    (h : ring.Keeps start size pending) (hsize : 0 < size) : ring.restart = ring := by
  unfold restart
  split
  · next hidle =>
    have hbefore := h.before_cursor
    have hzero : ring.ahead ring.cursor = 0 := by
      simp only [ahead, hidle.1]
      split <;> omega
    omega
  · rfl

/-- A reservation found room where the cursor is aligned, on either side of the read position, or it
wrapped to the start of the ring. -/
theorem place?_eq_some {ring after : Ring} {size aligned : Nat}
    (h : ring.place? size aligned = some after) :
    ∃ start wraps, after = { ring with cursor := start, wraps, reserved := some size } ∧
      (start = aligned ∧ wraps = ring.wraps ∧
          (ring.readPosition ≤ ring.cursor ∧ start + size ≤ ring.capacity ∨
            ring.cursor < ring.readPosition ∧ start + size < ring.readPosition) ∨
        start = 0 ∧ wraps = ring.wraps + 1 ∧ ring.readPosition ≤ ring.cursor ∧
          size < ring.readPosition) := by
  unfold place? at h
  split at h
  · next hbehind =>
    split at h
    · next hend =>
      cases h
      exact ⟨_, _, rfl, .inl ⟨rfl, rfl, .inl ⟨hbehind, hend⟩⟩⟩
    · split at h
      · next hroom =>
        cases h
        exact ⟨_, _, rfl, .inr ⟨rfl, rfl, hbehind, hroom⟩⟩
      · cases h
  · next hahead =>
    split at h
    · next hroom =>
      cases h
      exact ⟨_, _, rfl, .inl ⟨rfl, rfl, .inr ⟨by omega, hroom⟩⟩⟩
    · cases h

/-- The room that was found ends within the ring. -/
theorem place?_within {ring after : Ring} {size aligned : Nat}
    (hread : ring.readPosition ≤ ring.capacity) (h : ring.place? size aligned = some after) :
    ∃ start wraps, after = { ring with cursor := start, wraps, reserved := some size } ∧
      start + size ≤ ring.capacity ∧ (start = aligned ∨ start = 0) := by
  obtain ⟨start, wraps, rfl, ⟨hstart, -, hroom⟩ | ⟨hstart, -, -, hroom⟩⟩ := place?_eq_some h
  · exact ⟨start, wraps, rfl, by omega, .inl hstart⟩
  · exact ⟨start, wraps, rfl, by omega, .inr hstart⟩

/-- Going on from a position that is not behind the cursor keeps the order round the ring. -/
theorem place?_ahead {ring after : Ring} {size aligned : Nat}
    (hread : ring.readPosition ≤ ring.capacity) (hcursor : ring.cursor ≤ ring.capacity)
    (haligned : ring.cursor ≤ aligned) (h : ring.place? size aligned = some after) :
    ∃ start wraps, after = { ring with cursor := start, wraps, reserved := some size } ∧
      ring.ahead ring.cursor ≤ ring.ahead start ∧ after.Fits size := by
  obtain ⟨start, wraps, rfl, hroom⟩ := place?_eq_some h
  refine ⟨start, wraps, rfl, ?_⟩
  simp only [ahead, Fits]
  obtain ⟨rfl, -, hroom⟩ | ⟨rfl, -, hside, hroom⟩ := hroom
  · split_ifs <;> omega
  · split_ifs <;> omega

/-- A request for room is granted, refused, or ends the program because the cursor cannot be
aligned. -/
theorem reserve_eq {ring : Ring} {size alignment : Nat} (hsize : size ≤ ring.capacity) :
    ring.reserve size alignment =
      match alignPlain? ring.restart.cursor alignment with
      | none => .abort
      | some start => (ring.restart.place? size start).elim .refused .granted :=
  if_neg (Nat.not_lt_of_le hsize)

/-- What is granted fits the ring and is placed at an aligned position. -/
theorem place?_of_reserve {ring after : Ring} {size alignment : Nat}
    (h : ring.reserve size alignment = .granted after) :
    size ≤ ring.capacity ∧ ∃ aligned, alignPlain? ring.restart.cursor alignment = some aligned ∧
      ring.restart.place? size aligned = some after := by
  rcases Nat.lt_or_ge ring.capacity size with hlarge | hsize
  · rw [reserve, if_pos hlarge] at h
    cases h
  rw [reserve_eq hsize] at h
  split at h
  · cases h
  · next aligned haligned =>
    cases hplace : ring.restart.place? size aligned with
    | none =>
      rw [hplace] at h
      cases h
    | some found =>
      rw [hplace] at h
      cases h
      exact ⟨hsize, aligned, haligned, hplace⟩

/-- The program ends at a request for room exactly if the ring could hold it and the cursor cannot
be aligned. -/
theorem reserve_eq_abort_iff {ring : Ring} {size alignment : Nat} :
    ring.reserve size alignment = .abort ↔
      size ≤ ring.capacity ∧ maxWord < ring.restart.cursor + alignment := by
  rcases Nat.lt_or_ge ring.capacity size with hlarge | hsize
  · rw [reserve, if_pos hlarge]
    simp only [reduceCtorEq, false_iff]
    omega
  rw [reserve_eq hsize, alignPlain?, alignWithin?]
  split
  · next hnone =>
    split at hnone
    · cases hnone
    · simp only [true_iff]
      omega
  · next start hstart =>
    split at hstart
    · have hplaced : (ring.restart.place? size start).elim Room.refused .granted ≠ .abort := by
        cases ring.restart.place? size start <;> simp
      simp only [hplaced, false_iff]
      omega
    · cases hstart

/-- A reservation is aligned, ends within the ring, and tracks nothing. -/
theorem reserve_spec {ring after : Ring} {size alignment : Nat}
    (hread : ring.readPosition ≤ ring.capacity)
    (h : ring.reserve size alignment = .granted after) :
    after.capacity = ring.capacity ∧ after.tracked = ring.tracked ∧
      after.reserved = some size ∧ after.cursor + size ≤ ring.capacity ∧
      (alignment.isPowerOfTwo → alignment ∣ after.cursor) := by
  obtain ⟨-, aligned, haligned, hplace⟩ := place?_of_reserve h
  have hkept : ring.restart.capacity = ring.capacity ∧ ring.restart.tracked = ring.tracked ∧
      ring.restart.readPosition ≤ ring.readPosition := by
    unfold restart
    split
    · exact ⟨rfl, rfl, Nat.zero_le _⟩
    · exact ⟨rfl, rfl, Nat.le_refl _⟩
  obtain ⟨hcapacity, htracked, hposition⟩ := hkept
  obtain ⟨start, wraps, rfl, hend, hstart⟩ := place?_within (by omega) hplace
  refine ⟨hcapacity, htracked, rfl, hcapacity ▸ hend, fun hpower => ?_⟩
  rcases hstart with rfl | rfl
  · obtain ⟨-, rfl⟩ := (alignPlain?_eq_some_iff hpower).mp haligned
    exact dvd_alignUp ring.restart.cursor alignment
  · exact Nat.dvd_zero alignment

section Ordered

variable {ring after : Ring} {size alignment : Nat} (hring : ring.Ordered)
  (hpower : alignment.isPowerOfTwo) (h : ring.reserve size alignment = .granted after)

include hring hpower h

/-- A reservation keeps positions in order. -/
theorem ordered_reserve : after.Ordered := by
  obtain ⟨-, aligned, haligned, hplace⟩ := place?_of_reserve h
  obtain ⟨-, rfl⟩ := (alignPlain?_eq_some_iff hpower).mp haligned
  have hbase := ordered_restart hring
  obtain ⟨start, wraps, rfl, hahead, hfits⟩ := place?_ahead hbase.read_le hbase.cursor_le
    (le_alignUp (Nat.pos_of_isPowerOfTwo hpower)) hplace
  refine ordered_forward hbase ?_ hahead ?_
  · have := hfits.1
    simp only at this
    omega
  · rintro reserved ⟨⟩
    exact hfits

/-- A reservation avoids every region that some work may still read. -/
theorem keeps_reserve {start count : Nat} {pending : Option Nat} (hcount : 0 < count)
    (hkeeps : ring.Keeps start count pending) : after.Keeps start count pending := by
  obtain ⟨-, aligned, haligned, hplace⟩ := place?_of_reserve h
  obtain ⟨-, rfl⟩ := (alignPlain?_eq_some_iff hpower).mp haligned
  rw [restart_of_keeps hkeeps hcount] at hplace
  obtain ⟨_, _, rfl, hahead, -⟩ := place?_ahead hring.read_le hring.cursor_le
    (le_alignUp (Nat.pos_of_isPowerOfTwo hpower)) hplace
  exact keeps_forward hahead hkeeps

end Ordered

/-- What is taken as written was reserved. -/
theorem commit?_eq_some {ring after : Ring} {size : Nat} (h : ring.commit? size = some after) :
    ∃ reserved, ring.reserved = some reserved ∧ size ≤ reserved ∧
      after = { ring with cursor := ring.cursor + size, reserved := none } := by
  unfold commit? at h
  split at h
  · next reserved hreserved =>
    split at h
    · next hsize =>
      cases h
      exact ⟨reserved, hreserved, hsize, rfl⟩
    · cases h
  · cases h

/-- Where much fits, less fits. -/
theorem Fits.mono {ring : Ring} {size room : Nat} (h : ring.Fits room) (hsize : size ≤ room) :
    ring.Fits size := by
  obtain ⟨hend, hbehind⟩ := h
  exact ⟨by omega, fun hlt => by have := hbehind hlt; omega⟩

/-- What is committed had room in the ring. -/
theorem fits_of_commit {ring after : Ring} {size : Nat} (hring : ring.Ordered)
    (h : ring.commit? size = some after) : ring.Fits size := by
  obtain ⟨reserved, hreserved, hsize, -⟩ := commit?_eq_some h
  exact (hring.reserved_fits reserved hreserved).mono hsize

/-- Taking what was written keeps positions in order. -/
theorem ordered_commit {ring after : Ring} {size : Nat} (hring : ring.Ordered)
    (h : ring.commit? size = some after) : after.Ordered := by
  have hfits := fits_of_commit hring h
  obtain ⟨_, _, _, rfl⟩ := commit?_eq_some h
  refine ordered_forward hring hfits.1 ?_ (fun _ hnone => nomatch hnone)
  rw [ahead_cursor_add hfits hring.read_le]
  omega

/-- Taking what was written keeps every region that some work may still read. -/
theorem keeps_commit {ring after : Ring} {size start count : Nat} {pending : Option Nat}
    (hring : ring.Ordered) (h : ring.commit? size = some after)
    (hkeeps : ring.Keeps start count pending) : after.Keeps start count pending := by
  have hfits := fits_of_commit hring h
  obtain ⟨_, _, _, rfl⟩ := commit?_eq_some h
  refine keeps_forward ?_ hkeeps
  rw [ahead_cursor_add hfits hring.read_le]
  omega

/-- The bytes just committed are kept for work that is not submitted yet. -/
theorem keeps_committed {ring after : Ring} {size : Nat} (hring : ring.Ordered)
    (h : ring.commit? size = some after) : after.Keeps ring.cursor size none := by
  have hfits := fits_of_commit hring h
  obtain ⟨_, _, _, rfl⟩ := commit?_eq_some h
  exact ⟨hfits.1, Nat.le_of_eq (ahead_cursor_add hfits hring.read_le).symm,
    fun entry hentry _ => hring.tracked_ahead entry hentry⟩

/-- A submission is tracked at the cursor, or it adds nothing. -/
theorem track_eq (ring : Ring) (fence : Nat) :
    ring.track fence = ring ∨
      ring.track fence = { ring with tracked := ring.tracked ++ [(fence, ring.cursor)] } := by
  unfold track
  split
  · split
    · exact .inl rfl
    · exact .inr rfl
  · next hlast =>
    have hnil := List.getLast?_eq_none_iff.mp hlast
    split
    · exact .inl rfl
    · exact .inr (by rw [hnil, List.nil_append])

/-- Tracking a submission keeps the capacity. -/
@[simp] theorem capacity_track (ring : Ring) (fence : Nat) :
    (ring.track fence).capacity = ring.capacity := by
  rcases track_eq ring fence with heq | heq <;> rw [heq]

/-- Tracking a submission leaves the cursor where it is. -/
@[simp] theorem cursor_track (ring : Ring) (fence : Nat) :
    (ring.track fence).cursor = ring.cursor := by
  rcases track_eq ring fence with heq | heq <;> rw [heq]

@[simp] theorem wraps_track (ring : Ring) (fence : Nat) :
    (ring.track fence).wraps = ring.wraps := by
  rcases track_eq ring fence with heq | heq <;> rw [heq]

/-- Tracking a submission keeps the reservation. -/
@[simp] theorem reserved_track (ring : Ring) (fence : Nat) :
    (ring.track fence).reserved = ring.reserved := by
  rcases track_eq ring fence with heq | heq <;> rw [heq]

/-- Nothing but the submission itself is tracked anew. -/
theorem mem_tracked_track {ring : Ring} {fence : Nat} {entry : Nat × Nat}
    (h : entry ∈ (ring.track fence).tracked) : entry ∈ ring.tracked ∨ entry.1 = fence := by
  rcases track_eq ring fence with heq | heq <;> rw [heq] at h
  · exact .inl h
  · rcases List.mem_append.mp h with hold | hnew
    · exact .inl hold
    · rw [List.mem_singleton.mp hnew]
      exact .inr rfl

/-- A later submission than all before it keeps positions in order. -/
theorem ordered_track {ring : Ring} {fence : Nat} (h : ring.Ordered)
    (hfence : ∀ entry ∈ ring.tracked, entry.1 < fence) : (ring.track fence).Ordered := by
  rcases track_eq ring fence with heq | heq
  · rwa [heq]
  · rw [heq]
    refine ⟨h.read_le, h.cursor_le, ?_, ?_, ?_, ?_, h.reserved_fits⟩
    · intro entry hentry
      rcases List.mem_append.mp hentry with hold | hnew
      · exact h.tracked_le entry hold
      · rw [List.mem_singleton.mp hnew]
        exact h.cursor_le
    · refine List.pairwise_append.mpr ⟨h.fences, List.pairwise_singleton .., ?_⟩
      intro entry hentry last hlast
      rw [List.mem_singleton.mp hlast]
      exact hfence entry hentry
    · refine List.pairwise_append.mpr ⟨h.positions, List.pairwise_singleton .., ?_⟩
      intro entry hentry last hlast
      rw [List.mem_singleton.mp hlast]
      exact h.tracked_ahead entry hentry
    · intro entry hentry
      rcases List.mem_append.mp hentry with hold | hnew
      · exact h.tracked_ahead entry hold
      · obtain rfl := List.mem_singleton.mp hnew
        exact Nat.le_refl _

/-- A submission reads everything that was not submitted before, also one that the ring does not
remember because the cursor has not moved. -/
theorem keeps_track {ring : Ring} {fence start size : Nat} {pending : Option Nat}
    (hpending : ∀ earlier, pending = some earlier → earlier ≤ fence)
    (h : ring.Keeps start size pending) :
    (ring.track fence).Keeps start size (some (pending.getD fence)) := by
  have holder : ∀ entry ∈ ring.tracked, entry.1 < pending.getD fence →
      ring.ahead entry.2 ≤ ring.ahead start := by
    intro entry hentry hlt
    apply h.after_tracked entry hentry
    rintro later rfl
    exact hlt
  rcases track_eq ring fence with heq | heq
  · rw [heq]
    exact ⟨h.within, h.before_cursor, fun entry hentry hlt => holder entry hentry (hlt _ rfl)⟩
  · rw [heq]
    refine ⟨h.within, h.before_cursor, fun entry hentry hlt => ?_⟩
    have hlt := hlt _ rfl
    rcases List.mem_append.mp hentry with hold | hnew
    · exact holder entry hold hlt
    · rw [List.mem_singleton.mp hnew] at hlt
      cases pending with
      | none => exact absurd hlt (Nat.lt_irrefl fence)
      | some earlier =>
        have := hpending earlier rfl
        simp only [Option.getD_some] at hlt
        omega

end Ring

end Texel
