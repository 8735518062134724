import Texel.Proofs.Ring.Reserve

namespace Texel

namespace Ring

/-- The ring covers `size` bytes, and every position in use and all that is reserved lies within
them. -/
structure Inside (ring : Ring) (size : Nat) : Prop where
  capacity : ring.capacity = size
  read_le : ring.readPosition ≤ size
  cursor_le : ring.cursor ≤ size
  tracked_le : ∀ entry ∈ ring.tracked, entry.2 ≤ size
  reserved_le : ∀ reserved, ring.reserved = some reserved → ring.cursor + reserved ≤ size

variable {ring after : Ring} {size : Nat}

/-- A ring that was never used. -/
theorem inside_empty (capacity : Nat) : Inside { capacity } capacity where
  capacity := rfl
  read_le := Nat.zero_le _
  cursor_le := Nat.zero_le _
  tracked_le := by simp
  reserved_le := by simp

/-- Starting again leads to positions within the memory. -/
theorem inside_restart (h : ring.Inside size) : ring.restart.Inside size := by
  unfold restart
  split
  · refine ⟨h.capacity, Nat.zero_le _, Nat.zero_le _, h.tracked_le, fun reserved hreserved => ?_⟩
    have := h.reserved_le reserved hreserved
    simp only
    omega
  · exact h

/-- A reservation that is granted lies within the memory. -/
theorem inside_reserve {count alignment : Nat} (h : ring.Inside size)
    (hreserve : ring.reserve count alignment = .granted after) :
    after.Inside size ∧ after.reserved = some count := by
  obtain ⟨-, _, -, hplace⟩ := place?_of_reserve hreserve
  have hbase := inside_restart h
  obtain ⟨start, wraps, rfl, hend, -⟩ := place?_within (hbase.capacity ▸ hbase.read_le) hplace
  rw [hbase.capacity] at hend
  refine ⟨⟨hbase.capacity, hbase.read_le, ?_, hbase.tracked_le, ?_⟩, rfl⟩
  · simp only
    omega
  · rintro reserved ⟨⟩
    exact hend

/-- Taking what was written moves the cursor no further than the reservation. -/
theorem inside_commit {count : Nat} (h : ring.Inside size)
    (hcommit : ring.commit? count = some after) : after.Inside size := by
  obtain ⟨reserved, hreserved, hcount, rfl⟩ := commit?_eq_some hcommit
  have hend := h.reserved_le reserved hreserved
  refine ⟨h.capacity, h.read_le, ?_, h.tracked_le, by simp⟩
  simp only
  omega

/-- A submission remembers a position within the memory. -/
theorem inside_track (h : ring.Inside size) (fence : Nat) : (ring.track fence).Inside size := by
  rcases track_eq ring fence with heq | heq
  · rwa [heq]
  · rw [heq]
    refine ⟨h.capacity, h.read_le, h.cursor_le, fun entry hentry => ?_, h.reserved_le⟩
    rcases List.mem_append.mp hentry with hold | hnew
    · exact h.tracked_le entry hold
    · rw [List.mem_singleton.mp hnew]
      exact h.cursor_le

/-- The read position follows positions within the memory. -/
theorem inside_reclaim (h : ring.Inside size) (completed : Nat) :
    (ring.reclaim completed).Inside size := by
  refine reclaim_induction (motive := fun ring => ring.Inside size) ?_ ring h
  intro ring fence position rest htracked _ hring
  have htracked_le := hring.tracked_le
  rw [htracked, List.forall_mem_cons] at htracked_le
  exact ⟨hring.capacity, htracked_le.1, hring.cursor_le, htracked_le.2, hring.reserved_le⟩

end Ring

end Texel
