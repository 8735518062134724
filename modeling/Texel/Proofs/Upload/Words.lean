import Texel.Proofs.Upload.Layout

namespace Texel

/-- The value, if it fits that many bits. -/
def fit? (bits value : Nat) : Option Nat :=
  if value < 2 ^ bits then some value else none

/-- What fits comes out as it is. -/
theorem fit?_eq_some {bits value : Nat} (h : value < 2 ^ bits) : fit? bits value = some value :=
  if_pos h

/-- What fits 32 bits comes out as it is. -/
theorem fit?_word {value : Nat} (h : value ≤ maxWord) : fit? 32 value = some value :=
  fit?_eq_some (Nat.lt_succ_of_le h)

/-- In 32 bits a value comes out exactly if it is no larger than the largest word. -/
theorem fit?_word_eq (value : Nat) : fit? 32 value = if value ≤ maxWord then some value else none :=
  if_congr Nat.lt_succ_iff rfl rfl

/-- The product of two words and one more word fit 64 bits. -/
theorem mul_add_lt_two_pow {first second third : Nat} (hfirst : first ≤ maxWord)
    (hsecond : second ≤ maxWord) (hthird : third ≤ maxWord) :
    first * second + third < 2 ^ 64 := by
  have hproduct : first * second ≤ maxWord * maxWord := Nat.mul_le_mul hfirst hsecond
  unfold maxWord at hproduct hthird
  omega

/-- The product of two words fits 64 bits. -/
theorem mul_lt_two_pow {first second : Nat} (hfirst : first ≤ maxWord)
    (hsecond : second ≤ maxWord) : first * second < 2 ^ 64 :=
  mul_add_lt_two_pow hfirst hsecond (Nat.zero_le _)

namespace UploadLayout

/-- `uploadSize` in 64 bits. -/
def uploadSize? (layout : UploadLayout) : Option Nat :=
  fit? 64 (layout.uploadPitch * layout.region.height)

/-- `requiredSource` in 64 bits. -/
def requiredSource? (layout : UploadLayout) : Option Nat :=
  if layout.region.height = 0 then some 0
  else do
    let rows ← fit? 64 ((layout.region.height - 1) * layout.sourcePitch)
    fit? 64 (rows + layout.rowBytes)

/-- The numbers of an upload are computed exactly, each in its own word. A size below the capacity
of a stream buffer is also exact in the 32 bits it is reserved and committed in. -/
structure InWords (layout : UploadLayout) (bytesPerPixel pitchAlignment : Nat) : Prop where
  layout_eq : ofRegion? layout.region bytesPerPixel layout.sourcePitch pitchAlignment = some layout
  size_eq : layout.uploadSize? = some layout.uploadSize
  source_eq : layout.requiredSource? = some layout.requiredSource
  narrow_eq : ∀ capacity ≤ maxWord, layout.uploadSize < capacity →
    fit? 32 layout.uploadSize = some layout.uploadSize

/-- The bytes that a layout requires can be counted in 64 bits. -/
theorem requiredSource?_eq_some {layout : UploadLayout}
    (hheight : layout.region.height ≤ maxWord) (hsource : layout.sourcePitch ≤ maxWord)
    (hrow : layout.rowBytes ≤ maxWord) : layout.requiredSource? = some layout.requiredSource := by
  have hrows : layout.region.height - 1 ≤ maxWord := Nat.le_trans (Nat.sub_le _ _) hheight
  unfold requiredSource? requiredSource
  split
  · rfl
  · rw [fit?_eq_some (mul_lt_two_pow hrows hsource)]
    exact fit?_eq_some (mul_add_lt_two_pow hrows hsource hrow)

section Accepted

variable {region : Region} {bytesPerPixel sourcePitch pitchAlignment : Nat}

/-- A layout whose rows fit 32 bits together with the alignment is computed exactly. -/
theorem inWords_ofRegion (hpower : pitchAlignment.isPowerOfTwo)
    (hrow : region.width * bytesPerPixel + pitchAlignment ≤ maxWord)
    (hheight : region.height ≤ maxWord) (hsource : sourcePitch ≤ maxWord) :
    (ofRegion region bytesPerPixel sourcePitch pitchAlignment).InWords bytesPerPixel
      pitchAlignment where
  layout_eq := by
    change ofRegion? region bytesPerPixel sourcePitch pitchAlignment = _
    rw [ofRegion?_eq hpower, if_pos hrow]
  size_eq := by
    have hpitch : alignUp (region.width * bytesPerPixel) pitchAlignment ≤ maxWord :=
      Nat.le_of_lt (Nat.lt_of_lt_of_le (alignUp_lt_add (Nat.pos_of_isPowerOfTwo hpower)) hrow)
    exact fit?_eq_some (mul_lt_two_pow hpitch hheight)
  source_eq := requiredSource?_eq_some hheight hsource (Nat.le_of_add_right_le hrow)
  narrow_eq _ hcapacity hsize := fit?_word (Nat.le_trans (Nat.le_of_lt hsize) hcapacity)

end Accepted

end UploadLayout

end Texel
