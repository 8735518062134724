import Texel.Alignment
import Mathlib.Algebra.Group.Nat.Defs
import Mathlib.Order.Bounds.Basic

namespace Texel

/-- Powers of two that fit 32 bits use one of them. -/
theorem le_two_pow_of_isPowerOfTwo {alignment : Nat} (hpower : alignment.isPowerOfTwo)
    (hword : alignment ≤ maxWord) : alignment ≤ 2 ^ 31 := by
  obtain ⟨exponent, rfl⟩ := hpower
  have hexponent : exponent < 32 :=
    (Nat.pow_lt_pow_iff_right (a := 2) (by decide)).mp (Nat.lt_succ_of_le hword)
  exact Nat.pow_le_pow_right (by decide) (Nat.le_of_lt_succ hexponent)

/-- Powers of two beyond 32 bits leave a mask of all bits. -/
theorem toNat_mask (exponent : Nat) :
    (BitVec.ofNat 32 (2 ^ exponent) - 1).toNat = 2 ^ min exponent 32 - 1 := by
  rcases Nat.lt_or_ge exponent 32 with hlt | hge
  · have hword : 2 ^ exponent < 2 ^ 32 := Nat.pow_lt_pow_right (by decide) hlt
    have hone : (1 : BitVec 32) ≤ BitVec.ofNat 32 (2 ^ exponent) := by
      rw [BitVec.le_def, BitVec.toNat_ofNat, Nat.mod_eq_of_lt hword]
      exact Nat.two_pow_pos exponent
    rw [Nat.min_eq_left (Nat.le_of_lt hlt), BitVec.toNat_sub_of_le hone, BitVec.toNat_ofNat,
      Nat.mod_eq_of_lt hword]
    rfl
  · rw [Nat.min_eq_right hge, BitVec.toNat_sub, BitVec.toNat_ofNat,
      Nat.mod_eq_zero_of_dvd (Nat.pow_dvd_pow 2 hge)]
    rfl

/-- Clearing the bits of the mask rounds down. -/
theorem toNat_and_not_mask {mask : BitVec 32} {exponent : Nat} (word : BitVec 32)
    (h : mask.toNat = 2 ^ exponent - 1) :
    (word &&& ~~~mask).toNat = word.toNat / 2 ^ exponent * 2 ^ exponent := by
  rw [← Nat.shiftRight_eq_div_pow, ← Nat.shiftLeft_eq]
  apply Nat.eq_of_testBit_eq
  intro bit
  have hmask : mask.getLsbD bit = decide (bit < exponent) := by
    rw [← BitVec.testBit_toNat, h, Nat.testBit_two_pow_sub_one]
  rw [BitVec.testBit_toNat, BitVec.getLsbD_and, BitVec.getLsbD_not, hmask, Nat.testBit_shiftLeft,
    Nat.testBit_shiftRight, BitVec.testBit_toNat]
  by_cases hbit : bit < exponent
  · simp [hbit, Nat.not_le_of_lt hbit]
  · rw [Nat.add_sub_cancel' (Nat.le_of_not_lt hbit)]
    cases hset : word.getLsbD bit with
    | false => simp
    | true => simp [hbit, Nat.le_of_not_lt hbit, BitVec.lt_of_getLsbD hset]

/-- Dropping the low bits of a number rounds it down. -/
theorem alignDown_eq_div_mul {value alignment : Nat} (hpower : alignment.isPowerOfTwo)
    (hvalue : value ≤ maxWord) : alignDown value alignment = value / alignment * alignment := by
  obtain ⟨exponent, rfl⟩ := hpower
  have hword : value < 2 ^ 32 := Nat.lt_succ_of_le hvalue
  unfold alignDown
  rw [toNat_and_not_mask _ (toNat_mask exponent), BitVec.toNat_ofNat, Nat.mod_eq_of_lt hword]
  rcases Nat.lt_or_ge exponent 32 with hlt | hge
  · rw [Nat.min_eq_left (Nat.le_of_lt hlt)]
  · -- neither power leaves anything of a 32-bit value
    have hpow : 2 ^ 32 ≤ 2 ^ exponent := Nat.pow_le_pow_right (by decide) hge
    rw [Nat.min_eq_right hge, Nat.div_eq_of_lt hword, Nat.div_eq_of_lt (by omega), Nat.zero_mul,
      Nat.zero_mul]

/-- The least multiple of `alignment` that is at least `value`. -/
def alignUp (value alignment : Nat) : Nat :=
  (value + alignment - 1) / alignment * alignment

/-- What is rounded up is a multiple of the alignment. -/
theorem dvd_alignUp (value alignment : Nat) : alignment ∣ alignUp value alignment :=
  Nat.dvd_mul_left ..

/-- What is rounded up is not below the value. -/
theorem le_alignUp {value alignment : Nat} (h : 0 < alignment) :
    value ≤ alignUp value alignment := by
  have hdiv := Nat.div_add_mod (value + alignment - 1) alignment
  have hmod := Nat.mod_lt (value + alignment - 1) h
  rw [Nat.mul_comm] at hdiv
  simp only [alignUp]
  omega

/-- Rounding up adds less than one alignment. -/
theorem alignUp_lt_add {value alignment : Nat} (h : 0 < alignment) :
    alignUp value alignment < value + alignment := by
  have hdiv := Nat.div_mul_le_self (value + alignment - 1) alignment
  simp only [alignUp]
  omega

/-- Every number is a multiple of one. -/
@[simp] theorem alignUp_one (value : Nat) : alignUp value 1 = value := by
  simp [alignUp]

/-- A multiple of the alignment is aligned as it is. -/
theorem alignUp_of_dvd {value alignment : Nat} (h : 0 < alignment) (hdvd : alignment ∣ value) :
    alignUp value alignment = value := by
  obtain ⟨factor, rfl⟩ := hdvd
  rw [alignUp, Nat.add_sub_assoc h, Nat.mul_add_div h, Nat.div_eq_of_lt (by omega), Nat.add_zero,
    Nat.mul_comm]

/-- Rounding up keeps the order of values. -/
theorem alignUp_mono {value larger alignment : Nat} (h : value ≤ larger) :
    alignUp value alignment ≤ alignUp larger alignment := by
  unfold alignUp
  apply Nat.mul_le_mul_right
  apply Nat.div_le_div_right
  omega

/-- Rounding up leads to the first multiple that is not below the value. -/
theorem isLeast_alignUp {value alignment : Nat} (h : 0 < alignment) :
    IsLeast { position | alignment ∣ position ∧ value ≤ position } (alignUp value alignment) := by
  refine ⟨⟨dvd_alignUp value alignment, le_alignUp h⟩, ?_⟩
  rintro _ ⟨⟨turns, rfl⟩, hle⟩
  have hlt := @alignUp_lt_add value alignment h
  unfold alignUp at hlt ⊢
  rw [Nat.mul_comm] at hlt ⊢
  have hturns : (value + alignment - 1) / alignment < turns + 1 := by
    apply Nat.lt_of_mul_lt_mul_left (a := alignment)
    rw [Nat.mul_add_one]
    omega
  exact Nat.mul_le_mul_left alignment (Nat.le_of_lt_succ hturns)

/-- Whoever gets an answer had the room asked for. -/
theorem add_le_maxWord_of_alignWithin? {room value alignment rounded : Nat}
    (h : alignWithin? room value alignment = some rounded) : value + room ≤ maxWord := by
  unfold alignWithin? at h
  split at h
  · assumption
  · cases h

/-- Zero is rounded to itself wherever the room asked for fits. -/
theorem alignWithin?_zero {room alignment : Nat} (h : room ≤ maxWord) :
    alignWithin? room 0 alignment = some 0 := by
  have hmask : alignDown (alignment - 1) alignment = 0 := by
    cases alignment with
    | zero => rfl
    | succ bits =>
      have hbits : BitVec.ofNat 32 (bits + 1) - 1 = BitVec.ofNat 32 bits := by
        rw [BitVec.ofNat_add]
        exact BitVec.add_sub_cancel ..
      rw [alignDown, hbits, Nat.add_sub_cancel, BitVec.and_not_self]
      rfl
  rw [alignWithin?, Nat.zero_add, if_pos h, Nat.zero_add, hmask]

section PowerOfTwo

variable {room value alignment : Nat} (hpower : alignment.isPowerOfTwo)
include hpower

/-- What rounding in 32 bits comes to, with room for the padding at least: the least multiple where
the room fits, and nothing where it does not. -/
theorem alignWithin?_eq (hroom : alignment - 1 ≤ room) :
    alignWithin? room value alignment =
      if value + room ≤ maxWord then some (alignUp value alignment) else none := by
  have hpositive := Nat.pos_of_isPowerOfTwo hpower
  unfold alignWithin?
  split
  · rw [alignDown_eq_div_mul hpower (by omega), alignUp, Nat.add_sub_assoc hpositive]
  · rfl

/-- The guarded version rounds up exactly if the padding fits 32 bits. -/
theorem alignUp?_eq :
    alignUp? value alignment =
      if value + (alignment - 1) ≤ maxWord then some (alignUp value alignment) else none :=
  alignWithin?_eq hpower (Nat.le_refl _)

/-- The plain version rounds up exactly if the whole alignment fits on top of the value. -/
theorem alignPlain?_eq :
    alignPlain? value alignment =
      if value + alignment ≤ maxWord then some (alignUp value alignment) else none :=
  alignWithin?_eq hpower (Nat.sub_le ..)

/-- What the guarded version answers. -/
theorem alignUp?_eq_some_iff {rounded : Nat} :
    alignUp? value alignment = some rounded ↔
      value + (alignment - 1) ≤ maxWord ∧ alignUp value alignment = rounded := by
  simp [alignUp?_eq hpower]

/-- What the plain version answers. -/
theorem alignPlain?_eq_some_iff {rounded : Nat} :
    alignPlain? value alignment = some rounded ↔
      value + alignment ≤ maxWord ∧ alignUp value alignment = rounded := by
  simp [alignPlain?_eq hpower]

/-- A multiple that fits 32 bits leaves room for the padding: 2 ^ 32 is a multiple as well, so the
next one is no further away. -/
theorem add_le_maxWord_of_dvd {position : Nat} (hword : alignment ≤ maxWord)
    (hdvd : alignment ∣ position) (h : position ≤ maxWord) :
    position + (alignment - 1) ≤ maxWord := by
  obtain ⟨exponent, rfl⟩ := hpower
  unfold maxWord at hword h ⊢
  have hexponent : exponent ≤ 32 := (Nat.pow_le_pow_iff_right (a := 2) (by decide)).mp (by omega)
  have hlimit : 2 ^ exponent ∣ 2 ^ 32 := Nat.pow_dvd_pow 2 hexponent
  have hgap : 2 ^ exponent ≤ 2 ^ 32 - position := by
    apply Nat.le_of_dvd (by omega)
    exact Nat.dvd_sub hlimit hdvd
  omega

/-- The guard on the padded value turns away only values whose next multiple does not fit. -/
theorem alignUp_le_maxWord_iff (hword : alignment ≤ maxWord) :
    alignUp value alignment ≤ maxWord ↔ value + (alignment - 1) ≤ maxWord := by
  have hpositive := Nat.pos_of_isPowerOfTwo hpower
  constructor
  · intro hfits
    have hroom := add_le_maxWord_of_dvd hpower hword (dvd_alignUp value alignment) hfits
    have hle := @le_alignUp value alignment hpositive
    omega
  · intro hpadded
    have hlt := @alignUp_lt_add value alignment hpositive
    omega

/-- The guard turns nothing away that has a result in 32 bits. -/
theorem alignUp?_eq_fitting (hword : alignment ≤ maxWord) :
    alignUp? value alignment =
      if alignUp value alignment ≤ maxWord then some (alignUp value alignment) else none := by
  rw [alignUp?_eq hpower]
  simp only [alignUp_le_maxWord_iff hpower hword]

/-- Rounding up to a power of two stays within 32 bits on the way if the result does. -/
theorem alignUp?_eq_some (hvalue : 0 < value) (h : alignUp value alignment ≤ maxWord) :
    alignUp? value alignment = some (alignUp value alignment) := by
  have hfactor : alignment ≤ alignUp value alignment := by
    apply Nat.le_of_dvd _ (dvd_alignUp value alignment)
    exact Nat.lt_of_lt_of_le hvalue (le_alignUp (Nat.pos_of_isPowerOfTwo hpower))
  rw [alignUp?_eq_fitting hpower (Nat.le_trans hfactor h), if_pos h]

end PowerOfTwo

/-- Rounding up in 32 bits, for every value and every power of two that fits them. Under the guard
the least multiple of the alignment from the value on comes out if it fits, and nothing if it does
not. Without the guard the same multiple comes out where the value and the whole alignment fit, and
the program ends where they do not, so it ends for one padded value that fits: the largest. A
multiple that fits is less than an alignment away and is rounded to itself under the guard, without
it unless it is the last multiple of all; and smaller values are rounded to no larger ones. -/
theorem word_rounding_is_exact {value alignment : Nat} (hpower : alignment.isPowerOfTwo)
    (hword : alignment ≤ maxWord) :
    ∃ rounded, IsLeast { position | alignment ∣ position ∧ value ≤ position } rounded ∧
      (rounded ≤ maxWord ↔ value + (alignment - 1) ≤ maxWord) ∧
      alignUp? value alignment = (if rounded ≤ maxWord then some rounded else none) ∧
      alignPlain? value alignment =
        (if value + alignment ≤ maxWord then some rounded else none) ∧
      (rounded ≤ maxWord →
        rounded < value + alignment ∧ alignUp? rounded alignment = some rounded ∧
        alignPlain? rounded alignment =
          (if rounded + alignment ≤ maxWord then some rounded else none) ∧
        ∀ smaller ≤ value, ∃ below ≤ rounded, alignUp? smaller alignment = some below ∧
          (smaller + alignment ≤ maxWord → alignPlain? smaller alignment = some below)) := by
  have hpositive := Nat.pos_of_isPowerOfTwo hpower
  refine ⟨alignUp value alignment, isLeast_alignUp hpositive, alignUp_le_maxWord_iff hpower hword,
    alignUp?_eq_fitting hpower hword, alignPlain?_eq hpower, ?_⟩
  intro hfits
  have hpadded := (alignUp_le_maxWord_iff hpower hword).mp hfits
  have hsame : alignUp (alignUp value alignment) alignment = alignUp value alignment :=
    alignUp_of_dvd hpositive (dvd_alignUp value alignment)
  refine ⟨alignUp_lt_add hpositive, ?_, ?_, ?_⟩
  · rw [alignUp?_eq_fitting hpower hword, hsame, if_pos hfits]
  · rw [alignPlain?_eq hpower, hsame]
  · intro smaller hsmaller
    refine ⟨alignUp smaller alignment, alignUp_mono hsmaller, ?_, fun hsum => ?_⟩
    · rw [alignUp?_eq hpower, if_pos (by omega)]
    · rw [alignPlain?_eq hpower, if_pos hsum]

/-- The largest alignment: up to its own multiple the guard lets every value pass, and without the
guard every smaller value is rounded to that multiple. -/
theorem word_rounding_is_exact_topmost :
    Nat.isPowerOfTwo 2147483648 ∧ 2147483648 ≤ maxWord ∧
      alignUp? 2147483648 2147483648 = some 2147483648 ∧
      alignPlain? 2147483647 2147483648 = some 2147483648 ∧
      alignUp? 2147483649 2147483648 = none := by
  have hpower : Nat.isPowerOfTwo 2147483648 := ⟨31, rfl⟩
  have hword : 2147483648 ≤ maxWord := by decide
  obtain ⟨last, ⟨⟨_, hfrom⟩, hleast⟩, -, hguarded, -, hbelow⟩ :=
    @word_rounding_is_exact 2147483648 2147483648 hpower hword
  obtain rfl : last = 2147483648 :=
    Nat.le_antisymm (hleast ⟨Nat.dvd_refl _, Nat.le_refl _⟩) hfrom
  obtain ⟨-, -, -, hsmaller⟩ := hbelow hword
  obtain ⟨below, hle, -, hplain⟩ := hsmaller 2147483647 (by decide)
  obtain rfl : below = 2147483648 := by
    have hrounded := hplain (by decide)
    rw [show alignPlain? 2147483647 2147483648 = some 2147483648 from rfl] at hrounded
    exact (Option.some.inj hrounded).symm
  obtain ⟨beyond, ⟨⟨⟨factor, rfl⟩, habove⟩, _⟩, -, hrefused, _⟩ :=
    @word_rounding_is_exact 2147483649 2147483648 hpower hword
  have hlarge : ¬ 2147483648 * factor ≤ maxWord := by
    unfold maxWord
    omega
  rw [if_pos hword] at hguarded
  rw [if_neg hlarge] at hrefused
  exact ⟨hpower, hword, hguarded, hplain (by decide), hrefused⟩

/-- The last multiple of the largest alignment is its own least multiple and passes the guard;
without the guard the program ends. -/
theorem last_multiple_aborts :
    Nat.isPowerOfTwo 2147483648 ∧ 2147483648 + (2147483648 - 1) ≤ maxWord ∧
      IsLeast { position | 2147483648 ∣ position ∧ 2147483648 ≤ position } 2147483648 ∧
      alignUp? 2147483648 2147483648 = some 2147483648 ∧
      alignPlain? 2147483648 2147483648 = none :=
  ⟨⟨31, rfl⟩, by decide, ⟨⟨Nat.dvd_refl _, Nat.le_refl _⟩, fun _ h => h.2⟩, by decide, by decide⟩

end Texel
