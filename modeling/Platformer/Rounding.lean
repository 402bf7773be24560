/-! # Rounding a quotient to a floating grid

Every rounded number of the game comes from one rule: compute the exact quotient of two naturals,
then take the nearest point of a grid that keeps a fixed count of leading bits, a tie going to the
even point. This file holds that rule on naturals, before signs and overflow are looked at.

* **`divEven num den`** — the integer nearest to `num / den`, a half going to the even neighbour.
* **`nearest bits num den`** — the multiple of a power of two nearest to `num / den` that has at
  most `bits` significant bits; below `2 ^ bits` the grid is the integers.
* **`two_pow_dvd_nearest`** — the result keeps only `bits` significant bits, which is what lets it
  be stored as a value of the format.
* **`root n`** — the integer square root; **`le_root_iff`** — which natural that is. -/

namespace Platformer

-- a power of a natural is the one of core, whatever else is imported
attribute [local instance (high)] instPowNat

/-! ### Nearest integer -/

/-- The integer nearest to `num / den`; a quotient half way between two integers goes to the
even one. -/
def divEven (num den : Nat) : Nat :=
  let q := num / den
  let r := num % den
  if 2 * r < den then q else if den < 2 * r then q + 1 else q + q % 2

/-- `divEven num den` is the floor of the quotient or one more. -/
theorem divEven_le (num den : Nat) : divEven num den ≤ num / den + 1 := by
  have h : num / den % 2 < 2 := Nat.mod_lt _ (by decide)
  simp only [divEven]
  split
  · omega
  · split <;> omega

/-- `divEven num den` is at least the floor of the quotient. -/
theorem le_divEven (num den : Nat) : num / den ≤ divEven num den := by
  simp only [divEven]
  split
  · omega
  · split <;> omega

/-! ### Nearest grid point -/

/-- The exponent of the grid around a quotient whose floor is `q`: the grid of `bits` significant
bits steps by `2 ^ gridShift bits q` there. -/
def gridShift (bits q : Nat) : Nat := q.log2 - (bits - 1)

/-- The point nearest to `num / den` on the grid of numbers with at most `bits` significant bits,
a tie going to the even point. -/
def nearest (bits num den : Nat) : Nat :=
  let shift := gridShift bits (num / den)
  divEven num (den <<< shift) <<< shift

/-- The count of grid steps in the rounded quotient has at most `bits` bits, or is exactly
`2 ^ bits` when the rounding carries. -/
theorem divEven_gridShift_le {bits : Nat} (hbits : 0 < bits) (num den : Nat) :
    divEven num (den <<< gridShift bits (num / den)) ≤ 2 ^ bits := by
  refine Nat.le_trans (divEven_le _ _) ?_
  rw [Nat.shiftLeft_eq, ← Nat.div_div_eq_div_mul]
  refine Nat.div_lt_of_lt_mul ?_
  rw [← Nat.pow_add]
  refine Nat.lt_of_lt_of_le Nat.lt_log2_self ?_
  refine Nat.pow_le_pow_right (by decide) ?_
  simp only [gridShift]
  omega

/-- A number of at most `2 ^ bits` steps of a power of two keeps `bits` significant bits. -/
theorem two_pow_dvd_shiftLeft {bits m : Nat} (hbits : 0 < bits) (hm : m ≤ 2 ^ bits) (s : Nat) :
    2 ^ ((m <<< s).log2 - (bits - 1)) ∣ m <<< s := by
  rw [Nat.shiftLeft_eq]
  rcases Nat.lt_or_eq_of_le hm with hlt | heq
  · refine Nat.dvd_trans (Nat.pow_dvd_pow 2 ?_) (Nat.dvd_mul_left (2 ^ s) m)
    rcases Nat.eq_zero_or_pos m with rfl | hpos
    · simp
    · have hne : m * 2 ^ s ≠ 0 := Nat.mul_ne_zero (by omega) (by simp)
      have : (m * 2 ^ s).log2 < bits + s := by
        rw [Nat.log2_lt hne, Nat.pow_add]
        exact Nat.mul_lt_mul_of_pos_right hlt (Nat.two_pow_pos s)
      omega
  · rw [heq, ← Nat.pow_add, Nat.log2_two_pow]
    exact Nat.pow_dvd_pow 2 (by omega)

/-- The rounded quotient has at most `bits` significant bits. -/
theorem two_pow_dvd_nearest {bits : Nat} (hbits : 0 < bits) (num den : Nat) :
    2 ^ ((nearest bits num den).log2 - (bits - 1)) ∣ nearest bits num den :=
  two_pow_dvd_shiftLeft hbits (divEven_gridShift_le hbits num den) _

/-! ### Integer square root -/

/-- Settles the lowest `k` bits of the square root of `n`, from the highest down, given the bits
above them in `r`. -/
def rootBits (n : Nat) : (k r : Nat) → Nat
  | 0, r => r
  | k + 1, r => rootBits n k (if (r + 2 ^ k) * (r + 2 ^ k) ≤ n then r + 2 ^ k else r)

/-- The largest natural whose square is at most `n`. -/
def root (n : Nat) : Nat := rootBits n (n.log2 / 2 + 1) 0

/-- **Settling more bits keeps the root in a bracket**: the settled bits stay below it, and as much as
the open bits can add to them is past it. -/
theorem rootBits_bracket {n : Nat} (k : Nat) {r : Nat} (hlow : r * r ≤ n)
    (hhigh : n < (r + 2 ^ k) * (r + 2 ^ k)) :
    rootBits n k r * rootBits n k r ≤ n ∧ n < (rootBits n k r + 1) * (rootBits n k r + 1) := by
  induction k generalizing r with
  | zero => exact ⟨hlow, hhigh⟩
  | succ k ih =>
    rw [rootBits]
    split
    · next hfits =>
      refine ih hfits ?_
      rwa [Nat.add_assoc, ← Nat.two_mul, ← Nat.pow_succ']
    · next hover => exact ih hlow (Nat.lt_of_not_le hover)

/-- The square of the root does not pass the number, and that of the next natural does. -/
theorem root_bracket (n : Nat) : root n * root n ≤ n ∧ n < (root n + 1) * (root n + 1) := by
  refine rootBits_bracket _ (Nat.zero_le n) ?_
  rw [Nat.zero_add, ← Nat.pow_add]
  exact Nat.lt_of_lt_of_le Nat.lt_log2_self (Nat.pow_le_pow_right (by decide) (by omega))

/-- **The root is the largest natural** whose square is at most the number. -/
theorem le_root_iff {n r : Nat} : r ≤ root n ↔ r * r ≤ n := by
  obtain ⟨hlow, hhigh⟩ := root_bracket n
  constructor
  · intro h
    exact Nat.le_trans (Nat.mul_self_le_mul_self h) hlow
  · intro h
    refine Nat.le_of_not_lt fun hpast => ?_
    have hsquare := Nat.mul_self_le_mul_self hpast
    exact Nat.lt_irrefl n (Nat.lt_of_lt_of_le hhigh (Nat.le_trans hsquare h))

end Platformer
