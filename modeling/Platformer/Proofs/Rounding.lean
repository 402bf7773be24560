import Mathlib.Algebra.Order.Ring.Abs
import Mathlib.Data.Nat.Log
import Mathlib.Tactic.Linarith
import Mathlib.Tactic.Ring
import Platformer.Rounding

/-! # Order and error of the rounding rule

The rounding of a quotient of naturals keeps order, fixes the points of its grid, and moves a
quotient no further than half a step. These facts are all that later files use of it.

* **`divEven_le_divEven`**, **`nearest_le_nearest`** — the rounding keeps order.
* **`nearest_mul_self`** — a point of the grid is its own rounding.
* **`two_mul_abs_nearest_sub_le`** — the error is at most half a step of the grid.
* **`abs_nearest_sub_le`** — no point of the grid is nearer to a quotient than its rounding. -/

namespace Platformer

/-! ### Nearest integer -/

/-- **The two outcomes of a rounding**: down when the remainder is at most a half, up when it is at
least a half. -/
theorem divEven_cases (num den : Nat) :
    (divEven num den = num / den ∧ 2 * (num % den) ≤ den) ∨
      (divEven num den = num / den + 1 ∧ den ≤ 2 * (num % den)) := by
  have hparity : num / den % 2 = 0 ∨ num / den % 2 = 1 := Nat.mod_two_eq_zero_or_one _
  simp only [divEven]
  split
  · exact Or.inl ⟨rfl, by omega⟩
  · split
    · exact Or.inr ⟨rfl, by omega⟩
    · rcases hparity with heven | hodd
      · exact Or.inl ⟨by omega, by omega⟩
      · exact Or.inr ⟨by omega, by omega⟩

/-- Rounding to the nearest integer moves a quotient by at most a half. -/
theorem two_mul_abs_divEven_sub_le (num : Nat) {den : Nat} (hden : 0 < den) :
    2 * |(divEven num den * den : ℤ) - num| ≤ den := by
  have hmod : (num % den : ℤ) < den := by exact_mod_cast Nat.mod_lt num hden
  have hdiv : (num / den : ℤ) * den + num % den = num := Int.ediv_mul_add_emod _ _
  have hnonneg : (0 : ℤ) ≤ num % den := Int.emod_nonneg _ (by omega)
  rcases divEven_cases num den with ⟨h, hle⟩ | ⟨h, hge⟩
  · have hle' : 2 * (num % den : ℤ) ≤ den := by exact_mod_cast hle
    rw [h, abs_of_nonpos] <;> push_cast <;> linarith
  · have hge' : (den : ℤ) ≤ 2 * (num % den : ℤ) := by exact_mod_cast hge
    rw [h, abs_of_nonneg] <;> push_cast <;> linarith

/-- The nearest integer of an integer is that integer. -/
theorem divEven_mul_self (m : Nat) {den : Nat} (hden : 0 < den) : divEven (m * den) den = m := by
  simp [divEven, Nat.mul_div_cancel m hden, hden]

/-- The floors of quotients in order are in order. -/
theorem div_le_div_of_mul_le {a d a' d' : Nat} (hd : 0 < d) (hd' : 0 < d')
    (h : a * d' ≤ a' * d) : a / d ≤ a' / d' := by
  rw [Nat.le_div_iff_mul_le hd']
  refine Nat.le_of_mul_le_mul_right ?_ hd
  calc a / d * d' * d = a / d * d * d' := by ring
    _ ≤ a * d' := Nat.mul_le_mul_right _ (Nat.div_mul_le_self a d)
    _ ≤ a' * d := h

/-- **Rounding to the nearest integer keeps order.** -/
theorem divEven_le_divEven {a d a' d' : Nat} (hd : 0 < d) (hd' : 0 < d')
    (h : a * d' ≤ a' * d) : divEven a d ≤ divEven a' d' := by
  have hfloor : a / d ≤ a' / d' := div_le_div_of_mul_le hd hd' h
  rcases Nat.lt_or_eq_of_le hfloor with hlt | heq
  · calc divEven a d ≤ a / d + 1 := divEven_le a d
      _ ≤ a' / d' := hlt
      _ ≤ divEven a' d' := le_divEven a' d'
  -- with the same floor the remainders are in order, and so are the choices of neighbour
  · have hrem : a % d * d' ≤ a' % d' * d := by
      have ha : a = a / d * d + a % d := (Nat.div_add_mod' a d).symm
      have ha' : a' = a / d * d' + a' % d' := by rw [heq]; exact (Nat.div_add_mod' a' d').symm
      have hsum : (a / d * d + a % d) * d' ≤ (a / d * d' + a' % d') * d := by rwa [← ha, ← ha']
      nlinarith [hsum]
    have hup : d < 2 * (a % d) → d' < 2 * (a' % d') := by
      intro hlt
      refine Nat.lt_of_mul_lt_mul_left (a := d) ?_
      nlinarith [Nat.mul_lt_mul_of_pos_right hlt hd']
    have htie : 2 * (a % d) = d → d' ≤ 2 * (a' % d') := by
      intro hhalf
      refine Nat.le_of_mul_le_mul_left (c := d) ?_ hd
      nlinarith
    have hparity : a / d % 2 < 2 := Nat.mod_lt _ (by decide)
    simp only [divEven, heq] at hparity ⊢
    split_ifs <;> omega

/-! ### Nearest grid point -/

/-- The steps of the grid around a quotient, put over the denominator of the quotient. -/
theorem nearest_eq (bits num den : Nat) :
    nearest bits num den =
      divEven num (den * 2 ^ gridShift bits (num / den)) * 2 ^ gridShift bits (num / den) := by
  simp only [nearest, Nat.shiftLeft_eq]

/-- A greater floor has a grid that is at least as coarse. -/
theorem gridShift_le_gridShift (bits : Nat) {q q' : Nat} (h : q ≤ q') :
    gridShift bits q ≤ gridShift bits q' := by
  have hlog : q.log2 ≤ q'.log2 := by
    rw [Nat.log2_eq_log_two, Nat.log2_eq_log_two]
    exact Nat.log_mono_right h
  unfold gridShift
  omega

/-- A point of the grid is its own rounding. -/
theorem nearest_mul_self {bits m : Nat} (hm : 2 ^ gridShift bits m ∣ m) {den : Nat}
    (hden : 0 < den) : nearest bits (m * den) den = m := by
  obtain ⟨k, hk⟩ := hm
  rw [nearest_eq, Nat.mul_div_cancel m hden]
  generalize gridShift bits m = s at hk ⊢
  rw [show m * den = k * (den * 2 ^ s) by rw [hk]; ring,
    divEven_mul_self k (Nat.mul_pos hden (Nat.two_pow_pos s)), hk, Nat.mul_comm]

/-- **The error of the rounding** is at most half a step of the grid around the quotient. -/
theorem two_mul_abs_nearest_sub_le (bits num : Nat) {den : Nat} (hden : 0 < den) :
    2 * |(nearest bits num den * den : ℤ) - num| ≤ den * 2 ^ gridShift bits (num / den) := by
  have herror := two_mul_abs_divEven_sub_le num
    (Nat.mul_pos hden (Nat.two_pow_pos (gridShift bits (num / den))))
  rw [nearest_eq]
  generalize gridShift bits (num / den) = s at herror ⊢
  push_cast at herror ⊢
  rwa [show (divEven num (den * 2 ^ s) * 2 ^ s * den : ℤ)
    = divEven num (den * 2 ^ s) * (den * 2 ^ s) by ring]

/-- Rounding does not take a quotient below a power of two that its floor reaches. -/
theorem two_pow_log2_le_nearest (bits : Nat) {num den : Nat} (hq : num / den ≠ 0) :
    2 ^ (num / den).log2 ≤ nearest bits num den := by
  have hshift : gridShift bits (num / den) ≤ (num / den).log2 := Nat.sub_le _ _
  rw [nearest_eq]
  generalize gridShift bits (num / den) = s at hshift ⊢
  calc 2 ^ (num / den).log2 = 2 ^ ((num / den).log2 - s) * 2 ^ s := by
        rw [← Nat.pow_add, Nat.sub_add_cancel hshift]
    _ ≤ num / (den * 2 ^ s) * 2 ^ s := by
        refine Nat.mul_le_mul_right _ ?_
        rw [← Nat.div_div_eq_div_mul, Nat.le_div_iff_mul_le (Nat.two_pow_pos s), ← Nat.pow_add,
          Nat.sub_add_cancel hshift]
        exact Nat.log2_self_le hq
    _ ≤ divEven num (den * 2 ^ s) * 2 ^ s := Nat.mul_le_mul_right _ (le_divEven _ _)

/-- **Rounding to the grid keeps order.** -/
theorem nearest_le_nearest {bits : Nat} (hbits : 0 < bits) {a d a' d' : Nat} (hd : 0 < d)
    (hd' : 0 < d') (h : a * d' ≤ a' * d) : nearest bits a d ≤ nearest bits a' d' := by
  have hfloor : a / d ≤ a' / d' := div_le_div_of_mul_le hd hd' h
  rcases Nat.lt_or_eq_of_le (gridShift_le_gridShift bits hfloor) with hlt | heq
  -- the finer grid ends at a power of two that the coarser rounding has reached
  · have hq' : a' / d' ≠ 0 := by
      intro hzero
      simp [hzero, gridShift] at hlt
    have hcarry : bits + gridShift bits (a / d) ≤ (a' / d').log2 := by
      unfold gridShift at hlt ⊢
      omega
    calc nearest bits a d ≤ 2 ^ bits * 2 ^ gridShift bits (a / d) := by
          rw [nearest_eq, ← Nat.shiftLeft_eq d]
          exact Nat.mul_le_mul_right _ (divEven_gridShift_le hbits a d)
      _ ≤ 2 ^ (a' / d').log2 := by
          rw [← Nat.pow_add]
          exact Nat.pow_le_pow_right (by decide) hcarry
      _ ≤ nearest bits a' d' := two_pow_log2_le_nearest bits hq'
  · rw [nearest_eq, nearest_eq, heq]
    generalize gridShift bits (a' / d') = s
    have hs : 0 < 2 ^ s := Nat.two_pow_pos s
    refine Nat.mul_le_mul_right _ (divEven_le_divEven (Nat.mul_pos hd hs) (Nat.mul_pos hd' hs) ?_)
    calc a * (d' * 2 ^ s) = a * d' * 2 ^ s := by ring
      _ ≤ a' * d * 2 ^ s := Nat.mul_le_mul_right _ h
      _ = a' * (d * 2 ^ s) := by ring

/-- The rounding depends on the quotient alone. -/
theorem nearest_congr {bits : Nat} (hbits : 0 < bits) {a d a' d' : Nat} (hd : 0 < d)
    (hd' : 0 < d') (h : a * d' = a' * d) : nearest bits a d = nearest bits a' d' :=
  Nat.le_antisymm (nearest_le_nearest hbits hd hd' h.le) (nearest_le_nearest hbits hd' hd h.ge)

/-- A multiple of the step of the grid around a quotient is no nearer to it than its rounding. -/
theorem abs_nearest_sub_le_of_step_dvd (bits : Nat) {m num den : Nat} (hden : 0 < den)
    (hm : 2 ^ gridShift bits (num / den) ∣ m) :
    |(nearest bits num den * den : ℤ) - num| ≤ |(m * den : ℤ) - num| := by
  have herror := two_mul_abs_nearest_sub_le bits num hden
  obtain ⟨k, rfl⟩ := hm
  rw [nearest_eq] at herror ⊢
  generalize gridShift bits (num / den) = s at herror ⊢
  generalize divEven num (den * 2 ^ s) = e at herror ⊢
  rcases eq_or_ne k e with rfl | hne
  · rw [Nat.mul_comm]
  -- two different multiples are a whole step apart, and the rounding is within half a step
  · have hapart : (den * 2 ^ s : ℤ) ≤ |((2 ^ s * k : ℕ) * den : ℤ) - (e * 2 ^ s : ℕ) * den| := by
      have hfactor : ((2 ^ s * k : ℕ) * den : ℤ) - (e * 2 ^ s : ℕ) * den
          = (k - e) * (den * 2 ^ s) := by push_cast; ring
      have hone : (1 : ℤ) ≤ |(k : ℤ) - e| := Int.one_le_abs (by omega)
      have hstep : (0 : ℤ) ≤ den * 2 ^ s := by positivity
      rw [hfactor, abs_mul, abs_of_nonneg hstep]
      exact le_mul_of_one_le_left hstep hone
    have htriangle := abs_sub_le (((2 ^ s * k : ℕ) * den : ℤ)) num ((e * 2 ^ s : ℕ) * den)
    rw [abs_sub_comm (num : ℤ)] at htriangle
    push_cast at herror hapart htriangle ⊢
    linarith

/-- **No point of the grid is nearer** to a quotient than its rounding. -/
theorem abs_nearest_sub_le {bits m : Nat} (hm : 2 ^ gridShift bits m ∣ m) (num : Nat) {den : Nat}
    (hden : 0 < den) : |(nearest bits num den * den : ℤ) - num| ≤ |(m * den : ℤ) - num| := by
  rcases Nat.lt_or_ge (gridShift bits m) (gridShift bits (num / den)) with hfiner | hcoarser
  -- a point of a finer grid lies below the power of two at which the coarser grid begins
  · have hq : num / den ≠ 0 := by
      intro hzero
      simp [hzero, gridShift] at hfiner
    have hlog : m.log2 + 1 ≤ (num / den).log2 := by
      unfold gridShift at hfiner
      omega
    have hpow : m ≤ 2 ^ (num / den).log2 :=
      (Nat.lt_log2_self.trans_le (Nat.pow_le_pow_right (by decide) hlog)).le
    have hle : 2 ^ (num / den).log2 * den ≤ num :=
      (Nat.mul_le_mul_right _ (Nat.log2_self_le hq)).trans (Nat.div_mul_le_self num den)
    have hstep : 2 ^ gridShift bits (num / den) ∣ 2 ^ (num / den).log2 :=
      Nat.pow_dvd_pow 2 (Nat.sub_le _ _)
    have hmul : m * den ≤ 2 ^ (num / den).log2 * den := Nat.mul_le_mul_right _ hpow
    refine (abs_nearest_sub_le_of_step_dvd bits hden hstep).trans ?_
    generalize 2 ^ (num / den).log2 = p at hle hmul ⊢
    have hle' : (p * den : ℤ) ≤ num := by exact_mod_cast hle
    have hmul' : (m * den : ℤ) ≤ p * den := by exact_mod_cast hmul
    rw [abs_of_nonpos (by linarith), abs_of_nonpos (by linarith)]
    linarith
  · exact abs_nearest_sub_le_of_step_dvd bits hden ((Nat.pow_dvd_pow 2 hcoarser).trans hm)

end Platformer
