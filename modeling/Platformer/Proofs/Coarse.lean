import Platformer.Proofs.Value

/-! # Far out

Beyond each power of two the numbers of the format are whole counts of a unit, which doubles with
the power, and the rounding moves a rational by no more than half of that unit. Where the unit is
greater than what is added, a sum stays where it is or moves by a whole unit.

* **`abs_rounded_sub_self_le_two_pow`** — the error of the rounding up to a great power of two.
* **`Single.exists_eq_mul_two_pow`**, **`Single.exists_eq_div_two_pow`**,
  **`Single.two_pow_le_sub`** — numbers beyond a power of two are whole counts of a unit, so that two
  of them are at least a unit apart.
* **`Single.sub_add_le`** — what is taken from a number and given back in part never leads
  past it. -/

namespace Platformer

namespace Single

/-- A count of at most 24 bits of a power of two inside the format is a number. -/
theorem exists_value_eq_mul_two_pow {n : ℤ} (hn : |n| ≤ 2 ^ 24) {k : ℕ} (hk : k ≤ 103) :
    ∃ x : Single, x.isFinite = true ∧ x.value = n * 2 ^ k := by
  obtain ⟨x, hx, hvalue⟩ := exists_value_eq_steps hn (show 149 + k ≤ 252 by omega)
  have hsteps : (stepsPerOne : ℚ) = 2 ^ 149 := by
    rw [stepsPerOne, Nat.cast_pow, Nat.cast_ofNat]
  refine ⟨x, hx, ?_⟩
  rw [hvalue, hsteps, pow_add, mul_left_comm, mul_div_cancel_left₀ _ (by positivity)]

end Single

/-- **The error of the rounding** up to a great power of two is at most half of a unit. -/
theorem abs_rounded_sub_self_le_two_pow {k : ℕ} (hk : k ≤ 103) {q : ℚ} (hq : |q| ≤ 2 ^ (24 + k)) :
    |rounded q - q| ≤ 2 ^ k / 2 :=
  abs_rounded_sub_self_le_of_unit (by positivity)
    (fun _ hn => Single.exists_value_eq_mul_two_pow hn hk) (pow_add (2 : ℚ) 24 k ▸ hq)

namespace Single

variable {x y a b : Single} {k : ℕ}

/-- **A number beyond a power of two** is a whole count of a unit, which the power decides. -/
theorem exists_eq_steps (hx : x.isFinite = true) {e : ℕ}
    (h : 2 ^ (23 + e) / stepsPerOne ≤ |x.value|) : ∃ n : ℤ, x.value = n * 2 ^ e / stepsPerOne := by
  cases x with
  | finite s m hm =>
    have hsteps : 2 ^ (23 + e) ≤ m := by
      rw [value_finite, abs_signed_div, div_le_div_iff_of_pos_right stepsPerOne_pos] at h
      exact_mod_cast h
    have hlog : e ≤ m.log2 - 23 := by
      have hpos : m ≠ 0 := (Nat.lt_of_lt_of_le (Nat.two_pow_pos _) hsteps).ne'
      have hle := (Nat.le_log2 hpos).mpr hsteps
      omega
    obtain ⟨n, rfl⟩ := (Nat.pow_dvd_pow 2 hlog).trans hm.dvd
    refine ⟨signed s n, ?_⟩
    have hsigned : signed s (2 ^ e * n) = signed s n * 2 ^ e := by
      cases s <;> simp only [signed] <;> push_cast <;> ring
    rw [value_finite, hsigned, Int.cast_mul, Int.cast_pow, Int.cast_ofNat]
  | _ => simp [isFinite] at hx

/-- **A number beyond a great power of two** is a whole count of a unit. -/
theorem exists_eq_mul_two_pow (hx : x.isFinite = true) (h : 2 ^ (23 + k) ≤ |x.value|) :
    ∃ n : ℤ, x.value = n * 2 ^ k := by
  have hunits : (stepsPerOne : ℚ) = 2 ^ 149 := by
    rw [stepsPerOne, Nat.cast_pow, Nat.cast_ofNat]
  have hpow (j : ℕ) : (2 : ℚ) ^ (j + 149) / stepsPerOne = 2 ^ j := by
    rw [hunits, pow_add, mul_div_cancel_right₀ _ (by positivity)]
  obtain ⟨n, hn⟩ := exists_eq_steps hx (e := k + 149) (by rwa [← add_assoc, hpow])
  exact ⟨n, by rw [hn, mul_div_assoc, hpow]⟩

/-- **A number beyond a power of two** is a whole count of a fraction of one. -/
theorem exists_eq_div_two_pow (hx : x.isFinite = true) (hk : k ≤ 149)
    (h : 2 ^ 23 / 2 ^ k ≤ |x.value|) : ∃ n : ℤ, x.value = n / 2 ^ k := by
  have hunits : (stepsPerOne : ℚ) = 2 ^ (149 - k) * 2 ^ k := by
    rw [← pow_add, Nat.sub_add_cancel hk, stepsPerOne, Nat.cast_pow, Nat.cast_ofNat]
  have hpow (a : ℚ) : a * 2 ^ (149 - k) / stepsPerOne = a / 2 ^ k := by
    rw [hunits, mul_comm (2 ^ (149 - k)), mul_div_mul_right _ _ (by positivity)]
  obtain ⟨n, hn⟩ := exists_eq_steps hx (e := 149 - k) (by rwa [pow_add, hpow])
  exact ⟨n, by rw [hn, hpow]⟩

/-- Two numbers beyond a great power of two are equal or at least a unit apart. -/
theorem two_pow_le_sub (hx : x.isFinite = true) (hy : y.isFinite = true)
    (hxk : 2 ^ (23 + k) ≤ |x.value|) (hyk : 2 ^ (23 + k) ≤ |y.value|) (h : x.value < y.value) :
    2 ^ k ≤ y.value - x.value := by
  obtain ⟨m, hm⟩ := exists_eq_mul_two_pow hx hxk
  obtain ⟨n, hn⟩ := exists_eq_mul_two_pow hy hyk
  have hunit : (0 : ℚ) < 2 ^ k := by positivity
  rw [hm, hn] at h ⊢
  have hone : (1 : ℚ) ≤ n - m := by
    have hlt : m < n := by exact_mod_cast lt_of_mul_lt_mul_right h hunit.le
    exact_mod_cast (by omega : 1 ≤ n - m)
  calc (2 : ℚ) ^ k = 1 * 2 ^ k := (one_mul _).symm
    _ ≤ (n - m) * 2 ^ k := mul_le_mul_of_nonneg_right hone hunit.le
    _ = n * 2 ^ k - m * 2 ^ k := sub_mul _ _ _

/-- **What is taken from a number and given back in part** never leads past the number, although
both steps are rounded: near the origin the first step loses less than the rest, and far out the
number and all that lies past it are more than the second step apart. -/
theorem sub_add_le (hk : k ≤ 103) (hy : y.isFinite = true) (ha : a.isFinite = true)
    (hb : b.isFinite = true) (hsub : (y - a).isFinite = true) (hadd : (y - a + b).isFinite = true)
    (hnonneg : 0 ≤ b.value) (hdouble : 2 * b.value < 2 ^ k)
    (hrest : b.value + 2 ^ k / 2 ≤ a.value) (hnear : a.value + 2 * b.value ≤ 2 ^ (23 + k)) :
    y - a + b ≤ y := by
  refine (le_iff_of_isFinite hadd hy).mpr ?_
  by_contra hpast
  rw [not_le] at hpast
  have hunit : (0 : ℚ) < 2 ^ k := by positivity
  have hfirst : (y - a).value ≤ y.value := by
    rw [value_sub hy ha, ← rounded_value y]
    exact rounded_le_rounded (by rw [rounded_value]; linarith)
  -- the exact sum is past the number, and the number is no nearer to it than what it is rounded to
  have hexact : y.value < (y - a).value + b.value := by
    by_contra hnot
    have hle := rounded_le_rounded (not_lt.mp hnot)
    rw [rounded_value, ← value_add hsub hb] at hle
    exact absurd hpast (not_lt.mpr hle)
  have hnearest := abs_rounded_sub_le hy ((y - a).value + b.value)
  rw [← value_add hsub hb, abs_of_neg (by linarith : y.value - _ < 0)] at hnearest
  have hclose : (y - a + b).value - y.value ≤ 2 * b.value := by
    linarith [le_abs_self ((y - a + b).value - ((y - a).value + b.value))]
  by_cases hfar : 2 ^ (23 + k) ≤ |y.value| ∧ 2 ^ (23 + k) ≤ |(y - a + b).value|
  · have happart := two_pow_le_sub hy hadd hfar.1 hfar.2 hpast
    linarith
  · have hbound : |y.value| ≤ 2 ^ (23 + k) + 2 * b.value := by
      have htriangle := abs_sub_abs_le_abs_sub y.value (y - a + b).value
      rw [abs_of_neg (by linarith : y.value - _ < 0)] at htriangle
      by_contra hover
      exact hfar ⟨by linarith, by linarith⟩
    have herror := abs_rounded_sub_self_le_two_pow hk (q := y.value - a.value) ?_
    · rw [← value_sub hy ha] at herror
      linarith [le_abs_self ((y - a).value - (y.value - a.value))]
    · have htriangle := abs_sub y.value a.value
      rw [abs_of_nonneg (by linarith : 0 ≤ a.value)] at htriangle
      have hpow : (2 : ℚ) ^ (24 + k) = 2 * 2 ^ (23 + k) := by ring
      linarith

end Single

end Platformer
