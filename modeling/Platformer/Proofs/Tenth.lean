import Platformer.Proofs.Monotone

/-! # The rounded tenth of a number

The score counts whole tens, read off a rounded quotient. Rounding could take a quotient that lies
just below a whole number up to it; this file shows that it does not as long as the number itself is
at most `2 ^ 25`, because the grid around the quotient is much finer than the distance of the number
from the next multiple of ten.

* **`nearest_div_ten_lt`** — on counts of steps, the nearest point stays below every multiple.
* **`floor_rounded_div_ten`** — the rounded tenth has the whole part of the exact one.
* **`Single.value_floor_div_ten`** — the same for the operations of the format. -/

namespace Platformer

/-- Above the finest grid, the grid around a tenth is at least eight times as fine. -/
theorem gridShift_div_ten_add_three_le {m : ℕ} (h : 2 ^ 23 ≤ m / 10) :
    gridShift 24 (m / 10) + 3 ≤ gridShift 24 m := by
  have hlog : 23 ≤ (m / 10).log2 := (Nat.le_log2 (by omega)).mpr h
  have hlog' : (m / 10).log2 + 3 ≤ m.log2 := by
    rw [Nat.le_log2 (by omega), Nat.pow_add]
    have hself := Nat.log2_self_le (n := m / 10) (by omega)
    omega
  unfold gridShift
  omega

/-- **The nearest point to a tenth** of a count of steps lies below every multiple of one that the
exact tenth lies below. -/
theorem nearest_div_ten_lt {e m n : ℕ} (he : 27 ≤ e) (hm : 2 ^ gridShift 24 m ∣ m)
    (hle : m ≤ 2 ^ (e + 25)) (hlt : m < 10 * (n * 2 ^ e)) : nearest 24 m 10 < n * 2 ^ e := by
  by_contra hge
  -- the rounding error is at most half a grid step, so the count is close to the multiple
  have herror := two_mul_abs_nearest_sub_le 24 m (show 0 < 10 by decide)
  have hclose : 10 * (n * 2 ^ e) - m ≤ 5 * 2 ^ gridShift 24 (m / 10) := by
    have hupper := (abs_le.mp (show |(nearest 24 m 10 * 10 : ℤ) - m| ≤
      5 * 2 ^ gridShift 24 (m / 10) by push_cast at herror; omega)).2
    have hge' : n * 2 ^ e ≤ nearest 24 m 10 := not_lt.mp hge
    zify [hlt.le]
    zify at hge'
    omega
  have hpos : 2 ^ e ≤ n * 2 ^ e := by
    refine Nat.le_mul_of_pos_left _ (Nat.pos_of_ne_zero ?_)
    rintro rfl
    omega
  rcases Nat.lt_or_ge (m / 10) (2 ^ 23) with hsmall | hlarge
  -- a small count lies further than a step below the multiple
  · have hshift : gridShift 24 (m / 10) ≤ gridShift 24 (2 ^ 23) :=
      gridShift_le_gridShift 24 hsmall.le
    rw [gridShift, gridShift, Nat.log2_two_pow] at hshift
    have hstep : 2 ^ gridShift 24 (m / 10) = 1 := by
      rw [gridShift, Nat.le_zero.mp hshift, Nat.pow_zero]
    have hunit : 2 ^ 27 ≤ 2 ^ e := Nat.pow_le_pow_right (by decide) he
    omega
  -- both are multiples of a power of two that is at least eight grid steps
  · have hlog : (m / 10).log2 < e + 22 := by
      rw [Nat.log2_lt (by omega)]
      rw [Nat.pow_add] at hle ⊢
      omega
    have hgrid : gridShift 24 (m / 10) + 3 ≤ min (gridShift 24 m) (e + 1) := by
      refine Nat.le_min.mpr ⟨gridShift_div_ten_add_three_le hlarge, ?_⟩
      unfold gridShift
      omega
    have hdvd : 2 ^ min (gridShift 24 m) (e + 1) ∣ 10 * (n * 2 ^ e) - m := by
      refine Nat.dvd_sub ?_ ((Nat.pow_dvd_pow 2 (Nat.min_le_left _ _)).trans hm)
      refine (Nat.pow_dvd_pow 2 (Nat.min_le_right _ _)).trans ⟨5 * n, ?_⟩
      ring
    have hfar : 2 ^ min (gridShift 24 m) (e + 1) ≤ 10 * (n * 2 ^ e) - m :=
      Nat.le_of_dvd (Nat.sub_pos_of_lt hlt) hdvd
    have hcoarse : 2 ^ gridShift 24 (m / 10) * 8 ≤ 2 ^ min (gridShift 24 m) (e + 1) := by
      have hpow := Nat.pow_le_pow_right (n := 2) (by decide) hgrid
      rwa [Nat.pow_add] at hpow
    have hstep : 0 < 2 ^ gridShift 24 (m / 10) := Nat.two_pow_pos _
    omega

/-- **The rounded tenth** of a number from zero up to `2 ^ 25` has the whole part of the exact
one. -/
theorem floor_rounded_div_ten {x : Single} (hx : x.isFinite = true) (hnonneg : 0 ≤ x.value)
    (hle : x.value ≤ 2 ^ 25) : ⌊rounded (x.value / 10)⌋ = ⌊x.value / 10⌋ := by
  have hfloor : ((⌊x.value / 10⌋₊ : ℕ) : ℤ) = ⌊x.value / 10⌋ :=
    Int.natCast_floor_eq_floor (by positivity)
  have hbelow := Nat.floor_le (show 0 ≤ x.value / 10 by positivity)
  have habove := Nat.lt_floor_add_one (x.value / 10)
  rw [← hfloor, Int.floor_eq_iff, Int.cast_natCast]
  generalize ⌊x.value / 10⌋₊ = n at hbelow habove
  constructor
  · have hn : n ≤ 2 ^ 24 := by
      have hcast : (n : ℚ) ≤ 2 ^ 24 := by linarith
      exact_mod_cast hcast
    have hmono := rounded_le_rounded hbelow
    rwa [Single.rounded_natCast hn] at hmono
  · cases x with
    | finite s m h =>
      have hvalue : (Single.finite s m h).value = (m : ℚ) / stepsPerOne := by
        rw [← Single.abs_signed_div s m, ← Single.value_finite s m h, abs_of_nonneg hnonneg]
      rw [hvalue] at hle habove ⊢
      have hcount : m ≤ 2 ^ (149 + 25) := by
        rw [div_le_iff₀ stepsPerOne_pos] at hle
        rw [Nat.pow_add, Nat.mul_comm]
        exact_mod_cast hle
      have hlt : m < 10 * ((n + 1) * 2 ^ 149) := by
        rw [div_div, div_lt_iff₀ (mul_pos stepsPerOne_pos (by norm_num))] at habove
        have hcast : (m : ℚ) < 10 * ((n + 1) * stepsPerOne) := by linarith
        exact_mod_cast hcast
      have hnear := nearest_div_ten_lt (by decide) h.dvd hcount hlt
      have hround := roundedSteps_div m (show 0 < 10 by decide)
      have hsteps : (m : ℚ) / stepsPerOne / 10 * stepsPerOne = m / (10 : ℕ) := by
        rw [div_right_comm, div_mul_cancel₀ _ stepsPerOne_pos.ne', Nat.cast_ofNat]
      rw [rounded, hsteps, hround, div_lt_iff₀ stepsPerOne_pos]
      have hmin := Nat.lt_of_le_of_lt (Nat.min_le_left (nearest 24 m 10) overflowSteps) hnear
      exact_mod_cast hmin
    | _ => simp [Single.isFinite] at hx

namespace Single

/-- Ten is finite. -/
theorem isFinite_ten : (10 : Single).isFinite = true := isFinite_literal 10

/-- The value of ten. -/
@[simp] theorem value_ten : (10 : Single).value = 10 := value_literal 10

/-- **The floor of a quotient by ten** is the exact whole part, for numbers from zero up to
`2 ^ 25`. -/
theorem value_floor_div_ten {x : Single} (hx : x.isFinite = true) (hnonneg : 0 ≤ x.value)
    (hle : x.value ≤ 2 ^ 25) :
    (x / 10).floor.isFinite = true ∧ (x / 10).floor.value = ⌊x.value / 10⌋₊ := by
  have hrange := two_pow_lt_range
  have hten : (10 : Single).value ≠ 0 := by norm_num
  have hquot : (x / 10).value = rounded (x.value / 10) := by
    rw [value_div hx isFinite_ten hten, value_ten]
  have hfloor := floor_rounded_div_ten hx hnonneg hle
  have hnat : ((⌊x.value / 10⌋₊ : ℕ) : ℤ) = ⌊x.value / 10⌋ :=
    Int.natCast_floor_eq_floor (by positivity)
  have hsmall : ((⌊x.value / 10⌋₊ : ℕ) : ℚ) ≤ 2 ^ 22 := by
    have hbelow := Nat.floor_le (show 0 ≤ x.value / 10 by positivity)
    linarith
  rw [← hquot, ← hnat] at hfloor
  generalize ⌊x.value / 10⌋₊ = n at hfloor hsmall
  obtain ⟨hbelow, habove⟩ := Int.floor_eq_iff.mp hfloor
  rw [Int.cast_natCast] at hbelow habove
  have hquotFinite : (x / 10).isFinite = true := by
    refine isFinite_of_abs_value_lt (isNaN_div (isNaN_of_isFinite hx) isFinite_ten (by norm_num)) ?_
    rw [abs_of_nonneg (n.cast_nonneg.trans hbelow)]
    linarith
  have hvalue : (x / 10).floor.value = n := by
    have hn : n ≤ 2 ^ 22 := by exact_mod_cast hsmall
    rw [value_floor hquotFinite, hfloor, Int.cast_natCast, rounded_natCast (hn.trans (by norm_num))]
  refine ⟨isFinite_of_abs_value_lt ?_ ?_, hvalue⟩
  · rw [isNaN_floor]
    exact isNaN_of_isFinite hquotFinite
  · rw [hvalue, Nat.abs_cast]
    linarith

end Single

end Platformer
