import Platformer.Proofs.Monotone

/-! # Magnitudes

An operation on finite numbers gives a finite number as long as the exact result is small enough. So
each operation takes bounds on the magnitudes of its operands to a bound on that of its result, and
where a bound comes out no greater than it went in, it holds for ever: the rounding absorbs a small
change of a great number.

* **`RoundsWithin`** — a bound that the rounding keeps within another one.
* **`Single.Within`** — a finite number with a bound on its magnitude; **`Single.Within.add`**,
  **`Single.Within.sub`**, **`Single.Within.mul`**, **`Single.Within.mul_share`** — the bounds of the
  operations.
* **`Single.Within.abs_add_error_le`**, **`Single.Within.abs_sub_error_le`**,
  **`Single.Within.abs_mul_error_le`** — what their rounding loses.
* **`Single.within_of_le_of_le`** — a number between two others keeps within a bound on both.
* **`Single.ofNat_le_ofNat`**, **`Single.ofNat_lt_ofNat`**, **`Single.ofNat_nonneg`**, **`Single.mul_nonneg`**,
  **`Single.min_one_mem`** — naturals, and numbers that are not negative.
* **`Single.value_add_neg`** — no sum below zero is rounded to zero. -/

namespace Platformer

/-- What keeps within a bound is rounded to what keeps within another bound, inside the format. -/
def RoundsWithin (b c : ℚ) : Prop := rounded b ≤ c ∧ c < 2 ^ 128

instance (b c : ℚ) : Decidable (RoundsWithin b c) :=
  inferInstanceAs (Decidable (_ ∧ _))

namespace Single

/-! ### Bounds on the magnitude -/

/-- A finite number whose magnitude keeps within a bound. -/
structure Within (b : ℚ) (x : Single) : Prop where
  isFinite : x.isFinite = true
  abs_value_le : |x.value| ≤ b

instance (b : ℚ) (x : Single) : Decidable (x.Within b) :=
  decidable_of_iff (x.isFinite = true ∧ |x.value| ≤ b) ⟨fun h => ⟨h.1, h.2⟩, fun h => ⟨h.1, h.2⟩⟩

variable {x y z : Single} {a b c : ℚ}

/-- The range of the format, in units. -/
theorem range_eq : (overflowSteps : ℚ) / stepsPerOne = 2 ^ 128 := by
  rw [div_eq_iff stepsPerOne_pos.ne']
  have hsteps : overflowSteps = 2 ^ 128 * stepsPerOne := by decide +kernel
  rw [hsteps, Nat.cast_mul, Nat.cast_pow, Nat.cast_ofNat]

/-- A number keeps within a bound on its value, inside the format. -/
theorem within_of_abs_value_le (hx : x.isNaN = false) (h : |x.value| ≤ c) (hc : c < 2 ^ 128) :
    x.Within c := by
  refine ⟨isFinite_of_abs_value_lt hx ?_, h⟩
  rw [range_eq]
  exact h.trans_lt hc

/-- A number whose value is a rounding keeps within what that is rounded to. -/
theorem within_of_value_eq (hx : x.isNaN = false) {q : ℚ} (hvalue : x.value = rounded q)
    (hq : |q| ≤ b) (h : RoundsWithin b c) : x.Within c := by
  refine within_of_abs_value_le hx ?_ h.2
  rw [hvalue]
  exact abs_rounded_le hq h.1

namespace Within

/-- A number with a bound is a number. -/
theorem isNaN (hx : x.Within a) : x.isNaN = false := isNaN_of_isFinite hx.isFinite

/-- A bound may be raised. -/
theorem mono (hx : x.Within a) (h : a ≤ b) : x.Within b :=
  ⟨hx.isFinite, hx.abs_value_le.trans h⟩

/-- The opposite number has the same bound. -/
theorem neg (hx : x.Within a) : (-x).Within a := by
  refine ⟨by rw [isFinite_neg]; exact hx.isFinite, ?_⟩
  rw [value_neg, abs_neg]
  exact hx.abs_value_le

/-- **A sum** keeps within the sum of the bounds, rounded. -/
theorem add (hx : x.Within a) (hy : y.Within b) (h : RoundsWithin (a + b) c := by decide +kernel) :
    (x + y).Within c := by
  refine within_of_value_eq (isNaN_add hx.isNaN hy.isFinite) (value_add hx.isFinite hy.isFinite)
    ?_ h
  exact (abs_add_le _ _).trans (add_le_add hx.abs_value_le hy.abs_value_le)

/-- **A difference** keeps within the sum of the bounds, rounded. -/
theorem sub (hx : x.Within a) (hy : y.Within b) (h : RoundsWithin (a + b) c := by decide +kernel) :
    (x - y).Within c :=
  hx.add hy.neg h

/-- **A product** keeps within the product of the bounds, rounded. -/
theorem mul (hx : x.Within a) (hy : y.Within b) (h : RoundsWithin (a * b) c := by decide +kernel) :
    (x * y).Within c := by
  refine within_of_value_eq (isNaN_mul hx.isFinite hy.isFinite) (value_mul hx.isFinite hy.isFinite)
    ?_ h
  have hnonneg : 0 ≤ a := (abs_nonneg _).trans hx.abs_value_le
  rw [abs_mul]
  exact mul_le_mul hx.abs_value_le hy.abs_value_le (abs_nonneg _) hnonneg

/-- **A share of a number** keeps within the bound of the number. -/
theorem mul_share (hx : x.Within a) (hy : y.Within 1) : (x * y).Within a := by
  have hvalue : (x * y).value = rounded (x.value * y.value) := value_mul hx.isFinite hy.isFinite
  have hshare : |x.value * y.value| ≤ x.abs.value := by
    rw [abs_mul, value_abs]
    exact mul_le_of_le_one_right (abs_nonneg _) hy.abs_value_le
  have hle : |(x * y).value| ≤ |x.value| := by
    rw [hvalue, ← value_abs]
    exact abs_rounded_le hshare (rounded_value x.abs).le
  refine ⟨isFinite_of_abs_value_lt (isNaN_mul hx.isFinite hy.isFinite) ?_, hle.trans hx.abs_value_le⟩
  exact hle.trans_lt (abs_value_lt hx.isFinite)

/-- **The error of a sum** whose operands have bounds. -/
theorem abs_add_error_le (hx : x.Within a) (hy : y.Within b) {k : ℕ} (hk : k ≤ 24)
    (h : a + b ≤ 2 ^ (24 - k)) : |(x + y).value - (x.value + y.value)| ≤ 1 / 2 ^ (k + 1) := by
  rw [value_add hx.isFinite hy.isFinite]
  refine abs_rounded_sub_self_le hk (le_trans ?_ h)
  exact (abs_add_le _ _).trans (add_le_add hx.abs_value_le hy.abs_value_le)

/-- **The error of a difference** whose operands have bounds. -/
theorem abs_sub_error_le (hx : x.Within a) (hy : y.Within b) {k : ℕ} (hk : k ≤ 24)
    (h : a + b ≤ 2 ^ (24 - k)) : |(x - y).value - (x.value - y.value)| ≤ 1 / 2 ^ (k + 1) := by
  have hsum := hx.abs_add_error_le hy.neg hk h
  rwa [value_neg, ← sub_eq_add_neg] at hsum

/-- **The error of a product** whose operands have bounds. -/
theorem abs_mul_error_le (hx : x.Within a) (hy : y.Within b) {k : ℕ} (hk : k ≤ 24)
    (h : a * b ≤ 2 ^ (24 - k)) : |(x * y).value - x.value * y.value| ≤ 1 / 2 ^ (k + 1) := by
  rw [value_mul hx.isFinite hy.isFinite]
  refine abs_rounded_sub_self_le hk (le_trans ?_ h)
  rw [abs_mul]
  exact mul_le_mul hx.abs_value_le hy.abs_value_le (abs_nonneg _)
    ((abs_nonneg _).trans hx.abs_value_le)

end Within

/-- Zero keeps within every bound. -/
theorem within_zero (h : 0 ≤ a) : (0 : Single).Within a := by
  refine ⟨isFinite_zero, ?_⟩
  rwa [value_zero, abs_zero]

/-- One keeps within itself. -/
theorem within_one : (1 : Single).Within 1 := by
  refine ⟨isFinite_one, ?_⟩
  rw [value_one, abs_one]

/-- A literal of at most 24 bits keeps within itself. -/
theorem within_literal (n : ℕ) [n.AtLeastTwo] (hn : n ≤ 2 ^ 24 := by decide) :
    (OfNat.ofNat n : Single).Within (OfNat.ofNat n) := by
  refine ⟨isFinite_literal n hn, ?_⟩
  rw [value_literal n hn, abs_of_nonneg (Nat.ofNat_nonneg n)]

/-- **A number between two others** keeps within a bound on both. -/
theorem within_of_le_of_le (hxy : x ≤ y) (hyz : y ≤ z) (hx : x.Within a) (hz : z.Within a) :
    y.Within a := by
  refine ⟨isFinite_of_le_of_le hxy hyz hx.isFinite hz.isFinite, ?_⟩
  obtain ⟨-, -, hlow⟩ := le_iff_value.mp hxy
  obtain ⟨-, -, hhigh⟩ := le_iff_value.mp hyz
  exact abs_le.mpr ⟨(abs_le.mp hx.abs_value_le).1.trans hlow,
    hhigh.trans (abs_le.mp hz.abs_value_le).2⟩

/-- A number that is not negative keeps within a bound on a later one. -/
theorem within_of_nonneg_of_le (hy : 0 ≤ y) (hyz : y ≤ z) (hz : z.Within a) : y.Within a := by
  refine within_of_le_of_le hy hyz ⟨isFinite_zero, ?_⟩ hz
  rw [value_zero, abs_zero]
  exact (abs_nonneg _).trans hz.abs_value_le

/-- A share is at most one. -/
theorem within_of_share (h : 0 ≤ x ∧ x ≤ 1) : x.Within 1 :=
  within_of_nonneg_of_le h.1 h.2 within_one

/-- What is no greater than a number, in magnitude, keeps within its bound. -/
theorem Within.of_abs_le (hx : x.Within a) (h : y.abs ≤ x) : y.Within a := by
  obtain ⟨hy, -, hle⟩ := le_iff_value.mp h
  rw [isNaN_abs] at hy
  rw [value_abs] at hle
  have hmagnitude : |y.value| ≤ |x.value| := hle.trans (le_abs_self _)
  exact ⟨isFinite_of_abs_value_lt hy (hmagnitude.trans_lt (abs_value_lt hx.isFinite)),
    hmagnitude.trans hx.abs_value_le⟩

/-! ### Numbers that are not negative -/

/-- The value of a number that is not negative. -/
theorem value_nonneg (h : 0 ≤ x) : 0 ≤ x.value := by
  simpa using (le_iff_value.mp h).2.2

/-- Naturals are in order, even past the end of the format. -/
theorem ofNat_le_ofNat {m n : ℕ} (h : m ≤ n) : ofNat m ≤ ofNat n := by
  refine le_iff_value.mpr ⟨isNaN_ofNat m, isNaN_ofNat n, ?_⟩
  rw [value_ofNat_eq_rounded, value_ofNat_eq_rounded]
  exact rounded_le_rounded (by exact_mod_cast h)

/-- Naturals of at most 24 bits are in strict order. -/
theorem ofNat_lt_ofNat {m n : ℕ} (h : m < n) (hn : n ≤ 2 ^ 24) : ofNat m < ofNat n := by
  have hm : m ≤ 2 ^ 24 := h.le.trans hn
  rw [lt_iff_of_isFinite (isFinite_ofNat hm) (isFinite_ofNat hn), value_ofNat hm, value_ofNat hn]
  exact_mod_cast h

/-- A natural is not negative, even one past the end of the format. -/
theorem ofNat_nonneg (n : ℕ) : 0 ≤ ofNat n := ofNat_le_ofNat n.zero_le

/-- A product of finite numbers that are not negative is not negative. -/
protected theorem mul_nonneg (hx : 0 ≤ x) (hy : 0 ≤ y) (hxf : x.isFinite = true)
    (hyf : y.isFinite = true) : 0 ≤ x * y := by
  refine le_iff_value.mpr ⟨isNaN_left_of_le hx, isNaN_mul hxf hyf, ?_⟩
  rw [value_mul hxf hyf, ← rounded_value 0, value_zero]
  exact rounded_le_rounded (mul_nonneg (value_nonneg hx) (value_nonneg hy))

/-- The smaller of one and a number that is not negative is a share. -/
theorem min_one_mem (h : 0 ≤ x) : 0 ≤ x.min 1 ∧ x.min 1 ≤ 1 := by
  have hone : (0 : Single) ≤ 1 := ofNat_nonneg 1
  exact ⟨le_min h hone, min_le_right (isNaN_right_of_le hone)⟩

/-- The sign of a number is one of two. -/
theorem sign_eq (hx : x.isNaN = false) : x.sign = 1 ∨ x.sign = -1 := by
  have hsign : x.sign = if x.isNegative then -1 else 1 := by
    cases x with
    | nan s => cases hx
    | _ => rfl
  rw [hsign]
  split
  · exact Or.inr rfl
  · exact Or.inl rfl

/-- One with either sign. -/
theorem within_of_unit (h : x = 1 ∨ x = -1) : x.Within 1 := by
  rcases h with hright | hleft
  · rw [hright]
    exact within_one
  · rw [hleft]
    exact within_one.neg

/-- **A sum below zero** stays below zero: its distance from zero is at least one step. -/
theorem value_add_neg (hx : x.isFinite = true) (hy : y.isFinite = true)
    (h : x.value + y.value < 0) : (x + y).value < 0 := by
  cases x with
  | finite s m hm =>
    cases y with
    | finite t n hn =>
      have hstep : OnGrid 1 :=
        ⟨by simpa using two_pow_lt_overflowSteps (e := 0) (by decide), Nat.one_dvd _⟩
      have hone : (finite true 1 hstep).value = -1 / stepsPerOne := by
        rw [value_finite, cast_signed, if_pos rfl, Nat.cast_one]
      have hneg : (-1 / stepsPerOne : ℚ) < 0 := div_neg_of_neg_of_pos (by norm_num) stepsPerOne_pos
      have hle : (finite s m hm).value + (finite t n hn).value ≤ (finite true 1 hstep).value := by
        rw [value_finite, value_finite, ← add_div] at h ⊢
        rw [div_neg_iff] at h
        have hsteps : signed s m + signed t n < 0 := by
          rcases h with ⟨-, hnot⟩ | ⟨hsum, -⟩
          · exact absurd hnot (not_lt.mpr stepsPerOne_pos.le)
          · exact_mod_cast hsum
        rw [hone]
        refine div_le_div_of_nonneg_right ?_ stepsPerOne_pos.le
        exact_mod_cast Int.le_sub_one_of_lt hsteps
      calc (finite s m hm + finite t n hn).value
          = rounded ((finite s m hm).value + (finite t n hn).value) := value_add rfl rfl
        _ ≤ rounded (finite true 1 hstep).value := rounded_le_rounded hle
        _ = -1 / stepsPerOne := by rw [rounded_value, hone]
        _ < 0 := hneg
    | _ => simp [isFinite] at hy
  | _ => simp [isFinite] at hx

end Single

end Platformer
