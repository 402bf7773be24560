import Platformer.Proofs.Magnitude

/-! # Curves that rise up to a cap

The curves of the game multiply and divide numbers that are not negative, and end with a cap. On the
way a result may overflow, and what follows an overflow may be no number: a share of nothing of what
is infinite, or the quotient of two infinities. The cap takes the place of what is not a number, and
nothing lies above it. So a curve rises if its results do wherever the greater one is a number.

* **`Single.min_le_min_of_number`**, **`Single.nonneg_min_of_number`** — the order below a cap.
* **`Single.mul_le_mul_of_nonneg`**, **`Single.mul_nonneg_of_number`**, **`Single.mul_share_mem`** —
  products.
* **`Single.div_le_div_of_nonneg`**, **`Single.div_nonneg_of_number`**, **`Single.div_self_min_one`** —
  quotients, the divisor of which may be infinite.
* **`Single.neg_lt_of_add_pos`**, **`Single.sub_pos`**, **`Single.sub_le_sub_of_isFinite`** — sums and
  differences, one part of which may be infinite. -/

namespace Platformer

namespace Single

variable {x y z : Single}

/-- A number that is not negative is finite or positive infinity. -/
theorem cases_of_nonneg (h : 0 ≤ z) : z.isFinite = true ∨ z = infinite false := by
  have hvalue := value_nonneg h
  rcases finite_or_infinite (isNaN_right_of_le h) with hfinite | rfl | rfl
  · exact Or.inl hfinite
  · rw [value_infinite_true] at hvalue
    linarith [range_pos]
  · exact Or.inr rfl

/-- A number above zero is finite or positive infinity. -/
theorem cases_of_pos (h : 0 < z) : (z.isFinite = true ∧ 0 < z.value) ∨ z = infinite false := by
  rcases cases_of_nonneg (Single.le_of_lt h) with hfinite | rfl
  · exact Or.inl ⟨hfinite, (pos_iff_of_isFinite hfinite).mp h⟩
  · exact Or.inr rfl

/-! ### Caps -/

/-- The smaller of a number and itself. -/
theorem min_self (hx : x.isNaN = false) : x.min x = x := by
  unfold min
  rw [if_neg (Bool.not_eq_true _ ▸ hx), ite_self]

/-- What is not a number gives way to its cap. -/
theorem min_of_isNaN (hx : x.isNaN = true) : x.min z = z := by
  unfold min
  rw [if_pos hx]

/-- **A cap keeps order** wherever the greater of two results is a number. -/
theorem min_le_min_of_number (hz : z.isNaN = false) (h : y.isNaN = false → x ≤ y) :
    x.min z ≤ y.min z := by
  cases hy : y.isNaN with
  | true =>
    rw [min_of_isNaN hy]
    exact min_le_right hz
  | false => exact min_le_min_right (h hy) hz

/-- Below a cap that is not negative a result is not negative if it is so as a number. -/
theorem nonneg_min_of_number (hz : 0 ≤ z) (h : x.isNaN = false → 0 ≤ x) : 0 ≤ x.min z := by
  cases hx : x.isNaN with
  | true => rwa [min_of_isNaN hx]
  | false => exact le_min (h hx) hz

/-! ### Products -/

/-- Only a finite number has a product with zero. -/
theorem isFinite_of_mul_zero (hz : z.isFinite = true) (hzero : z.value = 0)
    (h : (x * z).isNaN = false) : x.isFinite = true := by
  cases z with
  | finite t b hb =>
    have hb0 : b = 0 := value_finite_eq_zero.mp hzero
    cases x with
    | nan s => cases h
    | infinite s =>
      have hproduct : infinite s * finite t b hb = .nan false := if_pos hb0
      rw [hproduct] at h
      cases h
    | finite s a ha => rfl
  | _ => simp [isFinite] at hz

/-- **Multiplication keeps order** among numbers that are not negative. -/
theorem mul_le_mul_of_nonneg (hx : 0 ≤ x) (h : x ≤ y) (hz : 0 ≤ z) (hfinite : z.isFinite = true)
    (hnumber : (y * z).isNaN = false) : x * z ≤ y * z := by
  rcases (value_nonneg hz).lt_or_eq with hpos | hzero
  · exact Single.mul_le_mul_right h hfinite hpos
  · have hy : y.isFinite = true := isFinite_of_mul_zero hfinite hzero.symm hnumber
    have hx : x.isFinite = true := isFinite_of_le_of_le hx h isFinite_zero hy
    refine le_iff_value.mpr ⟨isNaN_mul hx hfinite, hnumber, ?_⟩
    rw [value_mul hx hfinite, value_mul hy hfinite, ← hzero, mul_zero, mul_zero]

/-- A product of numbers that are not negative is not negative. -/
theorem mul_nonneg_of_number (hx : 0 ≤ x) (hz : 0 ≤ z) (hfinite : z.isFinite = true)
    (hnumber : (x * z).isNaN = false) : 0 ≤ x * z := by
  refine Single.le_trans ?_ (mul_le_mul_of_nonneg (Single.le_refl isNaN_zero) hx hz hfinite hnumber)
  refine le_iff_value.mpr ⟨isNaN_zero, isNaN_mul isFinite_zero hfinite, ?_⟩
  rw [value_mul isFinite_zero hfinite, value_zero, zero_mul, rounded_zero]

/-- **A share of a number** that is not negative lies between zero and the number. -/
theorem mul_share_mem (hx : 0 ≤ x) (hfinite : x.isFinite = true) (hz : 0 ≤ z ∧ z ≤ 1) :
    0 ≤ x * z ∧ x * z ≤ x := by
  have hzf : z.isFinite = true := isFinite_of_le_of_le hz.1 hz.2 isFinite_zero isFinite_one
  refine ⟨Single.mul_nonneg hx hz.1 hfinite hzf, ?_⟩
  have hle : z * x ≤ 1 * x :=
    mul_le_mul_of_nonneg hz.1 hz.2 hx hfinite (isNaN_mul isFinite_one hfinite)
  rwa [Single.mul_comm z, Single.mul_comm 1, Single.mul_one (isNaN_of_isFinite hfinite)] at hle

/-! ### Quotients -/

/-- A quotient that is a number is that of two numbers. -/
theorem isNaN_of_div (h : (x / z).isNaN = false) : x.isNaN = false ∧ z.isNaN = false := by
  cases x with
  | nan s => cases z <;> cases h
  | infinite s =>
    cases z with
    | nan t => cases h
    | _ => exact ⟨rfl, rfl⟩
  | finite s a ha =>
    cases z with
    | nan t => cases h
    | _ => exact ⟨rfl, rfl⟩

/-- A finite number divided by infinity is a zero. -/
theorem div_infinite_of_isFinite (hx : x.isFinite = true) :
    (x / infinite false).isNaN = false ∧ (x / infinite false).value = 0 := by
  cases x with
  | finite s a ha =>
    have hquotient : finite s a ha / infinite false = round (s ^^ false) 0 1 := by
      show div _ _ = _
      rw [div]
    rw [hquotient, value_round _ _ Nat.one_pos, cast_signed]
    simp
  | _ => simp [isFinite] at hx

/-- Nothing but a finite number is divided by infinity. -/
theorem isFinite_of_div_infinite (h : (x / infinite false).isNaN = false) : x.isFinite = true := by
  cases x with
  | finite s a ha => rfl
  | _ => cases h

/-- **Division keeps order** among numbers that are not negative. -/
theorem div_le_div_of_nonneg (hx : 0 ≤ x) (h : x ≤ y) (hz : 0 < z)
    (hnumber : (y / z).isNaN = false) : x / z ≤ y / z := by
  rcases cases_of_pos hz with ⟨hfinite, hpos⟩ | rfl
  · exact Single.div_le_div_right h hfinite hpos
  · have hyf : y.isFinite = true := isFinite_of_div_infinite hnumber
    have hxf : x.isFinite = true := isFinite_of_le_of_le hx h isFinite_zero hyf
    obtain ⟨hxn, hxzero⟩ := div_infinite_of_isFinite hxf
    refine le_iff_value.mpr ⟨hxn, hnumber, ?_⟩
    rw [hxzero, (div_infinite_of_isFinite hyf).2]

/-- A quotient of numbers that are not negative is not negative. -/
theorem div_nonneg_of_number (hx : 0 ≤ x) (hz : 0 < z) (hnumber : (x / z).isNaN = false) :
    0 ≤ x / z := by
  refine Single.le_trans ?_ (div_le_div_of_nonneg (Single.le_refl isNaN_zero) hx hz hnumber)
  rcases cases_of_pos hz with ⟨hfinite, hpos⟩ | rfl
  · refine le_iff_value.mpr ⟨isNaN_zero, isNaN_div isNaN_zero hfinite hpos, ?_⟩
    rw [value_div isFinite_zero hfinite hpos.ne', value_zero, zero_div, rounded_zero]
  · obtain ⟨hzero, hvalue⟩ := div_infinite_of_isFinite isFinite_zero
    refine le_iff_value.mpr ⟨isNaN_zero, hzero, ?_⟩
    rw [hvalue, value_zero]

/-- **A number divided by itself** is one, or nothing; below a cap of one it is one. -/
theorem div_self_min_one (x : Single) : (x / x).min 1 = 1 := by
  cases x with
  | nan s => rfl
  | infinite s => rfl
  | finite s a ha =>
    by_cases hzero : a = 0
    · have hnan : finite s a ha / finite s a ha = .nan false := by
        show div _ _ = _
        rw [div, if_pos hzero, if_pos hzero]
      rw [hnan, min_of_isNaN rfl]
    · have hone : finite s a ha / finite s a ha = 1 := by
        show div _ _ = _
        rw [div, if_neg hzero, Bool.xor_self, Nat.mul_comm, one_eq_finite]
        exact round_mul_self false onGrid_stepsPerOne (Nat.pos_of_ne_zero hzero)
      rw [hone, min_self isNaN_one]

/-! ### Sums -/

/-- **A sum above zero** has a first summand past the opposite of the second, although the sum is
rounded. -/
theorem neg_lt_of_add_pos (hz : 0 ≤ z) (h : 0 < x + z) : -z < x := by
  obtain ⟨-, hnumber, -⟩ := lt_iff_value.mp h
  obtain ⟨hx, hz'⟩ := isNaN_of_add hnumber
  apply Single.lt_of_not_le hx (by rwa [isNaN_neg])
  intro hle
  rcases cases_of_nonneg hz with hfinite | rfl
  · have hsum : x + z ≤ -z + z := Single.add_le_add_right hle hfinite
    have hzero : (-z + z).value = 0 := by
      rw [value_add (by rwa [isFinite_neg]) hfinite, value_neg, neg_add_cancel, rounded_zero]
    have hpos := (lt_iff_value.mp (Single.lt_of_lt_of_le h hsum)).2.2
    rw [hzero, value_zero] at hpos
    exact hpos.false
  · -- only negative infinity lies before its opposite, and the two have no sum
    rcases cases_of_le hle with rfl | hnot | ⟨-, hnot⟩
    · cases hnumber
    · cases hnot
    · cases hnot

/-- Adding a number that is not negative leads no further down, also an infinite one. -/
theorem le_add_of_nonneg (hx : x.isFinite = true) (hz : 0 ≤ z) : x ≤ x + z := by
  rcases cases_of_nonneg hz with hfinite | rfl
  · exact Single.le_add_right (isNaN_of_isFinite hx) hfinite (value_nonneg hz)
  · rw [add_infinite false hx]
    exact le_infinite (isNaN_of_isFinite hx)

/-! ### Differences -/

/-- A difference that is a number is that to a number. -/
theorem isNaN_of_sub (h : (x - z).isNaN = false) : z.isNaN = false := by
  rw [← isNaN_neg]
  exact (isNaN_of_add h).2

/-- **Subtracting a number keeps the order of finite numbers**, also if it is infinite. -/
theorem sub_le_sub_of_isFinite (hx : x.isFinite = true) (hy : y.isFinite = true) (h : x ≤ y)
    (hz : z.isNaN = false) : x - z ≤ y - z := by
  have hinfinite (s : Bool) : x + infinite s ≤ y + infinite s := by
    rw [add_infinite s hx, add_infinite s hy]
    exact Single.le_refl rfl
  rcases finite_or_infinite hz with hfinite | rfl | rfl
  · exact Single.sub_le_sub_right h hfinite
  · exact hinfinite false
  · exact hinfinite true

/-- **A difference above zero** stays above zero, although it is rounded. -/
theorem sub_pos (hx : x.isFinite = true) (h : y < x) : 0 < x - y := by
  obtain ⟨hy, -, hlt⟩ := lt_iff_value.mp h
  rcases finite_or_infinite hy with hfinite | rfl | rfl
  · have hneg : (y + -x).value < 0 :=
      value_add_neg hfinite (by rwa [isFinite_neg]) (by rw [value_neg]; linarith)
    have hmirror : (x - y).value = -(y + -x).value := by
      rw [value_sub hx hfinite, value_add hfinite (by rwa [isFinite_neg]), value_neg,
        ← rounded_neg]
      ring_nf
    refine lt_iff_value.mpr ⟨isNaN_zero, isNaN_sub (isNaN_of_isFinite hx) hfinite, ?_⟩
    rw [hmirror, value_zero]
    linarith
  · have hsum : x - infinite true = infinite false := add_infinite false hx
    rw [hsum]
    refine lt_iff_value.mpr ⟨isNaN_zero, rfl, ?_⟩
    rw [value_zero, value_infinite_false]
    exact range_pos
  · exact absurd (abs_lt.mp (abs_value_lt hx)).2 (not_lt.mpr (value_infinite_false ▸ hlt.le))

end Single

end Platformer
