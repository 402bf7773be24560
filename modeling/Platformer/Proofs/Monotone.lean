import Mathlib.Algebra.Order.Floor.Semifield
import Platformer.Proofs.Value

/-! # Operations that keep order

Rounding keeps order, so the rounded operations keep it wherever the exact ones do. The facts of
this file hold for infinities as well, which is what lets an argument about a whole run pass over
overflow.

* **`Single.le_of_totalRank_le`** — the order used for sorting.
* **`Single.neg_le_neg`**, **`Single.add_le_add_right`**, **`Single.sub_le_sub_right`**,
  **`Single.sub_le_sub_left`**, **`Single.sub_le_self`**, **`Single.mul_le_mul_right`**,
  **`Single.div_le_div_right`** — arithmetic.
* **`Single.le_sub_of_add_lt`**, **`Single.sub_le_of_lt_add`** — a rounded sum on one side of a
  comparison as a rounded difference on the other.
* **`Single.positivePart_le_positivePart`**, **`Single.min_le_min_right`** — selections.
* **`Single.floor_le_floor`**, **`Single.toNat_le_toNat`** — whole parts.
* **`Single.toNat_of_isFinite`**, **`Single.toNat_of_not_pos`** — the natural of a finite number, and
  of a number that is not above zero. -/

namespace Platformer

namespace Single

/-! ### The ends of the line -/

/-- The value of positive infinity. -/
theorem value_infinite_false : (infinite false).value = (overflowSteps : ℚ) / stepsPerOne := by
  rw [value_infinite, cast_signed, if_neg Bool.false_ne_true]

/-- The value of negative infinity. -/
theorem value_infinite_true : (infinite true).value = -((overflowSteps : ℚ) / stepsPerOne) := by
  rw [value_infinite, cast_signed, if_pos rfl, neg_div]

/-- Negative infinity lies before every number. -/
theorem neg_infinite_le {x : Single} (hx : x.isNaN = false) : infinite true ≤ x := by
  refine le_iff_value.mpr ⟨rfl, hx, ?_⟩
  rw [value_infinite_true]
  exact (abs_le.mp (abs_value_le x)).1

/-- Positive infinity lies after every number. -/
theorem le_infinite {x : Single} (hx : x.isNaN = false) : x ≤ infinite false := by
  refine le_iff_value.mpr ⟨hx, rfl, ?_⟩
  rw [value_infinite_false]
  exact (abs_le.mp (abs_value_le x)).2

/-- A number is finite or one of the infinities. -/
theorem finite_or_infinite {x : Single} (hx : x.isNaN = false) :
    x.isFinite = true ∨ x = infinite true ∨ x = infinite false := by
  cases x with
  | nan s => simp [isNaN] at hx
  | infinite s => cases s <;> simp
  | finite s m h => exact Or.inl rfl

/-- **Numbers in order**: the first is negative infinity, or the second positive infinity, or both
are finite. -/
theorem cases_of_le {x y : Single} (h : x ≤ y) :
    x = infinite true ∨ y = infinite false ∨ (x.isFinite = true ∧ y.isFinite = true) := by
  obtain ⟨hx, hy, hle⟩ := le_iff_value.mp h
  rcases finite_or_infinite hx with hxf | rfl | rfl
  · rcases finite_or_infinite hy with hyf | rfl | rfl
    · exact Or.inr (Or.inr ⟨hxf, hyf⟩)
    · rw [value_infinite_true] at hle
      exact absurd (abs_lt.mp (abs_value_lt hxf)).1 (not_lt.mpr hle)
    · exact Or.inr (Or.inl rfl)
  · exact Or.inl rfl
  · rcases finite_or_infinite hy with hyf | rfl | rfl
    · rw [value_infinite_false] at hle
      exact absurd (abs_lt.mp (abs_value_lt hyf)).2 (not_lt.mpr hle)
    · rw [value_infinite_true, value_infinite_false] at hle
      linarith [range_pos]
    · exact Or.inr (Or.inl rfl)

/-- What lies between finite numbers is finite. -/
theorem isFinite_of_le_of_le {x y z : Single} (hxy : x ≤ y) (hyz : y ≤ z)
    (hx : x.isFinite = true) (hz : z.isFinite = true) : y.isFinite = true := by
  refine isFinite_of_abs_value_lt (isNaN_right_of_le hxy) (abs_lt.mpr ⟨?_, ?_⟩)
  · exact (abs_lt.mp (abs_value_lt hx)).1.trans_le (le_iff_value.mp hxy).2.2
  · exact (le_iff_value.mp hyz).2.2.trans_lt (abs_lt.mp (abs_value_lt hz)).2

/-- In the order used for sorting a negative number lies one place before its position. -/
theorem exists_rank {x : Single} (hx : x.isNaN = false) :
    ∃ a, x.rank? = some a ∧ (x.isNegative = true ∧ a ≤ 0 ∧ x.totalRank = a - 1 ∨
      x.isNegative = false ∧ 0 ≤ a ∧ x.totalRank = a) := by
  cases x with
  | nan s => cases hx
  | infinite s => cases s <;> exact ⟨_, rfl, by simp [isNegative, signed, totalRank]⟩
  | finite s m h => cases s <;> exact ⟨_, rfl, by simp [isNegative, signed, totalRank]⟩

/-- **Sorting agrees with the order of numbers.** -/
theorem le_of_totalRank_le {x y : Single} (hx : x.isNaN = false) (hy : y.isNaN = false)
    (h : x.totalRank ≤ y.totalRank) : x ≤ y := by
  obtain ⟨a, ha, hx⟩ := exists_rank hx
  obtain ⟨b, hb, hy⟩ := exists_rank hy
  exact le_iff.mpr ⟨a, b, ha, hb, by omega⟩

/-! ### Arithmetic -/

/-- Opposites turn the order around. -/
protected theorem neg_le_neg {x y : Single} (h : x ≤ y) : -y ≤ -x := by
  obtain ⟨hx, hy, hle⟩ := le_iff_value.mp h
  refine le_iff_value.mpr ⟨by rwa [isNaN_neg], by rwa [isNaN_neg], ?_⟩
  rw [value_neg, value_neg]
  exact neg_le_neg hle

/-- The opposite of a number that is not negative is not above zero. -/
protected theorem neg_nonpos {x : Single} (h : 0 ≤ x) : -x ≤ 0 := by
  obtain ⟨hzero, hx, hle⟩ := le_iff_value.mp h
  refine le_iff_value.mpr ⟨by rwa [isNaN_neg], hzero, ?_⟩
  rw [value_zero] at hle ⊢
  rw [value_neg]
  linarith

/-- Adding a finite number to an infinity leaves it. -/
theorem infinite_add (s : Bool) {z : Single} (hz : z.isFinite = true) :
    infinite s + z = infinite s := by
  cases z with
  | finite t m h => rfl
  | _ => simp [isFinite] at hz

/-- An infinity takes a finite number along. -/
theorem add_infinite (s : Bool) {x : Single} (hx : x.isFinite = true) :
    x + infinite s = infinite s := by
  cases x with
  | finite t m h => rfl
  | _ => simp [isFinite] at hx

/-- Subtracting a finite number from an infinity leaves it. -/
theorem infinite_sub (s : Bool) {z : Single} (hz : z.isFinite = true) :
    infinite s - z = infinite s :=
  infinite_add s (by rwa [isFinite_neg])

/-- Adding a finite number keeps order. -/
protected theorem add_le_add_right {x y z : Single} (h : x ≤ y) (hz : z.isFinite = true) :
    x + z ≤ y + z := by
  have hxz : (x + z).isNaN = false := isNaN_add (isNaN_left_of_le h) hz
  have hyz : (y + z).isNaN = false := isNaN_add (isNaN_right_of_le h) hz
  rcases cases_of_le h with rfl | rfl | ⟨hx, hy⟩
  · rw [infinite_add true hz]
    exact neg_infinite_le hyz
  · rw [infinite_add false hz]
    exact le_infinite hxz
  · refine le_iff_value.mpr ⟨hxz, hyz, ?_⟩
    rw [value_add hx hz, value_add hy hz]
    exact rounded_le_rounded (add_le_add_left (le_iff_value.mp h).2.2 _)

/-- Subtracting a finite number keeps order. -/
protected theorem sub_le_sub_right {x y z : Single} (h : x ≤ y) (hz : z.isFinite = true) :
    x - z ≤ y - z :=
  Single.add_le_add_right h (by rwa [isFinite_neg])

/-- Subtracting from a number turns the order of finite numbers around. -/
protected theorem sub_le_sub_left {x y z : Single} (hx : x.isNaN = false) (hy : y.isFinite = true)
    (hz : z.isFinite = true) (h : y.value ≤ z.value) : x - z ≤ x - y := by
  have hxy : (x - y).isNaN = false := isNaN_sub hx hy
  have hxz : (x - z).isNaN = false := isNaN_sub hx hz
  rcases finite_or_infinite hx with hxf | rfl | rfl
  · refine le_iff_value.mpr ⟨hxz, hxy, ?_⟩
    rw [value_sub hxf hz, value_sub hxf hy]
    exact rounded_le_rounded (sub_le_sub_left h _)
  · rw [infinite_sub true hz]
    exact neg_infinite_le hxy
  · rw [infinite_sub false hy]
    exact le_infinite hxz

/-- Subtracting a finite number that is not negative leads no further up. -/
protected theorem sub_le_self {x z : Single} (hx : x.isNaN = false) (hz : z.isFinite = true)
    (hnonneg : 0 ≤ z.value) : x - z ≤ x := by
  have hxz : (x - z).isNaN = false := isNaN_sub hx hz
  rcases finite_or_infinite hx with hxf | rfl | rfl
  · refine le_iff_value.mpr ⟨hxz, hx, ?_⟩
    rw [value_sub hxf hz]
    exact (rounded_le_rounded (sub_le_self x.value hnonneg)).trans_eq (rounded_value x)
  · rw [infinite_sub true hz]
    exact neg_infinite_le hx
  · exact le_infinite hxz

/-- The order of the terms of a sum makes no difference. -/
protected theorem add_comm (x y : Single) : x + y = y + x := by
  show add x y = add y x
  cases x with
  | nan s => cases y <;> rfl
  | infinite s =>
    cases y with
    | infinite t => cases s <;> cases t <;> rfl
    | _ => rfl
  | finite s a ha =>
    cases y with
    | finite t b hb => rw [add, add, Bool.and_comm, Int.add_comm]
    | _ => rfl

/-- The order of the factors of a product makes no difference. -/
protected theorem mul_comm (x y : Single) : x * y = y * x := by
  show mul x y = mul y x
  cases x with
  | nan s => cases y <;> rfl
  | infinite s =>
    cases y with
    | nan t => rfl
    | infinite t => rw [mul, mul, Bool.xor_comm]
    | finite t b hb => rw [mul, mul, Bool.xor_comm]
  | finite s a ha =>
    cases y with
    | nan t => rfl
    | infinite t => rw [mul, mul, Bool.xor_comm]
    | finite t b hb => rw [mul, mul, Bool.xor_comm, Nat.mul_comm]

/-- The opposite of a rounded number is rounded from the opposite. -/
theorem neg_round (s : Bool) (num den : ℕ) : -round s num den = round (!s) num den := by
  unfold round
  split <;> rfl

/-- A product with the opposite of a finite number is the opposite of the product. -/
protected theorem neg_mul {x y : Single} (hx : x.isFinite = true) (hy : y.isFinite = true) :
    -x * y = -(x * y) := by
  cases x with
  | finite s a ha =>
    cases y with
    | finite t b hb =>
      have hneg : -finite s a ha = finite (!s) a ha := rfl
      rw [hneg, mul_finite, mul_finite, neg_round, Bool.not_xor]
    | _ => simp [isFinite] at hy
  | _ => simp [isFinite] at hx

/-- Adding to a finite number keeps order. -/
protected theorem add_le_add_left {x y z : Single} (h : x ≤ y) (hz : z.isFinite = true) :
    z + x ≤ z + y := by
  rw [Single.add_comm z x, Single.add_comm z y]
  exact Single.add_le_add_right h hz

/-- Adding a finite number that is not negative leads no further down. -/
protected theorem le_add_right {x z : Single} (hx : x.isNaN = false) (hz : z.isFinite = true)
    (hnonneg : 0 ≤ z.value) : x ≤ x + z := by
  have hxz : (x + z).isNaN = false := isNaN_add hx hz
  rcases finite_or_infinite hx with hxf | rfl | rfl
  · refine le_iff_value.mpr ⟨hx, hxz, ?_⟩
    rw [value_add hxf hz]
    exact (rounded_value x).symm.trans_le (rounded_le_rounded (le_add_of_nonneg_right hnonneg))
  · exact neg_infinite_le hxz
  · rw [infinite_add false hz]
    exact le_infinite hx

/-- **A sum before a number** leaves room for its second part, although the sum and the difference are
rounded. -/
theorem le_sub_of_add_lt {x y z : Single} (hx : x.isNaN = false) (hy : y.isFinite = true)
    (hz : z.isFinite = true) (h : x + z < y) : x ≤ y - z := by
  have hnumber := isNaN_of_isFinite hy
  have hdifference : (y - z).isNaN = false := isNaN_sub hnumber hz
  rcases finite_or_infinite hx with hfinite | rfl | rfl
  · have hbelow : x.value + z.value < y.value := by
      by_contra hover
      have hrounded : rounded y.value ≤ rounded (x.value + z.value) :=
        rounded_le_rounded (not_lt.mp hover)
      rw [rounded_value, ← value_add hfinite hz] at hrounded
      exact absurd (lt_iff_value.mp h).2.2 (not_lt.mpr hrounded)
    refine le_iff_value.mpr ⟨hx, hdifference, ?_⟩
    rw [value_sub hy hz, ← rounded_value x]
    exact rounded_le_rounded (by linarith)
  · exact neg_infinite_le hdifference
  · rw [infinite_add false hz] at h
    exact absurd (le_infinite hnumber) (Single.not_le_of_lt h)

/-- **A number before a sum** is no further from its first part than the second one, although the sum
and the difference are rounded. -/
theorem sub_le_of_lt_add {x y z : Single} (hx : x.isFinite = true) (hy : y.isFinite = true)
    (hz : z.isFinite = true) (h : y < x + z) : y - x ≤ z := by
  have hexact : y.value < x.value + z.value := by
    by_contra hnot
    have hrounded := rounded_le_rounded (not_lt.mp hnot)
    rw [rounded_value, ← value_add hx hz] at hrounded
    exact absurd (lt_iff_value.mp h).2.2 (not_lt.mpr hrounded)
  refine le_iff_value.mpr ⟨isNaN_sub (isNaN_of_isFinite hy) hx, isNaN_of_isFinite hz, ?_⟩
  rw [value_sub hy hx, ← rounded_value z]
  exact rounded_le_rounded (by linarith)

/-- The difference to a number that is not greater is not negative. -/
protected theorem sub_nonneg {x y : Single} (hx : x.isFinite = true) (hy : y.isFinite = true)
    (h : x ≤ y) : 0 ≤ y - x := by
  refine le_iff_value.mpr ⟨isNaN_zero, isNaN_sub (isNaN_of_isFinite hy) hx, ?_⟩
  rw [value_sub hy hx, ← rounded_value 0, value_zero]
  exact rounded_le_rounded (sub_nonneg.mpr (le_iff_value.mp h).2.2)

/-- A whole count of steps is its own rounding. -/
theorem round_mul_self (s : Bool) {m : ℕ} (h : OnGrid m) {den : ℕ} (hden : 0 < den) :
    round s (m * den) den = finite s m h := by
  have hself : nearest 24 (m * den) den = m := nearest_mul_self h.dvd hden
  unfold round
  rw [dif_pos (by rw [hself]; exact h.lt_overflow)]
  congr

/-- The count of one is on the grid. -/
theorem onGrid_stepsPerOne : OnGrid stepsPerOne where
  lt_overflow := by simpa using mul_stepsPerOne_lt (n := 1) (by decide)
  dvd := by
    have hdvd := step_dvd_mul_two_pow (m := 1) (by decide) 149
    rwa [Nat.one_mul] at hdvd

/-- One as a count of steps. -/
theorem one_eq_finite : (1 : Single) = finite false stepsPerOne onGrid_stepsPerOne :=
  calc (1 : Single) = ofNat 1 := rfl
    _ = round false (stepsPerOne * 1) 1 := by rw [ofNat, ofRatio, Nat.mul_comm]
    _ = _ := round_mul_self false onGrid_stepsPerOne Nat.one_pos

/-- A product with one is the number itself. -/
protected theorem mul_one {x : Single} (hx : x.isNaN = false) : x * 1 = x := by
  rw [one_eq_finite]
  show mul x _ = x
  cases x with
  | nan s => cases hx
  | infinite s => cases s <;> rfl
  | finite s m h =>
    rw [mul, Bool.xor_false]
    exact round_mul_self s h (Nat.two_pow_pos 149)

/-- A quotient by a finite number above zero is a number. -/
theorem isNaN_div {x z : Single} (hx : x.isNaN = false) (hz : z.isFinite = true)
    (hpos : 0 < z.value) : (x / z).isNaN = false := by
  cases z with
  | finite t b hb =>
    have hb0 : b ≠ 0 := mt value_finite_eq_zero.mpr hpos.ne'
    show (div x _).isNaN = false
    cases x with
    | nan s => exact hx
    | infinite s => rfl
    | finite s a ha => rw [div, if_neg hb0, isNaN_round]
  | _ => simp [isFinite] at hz

/-- A finite number above zero has the positive sign and at least one step. -/
theorem exists_steps_of_pos {z : Single} (hz : z.isFinite = true) (hpos : 0 < z.value) :
    ∃ b hb, z = finite false b hb ∧ b ≠ 0 := by
  cases z with
  | finite t b hb =>
    cases t with
    | false => exact ⟨b, hb, rfl, mt value_finite_eq_zero.mpr hpos.ne'⟩
    | true =>
      rw [value_finite, cast_signed, if_pos rfl, neg_div] at hpos
      have hnonneg : (0 : ℚ) ≤ b / stepsPerOne := div_nonneg b.cast_nonneg stepsPerOne_pos.le
      linarith
  | _ => simp [isFinite] at hz

/-- An infinity divided by a finite number above zero stays. -/
theorem infinite_div (s : Bool) {z : Single} (hz : z.isFinite = true) (hpos : 0 < z.value) :
    infinite s / z = infinite s := by
  obtain ⟨b, hb, rfl, -⟩ := exists_steps_of_pos hz hpos
  show infinite (s ^^ false) = infinite s
  rw [Bool.xor_false]

/-- An infinity multiplied by a finite number above zero stays. -/
theorem infinite_mul (s : Bool) {z : Single} (hz : z.isFinite = true) (hpos : 0 < z.value) :
    infinite s * z = infinite s := by
  obtain ⟨b, hb, rfl, hne⟩ := exists_steps_of_pos hz hpos
  show (if b = 0 then _ else infinite (s ^^ false)) = infinite s
  rw [if_neg hne, Bool.xor_false]

/-- Multiplication by a finite number above zero keeps order. -/
protected theorem mul_le_mul_right {x y z : Single} (h : x ≤ y) (hz : z.isFinite = true)
    (hpos : 0 < z.value) : x * z ≤ y * z := by
  have hnumber : ∀ {w : Single}, w.isNaN = false → (w * z).isNaN = false := by
    intro w hw
    rcases finite_or_infinite hw with hwf | rfl | rfl
    · exact isNaN_mul hwf hz
    · rw [infinite_mul true hz hpos]
      rfl
    · rw [infinite_mul false hz hpos]
      rfl
  have hxz := hnumber (isNaN_left_of_le h)
  have hyz := hnumber (isNaN_right_of_le h)
  rcases cases_of_le h with rfl | rfl | ⟨hx, hy⟩
  · rw [infinite_mul true hz hpos]
    exact neg_infinite_le hyz
  · rw [infinite_mul false hz hpos]
    exact le_infinite hxz
  · refine le_iff_value.mpr ⟨hxz, hyz, ?_⟩
    rw [value_mul hx hz, value_mul hy hz]
    exact rounded_le_rounded (mul_le_mul_of_nonneg_right (le_iff_value.mp h).2.2 hpos.le)

/-- Division by a finite number above zero keeps order. -/
protected theorem div_le_div_right {x y z : Single} (h : x ≤ y) (hz : z.isFinite = true)
    (hpos : 0 < z.value) : x / z ≤ y / z := by
  have hxz : (x / z).isNaN = false := isNaN_div (isNaN_left_of_le h) hz hpos
  have hyz : (y / z).isNaN = false := isNaN_div (isNaN_right_of_le h) hz hpos
  rcases cases_of_le h with rfl | rfl | ⟨hx, hy⟩
  · rw [infinite_div true hz hpos]
    exact neg_infinite_le hyz
  · rw [infinite_div false hz hpos]
    exact le_infinite hxz
  · refine le_iff_value.mpr ⟨hxz, hyz, ?_⟩
    rw [value_div hx hz hpos.ne', value_div hy hz hpos.ne']
    exact rounded_le_rounded (div_le_div_of_nonneg_right (le_iff_value.mp h).2.2 hpos.le)

/-! ### Selections -/

/-- The positive part is not negative. -/
theorem positivePart_nonneg (x : Single) : 0 ≤ x.positivePart := by
  rw [positivePart]
  split
  · next hpos => exact Single.le_of_lt hpos
  · exact Single.le_refl isNaN_zero

/-- The positive part keeps order. -/
theorem positivePart_le_positivePart {x y : Single} (h : x ≤ y) :
    x.positivePart ≤ y.positivePart := by
  by_cases hx : 0 < x
  · have hy : 0 < y := by
      obtain ⟨hzero, -, hlt⟩ := lt_iff_value.mp hx
      obtain ⟨-, hnumber, hle⟩ := le_iff_value.mp h
      exact lt_iff_value.mpr ⟨hzero, hnumber, hlt.trans_le hle⟩
    rwa [positivePart, positivePart, if_pos hx, if_pos hy]
  · rw [positivePart, if_neg hx]
    exact positivePart_nonneg y

/-- The smaller of two numbers does not lie after the second. -/
theorem min_le_right {x z : Single} (hz : z.isNaN = false) : x.min z ≤ z := by
  rw [min]
  cases hx : x.isNaN with
  | true => exact Single.le_refl hz
  | false =>
    by_cases hlt : z < x
    · simpa [hlt] using Single.le_refl hz
    · simpa [hlt] using Single.le_of_not_lt hz hx hlt

/-- What does not lie after either of two numbers does not lie after the smaller. -/
theorem le_min {x y z : Single} (hy : x ≤ y) (hz : x ≤ z) : x ≤ y.min z := by
  rw [min, isNaN_right_of_le hy]
  simp only [Bool.false_eq_true, if_false]
  split
  · exact hz
  · exact hy

/-- The smaller of two numbers does not lie after the first. -/
theorem min_le_left {x z : Single} (hx : x.isNaN = false) : x.min z ≤ x := by
  rw [min, hx]
  simp only [Bool.false_eq_true, if_false]
  split
  · next hlt => exact Single.le_of_lt hlt
  · exact Single.le_refl hx

/-- A bound from above keeps order. -/
theorem min_le_min_right {x y z : Single} (h : x ≤ y) (hz : z.isNaN = false) :
    x.min z ≤ y.min z :=
  le_min (Single.le_trans (min_le_left (isNaN_left_of_le h)) h) (min_le_right hz)

/-! ### Whole parts -/

/-- The floor of a number is a number. -/
@[simp] theorem isNaN_floor (x : Single) : x.floor.isNaN = x.isNaN := by
  cases x with
  | finite s m h =>
    rw [floor, ofSteps, isNaN_round]
    rfl
  | _ => rfl

/-- **The floor** of a finite number is the floor of its value, rounded. -/
theorem value_floor {x : Single} (hx : x.isFinite = true) : x.floor.value = rounded ⌊x.value⌋ := by
  cases x with
  | finite s m h =>
    rw [floor, value_ofSteps, value_finite, Rat.floor_intCast_div_natCast, Int.cast_mul,
      Int.cast_natCast, mul_div_cancel_right₀ _ stepsPerOne_pos.ne']
  | _ => simp [isFinite] at hx

/-- The floor keeps order. -/
theorem floor_le_floor {x y : Single} (h : x ≤ y) : x.floor ≤ y.floor := by
  have hx : x.floor.isNaN = false := by rw [isNaN_floor]; exact isNaN_left_of_le h
  have hy : y.floor.isNaN = false := by rw [isNaN_floor]; exact isNaN_right_of_le h
  rcases cases_of_le h with rfl | rfl | ⟨hxf, hyf⟩
  · exact neg_infinite_le hy
  · exact le_infinite hx
  · refine le_iff_value.mpr ⟨hx, hy, ?_⟩
    rw [value_floor hxf, value_floor hyf]
    exact rounded_le_rounded (by exact_mod_cast Int.floor_le_floor (le_iff_value.mp h).2.2)

/-- The natural of a finite number is the whole part of its value, within the limit. -/
theorem toNat_of_isFinite (limit : ℕ) {x : Single} (hx : x.isFinite = true) :
    x.toNat limit = Nat.min limit ⌊x.value⌋₊ := by
  cases x with
  | finite s m h =>
    rw [toNat, value_finite, cast_signed]
    cases s with
    | true =>
      have hneg : -(m : ℚ) / stepsPerOne ≤ 0 := by
        rw [neg_div, neg_nonpos]
        exact div_nonneg m.cast_nonneg stepsPerOne_pos.le
      rw [if_pos rfl, if_pos rfl, Nat.floor_of_nonpos hneg]
      exact (Nat.min_zero limit).symm
    | false => rw [if_neg Bool.false_ne_true, if_neg Bool.false_ne_true, Nat.floor_div_eq_div]
  | _ => simp [isFinite] at hx

/-- The natural of a number keeps within its limit. -/
theorem toNat_le_limit (limit : ℕ) (x : Single) : x.toNat limit ≤ limit := by
  cases x with
  | nan s => exact Nat.zero_le _
  | infinite s => cases s <;> simp [toNat]
  | finite s m h => cases s <;> simp [toNat]

/-- The natural of a number keeps order. -/
theorem toNat_le_toNat (limit : ℕ) {x y : Single} (h : x ≤ y) : x.toNat limit ≤ y.toNat limit := by
  rcases cases_of_le h with rfl | rfl | ⟨hxf, hyf⟩
  · exact Nat.zero_le _
  · exact toNat_le_limit limit x
  · rw [toNat_of_isFinite limit hxf, toNat_of_isFinite limit hyf]
    exact min_le_min_left _ (Nat.floor_le_floor (le_iff_value.mp h).2.2)

/-- The natural of a number that is not above zero is zero. -/
theorem toNat_of_not_pos (limit : ℕ) {x : Single} (h : ¬ 0 < x) : x.toNat limit = 0 := by
  cases hx : x.isNaN with
  | true =>
    cases x with
    | nan s => rfl
    | _ => cases hx
  | false =>
    have hle : x ≤ 0 := Single.le_of_not_lt isNaN_zero hx h
    have hmono := toNat_le_toNat limit hle
    rw [toNat_of_isFinite limit isFinite_zero, value_zero, Nat.floor_zero] at hmono
    exact Nat.le_zero.mp (hmono.trans (Nat.min_le_right _ _))

end Single

end Platformer
