import Mathlib.Data.Rat.Floor
import Mathlib.Tactic.FieldSimp
import Mathlib.Tactic.Positivity
import Platformer.Proofs.Rounding
import Platformer.Single.Arithmetic

/-! # The value of a single precision number

A single precision number stands for a rational, its position on the line of steps in units. In
these values every comparison is the comparison of rationals, and every operation is the exact
operation followed by one rounding. The infinities stand for the first power of two beyond the
finite numbers, where `rounded` ends.

* **`rounded`** — the rounding of a rational; it keeps order (`rounded_le_rounded`), is odd
  (`rounded_neg`) and keeps within bounds (`abs_rounded_le`).
* **`Single.value`**, **`Single.le_iff_value`**, **`Single.lt_iff_value`** — the value, and what
  comparisons say about it; **`Single.le_iff_of_isFinite`** for finite numbers.
* **`Single.rounded_value`**, **`Single.abs_rounded_sub_le`** — the rounding fixes the numbers, and
  none of them is nearer to a rational than its rounding.
* **`Single.value_add`**, **`Single.value_sub`**, **`Single.value_mul`**, **`Single.value_div`**,
  **`Single.value_abs`** — the operations on finite numbers.
* **`abs_rounded_sub_self_le`** — how far the rounding moves a rational. -/

namespace Platformer

/-! ### The rounding of a rational -/

/-- There is at least one step in one. -/
theorem stepsPerOne_pos : (0 : ℚ) < stepsPerOne := by
  rw [stepsPerOne]
  positivity

/-- A signed count of steps as a rational. -/
theorem cast_signed (s : Bool) (m : ℕ) :
    ((Single.signed s m : ℤ) : ℚ) = if s then -(m : ℚ) else m := by
  cases s <;> simp [Single.signed]

/-- The count of steps nearest to a rational count of steps, within the range of the format. -/
def roundedSteps (q : ℚ) : ℤ :=
  Single.signed (decide (q < 0)) (min (nearest 24 q.num.natAbs q.den) overflowSteps)

/-- **The rounding of a rational**: the value of the number that an exact result is rounded to. -/
def rounded (q : ℚ) : ℚ := roundedSteps (q * stepsPerOne) / stepsPerOne

/-- The magnitude of a rational as a quotient of naturals. -/
theorem natAbs_num_div_den (q : ℚ) : (q.num.natAbs : ℚ) / q.den = |q| := by
  rw [Nat.cast_natAbs, Int.cast_abs, ← Nat.abs_cast q.den, ← abs_div, Rat.num_div_den]

/-- Above zero the rounding is that of the numerator and denominator. -/
theorem roundedSteps_of_nonneg {q : ℚ} (hq : 0 ≤ q) :
    roundedSteps q = (min (nearest 24 q.num.natAbs q.den) overflowSteps : ℕ) := by
  rw [roundedSteps, decide_eq_false (not_lt.mpr hq)]
  rfl

/-- The rounding of a quotient of naturals. -/
theorem roundedSteps_div (num : ℕ) {den : ℕ} (hden : 0 < den) :
    roundedSteps (num / den) = (min (nearest 24 num den) overflowSteps : ℕ) := by
  have hnonneg : (0 : ℚ) ≤ num / den := by positivity
  have hden' : (den : ℚ) ≠ 0 := by positivity
  have hcross : (num / den : ℚ).num.natAbs * den = num * (num / den : ℚ).den := by
    have hquot := natAbs_num_div_den (num / den)
    rw [abs_of_nonneg hnonneg, div_eq_div_iff (Nat.cast_ne_zero.mpr (Rat.den_nz _)) hden'] at hquot
    exact_mod_cast hquot
  rw [roundedSteps_of_nonneg hnonneg, nearest_congr (by decide) (Rat.den_pos _) hden hcross]

/-- Zero is its own rounding. -/
@[simp] theorem roundedSteps_zero : roundedSteps 0 = 0 := by
  have hnearest : nearest 24 0 1 = 0 := by decide
  simp [roundedSteps, hnearest, Single.signed]

/-- The rounding is odd. -/
theorem roundedSteps_neg (q : ℚ) : roundedSteps (-q) = -roundedSteps q := by
  rcases lt_trichotomy q 0 with hneg | rfl | hpos
  · simp [roundedSteps, Single.signed, hneg, not_lt.mpr (neg_nonneg.mpr hneg.le)]
  · simp
  · simp [roundedSteps, Single.signed, hpos, not_lt.mpr hpos.le]

/-- The rounding of a signed quotient of naturals takes the sign along. -/
theorem roundedSteps_signed_div (s : Bool) (num : ℕ) {den : ℕ} (hden : 0 < den) :
    roundedSteps ((Single.signed s num : ℤ) / den) =
      Single.signed s (min (nearest 24 num den) overflowSteps) := by
  rw [cast_signed]
  cases s
  · exact roundedSteps_div num hden
  · rw [if_pos rfl, neg_div, roundedSteps_neg, roundedSteps_div num hden]
    rfl

/-- **The rounding keeps order** on counts of steps. -/
theorem roundedSteps_le_roundedSteps {q q' : ℚ} (h : q ≤ q') :
    roundedSteps q ≤ roundedSteps q' := by
  -- above zero this is the order of `nearest`; below zero the signs turn it around
  have habove : ∀ p p' : ℚ, 0 ≤ p → p ≤ p' → roundedSteps p ≤ roundedSteps p' := by
    intro p p' hp hle
    have hp' : 0 ≤ p' := hp.trans hle
    have hcross : p.num.natAbs * p'.den ≤ p'.num.natAbs * p.den := by
      have hquot : (p.num.natAbs : ℚ) / p.den ≤ p'.num.natAbs / p'.den := by
        rwa [natAbs_num_div_den, natAbs_num_div_den, abs_of_nonneg hp, abs_of_nonneg hp']
      rw [div_le_div_iff₀ (Nat.cast_pos.mpr p.den_pos) (Nat.cast_pos.mpr p'.den_pos)] at hquot
      exact_mod_cast hquot
    rw [roundedSteps_of_nonneg hp, roundedSteps_of_nonneg hp']
    exact_mod_cast min_le_min_right _ (nearest_le_nearest (by decide) p.den_pos p'.den_pos hcross)
  rcases le_or_gt 0 q with hq | hq
  · exact habove q q' hq h
  · have hflip := habove 0 (-q) le_rfl (by linarith)
    rw [roundedSteps_neg, roundedSteps_zero] at hflip
    rcases le_or_gt 0 q' with hq' | hq'
    · have hpos := habove 0 q' le_rfl hq'
      rw [roundedSteps_zero] at hpos
      omega
    · have hboth := habove (-q') (-q) (by linarith) (by linarith)
      rw [roundedSteps_neg, roundedSteps_neg] at hboth
      omega

/-- **The rounding keeps order.** -/
theorem rounded_le_rounded {q q' : ℚ} (h : q ≤ q') : rounded q ≤ rounded q' := by
  have hsteps := roundedSteps_le_roundedSteps (mul_le_mul_of_nonneg_right h stepsPerOne_pos.le)
  exact div_le_div_of_nonneg_right (by exact_mod_cast hsteps) stepsPerOne_pos.le

/-- A signed count is no nearer to a count above zero than its magnitude. -/
theorem abs_sub_le_abs_signed_sub (s : Bool) (m : ℕ) {t : ℚ} (ht : 0 ≤ t) :
    |(m : ℚ) - t| ≤ |((Single.signed s m : ℤ) : ℚ) - t| := by
  have hm : (0 : ℚ) ≤ m := m.cast_nonneg
  rw [cast_signed]
  cases s
  · simp
  · rw [if_pos rfl, abs_of_nonpos (by linarith : -(m : ℚ) - t ≤ 0)]
    exact abs_le.mpr ⟨by linarith, by linarith⟩

/-- Above zero, no point of the grid is nearer to a count of steps than its rounding, which stops at
the end of the format. -/
theorem abs_roundedSteps_sub_le_of_nonneg {m : ℕ} (hm : 2 ^ gridShift 24 m ∣ m)
    (hlt : m < overflowSteps) {t : ℚ} (ht : 0 ≤ t) : |(roundedSteps t : ℚ) - t| ≤ |(m : ℚ) - t| := by
  have hden : (0 : ℚ) < t.den := Nat.cast_pos.mpr t.den_pos
  have hquot : (t.num.natAbs : ℚ) = t * t.den := by
    have habs := natAbs_num_div_den t
    rwa [abs_of_nonneg ht, div_eq_iff hden.ne'] at habs
  have hnear : |(nearest 24 t.num.natAbs t.den : ℚ) - t| ≤ |(m : ℚ) - t| := by
    have hgrid := abs_nearest_sub_le hm t.num.natAbs t.den_pos
    have hscale : ∀ n : ℕ, |(n : ℚ) - t| * t.den = |(n : ℚ) * t.den - t.num.natAbs| := fun n => by
      rw [hquot, ← sub_mul, abs_mul, abs_of_pos hden]
    refine le_of_mul_le_mul_right ?_ hden
    rw [hscale, hscale]
    exact_mod_cast hgrid
  rw [roundedSteps_of_nonneg ht, Int.cast_natCast]
  rcases le_or_gt (nearest 24 t.num.natAbs t.den) overflowSteps with hle | hover
  · rwa [min_eq_left hle]
  -- past the end the rounding stops short, between the exact count and the grid point or before
  · have hlt' : (m : ℚ) < overflowSteps := by exact_mod_cast hlt
    have hover' : (overflowSteps : ℚ) < nearest 24 t.num.natAbs t.den := by exact_mod_cast hover
    rw [min_eq_right hover.le]
    rcases le_or_gt t overflowSteps with hinside | houtside
    · refine le_trans ?_ hnear
      rw [abs_of_nonneg (by linarith), abs_of_nonneg (by linarith)]
      linarith
    · rw [abs_of_nonpos (by linarith), abs_of_nonpos (by linarith)]
      linarith

/-- The rounding is odd. -/
theorem rounded_neg (q : ℚ) : rounded (-q) = -rounded q := by
  rw [rounded, neg_mul, roundedSteps_neg, Int.cast_neg, neg_div, rounded]

/-- **What keeps within a bound** is rounded to what keeps within the rounding of the bound. -/
theorem abs_rounded_le {q b c : ℚ} (h : |q| ≤ b) (hb : rounded b ≤ c) : |rounded q| ≤ c := by
  obtain ⟨hlow, hhigh⟩ := abs_le.mp h
  rw [abs_le]
  constructor
  · calc -c ≤ -rounded b := neg_le_neg hb
      _ = rounded (-b) := (rounded_neg b).symm
      _ ≤ rounded q := rounded_le_rounded hlow
  · exact (rounded_le_rounded hhigh).trans hb

/-- Zero is not rounded. -/
@[simp] theorem rounded_zero : rounded 0 = 0 := by
  rw [rounded, zero_mul, roundedSteps_zero, Int.cast_zero, zero_div]

namespace Single

/-! ### Values -/

/-- **The value of a number.** An infinity has the value at which the finite numbers end, and a
not-a-number that of zero. -/
def value (x : Single) : ℚ := (x.rank?.getD 0 : ℤ) / stepsPerOne

/-- Only a not-a-number has no position on the line. -/
theorem isNaN_eq_isNone (x : Single) : x.isNaN = x.rank?.isNone := by
  cases x <;> rfl

/-- A number lies before or at another exactly when neither is a not-a-number and their values are
in order. -/
theorem le_iff_value {x y : Single} :
    x ≤ y ↔ x.isNaN = false ∧ y.isNaN = false ∧ x.value ≤ y.value := by
  rw [le_iff, isNaN_eq_isNone, isNaN_eq_isNone, value, value,
    div_le_div_iff_of_pos_right stepsPerOne_pos, Int.cast_le]
  cases x.rank? <;> cases y.rank? <;> simp

/-- A number lies before another exactly when neither is a not-a-number and their values are in
strict order. -/
theorem lt_iff_value {x y : Single} :
    x < y ↔ x.isNaN = false ∧ y.isNaN = false ∧ x.value < y.value := by
  rw [lt_iff, isNaN_eq_isNone, isNaN_eq_isNone, value, value,
    div_lt_div_iff_of_pos_right stepsPerOne_pos, Int.cast_lt]
  cases x.rank? <;> cases y.rank? <;> simp

/-- The value of a finite number is its count of steps, in units. -/
@[simp] theorem value_finite (s : Bool) (m : ℕ) (h : OnGrid m) :
    (finite s m h).value = (signed s m : ℤ) / stepsPerOne := rfl

/-- The value of an infinity. -/
@[simp] theorem value_infinite (s : Bool) :
    (infinite s).value = (signed s overflowSteps : ℤ) / stepsPerOne := rfl

/-- The magnitude of a count of steps with a sign. -/
theorem abs_signed_div (s : Bool) (m : ℕ) :
    |((signed s m : ℤ) : ℚ) / stepsPerOne| = m / stepsPerOne := by
  rw [abs_div, abs_of_pos stepsPerOne_pos, cast_signed]
  cases s <;> simp

/-- Only a count of no steps has the value zero. -/
theorem value_finite_eq_zero {s : Bool} {m : ℕ} {h : OnGrid m} :
    (finite s m h).value = 0 ↔ m = 0 := by
  rw [value_finite, div_eq_zero_iff, or_iff_left stepsPerOne_pos.ne', cast_signed]
  cases s <;> simp

/-- A finite number is a zero exactly if its value is. -/
theorem isZero_iff_value {x : Single} (hx : x.isFinite = true) : x.isZero = true ↔ x.value = 0 := by
  cases x with
  | finite s m h =>
    rw [value_finite_eq_zero]
    cases m with
    | zero => exact iff_of_true rfl rfl
    | succ m => exact iff_of_false Bool.false_ne_true m.succ_ne_zero
  | _ => simp only [isFinite, Bool.false_eq_true] at hx

/-- A finite number is a number. -/
theorem isNaN_of_isFinite {x : Single} (hx : x.isFinite = true) : x.isNaN = false := by
  cases x <;> simp_all [isFinite, isNaN]

/-- Finite numbers are in the order of their values. -/
theorem le_iff_of_isFinite {x y : Single} (hx : x.isFinite = true) (hy : y.isFinite = true) :
    x ≤ y ↔ x.value ≤ y.value := by
  rw [le_iff_value, isNaN_of_isFinite hx, isNaN_of_isFinite hy]
  simp

/-- Finite numbers are in the strict order of their values. -/
theorem lt_iff_of_isFinite {x y : Single} (hx : x.isFinite = true) (hy : y.isFinite = true) :
    x < y ↔ x.value < y.value := by
  rw [lt_iff_value, isNaN_of_isFinite hx, isNaN_of_isFinite hy]
  simp

/-- A number that is not the greater of two has a value. -/
theorem isNaN_left_of_le {x y : Single} (h : x ≤ y) : x.isNaN = false := (le_iff_value.mp h).1

/-- A number that is not the smaller of two has a value. -/
theorem isNaN_right_of_le {x y : Single} (h : x ≤ y) : y.isNaN = false := (le_iff_value.mp h).2.1

/-! ### Order -/

/-- A number lies at itself. -/
protected theorem le_refl {x : Single} (hx : x.isNaN = false) : x ≤ x :=
  le_iff_value.mpr ⟨hx, hx, le_rfl⟩

/-- The order of numbers is transitive. -/
protected theorem le_trans {x y z : Single} (hxy : x ≤ y) (hyz : y ≤ z) : x ≤ z := by
  obtain ⟨hx, -, hle⟩ := le_iff_value.mp hxy
  obtain ⟨-, hz, hle'⟩ := le_iff_value.mp hyz
  exact le_iff_value.mpr ⟨hx, hz, hle.trans hle'⟩

/-- What lies before a number does not lie after it. -/
protected theorem le_of_lt {x y : Single} (h : x < y) : x ≤ y := by
  obtain ⟨hx, hy, hlt⟩ := lt_iff_value.mp h
  exact le_iff_value.mpr ⟨hx, hy, hlt.le⟩

/-- Of two numbers with values, one that does not lie at or before the other lies after it. -/
protected theorem lt_of_not_le {x y : Single} (hx : x.isNaN = false) (hy : y.isNaN = false)
    (h : ¬ x ≤ y) : y < x := by
  rw [le_iff_value] at h
  exact lt_iff_value.mpr ⟨hy, hx, lt_of_not_ge fun hle => h ⟨hx, hy, hle⟩⟩

/-- Of two numbers with values, one that does not lie before the other lies at or after it. -/
protected theorem le_of_not_lt {x y : Single} (hx : x.isNaN = false) (hy : y.isNaN = false)
    (h : ¬ x < y) : y ≤ x := by
  by_contra hnot
  exact h (Single.lt_of_not_le hy hx hnot)

/-- Of two numbers the greater one does not lie at or before the other. -/
protected theorem not_le_of_lt {x y : Single} (h : x < y) : ¬ y ≤ x := by
  intro hle
  exact absurd (le_iff_value.mp hle).2.2 (not_le.mpr (lt_iff_value.mp h).2.2)

/-- What does not lie at or before a number lies after it, or is no number. -/
theorem not_le_iff {x y : Single} (hy : y.isNaN = false) : ¬ x ≤ y ↔ y < x ∨ x.isNaN = true := by
  constructor
  · intro h
    cases hx : x.isNaN with
    | true => exact Or.inr rfl
    | false => exact Or.inl (Single.lt_of_not_le hx hy h)
  · rintro (hlt | hnan) hle
    · exact Single.not_le_of_lt hlt hle
    · rw [isNaN_left_of_le hle] at hnan
      cases hnan

/-- A number at or before one that lies before a third lies before the third. -/
protected theorem lt_of_le_of_lt {x y z : Single} (hxy : x ≤ y) (hyz : y < z) : x < z := by
  obtain ⟨hx, -, hle⟩ := le_iff_value.mp hxy
  obtain ⟨-, hz, hlt⟩ := lt_iff_value.mp hyz
  exact lt_iff_value.mpr ⟨hx, hz, hle.trans_lt hlt⟩

/-- A number before one that lies at or before a third lies before the third. -/
protected theorem lt_of_lt_of_le {x y z : Single} (hxy : x < y) (hyz : y ≤ z) : x < z := by
  obtain ⟨hx, -, hlt⟩ := lt_iff_value.mp hxy
  obtain ⟨-, hz, hle⟩ := le_iff_value.mp hyz
  exact lt_iff_value.mpr ⟨hx, hz, hlt.trans_le hle⟩

/-! ### Rounded results -/

/-- A rounded number is a number. -/
@[simp] theorem isNaN_round (s : Bool) (num den : ℕ) : (round s num den).isNaN = false := by
  unfold round
  split <;> rfl

/-- **The value of a rounded number** is the rounding of its exact value. -/
theorem value_round (s : Bool) (num : ℕ) {den : ℕ} (hden : 0 < den) :
    (round s num den).value = rounded ((signed s num : ℤ) / den / stepsPerOne) := by
  rw [rounded, div_mul_cancel₀ _ stepsPerOne_pos.ne', roundedSteps_signed_div s num hden]
  unfold round
  split
  · next hlt => rw [value_finite, min_eq_left hlt.le]
  · next hge => rw [value_infinite, min_eq_right (not_lt.mp hge)]

/-- The value of a rounded count of steps is the rounding of its exact value. -/
theorem value_ofSteps (z : Bool) (n : ℤ) : (ofSteps z n).value = rounded (n / stepsPerOne) := by
  have hsign : signed (decide (n < 0) || (n == 0 && z)) n.natAbs = n := by
    rcases lt_trichotomy n 0 with hneg | rfl | hpos
    · simp [signed, hneg, abs_of_neg hneg]
    · simp [signed]
    · simp [signed, not_lt.mpr hpos.le, hpos.ne', hpos.le]
  rw [ofSteps, value_round _ _ Nat.one_pos, hsign, Nat.cast_one, div_one]

/-- A count of a few steps of a power of two is on the grid. -/
theorem step_dvd_mul_two_pow {m : ℕ} (hm : m ≤ 2 ^ 24) (e : ℕ) :
    2 ^ gridShift 24 (m * 2 ^ e) ∣ m * 2 ^ e := by
  have hdvd := two_pow_dvd_shiftLeft (by decide) hm e
  rwa [Nat.shiftLeft_eq] at hdvd

/-- The powers of two below the end of the format. -/
theorem two_pow_lt_overflowSteps {e : ℕ} (he : e < 277) : 2 ^ e < overflowSteps := by
  have hlt := Nat.pow_lt_pow_right (show 1 < 2 by decide) he
  simpa only [overflowSteps] using hlt

/-- Counts of up to 25 bits of whole units are below the end of the format. -/
theorem mul_stepsPerOne_lt {n : ℕ} (hn : n ≤ 2 ^ 25) : n * stepsPerOne < overflowSteps := by
  refine (Nat.mul_le_mul_right _ hn).trans_lt ?_
  rw [stepsPerOne, ← Nat.pow_add]
  exact two_pow_lt_overflowSteps (by decide)

/-- **The rounding fixes the numbers.** -/
@[simp] theorem rounded_value (x : Single) : rounded x.value = x.value := by
  have hfix : ∀ (s : Bool) (m : ℕ), 2 ^ gridShift 24 m ∣ m → m ≤ overflowSteps →
      rounded ((signed s m : ℤ) / stepsPerOne) = (signed s m : ℤ) / stepsPerOne := by
    intro s m hdvd hle
    have hself : nearest 24 m 1 = m := by simpa using nearest_mul_self hdvd Nat.one_pos
    have hround := roundedSteps_signed_div s m Nat.one_pos
    rw [hself, min_eq_left hle, Nat.cast_one, div_one] at hround
    rw [rounded, div_mul_cancel₀ _ stepsPerOne_pos.ne', hround]
  cases x with
  | nan s => simp [value, rank?, rounded]
  | infinite s =>
    have hpow (e : ℕ) : 2 ^ gridShift 24 (2 ^ e) ∣ 2 ^ e := by
      simpa using step_dvd_mul_two_pow (show 1 ≤ 2 ^ 24 by decide) e
    have hdvd : 2 ^ gridShift 24 overflowSteps ∣ overflowSteps := by
      rw [overflowSteps]
      apply hpow
    exact hfix s overflowSteps hdvd le_rfl
  | finite s m h => exact hfix s m h.dvd h.lt_overflow.le

/-- **No finite number is nearer** to a rational than its rounding. -/
theorem abs_rounded_sub_le {x : Single} (hx : x.isFinite = true) (q : ℚ) :
    |rounded q - q| ≤ |x.value - q| := by
  cases x with
  | nan s => simp [isFinite] at hx
  | infinite s => simp [isFinite] at hx
  | finite s m h =>
    have hscale : ∀ n : ℤ, |(n / stepsPerOne : ℚ) - q| * stepsPerOne = |n - q * stepsPerOne| :=
      fun n => by
        rw [← abs_of_pos stepsPerOne_pos, ← abs_mul, abs_of_pos stepsPerOne_pos, sub_mul,
          div_mul_cancel₀ _ stepsPerOne_pos.ne']
    refine le_of_mul_le_mul_right ?_ stepsPerOne_pos
    rw [rounded, value_finite, hscale, hscale]
    generalize q * stepsPerOne = t
    rcases le_total 0 t with ht | ht
    · refine (abs_roundedSteps_sub_le_of_nonneg h.dvd h.lt_overflow ht).trans ?_
      exact abs_sub_le_abs_signed_sub s m ht
    -- below zero both sides are mirrored
    · have hmirror := (abs_roundedSteps_sub_le_of_nonneg h.dvd h.lt_overflow
        (neg_nonneg.mpr ht)).trans (abs_sub_le_abs_signed_sub (!s) m (neg_nonneg.mpr ht))
      have hneg : signed (!s) m = -signed s m := by cases s <;> simp [signed]
      have hflip : ∀ a : ℚ, |-a - -t| = |a - t| := fun a => by rw [← neg_sub', abs_neg]
      rwa [roundedSteps_neg, hneg, Int.cast_neg, Int.cast_neg, hflip, hflip] at hmirror

/-- Naturals of at most 24 bits are numbers. -/
theorem rounded_natCast {n : ℕ} (hn : n ≤ 2 ^ 24) : rounded n = n := by
  have hdvd : 2 ^ gridShift 24 (n * stepsPerOne) ∣ n * stepsPerOne := step_dvd_mul_two_pow hn 149
  have hlt : n * stepsPerOne < overflowSteps := mul_stepsPerOne_lt (hn.trans (by decide))
  have hself := rounded_value (finite false (n * stepsPerOne) ⟨hlt, hdvd⟩)
  have hvalue : (finite false (n * stepsPerOne) ⟨hlt, hdvd⟩).value = n := by
    rw [value_finite, cast_signed, if_neg Bool.false_ne_true, Nat.cast_mul,
      mul_div_cancel_right₀ _ stepsPerOne_pos.ne']
  rwa [hvalue] at hself

/-- A count of at most 24 bits of a power of two of steps is a number, inside the format. -/
theorem exists_value_eq_steps {n : ℤ} (hn : |n| ≤ 2 ^ 24) {e : ℕ} (he : e ≤ 252) :
    ∃ x : Single, x.isFinite = true ∧ x.value = n * 2 ^ e / stepsPerOne := by
  have hbits : n.natAbs ≤ 2 ^ 24 := by
    zify
    exact hn
  have hlt : n.natAbs * 2 ^ e < overflowSteps := by
    calc n.natAbs * 2 ^ e ≤ 2 ^ 24 * 2 ^ e := Nat.mul_le_mul_right _ hbits
      _ = 2 ^ (24 + e) := (Nat.pow_add 2 24 e).symm
      _ < overflowSteps := two_pow_lt_overflowSteps (by omega)
  refine ⟨finite (decide (n < 0)) (n.natAbs * 2 ^ e) ⟨hlt, step_dvd_mul_two_pow hbits e⟩, rfl, ?_⟩
  have hsign : ((signed (decide (n < 0)) (n.natAbs * 2 ^ e) : ℤ) : ℚ) = n * 2 ^ e := by
    rw [cast_signed]
    rcases lt_or_ge n 0 with hneg | hpos
    · rw [if_pos (by simpa using hneg)]
      push_cast [Nat.cast_natAbs, abs_of_neg hneg]
      ring
    · rw [if_neg (by simpa using hpos)]
      push_cast [Nat.cast_natAbs, abs_of_nonneg hpos]
      ring
  rw [value_finite, hsign]

/-- A count of at most 24 bits of a share of one, down to a step, is a number. -/
theorem exists_value_eq {n : ℤ} (hn : |n| ≤ 2 ^ 24) {k : ℕ} (hk : k ≤ 149) :
    ∃ x : Single, x.isFinite = true ∧ x.value = n / 2 ^ k := by
  obtain ⟨x, hx, hvalue⟩ := exists_value_eq_steps hn (show 149 - k ≤ 252 by omega)
  have hsteps : (stepsPerOne : ℚ) = 2 ^ k * 2 ^ (149 - k) := by
    rw [← pow_add, Nat.add_sub_cancel' hk, stepsPerOne, Nat.cast_pow, Nat.cast_ofNat]
  refine ⟨x, hx, ?_⟩
  rw [hvalue, hsteps, mul_div_mul_right _ _ (by positivity)]

/-! ### Operations on finite numbers -/

/-- The value of the number nearest to a quotient. -/
theorem value_ofRatio (num : ℕ) {den : ℕ} (hden : 0 < den) :
    (ofRatio num den).value = rounded (num / den) := by
  rw [ofRatio, value_round _ _ hden, cast_signed, if_neg Bool.false_ne_true, Nat.cast_mul,
    div_right_comm, mul_div_cancel_right₀ _ stepsPerOne_pos.ne']

/-- The value of a natural is its rounding, even past the end of the format. -/
theorem value_ofNat_eq_rounded (n : ℕ) : (ofNat n).value = rounded n := by
  rw [ofNat, value_ofRatio n Nat.one_pos, Nat.cast_one, div_one]

/-- The value of a natural of at most 24 bits. -/
theorem value_ofNat {n : ℕ} (hn : n ≤ 2 ^ 24) : (ofNat n).value = n := by
  rw [value_ofNat_eq_rounded, rounded_natCast hn]

/-- The value of zero. -/
@[simp] theorem value_zero : (0 : Single).value = 0 := by
  exact_mod_cast value_ofNat (n := 0) (by decide)

/-- The value of one. -/
@[simp] theorem value_one : (1 : Single).value = 1 := by
  exact_mod_cast value_ofNat (n := 1) (by decide)

/-- The range of the format, in units, reaches beyond `2 ^ 25`. -/
theorem two_pow_lt_range : (2 ^ 25 : ℚ) < overflowSteps / stepsPerOne := by
  rw [lt_div_iff₀ stepsPerOne_pos]
  have hsteps : 2 ^ 25 * stepsPerOne < overflowSteps := mul_stepsPerOne_lt le_rfl
  exact_mod_cast hsteps

/-- The range of the format is above zero. -/
theorem range_pos : (0 : ℚ) < overflowSteps / stepsPerOne :=
  (by norm_num : (0 : ℚ) < 2 ^ 25).trans two_pow_lt_range

/-- Every value lies within the range of the format. -/
theorem abs_value_le (x : Single) : |x.value| ≤ (overflowSteps : ℚ) / stepsPerOne := by
  cases x with
  | nan s =>
    simpa [value, rank?] using div_nonneg (Nat.cast_nonneg overflowSteps) stepsPerOne_pos.le
  | infinite s => rw [value_infinite, abs_signed_div]
  | finite s m h =>
    rw [value_finite, abs_signed_div]
    exact div_le_div_of_nonneg_right (by exact_mod_cast h.lt_overflow.le) stepsPerOne_pos.le

/-- The values of finite numbers lie strictly within the range. -/
theorem abs_value_lt {x : Single} (hx : x.isFinite = true) :
    |x.value| < (overflowSteps : ℚ) / stepsPerOne := by
  cases x with
  | finite s m h =>
    rw [value_finite, abs_signed_div]
    exact div_lt_div_of_pos_right (by exact_mod_cast h.lt_overflow) stepsPerOne_pos
  | _ => simp [isFinite] at hx

/-- A number whose value lies strictly within the range is finite. -/
theorem isFinite_of_abs_value_lt {x : Single} (hx : x.isNaN = false)
    (h : |x.value| < (overflowSteps : ℚ) / stepsPerOne) : x.isFinite = true := by
  cases x with
  | nan s => simp [isNaN] at hx
  | infinite s =>
    rw [value_infinite, abs_signed_div] at h
    exact absurd h (not_lt.mpr le_rfl)
  | finite s m h => rfl

/-- A number within a natural bound of at most 24 bits is finite. -/
theorem isFinite_of_abs_value_le {x : Single} (hx : x.isNaN = false) {n : ℕ} (hn : n ≤ 2 ^ 24)
    (h : |x.value| ≤ n) : x.isFinite = true := by
  refine isFinite_of_abs_value_lt hx ?_
  have hcast : (n : ℚ) ≤ 2 ^ 24 := by exact_mod_cast hn
  linarith [two_pow_lt_range]

/-- A natural is a number, even past the end of the format. -/
theorem isNaN_ofNat (n : ℕ) : (ofNat n).isNaN = false := by
  rw [ofNat, ofRatio, isNaN_round]

/-- Naturals of at most 24 bits are finite. -/
theorem isFinite_ofNat {n : ℕ} (hn : n ≤ 2 ^ 24) : (ofNat n).isFinite = true := by
  refine isFinite_of_abs_value_le (isNaN_ofNat n) hn ?_
  rw [value_ofNat hn, Nat.abs_cast]

/-- Zero is finite. -/
theorem isFinite_zero : (0 : Single).isFinite = true := isFinite_ofNat (Nat.zero_le _)

/-- One is finite. -/
theorem isFinite_one : (1 : Single).isFinite = true := isFinite_ofNat Nat.one_le_two_pow

/-- Zero is a number. -/
theorem isNaN_zero : (0 : Single).isNaN = false := isNaN_of_isFinite isFinite_zero

/-- One is a number. -/
theorem isNaN_one : (1 : Single).isNaN = false := isNaN_of_isFinite isFinite_one

/-- Literals of at most 24 bits are finite. -/
theorem isFinite_literal (n : ℕ) (hn : n ≤ 2 ^ 24 := by decide) :
    (OfNat.ofNat n : Single).isFinite = true := isFinite_ofNat hn

/-- The value of a literal of at most 24 bits. -/
theorem value_literal (n : ℕ) [n.AtLeastTwo] (hn : n ≤ 2 ^ 24 := by decide) :
    (OfNat.ofNat n : Single).value = (OfNat.ofNat n : ℚ) := by
  rw [← Nat.cast_ofNat]
  exact value_ofNat hn

/-- A finite number is at or below zero exactly if its value is. -/
theorem nonpos_iff_of_isFinite {x : Single} (hx : x.isFinite = true) : x ≤ 0 ↔ x.value ≤ 0 := by
  rw [le_iff_of_isFinite hx isFinite_zero, value_zero]

/-- A finite number is above zero exactly if its value is. -/
theorem pos_iff_of_isFinite {x : Single} (hx : x.isFinite = true) : 0 < x ↔ 0 < x.value := by
  rw [lt_iff_of_isFinite isFinite_zero hx, value_zero]

/-- The opposite of a number is a number. -/
@[simp] theorem isNaN_neg (x : Single) : (-x).isNaN = x.isNaN := by cases x <;> rfl

/-- The opposite of a finite number is finite. -/
@[simp] theorem isFinite_neg (x : Single) : (-x).isFinite = x.isFinite := by cases x <;> rfl

/-- The value of the opposite number. -/
@[simp] theorem value_neg (x : Single) : (-x).value = -x.value := by
  have hneg : ∀ (s : Bool) (m : ℕ),
      ((signed (!s) m : ℤ) : ℚ) / stepsPerOne = -((signed s m : ℤ) / stepsPerOne) := by
    intro s m
    cases s <;> simp [signed, neg_div]
  cases x with
  | nan s =>
    show (nan (!s)).value = -(nan s).value
    simp [value, rank?]
  | infinite s => exact hneg s overflowSteps
  | finite s m h => exact hneg s m

/-- The magnitude of a number is a number. -/
@[simp] theorem isNaN_abs (x : Single) : x.abs.isNaN = x.isNaN := by cases x <;> rfl

/-- The magnitude of a finite number is finite. -/
@[simp] theorem isFinite_abs (x : Single) : x.abs.isFinite = x.isFinite := by cases x <;> rfl

/-- The value of the magnitude of a number. -/
@[simp] theorem value_abs (x : Single) : x.abs.value = |x.value| := by
  cases x with
  | nan s =>
    show (nan false).value = |(nan s).value|
    simp [value, rank?]
  | infinite s =>
    show (infinite false).value = _
    rw [value_infinite, value_infinite, abs_signed_div, cast_signed, if_neg Bool.false_ne_true]
  | finite s m h =>
    show (finite false m h).value = _
    rw [value_finite, value_finite, abs_signed_div, cast_signed, if_neg Bool.false_ne_true]

/-- **A number between two opposites** has no greater magnitude. -/
theorem abs_le_of_mem {x y : Single} (hlow : -y ≤ x) (hhigh : x ≤ y) : x.abs ≤ y := by
  obtain ⟨-, hx, hlow⟩ := le_iff_value.mp hlow
  obtain ⟨-, hy, hhigh⟩ := le_iff_value.mp hhigh
  refine le_iff_value.mpr ⟨by rwa [isNaN_abs], hy, ?_⟩
  rw [value_neg] at hlow
  rw [value_abs]
  exact abs_le.mpr ⟨hlow, hhigh⟩

/-- The sum of two finite numbers is their sum in steps, rounded. -/
theorem add_finite (s t : Bool) (a b : ℕ) (ha : OnGrid a) (hb : OnGrid b) :
    finite s a ha + finite t b hb = ofSteps (s && t) (signed s a + signed t b) := by
  show add _ _ = _
  rw [add]

/-- A sum with a finite number is a number. -/
theorem isNaN_add {x y : Single} (hx : x.isNaN = false) (hy : y.isFinite = true) :
    (x + y).isNaN = false := by
  cases y with
  | finite t b hb =>
    cases x with
    | nan s => exact hx
    | infinite s => rfl
    | finite s a ha => rw [add_finite, ofSteps, isNaN_round]
  | _ => simp [isFinite] at hy

/-- A sum that is a number is the sum of two numbers. -/
theorem isNaN_of_add {x y : Single} (h : (x + y).isNaN = false) :
    x.isNaN = false ∧ y.isNaN = false := by
  cases x with
  | nan s => cases y <;> cases h
  | infinite s =>
    cases y with
    | nan t => cases h
    | _ => exact ⟨rfl, rfl⟩
  | finite s a ha =>
    cases y with
    | nan t => cases h
    | _ => exact ⟨rfl, rfl⟩

/-- A difference with a finite number is a number. -/
theorem isNaN_sub {x y : Single} (hx : x.isNaN = false) (hy : y.isFinite = true) :
    (x - y).isNaN = false :=
  isNaN_add hx (by rwa [isFinite_neg])

/-- **A sum is the exact sum, rounded.** -/
theorem value_add {x y : Single} (hx : x.isFinite = true) (hy : y.isFinite = true) :
    (x + y).value = rounded (x.value + y.value) := by
  cases x with
  | finite s a ha =>
    cases y with
    | finite t b hb =>
      rw [add_finite, value_ofSteps, value_finite, value_finite, Int.cast_add, add_div]
    | _ => simp [isFinite] at hy
  | _ => simp [isFinite] at hx

/-- **A difference is the exact difference, rounded.** -/
theorem value_sub {x y : Single} (hx : x.isFinite = true) (hy : y.isFinite = true) :
    (x - y).value = rounded (x.value - y.value) := by
  show (x + -y).value = _
  rw [value_add hx (by rwa [isFinite_neg]), value_neg, sub_eq_add_neg]

/-- The product of two finite numbers is their product in steps, rounded. -/
theorem mul_finite (s t : Bool) (a b : ℕ) (ha : OnGrid a) (hb : OnGrid b) :
    finite s a ha * finite t b hb = round (s ^^ t) (a * b) stepsPerOne := by
  show mul _ _ = _
  rw [mul]

/-- A product of finite numbers is a number. -/
theorem isNaN_mul {x y : Single} (hx : x.isFinite = true) (hy : y.isFinite = true) :
    (x * y).isNaN = false := by
  cases x with
  | finite s a ha =>
    cases y with
    | finite t b hb => rw [mul_finite, isNaN_round]
    | _ => simp [isFinite] at hy
  | _ => simp [isFinite] at hx

/-- **A product is the exact product, rounded.** -/
theorem value_mul {x y : Single} (hx : x.isFinite = true) (hy : y.isFinite = true) :
    (x * y).value = rounded (x.value * y.value) := by
  cases x with
  | finite s a ha =>
    cases y with
    | finite t b hb =>
      have hprod : ((signed (s ^^ t) (a * b) : ℤ) : ℚ) / stepsPerOne / stepsPerOne =
          (signed s a : ℤ) / stepsPerOne * ((signed t b : ℤ) / stepsPerOne) := by
        rw [cast_signed, cast_signed, cast_signed, Nat.cast_mul]
        cases s <;> cases t <;> simp <;> ring
      rw [mul_finite, value_round _ _ (show 0 < stepsPerOne from Nat.two_pow_pos 149), hprod,
        value_finite, value_finite]
    | _ => simp [isFinite] at hy
  | _ => simp [isFinite] at hx

/-- **A quotient is the exact quotient, rounded.** -/
theorem value_div {x y : Single} (hx : x.isFinite = true) (hy : y.isFinite = true)
    (hne : y.value ≠ 0) : (x / y).value = rounded (x.value / y.value) := by
  cases x with
  | finite s a ha =>
    cases y with
    | finite t b hb =>
      have hb0 : b ≠ 0 := mt value_finite_eq_zero.mpr hne
      have hb0' : (b : ℚ) ≠ 0 := Nat.cast_ne_zero.mpr hb0
      have hquot : ((signed (s ^^ t) (a * stepsPerOne) : ℤ) : ℚ) / b / stepsPerOne =
          (signed s a : ℤ) / stepsPerOne / ((signed t b : ℤ) / stepsPerOne) := by
        have hsteps := stepsPerOne_pos.ne'
        rw [cast_signed, cast_signed, cast_signed, Nat.cast_mul]
        generalize (stepsPerOne : ℚ) = S at hsteps
        cases s <;> cases t <;> simp <;> field_simp
      show (if b = 0 then _ else round (s ^^ t) (a * stepsPerOne) b).value = _
      rw [if_neg hb0, value_round _ _ (Nat.pos_of_ne_zero hb0), hquot, value_finite, value_finite]
    | _ => simp [isFinite] at hy
  | _ => simp [isFinite] at hx

end Single

/-! ### The error of the rounding -/

/-- **The error of the rounding** is at most half of a unit whose counts of at most 24 bits are
numbers and reach the rational. -/
theorem abs_rounded_sub_self_le_of_unit {u q : ℚ} (hu : 0 < u)
    (hunit : ∀ n : ℤ, |n| ≤ 2 ^ 24 → ∃ x : Single, x.isFinite = true ∧ x.value = n * u)
    (hq : |q| ≤ 2 ^ 24 * u) : |rounded q - q| ≤ u / 2 := by
  -- the nearest count of units is a number, and none is nearer than the rounding
  obtain ⟨n, hgrid⟩ : ∃ n : ℤ, |(n : ℚ) - q / u| ≤ 1 / 2 :=
    ⟨round (q / u), by rw [abs_sub_comm]; exact abs_sub_round _⟩
  have hbits : |n| ≤ 2 ^ 24 := by
    have hscaled : |q / u| ≤ 2 ^ 24 := by
      rw [abs_div, abs_of_pos hu, div_le_iff₀ hu]
      exact hq
    have hlt : |(n : ℚ)| < 2 ^ 24 + 1 := by
      have htriangle := abs_sub_abs_le_abs_sub (n : ℚ) (q / u)
      linarith
    exact Int.lt_add_one_iff.mp (by exact_mod_cast hlt)
  obtain ⟨x, hx, hvalue⟩ := hunit n hbits
  calc |rounded q - q| ≤ |x.value - q| := Single.abs_rounded_sub_le hx q
    _ = |(n : ℚ) - q / u| * u := by
      rw [hvalue, ← abs_of_pos hu, ← abs_mul, abs_of_pos hu, sub_mul, div_mul_cancel₀ _ hu.ne']
    _ ≤ 1 / 2 * u := mul_le_mul_of_nonneg_right hgrid hu.le
    _ = u / 2 := by ring

/-- The error of the rounding of a rational below a power of two is at most half a step of the grid
that ends there. -/
theorem abs_rounded_sub_self_le {k : ℕ} (hk : k ≤ 24) {q : ℚ} (hq : |q| ≤ 2 ^ (24 - k)) :
    |rounded q - q| ≤ 1 / 2 ^ (k + 1) := by
  have hunit : (2 ^ 24 * (1 / 2 ^ k) : ℚ) = 2 ^ (24 - k) := by
    rw [mul_one_div, div_eq_iff (by positivity), ← pow_add, Nat.sub_add_cancel hk]
  have herror := abs_rounded_sub_self_le_of_unit (u := 1 / 2 ^ k) (q := q) (by positivity) ?_
    (hunit ▸ hq)
  · rwa [div_div, ← pow_succ] at herror
  · intro n hn
    obtain ⟨x, hx, hvalue⟩ := Single.exists_value_eq hn (hk.trans (by decide))
    exact ⟨x, hx, by rw [hvalue, mul_one_div]⟩

/-- A sum within a natural bound of at most 24 bits is finite. -/
theorem Single.isFinite_add {x y : Single} (hx : x.isFinite = true) (hy : y.isFinite = true)
    {n : ℕ} (hn : n ≤ 2 ^ 24) (h : |x.value + y.value| ≤ n) : (x + y).isFinite = true := by
  refine isFinite_of_abs_value_le (isNaN_add (isNaN_of_isFinite hx) hy) hn ?_
  rw [value_add hx hy]
  exact abs_rounded_le h (rounded_natCast hn).le

end Platformer
