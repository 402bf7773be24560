import Platformer.Proofs.Magnitude

/-! # The rounded square root

The square root of a number is hardly ever rational, so its rounding is told by the rationals on
either side of it. The root of a count of steps is far out, where the grid is coarser than the
naturals, and between two naturals nothing is left to decide: a half step above the floor of the root
is rounded as the root is.

* **`nearest_eq_of_fraction`**, **`roundedSteps_eq_of_between`** — the rounding between two naturals
  that are far out.
* **`rootPoint`** — the point that stands for a root, with **`roundedSteps_le_of_mul_self_le`** and
  **`le_roundedSteps_of_le_mul_self`**.
* **`IsRoundedRoot`**, **`Single.isRoundedRoot_sqrt`** — the square root is rounded once;
  **`Single.within_sqrt`**, **`Single.value_sqrt_of_mul_self`** — what follows for its value;
  **`Single.le_sqrt`**, **`Single.sqrt_le`** — it is compared with a number as their squares are. -/

namespace Platformer

/-! ### Between two naturals -/

/-- **On a grid of even steps** a fraction only matters where the floor is half a step past the grid,
and there it rounds up. -/
theorem divEven_of_fraction {num den half : Nat} (hden : 0 < den) (hfraction : num % den ≠ 0) :
    divEven num (den * (2 * half)) = if num / den % (2 * half) < half then num / den / (2 * half)
      else num / den / (2 * half) + 1 := by
  have hquot : num / (den * (2 * half)) = num / den / (2 * half) :=
    (Nat.div_div_eq_div_mul num den (2 * half)).symm
  have hrem : num % (den * (2 * half)) = num % den + den * (num / den % (2 * half)) := Nat.mod_mul
  have hlt := Nat.mod_lt num hden
  have hstep : den * (2 * half) = 2 * (den * half) := Nat.mul_left_comm den 2 half
  -- the remainder is never half of a step, so that no tie has to be settled
  simp only [divEven, hquot, hrem]
  generalize num / den % (2 * half) = past
  generalize num % den = fraction at hfraction hlt ⊢
  by_cases hbelow : past < half
  · have hroom := Nat.mul_le_mul_left den (Nat.succ_le_of_lt hbelow)
    rw [Nat.mul_succ] at hroom
    rw [if_pos (by omega), if_pos hbelow]
  · have hover := Nat.mul_le_mul_left den (Nat.le_of_not_lt hbelow)
    rw [if_neg (by omega), if_pos (by omega), if_neg hbelow]

/-- **Far out, the rounding of a fraction** is that of the half above its floor. -/
theorem nearest_eq_of_fraction {bits num den : Nat} (hden : 0 < den) (hfraction : num % den ≠ 0)
    (hshift : 0 < gridShift bits (num / den)) :
    nearest bits num den = nearest bits (2 * (num / den) + 1) 2 := by
  obtain ⟨shift, hshift⟩ := Nat.exists_eq_succ_of_ne_zero hshift.ne'
  have hfloor : (2 * (num / den) + 1) / 2 = num / den := by omega
  rw [nearest_eq, nearest_eq, hfloor, hshift, Nat.pow_succ', divEven_of_fraction hden hfraction,
    divEven_of_fraction Nat.two_pos (by omega), hfloor]

/-- **Between two naturals that are far out** all rationals have the same rounding. -/
theorem roundedSteps_eq_of_between {r : ℕ} (hr : 2 ^ 24 ≤ r) {t : ℚ} (hlow : r < t)
    (hhigh : t < r + 1) : roundedSteps t = roundedSteps (r + 1 / 2) := by
  have hquot : (t.num.natAbs : ℚ) / t.den = t := by
    rw [natAbs_num_div_den, abs_of_pos (r.cast_nonneg.trans_lt hlow)]
  have hden : (0 : ℚ) < t.den := Nat.cast_pos.mpr t.den_pos
  have hover : r * t.den < t.num.natAbs := by
    rw [← hquot, lt_div_iff₀ hden] at hlow
    exact_mod_cast hlow
  have hfloor : t.num.natAbs / t.den = r := by
    rw [← hquot, div_lt_iff₀ hden] at hhigh
    exact Nat.div_eq_of_lt_le hover.le (by exact_mod_cast hhigh)
  have hfraction : t.num.natAbs % t.den ≠ 0 := by
    intro hwhole
    have hsplit := Nat.div_add_mod t.num.natAbs t.den
    rw [hfloor, hwhole, Nat.mul_comm, Nat.add_zero] at hsplit
    exact hover.ne hsplit
  have hshift : 0 < gridShift 24 (t.num.natAbs / t.den) := by
    have hlog : 24 ≤ r.log2 := (Nat.le_log2 (by omega)).mpr hr
    rw [hfloor, gridShift]
    omega
  have hhalf : (r + 1 / 2 : ℚ) = (2 * r + 1 : ℕ) / (2 : ℕ) := by
    push_cast
    ring
  rw [← hquot, hhalf, roundedSteps_div _ t.den_pos, roundedSteps_div _ Nat.two_pos,
    nearest_eq_of_fraction t.den_pos hfraction hshift, hfloor]

/-! ### The root of a count -/

/-- **The point that stands for a root**: the root where it is whole, and half a step above its floor
where it is not. -/
def rootPoint (n : ℕ) : ℚ := if root n * root n = n then root n else root n + 1 / 2

variable {n : ℕ} {t : ℚ}

/-- The root of a great count is far out. -/
theorem two_pow_le_root (hn : 2 ^ 48 ≤ n) : 2 ^ 24 ≤ root n := le_root_iff.mpr hn

/-- **What is below a root** is rounded to no more. -/
theorem roundedSteps_le_of_mul_self_le (hn : 2 ^ 48 ≤ n) (ht : 0 ≤ t) (h : t * t ≤ n) :
    roundedSteps t ≤ roundedSteps (rootPoint n) := by
  have hroot : (0 : ℚ) ≤ root n := Nat.cast_nonneg _
  rw [rootPoint]
  split_ifs with hwhole
  · have hle : t * t ≤ root n * root n := by exact_mod_cast hwhole ▸ h
    exact roundedSteps_le_roundedSteps ((mul_self_le_mul_self_iff ht hroot).mpr hle)
  · rcases le_or_gt t (root n + 1 / 2) with hle | hpast
    · exact roundedSteps_le_roundedSteps hle
    -- from half a step on, what is below the root is still before the next natural
    · have hlt : t < root n + 1 := by
        refine (mul_self_lt_mul_self_iff ht (by positivity)).mpr (h.trans_lt ?_)
        exact_mod_cast (root_bracket n).2
      exact (roundedSteps_eq_of_between (two_pow_le_root hn) (by linarith) hlt).le

/-- **What is above a root** is rounded to no less. -/
theorem le_roundedSteps_of_le_mul_self (hn : 2 ^ 48 ≤ n) (ht : 0 ≤ t) (h : n ≤ t * t) :
    roundedSteps (rootPoint n) ≤ roundedSteps t := by
  have hroot : (0 : ℚ) ≤ root n := Nat.cast_nonneg _
  rw [rootPoint]
  split_ifs with hwhole
  · have hle : (root n * root n : ℚ) ≤ t * t := by
      refine le_trans (le_of_eq ?_) h
      exact_mod_cast hwhole
    exact roundedSteps_le_roundedSteps ((mul_self_le_mul_self_iff hroot ht).mpr hle)
  · rcases le_or_gt (root n + 1 / 2 : ℚ) t with hle | hshort
    · exact roundedSteps_le_roundedSteps hle
    -- up to half a step, what is above the root is past its floor
    · have hlt : (root n : ℚ) < t := by
        refine (mul_self_lt_mul_self_iff hroot ht).mpr (lt_of_lt_of_le ?_ h)
        exact_mod_cast lt_of_le_of_ne (root_bracket n).1 hwhole
      exact (roundedSteps_eq_of_between (two_pow_le_root hn) hlt (by linarith)).ge

/-! ### The square root of a number -/

/-- **The square root of a rational, rounded once**: what is below the root is rounded to no more, and
what is above it to no less. -/
structure IsRoundedRoot (v root : ℚ) : Prop where
  rounded_le : ∀ q, 0 ≤ q → q * q ≤ v → rounded q ≤ root
  le_rounded : ∀ q, 0 ≤ q → v ≤ q * q → root ≤ rounded q

/-- A root that is rational is the rounding of that rational. -/
theorem IsRoundedRoot.eq_rounded {q root : ℚ} (h : IsRoundedRoot (q * q) root) (hq : 0 ≤ q) :
    root = rounded q :=
  le_antisymm (h.le_rounded q hq le_rfl) (h.rounded_le q hq le_rfl)

/-- A rounded root is not below zero. -/
theorem IsRoundedRoot.nonneg {v root : ℚ} (h : IsRoundedRoot v root) (hv : 0 ≤ v) : 0 ≤ root := by
  rw [← rounded_zero]
  exact h.rounded_le 0 le_rfl (by rwa [zero_mul])

/-- Zero is its own root. -/
theorem isRoundedRoot_zero : IsRoundedRoot 0 0 where
  rounded_le q _ hle := by
    rw [mul_self_eq_zero.mp (le_antisymm hle (mul_self_nonneg q)), rounded_zero]
  le_rounded q hq _ := by
    rw [← rounded_zero]
    exact rounded_le_rounded hq

/-- **The root of a count of steps**, through the root of a count of squared steps. -/
theorem isRoundedRoot_rootPoint {m : ℕ} (hm : 0 < m) :
    IsRoundedRoot (m / stepsPerOne) (rounded (rootPoint (m * stepsPerOne) / stepsPerOne)) := by
  have hcount : 2 ^ 48 ≤ m * stepsPerOne := by
    have hunit : 2 ^ 48 ≤ stepsPerOne := by decide +kernel
    exact hunit.trans (Nat.le_mul_of_pos_left _ hm)
  have hsquare (q : ℚ) : q * stepsPerOne * (q * stepsPerOne) = q * q * (stepsPerOne * stepsPerOne) := by
    ring
  have hvalue : ((m * stepsPerOne : ℕ) : ℚ) = m / stepsPerOne * (stepsPerOne * stepsPerOne) := by
    rw [← mul_assoc, div_mul_cancel₀ _ stepsPerOne_pos.ne', Nat.cast_mul]
  have hunits : (0 : ℚ) ≤ stepsPerOne * stepsPerOne := by positivity
  rw [rounded, div_mul_cancel₀ _ stepsPerOne_pos.ne']
  refine ⟨fun q hq hle => ?_, fun q hq hle => ?_⟩
  · refine div_le_div_of_nonneg_right ?_ stepsPerOne_pos.le
    exact_mod_cast roundedSteps_le_of_mul_self_le hcount (mul_nonneg hq stepsPerOne_pos.le)
      (by rw [hsquare, hvalue]; exact mul_le_mul_of_nonneg_right hle hunits)
  · refine div_le_div_of_nonneg_right ?_ stepsPerOne_pos.le
    exact_mod_cast le_roundedSteps_of_le_mul_self hcount (mul_nonneg hq stepsPerOne_pos.le)
      (by rw [hsquare, hvalue]; exact mul_le_mul_of_nonneg_right hle hunits)

namespace Single

variable {x : Single}

/-- A finite number that is not below zero is a zero of either sign or a positive count of steps. -/
theorem cases_of_value_nonneg (hx : x.isFinite = true) (hnonneg : 0 ≤ x.value) :
    (∃ s h, x = finite s 0 h) ∨ ∃ m h, 0 < m ∧ x = finite false m h := by
  cases x with
  | finite s m h =>
    rcases Nat.eq_zero_or_pos m with rfl | hpos
    · exact Or.inl ⟨s, h, rfl⟩
    · cases s with
      | false => exact Or.inr ⟨m, h, hpos, rfl⟩
      | true =>
        rw [value_finite, cast_signed, if_pos rfl] at hnonneg
        have hneg : -(m : ℚ) / stepsPerOne < 0 :=
          div_neg_of_neg_of_pos (neg_neg_of_pos (Nat.cast_pos.mpr hpos)) stepsPerOne_pos
        exact absurd hnonneg (not_le.mpr hneg)
  | _ => simp [isFinite] at hx

/-- The root of a positive number is the rounding of the point that stands for it. -/
theorem sqrt_finite {m : ℕ} (hm : 0 < m) (h : OnGrid m) :
    (finite false m h).sqrt.isNaN = false ∧
      (finite false m h).sqrt.value = rounded (rootPoint (m * stepsPerOne) / stepsPerOne) := by
  rw [sqrt, if_neg hm.ne', if_neg Bool.false_ne_true, rootPoint]
  dsimp only
  split_ifs with hwhole
  · refine ⟨isNaN_round _ _ _, ?_⟩
    rw [value_round _ _ Nat.one_pos, cast_signed, if_neg Bool.false_ne_true, Nat.cast_one, div_one]
  · refine ⟨isNaN_round _ _ _, ?_⟩
    rw [value_round _ _ Nat.two_pos, cast_signed, if_neg Bool.false_ne_true]
    congr 2
    push_cast
    ring

/-- **The square root is rounded once**, whether or not it is rational. -/
theorem isRoundedRoot_sqrt (hx : x.isFinite = true) (hnonneg : 0 ≤ x.value) :
    x.sqrt.isNaN = false ∧ IsRoundedRoot x.value x.sqrt.value := by
  obtain ⟨s, h, rfl⟩ | ⟨m, h, hpos, rfl⟩ := cases_of_value_nonneg hx hnonneg
  · have hzero : (finite s 0 h).value = 0 := value_finite_eq_zero.mpr rfl
    rw [sqrt, if_pos rfl, hzero]
    exact ⟨rfl, isRoundedRoot_zero⟩
  · obtain ⟨hnumber, hvalue⟩ := sqrt_finite hpos h
    rw [hvalue, value_finite, cast_signed, if_neg Bool.false_ne_true]
    exact ⟨hnumber, isRoundedRoot_rootPoint hpos⟩

/-- **The square root of a finite number is finite**: it keeps within the root of the range. -/
theorem within_sqrt (hx : x.isFinite = true) (hnonneg : 0 ≤ x.value) : x.sqrt.Within (2 ^ 64) := by
  obtain ⟨hnumber, hroot⟩ := isRoundedRoot_sqrt hx hnonneg
  have hrange : x.value ≤ 2 ^ 64 * 2 ^ 64 := by
    have hlt := (le_abs_self x.value).trans_lt (abs_value_lt hx)
    rw [range_eq] at hlt
    exact hlt.le.trans (by norm_num)
  have hpower : rounded (2 ^ 64) = 2 ^ 64 := by decide +kernel
  refine within_of_abs_value_le hnumber ?_ (by norm_num)
  rw [abs_of_nonneg (hroot.nonneg hnonneg), ← hpower]
  exact hroot.le_rounded (2 ^ 64) (by positivity) hrange

/-- **The square root of a rational square** is the rounding of the rational. -/
theorem value_sqrt_of_mul_self {q : ℚ} (hx : x.isFinite = true) (hq : 0 ≤ q)
    (hvalue : x.value = q * q) : x.sqrt.value = rounded q := by
  obtain ⟨-, hroot⟩ := isRoundedRoot_sqrt hx (hvalue ▸ mul_self_nonneg q)
  rw [hvalue] at hroot
  exact hroot.eq_rounded hq

/-- **A number whose square is no greater** is no greater than the rounded root. -/
theorem le_sqrt {y : Single} (hx : x.isFinite = true) (hy : y.isFinite = true) (hnonneg : 0 ≤ y.value)
    (h : y.value * y.value ≤ x.value) : y ≤ x.sqrt := by
  have hroot := within_sqrt hx ((mul_self_nonneg _).trans h)
  refine (le_iff_of_isFinite hy hroot.isFinite).mpr ?_
  rw [← rounded_value y]
  exact (isRoundedRoot_sqrt hx ((mul_self_nonneg _).trans h)).2.rounded_le y.value hnonneg h

/-- **A number whose square is no less** is no less than the rounded root. -/
theorem sqrt_le {y : Single} (hx : x.isFinite = true) (hpos : 0 ≤ x.value) (hy : y.isFinite = true)
    (hnonneg : 0 ≤ y.value) (h : x.value ≤ y.value * y.value) : x.sqrt ≤ y := by
  refine (le_iff_of_isFinite (within_sqrt hx hpos).isFinite hy).mpr ?_
  rw [← rounded_value y]
  exact (isRoundedRoot_sqrt hx hpos).2.le_rounded y.value hnonneg h

end Single

end Platformer
