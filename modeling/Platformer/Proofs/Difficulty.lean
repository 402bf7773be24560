import Platformer.Proofs.Curve
import Platformer.Tuning

/-! # The game never gets easier

Three curves make the game harder: the chance of a monster and the speed of moving platforms with the
score, and the widening of gaps with height. Each is a chain of rounded operations. Every step keeps
order, and where a step overflows, what follows is either a number again or gives way to the cap of
the curve. So each curve rises over its whole range, for every tuning whose rates and caps are not
negative.

* **`Tuning.Rising`** — the tunings whose curves rise; **`Tuning.rising_standard`** — that of an
  ordinary run is one.
* **`Tuning.Rising.bonus_le_bonus`**, **`Tuning.Rising.bonus_nonneg`**, **`Tuning.Rising.bonus_le`** —
  the widening of gaps.
* **`Tuning.Rising.multiplier_le_multiplier`** — the speed multiplier.
* **`Tuning.progress`**, **`Tuning.chanceAt`** — the ramp of the chance and the chance along it;
  **`Tuning.Rising.chance_le_chance`** — the chance of a monster.
* **`Tuning.difficulty_never_eases`** — all three curves. -/

namespace Platformer

namespace Tuning

/-- **A tuning whose curves rise**: rates and caps are not negative, and the chance of a monster is no
smaller at the end of its ramp than at the beginning. The scores at the two ends may be in any
order. -/
structure Rising (t : Tuning) : Prop where
  isFinite_referenceHeight : t.referenceHeight.isFinite = true
  isFinite_spacingPer100 : t.spacingPer100.isFinite = true
  spacingPer100_nonneg : 0 ≤ t.spacingPer100
  spacingBonusMax_nonneg : 0 ≤ t.spacingBonusMax
  isFinite_perPoint : t.speedMultiplierPerPoint.isFinite = true
  perPoint_nonneg : 0 ≤ t.speedMultiplierPerPoint
  speedMultiplierCap_nonneg : 0 ≤ t.speedMultiplierCap
  spawnChanceMin_nonneg : 0 ≤ t.spawnChanceMin
  spawnChanceMin_le : t.spawnChanceMin ≤ t.spawnChanceMax
  isFinite_spawnChanceMax : t.spawnChanceMax.isFinite = true

/-- The curves of an ordinary run rise. -/
theorem rising_standard : standard.Rising := by
  constructor <;> decide +kernel

namespace Rising

variable {t : Tuning}

/-! ### The widening of gaps -/

/-- A hundred is finite and above zero. -/
theorem hundred_pos : (100 : Single).isFinite = true ∧ 0 < (100 : Single).value := by
  refine ⟨Single.isFinite_literal 100 (by decide), ?_⟩
  rw [Single.value_literal 100 (by decide)]
  norm_num

/-- The units above the height of reference, in hundreds, are not negative, even of a height that is
not a number. -/
theorem hundreds_nonneg (height : Single) :
    0 ≤ (height - t.referenceHeight).positivePart / 100 := by
  have hexcess := Single.positivePart_nonneg (height - t.referenceHeight)
  obtain ⟨hfinite, hpos⟩ := hundred_pos
  apply Single.div_nonneg_of_number hexcess ((Single.pos_iff_of_isFinite hfinite).mpr hpos)
  exact Single.isNaN_div (Single.isNaN_right_of_le hexcess) hfinite hpos

/-- The units above the height of reference, in hundreds, rise with the height. -/
theorem hundreds_le_hundreds (h : t.Rising) {low high : Single} (hle : low ≤ high) :
    (low - t.referenceHeight).positivePart / 100 ≤
      (high - t.referenceHeight).positivePart / 100 := by
  obtain ⟨hfinite, hpos⟩ := hundred_pos
  apply Single.div_le_div_right _ hfinite hpos
  apply Single.positivePart_le_positivePart
  exact Single.sub_le_sub_right hle h.isFinite_referenceHeight

/-- **Gaps never narrow with height.** -/
theorem bonus_le_bonus (h : t.Rising) {low high : Single} (hle : low ≤ high) :
    t.spacingBonus low ≤ t.spacingBonus high := by
  apply Single.min_le_min_of_number (Single.isNaN_right_of_le h.spacingBonusMax_nonneg)
  exact Single.mul_le_mul_of_nonneg (hundreds_nonneg low) (h.hundreds_le_hundreds hle)
    h.spacingPer100_nonneg h.isFinite_spacingPer100

/-- A gap is never narrower than on the ground. -/
theorem bonus_nonneg (h : t.Rising) (height : Single) : 0 ≤ t.spacingBonus height := by
  apply Single.nonneg_min_of_number h.spacingBonusMax_nonneg
  exact Single.mul_nonneg_of_number (hundreds_nonneg height) h.spacingPer100_nonneg
    h.isFinite_spacingPer100

/-- The widening ends at its cap. -/
theorem bonus_le (h : t.Rising) (height : Single) : t.spacingBonus height ≤ t.spacingBonusMax :=
  Single.min_le_right (Single.isNaN_right_of_le h.spacingBonusMax_nonneg)

/-! ### The speed of moving platforms -/

/-- **Platforms never slow down with the score.** -/
theorem multiplier_le_multiplier (h : t.Rising) {low high : ℕ} (hle : low ≤ high) :
    t.speedMultiplier low ≤ t.speedMultiplier high := by
  apply Single.min_le_min_of_number (Single.isNaN_right_of_le h.speedMultiplierCap_nonneg)
  intro hnumber
  have hproduct : (Single.ofNat high * t.speedMultiplierPerPoint).isNaN = false :=
    (Single.isNaN_of_add hnumber).2
  apply Single.add_le_add_left _ Single.isFinite_one
  exact Single.mul_le_mul_of_nonneg (Single.ofNat_nonneg low) (Single.ofNat_le_ofNat hle)
    h.perPoint_nonneg h.isFinite_perPoint hproduct

/-- The speed multiplier ends at its cap. -/
theorem multiplier_le (h : t.Rising) (score : ℕ) : t.speedMultiplier score ≤ t.speedMultiplierCap :=
  Single.min_le_right (Single.isNaN_right_of_le h.speedMultiplierCap_nonneg)

end Rising

/-! ### The chance of a monster -/

/-- How far a score is along the ramp of the chance, from zero to one. -/
def progress (t : Tuning) (score : ℕ) : Single :=
  (.ofNat (score - t.spawnScoreMin) / .ofNat (Nat.max 1 (t.spawnScoreMax - t.spawnScoreMin)) :
    Single).min 1

/-- The chance of a monster at a place along the ramp. -/
def chanceAt (t : Tuning) (progress : Single) : Single :=
  t.spawnChanceMin + (t.spawnChanceMax - t.spawnChanceMin) * progress

/-- The chance of a monster is zero below the ramp, and what the ramp gives on it. -/
theorem spawnChance_eq (t : Tuning) (score : ℕ) :
    t.spawnChance score = if score < t.spawnScoreMin then 0 else t.chanceAt (t.progress score) :=
  rfl

/-- The length of the ramp is above zero, in whatever order its ends are. -/
theorem span_pos (t : Tuning) :
    0 < Single.ofNat (Nat.max 1 (t.spawnScoreMax - t.spawnScoreMin)) := by
  have hone : (0 : Single) < 1 := Single.ofNat_lt_ofNat Nat.one_pos Nat.one_le_two_pow
  exact Single.lt_of_lt_of_le hone (Single.ofNat_le_ofNat (Nat.le_max_left 1 _))

/-- Progress is a share of the ramp. -/
theorem progress_mem (t : Tuning) (score : ℕ) : 0 ≤ t.progress score ∧ t.progress score ≤ 1 := by
  constructor
  · apply Single.nonneg_min_of_number (Single.ofNat_nonneg 1)
    exact Single.div_nonneg_of_number (Single.ofNat_nonneg _) t.span_pos
  · exact Single.min_le_right (Single.isNaN_right_of_le (Single.ofNat_nonneg 1))

/-- Progress rises with the score. -/
theorem progress_le_progress (t : Tuning) {low high : ℕ} (hle : low ≤ high) :
    t.progress low ≤ t.progress high := by
  apply Single.min_le_min_of_number (Single.isNaN_right_of_le (Single.ofNat_nonneg 1))
  exact Single.div_le_div_of_nonneg (Single.ofNat_nonneg _)
    (Single.ofNat_le_ofNat (Nat.sub_le_sub_right hle _)) t.span_pos

namespace Rising

variable {t : Tuning}

/-- The least chance is finite. -/
theorem isFinite_spawnChanceMin (h : t.Rising) : t.spawnChanceMin.isFinite = true :=
  Single.isFinite_of_le_of_le h.spawnChanceMin_nonneg h.spawnChanceMin_le
    Single.isFinite_zero h.isFinite_spawnChanceMax

/-- What the chance gains along the ramp is finite and not negative. -/
theorem gain_mem (h : t.Rising) :
    0 ≤ t.spawnChanceMax - t.spawnChanceMin ∧
      (t.spawnChanceMax - t.spawnChanceMin).isFinite = true := by
  have hnonneg : 0 ≤ t.spawnChanceMax - t.spawnChanceMin :=
    Single.sub_nonneg h.isFinite_spawnChanceMin h.isFinite_spawnChanceMax h.spawnChanceMin_le
  have hle : t.spawnChanceMax - t.spawnChanceMin ≤ t.spawnChanceMax :=
    Single.sub_le_self (Single.isNaN_right_of_le h.spawnChanceMin_le) h.isFinite_spawnChanceMin
      (Single.value_nonneg h.spawnChanceMin_nonneg)
  exact ⟨hnonneg, Single.isFinite_of_le_of_le hnonneg hle Single.isFinite_zero
    h.isFinite_spawnChanceMax⟩

/-- The chance rises along the ramp. -/
theorem chanceAt_le_chanceAt (h : t.Rising) {p q : Single} (hp : 0 ≤ p) (hpq : p ≤ q)
    (hq : q ≤ 1) : t.chanceAt p ≤ t.chanceAt q := by
  obtain ⟨hgain, hfinite⟩ := h.gain_mem
  have hqf : q.isFinite = true :=
    Single.isFinite_of_le_of_le (Single.le_trans hp hpq) hq Single.isFinite_zero
      Single.isFinite_one
  apply Single.add_le_add_left _ h.isFinite_spawnChanceMin
  rw [Single.mul_comm _ p, Single.mul_comm _ q]
  exact Single.mul_le_mul_of_nonneg hp hpq hgain hfinite (Single.isNaN_mul hqf hfinite)

/-- The chance along the ramp is not negative. -/
theorem chanceAt_nonneg (h : t.Rising) {p : Single} (hp : 0 ≤ p) (hle : p ≤ 1) :
    0 ≤ t.chanceAt p := by
  obtain ⟨hgain, hfinite⟩ := h.gain_mem
  have hzero : t.chanceAt 0 ≤ t.chanceAt p :=
    h.chanceAt_le_chanceAt (Single.le_refl Single.isNaN_zero) hp hle
  refine Single.le_trans (Single.le_trans h.spawnChanceMin_nonneg ?_) hzero
  -- at the beginning of the ramp a zero is added to the least chance
  have hmin := Single.isNaN_of_isFinite h.isFinite_spawnChanceMin
  have hvalue : ((t.spawnChanceMax - t.spawnChanceMin) * 0).value = 0 := by
    rw [Single.value_mul hfinite Single.isFinite_zero, Single.value_zero, mul_zero,
      rounded_zero]
  have hproduct : ((t.spawnChanceMax - t.spawnChanceMin) * 0).isFinite = true := by
    apply Single.isFinite_of_abs_value_le (n := 0)
      (Single.isNaN_mul hfinite Single.isFinite_zero) (by decide)
    simp [hvalue]
  exact Single.le_add_right hmin hproduct hvalue.ge

/-- **The chance of a monster never falls with the score.** -/
theorem chance_le_chance (h : t.Rising) {low high : ℕ} (hle : low ≤ high) :
    t.spawnChance low ≤ t.spawnChance high := by
  obtain ⟨hnonneg, hone⟩ := t.progress_mem high
  rw [spawnChance_eq, spawnChance_eq]
  by_cases hlow : low < t.spawnScoreMin
  · rw [if_pos hlow]
    split
    · exact Single.le_refl Single.isNaN_zero
    · exact h.chanceAt_nonneg hnonneg hone
  · rw [if_neg hlow, if_neg (by omega)]
    exact h.chanceAt_le_chanceAt (t.progress_mem low).1 (t.progress_le_progress hle) hone

/-- The chance of a monster is between zero and that at the end of the ramp. -/
theorem chance_mem (h : t.Rising) (score : ℕ) :
    0 ≤ t.spawnChance score ∧ t.spawnChance score ≤ t.chanceAt 1 := by
  have hone : (1 : Single) ≤ 1 := Single.le_refl Single.isNaN_one
  obtain ⟨hnonneg, hle⟩ := t.progress_mem score
  rw [spawnChance_eq]
  split
  · exact ⟨Single.le_refl Single.isNaN_zero, h.chanceAt_nonneg (Single.ofNat_nonneg 1) hone⟩
  · exact ⟨h.chanceAt_nonneg hnonneg hle, h.chanceAt_le_chanceAt hnonneg hle hone⟩

end Rising

/-- **The game never gets easier.** Under a tuning whose curves rise, whatever is rounded or overflows
on the way: the chance of a monster is zero below the least score, never falls with the score, and
never passes the chance at the end of its ramp; the speed multiplier never falls with the score and
never passes its cap; the widening of gaps is not negative, never falls with the height and never
passes its cap; and all three are always numbers. -/
theorem difficulty_never_eases {t : Tuning} (h : t.Rising) :
    (∀ score < t.spawnScoreMin, t.spawnChance score = 0) ∧
    (∀ low high : ℕ, low ≤ high →
      t.spawnChance low ≤ t.spawnChance high ∧
      t.spawnChance high ≤ t.spawnChanceMin + (t.spawnChanceMax - t.spawnChanceMin) * 1 ∧
      t.speedMultiplier low ≤ t.speedMultiplier high ∧
      t.speedMultiplier high ≤ t.speedMultiplierCap) ∧
    (∀ low high : Single, low ≤ high →
      0 ≤ t.spacingBonus low ∧ t.spacingBonus low ≤ t.spacingBonus high ∧
      t.spacingBonus high ≤ t.spacingBonusMax) ∧
    ∀ (score : ℕ) (height : Single), (t.spawnChance score).isNaN = false ∧
      (t.speedMultiplier score).isNaN = false ∧ (t.spacingBonus height).isNaN = false := by
  refine ⟨fun score hlow => ?_, fun low high hle => ?_, fun low high hle => ?_,
    fun score height => ?_⟩
  · rw [spawnChance_eq, if_pos hlow]
  · exact ⟨h.chance_le_chance hle, (h.chance_mem high).2, h.multiplier_le_multiplier hle,
      h.multiplier_le high⟩
  · exact ⟨h.bonus_nonneg low, h.bonus_le_bonus hle, h.bonus_le high⟩
  · exact ⟨Single.isNaN_right_of_le (h.chance_mem score).1,
      Single.isNaN_left_of_le (h.multiplier_le score),
      Single.isNaN_right_of_le (h.bonus_nonneg height)⟩

/-- A tuning whose ramp ends before it begins, with heights measured from the far end of the format
and gaps that do not widen. -/
def steep : Tuning :=
  { standard with
    referenceHeight := -3e38
    spacingPer100 := 0
    spawnScoreMin := 1000
    spawnScoreMax := 100 }

/-- The chance jumps to its end at the least score. Gaps do not widen on the ground; but far up the
height overflows, and a share of nothing of what is infinite gives way to the cap. -/
theorem difficulty_never_eases_steep :
    steep.Rising ∧ steep.spawnChance 999 = 0 ∧
    steep.spawnChance 999 ≤ steep.spawnChance (2 ^ 64 - 1) ∧
    steep.spawnChance (2 ^ 64 - 1) ≤ steep.spawnChanceMin +
      (steep.spawnChanceMax - steep.spawnChanceMin) * 1 ∧
    steep.spacingBonus 0 = 0 ∧ steep.spacingBonus 3e38 = 15 ∧
    steep.spacingBonus 0 ≤ steep.spacingBonus 3e38 := by
  have hrising : steep.Rising := by constructor <;> decide +kernel
  obtain ⟨hzero, hscore, hheight, -⟩ := difficulty_never_eases hrising
  obtain ⟨hchance, hramp, -, -⟩ := hscore 999 (2 ^ 64 - 1) (by decide)
  exact ⟨hrising, hzero 999 (by decide), hchance, hramp, by decide +kernel, by decide +kernel,
    (hheight 0 3e38 (by decide +kernel)).2.1⟩

end Tuning

end Platformer
