import Platformer.Controls
import Platformer.Proofs.Curve

/-! # The tilt of the device

The angle of the device is brought into one turn, and of the turn three windows steer: one beside
level on each side, and one around half a turn. In a window the deflection of the device goes through
a ramp with a dead zone. The dead zone may be any number or none: where the quotient of the ramp has
no value its cap takes over, so the share of full speed is always between zero and one.

* **`Single.modulo_mem`**, **`Single.modulo_of_not_finite`** — the remainder of a division, which may
  be rounded up to the divisor.
* **`withinTurn`** — the angle within one turn.
* **`tiltRamp_mem`**, **`tiltRamp_le_tiltRamp`**, **`tiltRamp_of_le`**, **`tiltRamp_window`** — the
  ramp.
* **`tiltVelocity_mem_of_right`**, **`tiltVelocity_mem_of_left`**,
  **`tiltVelocity_mem_of_upsideDown`**, **`tiltVelocity_of_outside`** — the velocity in each window.
* **`tiltVelocity_steers`** — what an angle asks for, whatever the angle and the dead zone. -/

namespace Platformer

/-! ### Remainders -/

namespace Single

variable {x y : Single}

/-- What is infinite or no number has no remainder. -/
theorem modulo_of_not_finite (hx : x.isFinite = false) (y : Single) : x.modulo y = .nan false := by
  have hremainder : x.remainder y = .nan false := by
    cases x with
    | finite s a ha => cases hx
    | _ => rfl
  unfold modulo
  rw [hremainder]
  rfl

/-- The remainder of a division toward zero is no greater than the divisor, in magnitude. -/
theorem abs_value_remainder_le (hx : x.isFinite = true) (hy : y.isFinite = true)
    (hne : y.value ≠ 0) :
    (x.remainder y).isNaN = false ∧ |(x.remainder y).value| ≤ y.abs.value := by
  cases x with
  | finite s a ha =>
    cases y with
    | finite t b hb =>
      have hb0 : b ≠ 0 := mt value_finite_eq_zero.mpr hne
      have hle : |((signed s (a % b) : ℤ) : ℚ) / stepsPerOne| ≤ (finite t b hb).abs.value := by
        rw [value_abs, value_finite, abs_signed_div, abs_signed_div]
        have hmod : a % b ≤ b := (Nat.mod_lt a (Nat.pos_of_ne_zero hb0)).le
        exact div_le_div_of_nonneg_right (by exact_mod_cast hmod) stepsPerOne_pos.le
      rw [remainder, if_neg hb0]
      refine ⟨isNaN_round _ _ _, ?_⟩
      rw [value_round _ _ Nat.one_pos, Nat.cast_one, div_one]
      exact abs_rounded_le hle (rounded_value _).le
    | _ => simp [isFinite] at hy
  | _ => simp [isFinite] at hx

/-- **The remainder that is not negative** lies between zero and the divisor; a small number below
zero is rounded up to the divisor itself. -/
theorem modulo_mem (hx : x.isFinite = true) (hy : y.isFinite = true) (hpos : 0 < y.value) :
    0 ≤ x.modulo y ∧ x.modulo y ≤ y := by
  have hyn := isNaN_of_isFinite hy
  have habs : y.abs.value = y.value := by rw [value_abs, abs_of_pos hpos]
  obtain ⟨hnumber, hmagnitude⟩ := abs_value_remainder_le hx hy hpos.ne'
  rw [habs] at hmagnitude
  obtain ⟨hlow, hhigh⟩ := abs_le.mp hmagnitude
  simp only [modulo]
  split
  · next hneg =>
    have hrf : (x.remainder y).isFinite = true :=
      isFinite_of_abs_value_lt hnumber
        (hmagnitude.trans_lt ((le_abs_self _).trans_lt (abs_value_lt hy)))
    have hyf : y.abs.isFinite = true := by rwa [isFinite_abs]
    have hbelow : (x.remainder y).value < 0 := by simpa using (lt_iff_value.mp hneg).2.2
    have hsum := isNaN_add hnumber hyf
    have hvalue : (x.remainder y + y.abs).value = rounded ((x.remainder y).value + y.value) := by
      rw [value_add hrf hyf, habs]
    constructor
    · refine le_iff_value.mpr ⟨isNaN_zero, hsum, ?_⟩
      rw [hvalue, value_zero, ← rounded_zero]
      exact rounded_le_rounded (by linarith)
    · refine le_iff_value.mpr ⟨hsum, hyn, ?_⟩
      rw [hvalue]
      exact (rounded_le_rounded (by linarith)).trans_eq (rounded_value y)
  · next hnonneg =>
    exact ⟨Single.le_of_not_lt hnumber isNaN_zero hnonneg,
      le_iff_value.mpr ⟨hnumber, hyn, hhigh⟩⟩

end Single

/-! ### The angle within one turn -/

/-- The angle of the device within one turn. -/
def withinTurn (angle : Single) : Single := angle.modulo 360

variable {angle speed deadzone deflection : Single}

/-- An angle that is infinite or no number has no place within a turn. -/
theorem withinTurn_of_not_finite (h : angle.isFinite = false) : (withinTurn angle).isNaN = true := by
  unfold withinTurn
  rw [Single.modulo_of_not_finite h]
  rfl

/-- **A finite angle** has a place within a turn. -/
theorem withinTurn_mem (h : angle.isFinite = true) :
    0 ≤ withinTurn angle ∧ withinTurn angle ≤ 360 := by
  apply Single.modulo_mem h (Single.isFinite_literal 360 (by decide))
  rw [Single.value_literal 360 (by decide)]
  norm_num

/-- An angle with a place within a turn that is a number is finite. -/
theorem isFinite_of_withinTurn (h : (withinTurn angle).isNaN = false) : angle.isFinite = true := by
  by_contra hnot
  rw [withinTurn_of_not_finite (Bool.not_eq_true _ ▸ hnot)] at h
  cases h

/-- The place within a turn is finite where it is a number. -/
theorem isFinite_withinTurn (h : (withinTurn angle).isNaN = false) :
    (withinTurn angle).isFinite = true := by
  obtain ⟨hnonneg, hle⟩ := withinTurn_mem (isFinite_of_withinTurn h)
  exact Single.isFinite_of_le_of_le hnonneg hle Single.isFinite_zero
    (Single.isFinite_literal 360 (by decide))

/-! ### The ramp -/

/-- The window is finite. -/
theorem isFinite_tiltWindow : tiltWindow.isFinite = true :=
  Single.isFinite_literal 45 (by decide)

/-- A deflection in the dead zone asks for nothing. -/
theorem tiltRamp_of_le (h : deflection ≤ deadzone) : tiltRamp deadzone deflection = 0 := if_pos h

/-- A deflection beyond the dead zone asks for a quotient, below one. -/
theorem tiltRamp_of_not_le (h : ¬ deflection ≤ deadzone) :
    tiltRamp deadzone deflection = ((deflection - deadzone) / (tiltWindow - deadzone)).min 1 :=
  if_neg h

/-- A deflection of the window beyond the dead zone leaves a way on both sides, where the quotient of
the ramp is a number. -/
theorem sub_deadzone_pos (hfinite : deflection.isFinite = true) (hle : deflection ≤ tiltWindow)
    (hbeyond : ¬ deflection ≤ deadzone)
    (hnumber : ((deflection - deadzone) / (tiltWindow - deadzone)).isNaN = false) :
    deadzone.isNaN = false ∧ 0 < deflection - deadzone ∧ 0 < tiltWindow - deadzone := by
  have hdead : deadzone.isNaN = false := Single.isNaN_of_sub (Single.isNaN_of_div hnumber).1
  have hlt : deadzone < deflection :=
    Single.lt_of_not_le (Single.isNaN_of_isFinite hfinite) hdead hbeyond
  exact ⟨hdead, Single.sub_pos hfinite hlt,
    Single.sub_pos isFinite_tiltWindow (Single.lt_of_lt_of_le hlt hle)⟩

/-- **The share of full speed** is between zero and one, whatever the dead zone. -/
theorem tiltRamp_mem (deadzone : Single) (hfinite : deflection.isFinite = true)
    (hle : deflection ≤ tiltWindow) :
    0 ≤ tiltRamp deadzone deflection ∧ tiltRamp deadzone deflection ≤ 1 := by
  have hone : (0 : Single) ≤ 1 := Single.ofNat_nonneg 1
  by_cases hbeyond : deflection ≤ deadzone
  · rw [tiltRamp_of_le hbeyond]
    exact ⟨Single.le_refl Single.isNaN_zero, hone⟩
  · rw [tiltRamp_of_not_le hbeyond]
    refine ⟨Single.nonneg_min_of_number hone fun hnumber => ?_,
      Single.min_le_right (Single.isNaN_right_of_le hone)⟩
    obtain ⟨-, hway, hwindow⟩ := sub_deadzone_pos hfinite hle hbeyond hnumber
    exact Single.div_nonneg_of_number (Single.le_of_lt hway) hwindow hnumber

/-- **The ramp rises** over the window, whatever the dead zone. -/
theorem tiltRamp_le_tiltRamp {low high : Single} (hlow : low.isFinite = true)
    (hhigh : high.isFinite = true) (h : low ≤ high) (hle : high ≤ tiltWindow) :
    tiltRamp deadzone low ≤ tiltRamp deadzone high := by
  by_cases hbeyond : low ≤ deadzone
  · rw [tiltRamp_of_le hbeyond]
    exact (tiltRamp_mem deadzone hhigh hle).1
  · have hbeyond' : ¬ high ≤ deadzone := fun hdead => hbeyond (Single.le_trans h hdead)
    rw [tiltRamp_of_not_le hbeyond, tiltRamp_of_not_le hbeyond']
    apply Single.min_le_min_of_number Single.isNaN_one
    intro hnumber
    obtain ⟨hdead, -, hwindow⟩ := sub_deadzone_pos hhigh hle hbeyond' hnumber
    have hlt : deadzone < low :=
      Single.lt_of_not_le (Single.isNaN_of_isFinite hlow) hdead hbeyond
    exact Single.div_le_div_of_nonneg (Single.le_of_lt (Single.sub_pos hlow hlt))
      (Single.sub_le_sub_of_isFinite hlow hhigh h hdead) hwindow hnumber

/-- The ramp ends at one. -/
theorem tiltRamp_window (h : ¬ tiltWindow ≤ deadzone) : tiltRamp deadzone tiltWindow = 1 := by
  rw [tiltRamp_of_not_le h, Single.div_self_min_one]

/-! ### The windows -/

/-- The bounds of the windows are exact. -/
theorem tiltWindow_bounds :
    360 - tiltWindow = 315 ∧ 180 - tiltWindow = 135 ∧ 180 + tiltWindow = 225 := by
  decide +kernel

/-- The bounds of the windows are as far from level and from half a turn as the windows are wide. -/
theorem sub_bounds : (360 - 315 : Single) = tiltWindow ∧ (135 - 180 : Single) = -tiltWindow ∧
    (225 - 180 : Single) = tiltWindow := by
  decide +kernel

/-- Beside level on the right the angle itself is the deflection. -/
theorem tiltVelocity_of_right (h : withinTurn angle ≤ 45) :
    tiltVelocity angle speed deadzone = speed * tiltRamp deadzone (withinTurn angle) :=
  if_pos h

/-- Outside the window on the right the other windows decide. -/
theorem tiltVelocity_of_not_right (h : ¬ withinTurn angle ≤ 45) :
    tiltVelocity angle speed deadzone =
      if 315 ≤ withinTurn angle then -speed * tiltRamp deadzone (360 - withinTurn angle)
      else if 135 ≤ withinTurn angle ∧ withinTurn angle ≤ 225 then
        -speed * tiltRamp deadzone (tiltWindow - (withinTurn angle - 180).abs)
      else 0 := by
  obtain ⟨hleft, hbefore, hafter⟩ := tiltWindow_bounds
  rw [← hleft, ← hbefore, ← hafter]
  exact if_neg h

/-- A share of full speed to the left. -/
theorem neg_mul_share_mem (hspeed : 0 ≤ speed) (hfinite : speed.isFinite = true)
    {share : Single} (hshare : 0 ≤ share ∧ share ≤ 1) :
    -speed ≤ -speed * share ∧ -speed * share ≤ 0 := by
  have hsharef : share.isFinite = true := (Single.within_of_share hshare).isFinite
  obtain ⟨hnonneg, hle⟩ := Single.mul_share_mem hspeed hfinite hshare
  rw [Single.neg_mul hfinite hsharef]
  exact ⟨Single.neg_le_neg hle, Single.neg_nonpos hnonneg⟩

/-- **Beside level on the right** the velocity is to the right. -/
theorem tiltVelocity_mem_of_right (hspeed : 0 ≤ speed) (hfinite : speed.isFinite = true)
    (deadzone : Single) (h : withinTurn angle ≤ 45) :
    0 ≤ tiltVelocity angle speed deadzone ∧ tiltVelocity angle speed deadzone ≤ speed := by
  rw [tiltVelocity_of_right h]
  exact Single.mul_share_mem hspeed hfinite
    (tiltRamp_mem deadzone (isFinite_withinTurn (Single.isNaN_left_of_le h)) h)

/-- **Beside level on the left** the velocity is to the left. -/
theorem tiltVelocity_mem_of_left (hspeed : 0 ≤ speed) (hfinite : speed.isFinite = true)
    (deadzone : Single) (h : 315 ≤ withinTurn angle) :
    -speed ≤ tiltVelocity angle speed deadzone ∧ tiltVelocity angle speed deadzone ≤ 0 := by
  have hnumber := Single.isNaN_right_of_le h
  have hplace := isFinite_withinTurn hnumber
  have hturn := Single.isFinite_literal 360 (by decide)
  have hnonneg : 0 ≤ 360 - withinTurn angle :=
    Single.sub_nonneg hplace hturn (withinTurn_mem (isFinite_of_withinTurn hnumber)).2
  have hwindow : 360 - withinTurn angle ≤ tiltWindow := by
    rw [← sub_bounds.1]
    exact Single.sub_le_sub_left (Single.isNaN_of_isFinite hturn)
      (Single.isFinite_literal 315 (by decide)) hplace (Single.le_iff_value.mp h).2.2
  have hapart : (45 : Single) < 315 := Single.ofNat_lt_ofNat (by decide) (by decide)
  have hright : ¬ withinTurn angle ≤ 45 := Single.not_le_of_lt (Single.lt_of_lt_of_le hapart h)
  rw [tiltVelocity_of_not_right hright, if_pos h]
  exact neg_mul_share_mem hspeed hfinite
    (tiltRamp_mem deadzone (Single.isFinite_of_le_of_le hnonneg hwindow Single.isFinite_zero
      isFinite_tiltWindow) hwindow)

/-- Around half a turn the deflection is finite and within the window. -/
theorem upsideDown_deflection (hlow : 135 ≤ withinTurn angle) (hhigh : withinTurn angle ≤ 225) :
    (tiltWindow - (withinTurn angle - 180).abs).isFinite = true ∧
      tiltWindow - (withinTurn angle - 180).abs ≤ tiltWindow := by
  obtain ⟨-, hbefore, hafter⟩ := sub_bounds
  have hhalf := Single.isFinite_literal 180 (by decide)
  have hleft : -tiltWindow ≤ withinTurn angle - 180 := by
    rw [← hbefore]
    exact Single.sub_le_sub_right hlow hhalf
  have hright : withinTurn angle - 180 ≤ tiltWindow := by
    rw [← hafter]
    exact Single.sub_le_sub_right hhigh hhalf
  have hoff : (withinTurn angle - 180).abs ≤ tiltWindow := Single.abs_le_of_mem hleft hright
  have hfinite : (withinTurn angle - 180).abs.isFinite = true := by
    rw [Single.isFinite_abs]
    exact Single.isFinite_of_le_of_le hleft hright
      (by rw [Single.isFinite_neg]; exact isFinite_tiltWindow) isFinite_tiltWindow
  have hle : tiltWindow - (withinTurn angle - 180).abs ≤ tiltWindow := by
    apply Single.sub_le_self (Single.isNaN_of_isFinite isFinite_tiltWindow) hfinite
    rw [Single.value_abs]
    exact abs_nonneg _
  exact ⟨Single.isFinite_of_le_of_le (Single.sub_nonneg hfinite isFinite_tiltWindow hoff) hle
    Single.isFinite_zero isFinite_tiltWindow, hle⟩

/-- **Around half a turn** the velocity is to the left. -/
theorem tiltVelocity_mem_of_upsideDown (hspeed : 0 ≤ speed) (hfinite : speed.isFinite = true)
    (deadzone : Single) (hlow : 135 ≤ withinTurn angle) (hhigh : withinTurn angle ≤ 225) :
    -speed ≤ tiltVelocity angle speed deadzone ∧ tiltVelocity angle speed deadzone ≤ 0 := by
  have hbefore : (45 : Single) < 135 := Single.ofNat_lt_ofNat (by decide) (by decide)
  have hafter : (225 : Single) < 315 := Single.ofNat_lt_ofNat (by decide) (by decide)
  have hright : ¬ withinTurn angle ≤ 45 :=
    Single.not_le_of_lt (Single.lt_of_lt_of_le hbefore hlow)
  have hleft : ¬ 315 ≤ withinTurn angle :=
    Single.not_le_of_lt (Single.lt_of_le_of_lt hhigh hafter)
  obtain ⟨hdeflection, hwindow⟩ := upsideDown_deflection hlow hhigh
  rw [tiltVelocity_of_not_right hright, if_neg hleft, if_pos ⟨hlow, hhigh⟩]
  exact neg_mul_share_mem hspeed hfinite (tiltRamp_mem deadzone hdeflection hwindow)

/-- **Outside the windows** a tilt asks for nothing. -/
theorem tiltVelocity_of_outside (hright : ¬ withinTurn angle ≤ 45) (hleft : ¬ 315 ≤ withinTurn angle)
    (hupside : ¬ (135 ≤ withinTurn angle ∧ withinTurn angle ≤ 225)) :
    tiltVelocity angle speed deadzone = 0 := by
  rw [tiltVelocity_of_not_right hright, if_neg hleft, if_neg hupside]

/-- An angle without a place within a turn asks for nothing. -/
theorem tiltVelocity_of_not_finite (h : angle.isFinite = false) :
    tiltVelocity angle speed deadzone = 0 := by
  have hnan := withinTurn_of_not_finite h
  have hleft : ∀ {bound : Single}, ¬ withinTurn angle ≤ bound := by
    intro bound hle
    simp [Single.isNaN_left_of_le hle] at hnan
  have hright : ∀ {bound : Single}, ¬ bound ≤ withinTurn angle := by
    intro bound hle
    simp [Single.isNaN_right_of_le hle] at hnan
  exact tiltVelocity_of_outside hleft hright fun hupside => hright hupside.1

/-- **A tilt asks for at most full speed.** -/
theorem abs_tiltVelocity_le (hspeed : 0 ≤ speed) (hfinite : speed.isFinite = true)
    (angle deadzone : Single) : (tiltVelocity angle speed deadzone).abs ≤ speed := by
  have hback : -speed ≤ 0 := Single.neg_nonpos hspeed
  by_cases hright : withinTurn angle ≤ 45
  · obtain ⟨hnonneg, hle⟩ := tiltVelocity_mem_of_right hspeed hfinite deadzone hright
    exact Single.abs_le_of_mem (Single.le_trans hback hnonneg) hle
  by_cases hleft : 315 ≤ withinTurn angle
  · obtain ⟨hge, hnonpos⟩ := tiltVelocity_mem_of_left hspeed hfinite deadzone hleft
    exact Single.abs_le_of_mem hge (Single.le_trans hnonpos hspeed)
  by_cases hupside : 135 ≤ withinTurn angle ∧ withinTurn angle ≤ 225
  · obtain ⟨hge, hnonpos⟩ :=
      tiltVelocity_mem_of_upsideDown hspeed hfinite deadzone hupside.1 hupside.2
    exact Single.abs_le_of_mem hge (Single.le_trans hnonpos hspeed)
  · rw [tiltVelocity_of_outside hright hleft hupside]
    exact Single.abs_le_of_mem hback hspeed

/-- **The velocity rises** beside level on the right. -/
theorem tiltVelocity_le_tiltVelocity (hspeed : 0 ≤ speed) (hfinite : speed.isFinite = true)
    (deadzone : Single) {further : Single} (h : withinTurn angle ≤ withinTurn further)
    (hwindow : withinTurn further ≤ 45) :
    tiltVelocity angle speed deadzone ≤ tiltVelocity further speed deadzone := by
  have hplace := isFinite_withinTurn (Single.isNaN_left_of_le h)
  have hplace' := isFinite_withinTurn (Single.isNaN_right_of_le h)
  obtain ⟨hnonneg, -⟩ := tiltRamp_mem deadzone hplace (Single.le_trans h hwindow)
  have hshare := Single.within_of_share (tiltRamp_mem deadzone hplace' hwindow)
  rw [tiltVelocity_of_right (Single.le_trans h hwindow), tiltVelocity_of_right hwindow,
    Single.mul_comm speed, Single.mul_comm speed]
  exact Single.mul_le_mul_of_nonneg hnonneg (tiltRamp_le_tiltRamp hplace hplace' h hwindow) hspeed
    hfinite (Single.isNaN_mul hshare.isFinite hfinite)

/-- A deflection in the dead zone beside level on the right asks for a zero. -/
theorem isZero_tiltVelocity (hspeed : 0 ≤ speed) (hfinite : speed.isFinite = true)
    (hwindow : withinTurn angle ≤ 45) (hdead : withinTurn angle ≤ deadzone) :
    (tiltVelocity angle speed deadzone).isZero = true := by
  have hproduct : (speed * 0).isFinite = true := by
    obtain ⟨hnonneg, hle⟩ :=
      Single.mul_share_mem hspeed hfinite ⟨Single.le_refl Single.isNaN_zero, Single.ofNat_nonneg 1⟩
    exact Single.isFinite_of_le_of_le hnonneg hle Single.isFinite_zero hfinite
  rw [tiltVelocity_of_right hwindow, tiltRamp_of_le hdead, Single.isZero_iff_value hproduct,
    Single.value_mul hfinite Single.isFinite_zero, Single.value_zero, mul_zero, rounded_zero]

/-- At the end of the window on the right full speed is reached. -/
theorem tiltVelocity_window (hfinite : speed.isFinite = true) (h : withinTurn angle = 45)
    (hdead : deadzone < 45) : tiltVelocity angle speed deadzone = speed := by
  have hend : tiltRamp deadzone 45 = 1 := tiltRamp_window (Single.not_le_of_lt hdead)
  have hwindow : withinTurn angle ≤ 45 := by
    rw [h]
    exact Single.le_refl (Single.isNaN_of_isFinite isFinite_tiltWindow)
  rw [tiltVelocity_of_right hwindow, h, hend, Single.mul_one (Single.isNaN_of_isFinite hfinite)]

/-- **What an angle asks for.** For every angle and every dead zone, also those that are infinite or no
number: a tilt asks for at most full speed. A finite angle has a place in one turn, and no other angle
asks for anything. Beside level on the right the velocity is not to the left; around half a turn and
beside level on the left it is not to the right; everywhere else it is zero. Beside level on the right
the velocity rises with the angle, is zero in the dead zone, and reaches exactly full speed at the end
of the window, if the dead zone ends before. -/
theorem tiltVelocity_steers (hspeed : 0 ≤ speed) (hfinite : speed.isFinite = true)
    (angle deadzone : Single) :
    (tiltVelocity angle speed deadzone).abs ≤ speed ∧
    (angle.isFinite = true → 0 ≤ withinTurn angle ∧ withinTurn angle ≤ 360) ∧
    (angle.isFinite = false → tiltVelocity angle speed deadzone = 0) ∧
    (0 ≤ withinTurn angle ∧ withinTurn angle ≤ 45 → 0 ≤ tiltVelocity angle speed deadzone) ∧
    (135 ≤ withinTurn angle ∧ withinTurn angle ≤ 225 → tiltVelocity angle speed deadzone ≤ 0) ∧
    (315 ≤ withinTurn angle ∧ withinTurn angle ≤ 360 → tiltVelocity angle speed deadzone ≤ 0) ∧
    (¬ (0 ≤ withinTurn angle ∧ withinTurn angle ≤ 45) →
      ¬ (135 ≤ withinTurn angle ∧ withinTurn angle ≤ 225) →
      ¬ (315 ≤ withinTurn angle ∧ withinTurn angle ≤ 360) →
      tiltVelocity angle speed deadzone = 0) ∧
    (∀ further, 0 ≤ withinTurn angle → withinTurn angle ≤ withinTurn further →
      withinTurn further ≤ 45 →
      tiltVelocity angle speed deadzone ≤ tiltVelocity further speed deadzone) ∧
    (0 ≤ withinTurn angle ∧ withinTurn angle ≤ 45 → withinTurn angle ≤ deadzone →
      (tiltVelocity angle speed deadzone).isZero = true) ∧
    (withinTurn angle = 45 → deadzone.isFinite = true → deadzone < 45 →
      tiltVelocity angle speed deadzone = speed) := by
  refine ⟨abs_tiltVelocity_le hspeed hfinite angle deadzone, withinTurn_mem,
    tiltVelocity_of_not_finite,
    fun hright => (tiltVelocity_mem_of_right hspeed hfinite deadzone hright.2).1,
    fun hupside => (tiltVelocity_mem_of_upsideDown hspeed hfinite deadzone hupside.1 hupside.2).2,
    fun hleft => (tiltVelocity_mem_of_left hspeed hfinite deadzone hleft.1).2,
    fun hright hupside hleft => ?_,
    fun further _ => tiltVelocity_le_tiltVelocity hspeed hfinite deadzone,
    fun hwindow hdead => isZero_tiltVelocity hspeed hfinite hwindow.2 hdead,
    fun hend _ hdead => tiltVelocity_window hfinite hend hdead⟩
  cases hangle : angle.isFinite with
  | false => exact tiltVelocity_of_not_finite hangle
  | true =>
    obtain ⟨hnonneg, hle⟩ := withinTurn_mem hangle
    exact tiltVelocity_of_outside (fun h => hright ⟨hnonneg, h⟩) (fun h => hleft ⟨h, hle⟩) hupside

/-- An angle just below level is rounded up to a whole turn and counts as a tilt to the left; under a
dead zone that is no number it asks for full speed. A device tilted by a turn and 45 degrees reaches
full speed to the right. -/
theorem tiltVelocity_steers_around_level :
    0 ≤ (5 : Single) ∧ withinTurn (-1e-30) = 360 ∧
    tiltVelocity (-1e-30) 5 (.nan true) = -5 ∧ tiltVelocity (-1e-30) 5 (.nan true) ≤ 0 ∧
    (tiltVelocity (-1e-30) 5 (.nan true)).abs ≤ 5 ∧
    withinTurn 405 = 45 ∧ tiltVelocity 405 5 (-2) = 5 := by
  have hspeed : 0 ≤ (5 : Single) := Single.ofNat_nonneg 5
  have hfinite := Single.isFinite_literal 5
  have hturn : withinTurn (-1e-30) = 360 := by decide +kernel
  have hend : withinTurn 405 = 45 := by decide +kernel
  obtain ⟨habs, -, -, -, -, hleft, -⟩ := tiltVelocity_steers hspeed hfinite (-1e-30) (.nan true)
  obtain ⟨-, -, -, -, -, -, -, -, -, hfull⟩ := tiltVelocity_steers hspeed hfinite 405 (-2)
  exact ⟨hspeed, hturn, by decide +kernel, hleft (by decide +kernel), habs, hend,
    hfull hend (by decide +kernel) (by decide +kernel)⟩

end Platformer
