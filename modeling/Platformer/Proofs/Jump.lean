import Mathlib.Tactic.NormNum
import Platformer.Proofs.Magnitude
import Platformer.Game

/-! # How high a jump goes

Gravity acts before the motion of a frame, so that a rising player moves with the velocity that the
frame ends with, and every frame takes some height from the jump. The longer the frames are, the more
they take: of the 144 units that a jump is worth, a rising player loses about half a frame time for
each unit of velocity. Frames of up to 77 milliseconds leave enough for the widest gap between two
platforms, and frames from 82 milliseconds on, up to the longest that a tick admits, do not.

* **`millis`** — the frame time of a number of milliseconds.
* **`Player.flight`** — the motion of a player through many frames.
* **`Player.apex`** — the height that a rising player is bound for, given what it loses on the way;
  **`Player.apex_fly`** — how a frame changes it.
* **`Player.Rises`** — a jump that has not come to its apex; **`Player.Rises.fly`** — a frame of
  it.
* **`Player.Rises.exists_le_bound`**, **`Player.Rises.le_apex_flight`** — a flight comes as high as an
  apex, or stays below it, if its frames lose no more, or no less, than is assumed.
* **`Player.Thrown`**, **`Player.Clears`**, **`Player.clears_of_frame_times`** — what that means for
  the widest gap between two platforms. -/

namespace Platformer

/-- The frame time of a number of milliseconds. -/
def millis (n : ℕ) : Single := .ofNat n / nominalFrame

namespace Player

/-- The player after a frame under the gravity of an ordinary run. -/
def fly (p : Player) (dt : Single) : Player := p.integrate Tuning.standard.gravity dt

/-- The player after frames of the given times. -/
def flight (p : Player) (times : List Single) : Player := times.foldl fly p

variable {p : Player} {top dt : Single} {times : List Single}

/-! ### One frame -/

/-- Gravity and the motion of a frame, up to rounding: the frame adds half of its time to the velocity,
and moves the player by the new velocity. -/
theorem abs_fly_error_le (hv : p.velocity.y.Within 12)
    (htop : p.body.top.Within (2 ^ 17 + 200)) (hdt : dt.Within (25 / 4)) :
    (p.fly dt).velocity.y.Within 16 ∧ (p.fly dt).body.top.isFinite = true ∧
      |(p.fly dt).velocity.y.value - (p.velocity.y.value + dt.value / 2)| ≤ 1 / 2 ^ 20 ∧
      |(p.fly dt).body.top.value - (p.body.top.value + (p.fly dt).velocity.y.value * dt.value)| ≤
        1 / 2 ^ 7 + 1 / 2 ^ 18 := by
  have hgravity : Tuning.standard.gravity.Within (1 / 2) ∧
      Tuning.standard.gravity.value = 1 / 2 := by decide +kernel
  have hgain : (Tuning.standard.gravity * dt).Within 4 := hgravity.1.mul hdt
  have hvelocity : (p.velocity.y + Tuning.standard.gravity * dt).Within 16 := hv.add hgain
  have hway : ((p.velocity.y + Tuning.standard.gravity * dt) * dt).Within 100 := hvelocity.mul hdt
  have htop' : (p.body.top + (p.velocity.y + Tuning.standard.gravity * dt) * dt).Within (2 ^ 18) :=
    htop.add hway
  have hgainError := hgravity.1.abs_mul_error_le hdt (k := 22) (by decide) (by norm_num)
  have hvelocityError := hv.abs_add_error_le hgain (k := 20) (by decide) (by norm_num)
  have hwayError := hvelocity.abs_mul_error_le hdt (k := 17) (by decide) (by norm_num)
  have htopError := htop.abs_add_error_le hway (k := 6) (by decide) (by norm_num)
  rw [hgravity.2] at hgainError
  obtain ⟨hgainLow, hgainHigh⟩ := abs_le.mp hgainError
  obtain ⟨hvelocityLow, hvelocityHigh⟩ := abs_le.mp hvelocityError
  obtain ⟨hwayLow, hwayHigh⟩ := abs_le.mp hwayError
  obtain ⟨htopLow, htopHigh⟩ := abs_le.mp htopError
  refine ⟨hvelocity, htop'.isFinite, abs_le.mpr ⟨?_, ?_⟩, abs_le.mpr ⟨?_, ?_⟩⟩
  all_goals
    simp only [fly, integrate]
    norm_num at *
    linarith

/-- **The height of the apex that a rising player is bound for**, if it loses a share of each unit of
velocity on the way. Without a loss it is the apex of the exact motion. -/
def apex (loss : ℚ) (p : Player) : ℚ :=
  p.body.top.value - p.velocity.y.value ^ 2 - loss * p.velocity.y.value

/-- **What a frame loses.** It adds a gain of half its time to the velocity, and loses as much for each
unit of the gain, so that the apex moves by the gain times what it is over the assumed loss. Rounding
moves it by no more than a 125th of a unit. -/
theorem apex_fly (hv : p.velocity.y.Within 12) (htop : p.body.top.Within (2 ^ 17 + 200))
    (hdt : dt.Within (25 / 4)) :
    ∃ gain : ℚ, |gain - dt.value / 2| ≤ 1 / 2 ^ 20 ∧
      (p.fly dt).velocity.y.value = p.velocity.y.value + gain ∧
      ∀ loss, |(p.fly dt).apex loss - (p.apex loss + gain * (gain - loss))| ≤ 1 / 125 := by
  obtain ⟨hspeed, -, hvelocity, hway⟩ := abs_fly_error_le hv htop hdt
  have hbound := hspeed.abs_value_le
  simp only [apex]
  generalize (p.fly dt).velocity.y.value = v' at hbound hvelocity hway ⊢
  generalize (p.fly dt).body.top.value = y' at hway ⊢
  generalize p.velocity.y.value = v at hvelocity ⊢
  generalize p.body.top.value = y at hway ⊢
  generalize dt.value = time at hvelocity hway ⊢
  have hgain : |v' - v - time / 2| ≤ 1 / 2 ^ 20 := by rwa [sub_sub]
  refine ⟨v' - v, hgain, by ring, fun loss => ?_⟩
  -- the frame time is twice the gain, up to rounding
  have hhalf : |v' * (2 * (v' - v - time / 2))| ≤ 16 * (2 * (1 / 2 ^ 20)) := by
    rw [abs_mul, abs_mul, abs_two]
    gcongr
  have hsplit : y' - v' ^ 2 - loss * v' - (y - v ^ 2 - loss * v + (v' - v) * (v' - v - loss)) =
      y' - (y + v' * time) - v' * (2 * (v' - v - time / 2)) := by ring
  rw [hsplit]
  refine (abs_sub _ _).trans ?_
  norm_num at hway hhalf ⊢
  linarith

/-! ### A jump that rises -/

/-- **A jump that has not come to its apex**, from a given height up. Two bounds on the apex, which any
frames keep, hold the player near its start. -/
structure Rises (start : ℚ) (p : Player) : Prop where
  isFinite_velocity : p.velocity.y.isFinite = true
  isFinite_top : p.body.top.isFinite = true
  velocity_ge : -12 ≤ p.velocity.y.value
  velocity_le : p.velocity.y.value ≤ 0
  /-- The apex if a frame gained a unit for each unit of velocity. -/
  apex_ge : start - 156 ≤ p.apex (-1)
  /-- The apex if a frame lost four units for each unit of velocity. -/
  apex_le : p.apex 4 ≤ start - 96

namespace Rises

variable {start : ℚ}

/-- A rising player has a velocity within bounds. -/
theorem within_velocity (h : Rises start p) : p.velocity.y.Within 12 :=
  ⟨h.isFinite_velocity, abs_le.mpr ⟨h.velocity_ge, h.velocity_le.trans (by norm_num)⟩⟩

/-- A rising player is between the height that it started from and 156 units further up. -/
theorem top_mem (h : Rises start p) :
    start - 156 ≤ p.body.top.value ∧ p.body.top.value ≤ start := by
  have hlow := h.apex_ge
  have hhigh := h.apex_le
  have hge := h.velocity_ge
  have hle := h.velocity_le
  rw [apex] at hlow hhigh
  constructor <;> nlinarith

/-- A rising player has a top within bounds, if its start has. -/
theorem within_top (h : Rises start p) (hstart : |start| ≤ 2 ^ 17 + 40) :
    p.body.top.Within (2 ^ 17 + 200) := by
  obtain ⟨hlow, hhigh⟩ := h.top_mem
  obtain ⟨hge, hle⟩ := abs_le.mp hstart
  exact ⟨h.isFinite_top, abs_le.mpr ⟨by linarith, by linarith⟩⟩

/-- **A frame of a rising player** of 1 to 100 milliseconds. -/
theorem fly (h : Rises start p) (hstart : |start| ≤ 2 ^ 17 + 40) (hdt : dt.isFinite = true)
    (hlow : 1 / 16 ≤ dt.value) (hhigh : dt.value ≤ 25 / 4) :
    ∃ gain : ℚ, |gain - dt.value / 2| ≤ 1 / 2 ^ 20 ∧
      (p.fly dt).velocity.y.isFinite = true ∧
      (p.fly dt).velocity.y.value = p.velocity.y.value + gain ∧
      (∀ loss, |(p.fly dt).apex loss - (p.apex loss + gain * (gain - loss))| ≤ 1 / 125) ∧
      ((p.fly dt).velocity.y.value ≤ 0 → Rises start (p.fly dt)) := by
  have hframe : dt.Within (25 / 4) := ⟨hdt, abs_le.mpr ⟨by linarith, hhigh⟩⟩
  obtain ⟨hspeed, htop, -⟩ :=
    abs_fly_error_le h.within_velocity (h.within_top hstart) hframe
  obtain ⟨gain, hgain, hvelocity, hapex⟩ :=
    apex_fly h.within_velocity (h.within_top hstart) hframe
  refine ⟨gain, hgain, hspeed.isFinite, hvelocity, hapex, fun hrises => ?_⟩
  obtain ⟨hleast, hmost⟩ := abs_le.mp hgain
  have hup := (abs_le.mp (hapex (-1))).1
  have hdown := (abs_le.mp (hapex 4)).2
  have hge := h.apex_ge
  have hle := h.apex_le
  norm_num at hleast hmost
  refine ⟨hspeed.isFinite, htop, ?_, hrises, ?_, ?_⟩
  · rw [hvelocity]
    linarith [h.velocity_ge]
  · nlinarith
  · nlinarith

end Rises

/-! ### A whole flight -/

/-- Frame times within two bounds. -/
def FramesIn (low high : ℚ) (times : List Single) : Prop :=
  ∀ dt ∈ times, dt.isFinite = true ∧ low ≤ dt.value ∧ dt.value ≤ high

/-- Frame times between two others are within their values. -/
theorem framesIn_of_le {low high : Single} (hlow : low.isFinite = true) (hhigh : high.isFinite = true)
    (h : ∀ dt ∈ times, low ≤ dt ∧ dt ≤ high) : FramesIn low.value high.value times := by
  intro dt hdt
  obtain ⟨hge, hle⟩ := h dt hdt
  exact ⟨Single.isFinite_of_le_of_le hge hle hlow hhigh, (Single.le_iff_value.mp hge).2.2,
    (Single.le_iff_value.mp hle).2.2⟩

/-- A player that falls goes on falling. -/
theorem velocity_pos_flight {low : ℚ} (hlow : 0 ≤ low) (htimes : FramesIn low (25 / 4) times)
    (h : 0 < p.velocity.y) : 0 < (p.flight times).velocity.y := by
  have hgravity : Tuning.standard.gravity.Within (1 / 2) ∧ 0 ≤ Tuning.standard.gravity := by
    decide +kernel
  have hzero : (0 : Single).isNaN = false := (Single.lt_iff_value.mp h).1
  induction times generalizing p with
  | nil => exact h
  | cons dt times ih =>
    obtain ⟨⟨hdt, hge, hle⟩, hrest⟩ := List.forall_mem_cons.mp htimes
    have hframe : dt.Within (25 / 4) := ⟨hdt, abs_le.mpr ⟨by linarith, hle⟩⟩
    have hgain : (Tuning.standard.gravity * dt).Within 4 := hgravity.1.mul hframe
    have htime : 0 ≤ dt :=
      Single.le_iff_value.mpr ⟨hzero, hframe.isNaN, by rw [Single.value_zero]; linarith⟩
    have hfaster : p.velocity.y ≤ p.velocity.y + Tuning.standard.gravity * dt :=
      Single.le_add_right (Single.lt_iff_value.mp h).2.1 hgain.isFinite
        (Single.value_nonneg (Single.mul_nonneg hgravity.2 htime hgravity.1.isFinite hdt))
    exact ih hrest (Single.lt_of_lt_of_le h hfaster)

namespace Rises

variable {start loss bound : ℚ}

/-- **A flight reaches its apex** before it falls, if its frames lose no more than is assumed. -/
theorem exists_le_bound (h : Rises start p) (hstart : |start| ≤ 2 ^ 17 + 40)
    (hbound : p.apex loss ≤ bound) {high : ℚ} (hhigh : high ≤ 25 / 4)
    (htimes : FramesIn (1 / 16) high times)
    (hloss : ∀ gain : ℚ, 1 / 32 - 1 / 2 ^ 20 ≤ gain → gain ≤ high / 2 + 1 / 2 ^ 20 →
      gain * (gain - loss) ≤ -(1 / 125))
    (hend : 0 < (p.flight times).velocity.y) :
    ∃ before after, times = before ++ after ∧ Rises start (p.flight before) ∧
      (p.flight before).body.top.value ≤ bound := by
  -- the apex never goes down, and the last rising player has come to it
  induction times generalizing p with
  | nil =>
    have hfalls := (Single.pos_iff_of_isFinite h.isFinite_velocity).mp hend
    exact absurd h.velocity_le (not_le.mpr hfalls)
  | cons dt times ih =>
    obtain ⟨⟨hdt, hge, hle⟩, hrest⟩ := List.forall_mem_cons.mp htimes
    obtain ⟨gain, hgain, -, hvelocity, hapex, hkeeps⟩ := h.fly hstart hdt hge (hle.trans hhigh)
    obtain ⟨hleast, hmost⟩ := abs_le.mp hgain
    have hcost := hloss gain (by linarith) (by linarith)
    by_cases hrises : (p.fly dt).velocity.y.value ≤ 0
    · have hnext : (p.fly dt).apex loss ≤ bound := by
        linarith [(abs_le.mp (hapex loss)).2]
      obtain ⟨before, after, rfl, hbefore⟩ := ih (hkeeps hrises) hnext hrest hend
      exact ⟨dt :: before, after, rfl, hbefore⟩
    · refine ⟨[], dt :: times, rfl, h, ?_⟩
      show p.body.top.value ≤ bound
      have hslow := h.velocity_le
      rw [hvelocity] at hrises
      -- the velocity that is left is less than what the next frame adds, and so than the loss
      have hless : gain < loss := by
        by_contra hnot
        nlinarith
      have hlast : p.velocity.y.value * (p.velocity.y.value + loss) ≤ 0 :=
        mul_nonpos_of_nonpos_of_nonneg hslow (by linarith)
      rw [apex] at hbound
      linarith

/-- **A flight stays below its apex**, if its frames lose no less than is assumed. -/
theorem le_apex_flight (h : Rises start p) (hstart : |start| ≤ 2 ^ 17 + 40)
    (hbound : bound ≤ p.apex loss) {low : ℚ} (hlow : 1 / 16 ≤ low)
    (htimes : FramesIn low (25 / 4) times)
    (hloss : ∀ gain : ℚ, low / 2 - 1 / 2 ^ 20 ≤ gain → 1 / 125 ≤ gain * (gain - loss))
    (hend : (p.flight times).velocity.y ≤ 0) :
    Rises start (p.flight times) ∧ bound ≤ (p.flight times).apex loss := by
  induction times generalizing p with
  | nil => exact ⟨h, hbound⟩
  | cons dt times ih =>
    obtain ⟨⟨hdt, hge, hle⟩, hrest⟩ := List.forall_mem_cons.mp htimes
    obtain ⟨gain, hgain, hfinite, hvelocity, hapex, hkeeps⟩ :=
      h.fly hstart hdt (hlow.trans hge) hle
    obtain ⟨hleast, hmost⟩ := abs_le.mp hgain
    have hcost := hloss gain (by linarith)
    by_cases hrises : (p.fly dt).velocity.y.value ≤ 0
    · refine ih (hkeeps hrises) ?_ hrest hend
      linarith [(abs_le.mp (hapex loss)).1]
    -- a player that fell in between would still fall
    · have hzero : (0 : Single).isNaN = false := Single.isNaN_right_of_le hend
      have hfalls : 0 < (p.fly dt).velocity.y :=
        (Single.pos_iff_of_isFinite hfinite).mpr (not_le.mp hrises)
      have hstill := velocity_pos_flight (by linarith) hrest hfalls
      exact absurd hend ((Single.not_le_iff hzero).mpr (Or.inl hstill))

end Rises

/-! ### The widest gap -/

/-- **A player thrown up from a platform** of the given height: it stands on top of it, with the
velocity of a jump. -/
structure Thrown (top : Single) (p : Player) : Prop where
  top_eq : p.body.top = top - playerHeight
  velocity_eq : p.velocity.y = Tuning.standard.jumpForce

/-- A player is above a platform that is the widest gap above another one, so that it could land on
it. -/
def Clears (top : Single) (p : Player) : Prop :=
  p.body.top < top - (Tuning.standard.spacingMax + Tuning.standard.spacingBonusMax)

/-- A player that is thrown up rises, for an apex 144 units further up less the loss. -/
theorem Thrown.rises (h : Thrown top p) (htop : top.Within (2 ^ 17)) :
    Rises p.body.top.value p ∧ |p.body.top.value| ≤ 2 ^ 17 + 40 ∧
      |p.body.top.value - (top.value - 20)| ≤ 1 / 2 ^ 7 ∧
      ∀ loss, p.apex loss = p.body.top.value - 144 + 12 * loss := by
  have hheight : playerHeight.Within 20 ∧ playerHeight.value = 20 := by decide +kernel
  have hforce : Tuning.standard.jumpForce.isFinite = true ∧
      Tuning.standard.jumpForce.value = -12 := by decide +kernel
  have hstart : (top - playerHeight).Within (2 ^ 17 + 40) := htop.sub hheight.1
  have herror := htop.abs_sub_error_le hheight.1 (k := 6) (by decide) (by norm_num)
  rw [hheight.2] at herror
  have hapex (loss : ℚ) : p.apex loss = p.body.top.value - 144 + 12 * loss := by
    rw [apex, h.velocity_eq, hforce.2]
    ring
  rw [← h.top_eq] at hstart herror
  refine ⟨⟨?_, hstart.isFinite, ?_, ?_, ?_, ?_⟩, hstart.abs_value_le, herror, hapex⟩
  · rw [h.velocity_eq, hforce.1]
  · rw [h.velocity_eq, hforce.2]
  · rw [h.velocity_eq, hforce.2]
    norm_num
  · rw [hapex]
    linarith
  · rw [hapex]
    linarith

/-- What has to be cleared, up to rounding. -/
theorem abs_gap_error_le (htop : top.Within (2 ^ 17)) :
    (top - (Tuning.standard.spacingMax + Tuning.standard.spacingBonusMax)).isFinite = true ∧
      |(top - (Tuning.standard.spacingMax + Tuning.standard.spacingBonusMax)).value -
        (top.value - 135)| ≤ 1 / 2 ^ 7 := by
  have hgap : (Tuning.standard.spacingMax + Tuning.standard.spacingBonusMax).Within 135 ∧
      (Tuning.standard.spacingMax + Tuning.standard.spacingBonusMax).value = 135 := by decide +kernel
  have hgoal : (top - (Tuning.standard.spacingMax + Tuning.standard.spacingBonusMax)).Within
      (2 ^ 17 + 200) := htop.sub hgap.1
  have herror := htop.abs_sub_error_le hgap.1 (k := 6) (by decide) (by norm_num)
  rw [hgap.2] at herror
  exact ⟨hgoal.isFinite, herror⟩

/-- **Short frames** leave enough of a jump for the widest gap. -/
theorem Thrown.clears_of_short (h : Thrown top p) (htop : top.Within (2 ^ 17))
    (htimes : ∀ dt ∈ times, millis 1 ≤ dt ∧ dt ≤ millis 77) (hend : 0 < (p.flight times).velocity.y) :
    ∃ before after, times = before ++ after ∧ (p.flight before).velocity.y ≤ 0 ∧
      Clears top (p.flight before) := by
  have hshort : (millis 1).isFinite = true ∧ (millis 77).isFinite = true ∧
      (millis 1).value = 1 / 16 ∧ (millis 77).value = 77 / 16 := by decide +kernel
  have hframes := framesIn_of_le hshort.1 hshort.2.1 htimes
  rw [hshort.2.2.1, hshort.2.2.2] at hframes
  -- half of 77 milliseconds is little less than this loss
  have hloss : ∀ gain : ℚ, 1 / 32 - 1 / 2 ^ 20 ≤ gain → gain ≤ 77 / 16 / 2 + 1 / 2 ^ 20 →
      gain * (gain - 241 / 100) ≤ -(1 / 125) := by
    intro gain hleast hmost
    norm_num at hleast hmost
    nlinarith
  obtain ⟨hrises, hstart, hheight, hapex⟩ := h.rises htop
  obtain ⟨before, after, hsplit, hlast, hbound⟩ :=
    hrises.exists_le_bound hstart (hapex (241 / 100)).le (by norm_num) hframes hloss hend
  obtain ⟨hgoal, herror⟩ := abs_gap_error_le htop
  refine ⟨before, after, hsplit, ?_, ?_⟩
  · exact (Single.nonpos_iff_of_isFinite hlast.isFinite_velocity).mpr hlast.velocity_le
  · refine (Single.lt_iff_of_isFinite hlast.isFinite_top hgoal).mpr ?_
    have hhigh := (abs_le.mp hheight).2
    have hlow := (abs_le.mp herror).1
    norm_num at hhigh hlow
    linarith

/-- **Long frames** do not. -/
theorem Thrown.not_clears_of_long (h : Thrown top p) (htop : top.Within (2 ^ 17))
    (htimes : ∀ dt ∈ times, millis 82 ≤ dt ∧ dt ≤ Tuning.standard.frameTimeMax)
    (hend : (p.flight times).velocity.y ≤ 0) : ¬ Clears top (p.flight times) := by
  have hlong : (millis 82).isFinite = true ∧ Tuning.standard.frameTimeMax.isFinite = true ∧
      (millis 82).value = 82 / 16 ∧ Tuning.standard.frameTimeMax.value = 25 / 4 := by decide +kernel
  have hframes := framesIn_of_le hlong.1 hlong.2.1 htimes
  rw [hlong.2.2.1, hlong.2.2.2] at hframes
  -- half of 82 milliseconds is little more than this loss
  have hloss : ∀ gain : ℚ, 82 / 16 / 2 - 1 / 2 ^ 20 ≤ gain →
      1 / 125 ≤ gain * (gain - 2558 / 1000) := by
    intro gain hleast
    norm_num at hleast
    nlinarith
  obtain ⟨hrises, hstart, hheight, hapex⟩ := h.rises htop
  obtain ⟨-, hbound⟩ :=
    hrises.le_apex_flight hstart (hapex (2558 / 1000)).ge (by norm_num) hframes hloss hend
  have herror := (abs_gap_error_le htop).2
  intro hclears
  have hclear := (Single.lt_iff_value.mp hclears).2.2
  have hlow := (abs_le.mp hheight).1
  have hhigh := (abs_le.mp herror).2
  norm_num at hlow hhigh
  rw [apex] at hbound
  nlinarith [sq_nonneg ((p.flight times).velocity.y.value + 1279 / 1000)]

/-- **What the frame times make of the widest gap.** A player is thrown up from a platform up to a
height of `2 ^ 17`. Through frames of 1 to 77 milliseconds, and enough of them to make it fall, it
clears a platform the widest gap above before it falls. Through frames of 82 to 100 milliseconds, the
most that a tick admits, it does not clear it at any time before it falls. -/
theorem clears_of_frame_times (htop : top.Within (2 ^ 17)) (h : Thrown top p) (times : List Single) :
    ((∀ dt ∈ times, millis 1 ≤ dt ∧ dt ≤ millis 77) → 0 < (p.flight times).velocity.y →
      ∃ before after, times = before ++ after ∧ (p.flight before).velocity.y ≤ 0 ∧
        Clears top (p.flight before)) ∧
    ((∀ dt ∈ times, millis 82 ≤ dt ∧ dt ≤ Tuning.standard.frameTimeMax) →
      ∀ before after, times = before ++ after → (p.flight before).velocity.y ≤ 0 →
        ¬ Clears top (p.flight before)) := by
  constructor
  · intro htimes hend
    exact h.clears_of_short htop htimes hend
  · rintro htimes before after rfl hrising
    exact h.not_clears_of_long htop (fun dt hdt => htimes dt (List.mem_append_left after hdt)) hrising

/-- A player thrown up from the first platform of a run. -/
def leaping : Player :=
  { spawn with body := { spawn.body with top := 570 }, velocity := ⟨0, -12⟩ }

/-- In frames of the nominal length it clears a platform the widest gap above the first one. In the
longest frames it does not, although it is falling after the fourth of them. -/
theorem clears_of_nominal_frames :
    (∃ before after, List.replicate 25 1 = before ++ after ∧
      (leaping.flight before).velocity.y ≤ 0 ∧ Clears 590 (leaping.flight before)) ∧
    0 < (leaping.flight (List.replicate 4 Tuning.standard.frameTimeMax)).velocity.y ∧
    ∀ before after, List.replicate 4 Tuning.standard.frameTimeMax = before ++ after →
      (leaping.flight before).velocity.y ≤ 0 → ¬ Clears 590 (leaping.flight before) := by
  have htop : (590 : Single).Within (2 ^ 17) := by decide +kernel
  have hthrown : Thrown 590 leaping := ⟨by decide +kernel, by decide +kernel⟩
  have hnominal : millis 1 ≤ 1 ∧ 1 ≤ millis 77 := by decide +kernel
  have hlongest : millis 82 ≤ Tuning.standard.frameTimeMax ∧
      Tuning.standard.frameTimeMax ≤ Tuning.standard.frameTimeMax := by decide +kernel
  have hfalls : 0 < (leaping.flight (List.replicate 25 1)).velocity.y ∧
      0 < (leaping.flight (List.replicate 4 Tuning.standard.frameTimeMax)).velocity.y := by
    decide +kernel
  refine ⟨(clears_of_frame_times htop hthrown _).1 ?_ hfalls.1, hfalls.2,
    (clears_of_frame_times htop hthrown _).2 ?_⟩
  · intro dt hdt
    rw [List.eq_of_mem_replicate hdt]
    exact hnominal
  · intro dt hdt
    rw [List.eq_of_mem_replicate hdt]
    exact hlongest

end Player

end Platformer
