import Platformer.Proofs.Playable
import Platformer.Proofs.Tilt

/-! # The motion of the player

Controls ask for a horizontal velocity, and the player eases toward it: a frame covers a share of the
way. The share is never above one, so that the velocity does not pass the wanted one by more than the
rounding of the way; and the number after full speed absorbs that.

* **`Controls.within_targetVelocity`** — what controls can ask for, whatever the angle of the tilt.
* **`abs_rounded_ease_le`**, **`within_ease`** — the easing does not add up its errors.
* **`wrapX_mem`** — the horizontal range of the player.
* **`FrameTime`** — the times of frames in an ordinary run.
* **`Player.WellFormed`** — the player of an ordinary run, kept by steering, countdown, shots, motion
  and landings. -/

namespace Platformer

/-! ### What controls ask for -/

/-- A tilt asks for at most full speed. -/
theorem within_tiltVelocity (angle : Single) : (tiltVelocity angle 5 5).Within 5 := by
  have hspeed : (5 : Single).Within 5 := Single.within_literal 5
  exact hspeed.of_abs_le (abs_tiltVelocity_le (Single.ofNat_nonneg 5) hspeed.isFinite angle 5)

/-- **Controls ask for at most full speed.** -/
theorem Controls.within_targetVelocity (c : Controls) :
    (c.targetVelocity .standard).Within 5 := by
  have hspeed : Tuning.standard.playerSpeed.Within 5 := Single.within_literal 5
  rw [targetVelocity]
  split
  · exact hspeed
  · split
    · exact hspeed.neg
    · split
      · exact within_tiltVelocity _
      · exact Single.within_zero (by norm_num)

/-! ### Easing -/

/-- **A rounded share of the way** leads past neither the start nor the rounded end of the way. -/
theorem abs_rounded_ease_le {v way share bound : ℚ} (hway : rounded way = way) (hv : |v| ≤ bound)
    (hend : |v + way| ≤ bound) (hbound : rounded bound ≤ bound) (hnonneg : 0 ≤ share)
    (hle : share ≤ 1) : |rounded (v + rounded (way * share))| ≤ bound := by
  -- the bound from above; the one from below is that of the mirrored way
  have habove : ∀ {v way : ℚ}, rounded way = way → v ≤ bound → v + way ≤ bound →
      rounded (v + rounded (way * share)) ≤ bound := by
    intro v way hway hv hend
    refine (rounded_le_rounded ?_).trans hbound
    rcases le_total way 0 with hback | hforth
    · have hpart := rounded_le_rounded (mul_nonpos_of_nonpos_of_nonneg hback hnonneg)
      rw [rounded_zero] at hpart
      linarith
    · have hpart := rounded_le_rounded (mul_le_of_le_one_right hforth hle)
      linarith
  obtain ⟨hvlow, hvhigh⟩ := abs_le.mp hv
  obtain ⟨hlow, hhigh⟩ := abs_le.mp hend
  refine abs_le.mpr ⟨?_, habove hway hvhigh hhigh⟩
  have hmirror : rounded (-v + rounded (-way * share)) ≤ bound :=
    habove (by rw [rounded_neg, hway]) (by linarith) (by linarith)
  rw [neg_mul, rounded_neg, ← neg_add, rounded_neg] at hmirror
  linarith

/-- The rounded way to a wanted velocity, and a share of it. -/
theorem within_way {v target share : Single} (hv : v.Within (5 + 1 / 2 ^ 21))
    (htarget : target.Within 5) (hshare : share.Within 1) :
    (target - v).Within 11 ∧ ((target - v) * share).Within 11 := by
  have hway : (target - v).Within 11 := htarget.sub hv
  exact ⟨hway, hway.mul_share hshare⟩

/-- **Easing toward a wanted velocity** keeps the velocity within the number after full speed: the
way is rounded by no more than what that number lies above it. -/
theorem within_ease {v target share : Single} (hv : v.Within (5 + 1 / 2 ^ 21))
    (htarget : target.Within 5) (hshare : 0 ≤ share ∧ share ≤ 1) :
    (v + (target - v) * share).Within (5 + 1 / 2 ^ 21) := by
  have hpart := Single.within_of_share hshare
  obtain ⟨hway, hproduct⟩ := within_way hv htarget hpart
  refine Single.within_of_abs_value_le (Single.isNaN_add hv.isNaN hproduct.isFinite) ?_
    (by norm_num)
  rw [Single.value_add hv.isFinite hproduct.isFinite,
    Single.value_mul hway.isFinite hpart.isFinite]
  have hbound : rounded (5 + 1 / 2 ^ 21) ≤ 5 + 1 / 2 ^ 21 := by
    obtain ⟨x, -, hx⟩ := Single.exists_value_eq (n := 5 * 2 ^ 21 + 1) (by norm_num)
      (show 21 ≤ 149 by decide)
    rw [show (5 + 1 / 2 ^ 21 : ℚ) = x.value by rw [hx]; norm_num, Single.rounded_value]
  refine abs_rounded_ease_le (Single.rounded_value _) hv.abs_value_le ?_ hbound
    (Single.value_nonneg hshare.1) (hpart.abs_value_le.trans' (le_abs_self _))
  obtain ⟨hvlow, hvhigh⟩ := abs_le.mp hv.abs_value_le
  obtain ⟨hlow, hhigh⟩ := abs_le.mp htarget.abs_value_le
  have herror := htarget.abs_sub_error_le hv (k := 20) (by decide) (by norm_num)
  obtain ⟨herrlow, herrhigh⟩ := abs_le.mp herror
  exact abs_le.mpr ⟨by linarith, by linarith⟩

/-! ### Passing through the edges -/

/-- The width of the picture is finite. -/
theorem isFinite_viewportWidth : viewportWidth.isFinite = true := Single.isFinite_literal 480

/-- The width of the picture. -/
theorem value_viewportWidth : viewportWidth.value = 480 := Single.value_literal 480

/-- **Something that passes through the edges** is never further out than its width on the left side,
and never past the right side. -/
theorem wrapX_mem {x width : Single} (hx : x.isFinite = true) (hwidth : width.isFinite = true)
    (hnonneg : 0 ≤ width.value) :
    -width ≤ wrapX x width ∧ wrapX x width ≤ viewportWidth := by
  have hview := Single.isNaN_of_isFinite isFinite_viewportWidth
  have hxn := Single.isNaN_of_isFinite hx
  have hneg : (-width).isNaN = false := by
    rw [Single.isNaN_neg]
    exact Single.isNaN_of_isFinite hwidth
  have hacross : -width ≤ viewportWidth := by
    refine Single.le_iff_value.mpr ⟨hneg, hview, ?_⟩
    rw [Single.value_neg, value_viewportWidth]
    linarith
  rw [wrapX]
  split
  · exact ⟨hacross, Single.le_refl hview⟩
  · next hleft =>
    split
    · exact ⟨Single.le_refl hneg, hacross⟩
    · next hright =>
      refine ⟨?_, Single.le_of_not_lt hview hxn hright⟩
      -- further out on the left side, the sum with the width would be below zero
      refine Single.le_iff_value.mpr ⟨hneg, hxn, ?_⟩
      rw [Single.value_neg]
      by_contra hout
      refine hleft (Single.lt_iff_value.mpr ⟨Single.isNaN_add hxn hwidth, Single.isNaN_zero, ?_⟩)
      rw [Single.value_zero]
      exact Single.value_add_neg hx hwidth (by linarith)

/-! ### Frame times -/

/-- The times of frames in an ordinary run. -/
structure FrameTime (time : Single) : Prop where
  nonneg : 0 ≤ time
  le : time ≤ 6.25

namespace FrameTime

variable {time : Single}

/-- The share of the velocity that the ordinary tuning keeps, the acceleration toward a wanted one, and
the longest frame. -/
theorem standard_mem :
    (0 ≤ Tuning.standard.friction ∧ Tuning.standard.friction ≤ 1) ∧
      (0 ≤ Tuning.standard.acceleration ∧ Tuning.standard.acceleration.isFinite = true) ∧
      Tuning.standard.frameTimeMax ≤ 6.25 ∧ (6.25 : Single).Within (25 / 4) := by
  decide +kernel

/-- A frame time is finite. -/
theorem within (h : FrameTime time) : time.Within (25 / 4) :=
  Single.within_of_nonneg_of_le h.nonneg h.le standard_mem.2.2.2

/-- What a frame covers of the way to a wanted velocity is a share of it. -/
theorem share_mem (h : FrameTime time) :
    0 ≤ (Tuning.standard.acceleration * time).min 1 ∧
      (Tuning.standard.acceleration * time).min 1 ≤ 1 := by
  obtain ⟨hnonneg, hfinite⟩ := standard_mem.2.1
  exact Single.min_one_mem (Single.mul_nonneg hnonneg h.nonneg hfinite h.within.isFinite)

/-- A frame of an ordinary run takes a frame time, unless the time that is asked for is not a
number. -/
theorem of_clampTime {dt : Single} (hdt : dt.isNaN = false)
    (h : Game.clampTime dt Tuning.standard.frameTimeMax = .ok time) : FrameTime time := by
  obtain ⟨hnonneg, hle⟩ := Game.clampTime_mem hdt h
  exact ⟨hnonneg, Single.le_trans hle standard_mem.2.2.1⟩

end FrameTime

/-! ### The player -/

namespace Player

/-- **The player of an ordinary run**: it keeps its size and its place between the edges, it faces one
of the two sides, the animation runs as long as there is time left for it, and the numbers of its
motion are bounded. -/
structure WellFormed (p : Player) : Prop where
  width_eq : p.body.width = 20
  height_eq : p.body.height = 20
  left_ge : -20 ≤ p.body.left
  left_le : p.body.left ≤ 480
  facing_eq : p.facing = 1 ∨ p.facing = -1
  shooting_iff : p.shooting = true ↔ 0 < p.timer
  timer_nonneg : 0 ≤ p.timer
  timer_le : p.timer ≤ 10
  top_within : p.body.top.Within (2 ^ 60)
  velocity_x : p.velocity.x.Within (5 + 1 / 2 ^ 21)
  velocity_y : p.velocity.y.Within (2 ^ 28)

variable {p : Player} {dt : Single}

/-- A new player is well formed. -/
theorem wellFormed_spawn : spawn.WellFormed := by
  constructor <;> decide +kernel

namespace WellFormed

/-- The player's place from left to right is finite. -/
theorem left_within (h : p.WellFormed) : p.body.left.Within 480 :=
  Single.within_of_le_of_le h.left_ge h.left_le
    ((Single.within_literal 20).neg.mono (by norm_num)) (Single.within_literal 480)

/-- The time left for the animation is finite. -/
theorem timer_within (h : p.WellFormed) : p.timer.Within 10 :=
  Single.within_of_nonneg_of_le h.timer_nonneg h.timer_le (Single.within_literal 10)

/-- **Steering** keeps the player well formed. -/
theorem steer (h : p.WellFormed) (c : Controls) (ht : FrameTime dt) :
    (p.steer (c.targetVelocity .standard) .standard dt).WellFormed := by
  have htarget := c.within_targetVelocity
  generalize c.targetVelocity .standard = target at htarget
  simp only [Player.steer]
  split
  · have hfriction := Single.within_of_share FrameTime.standard_mem.1
    exact { h with velocity_x := h.velocity_x.mul_share hfriction }
  · exact { h with
      facing_eq := Single.sign_eq htarget.isNaN
      velocity_x := within_ease h.velocity_x htarget ht.share_mem }

/-- **The countdown** keeps the player well formed: the animation ends when no time is left. -/
theorem coolDown (h : p.WellFormed) (ht : FrameTime dt) : (p.coolDown dt).WellFormed := by
  rw [Player.coolDown]
  split
  · next hshooting =>
    have hnumber : (p.timer - dt).isNaN = false :=
      Single.isNaN_sub h.timer_within.isNaN ht.within.isFinite
    have hless : p.timer - dt ≤ p.timer :=
      Single.sub_le_self h.timer_within.isNaN ht.within.isFinite (Single.value_nonneg ht.nonneg)
    dsimp only
    split
    · exact { h with
        shooting_iff := show false = true ↔ (0 : Single) < 0 by decide +kernel
        timer_nonneg := show (0 : Single) ≤ 0 by decide +kernel
        timer_le := show (0 : Single) ≤ 10 by decide +kernel }
    · next hleft =>
      have hpos : 0 < p.timer - dt := Single.lt_of_not_le hnumber Single.isNaN_zero hleft
      exact { h with
        shooting_iff := ⟨fun _ => hpos, fun _ => hshooting⟩
        timer_nonneg := Single.le_of_lt hpos
        timer_le := Single.le_trans hless h.timer_le }
  · exact h

/-- **A shot** keeps the player well formed. -/
theorem shoot (h : p.WellFormed) :
    { p with shooting := true, timer := Tuning.standard.shootCooldown }.WellFormed := by
  have hten := Single.isFinite_literal 10
  have hpos : (0 : Single) < 10 := by
    rw [Single.pos_iff_of_isFinite hten, Single.value_literal 10]
    norm_num
  exact { h with
    shooting_iff := iff_of_true rfl hpos
    timer_nonneg := Single.le_of_lt hpos
    timer_le := Single.le_refl (Single.isNaN_of_isFinite hten) }

/-- **The motion of a frame** keeps the player well formed. The fall has no greatest speed, but a
speed of `2 ^ 28` absorbs the gravity of a frame, and a height of `2 ^ 60` the way of one. -/
theorem integrate (h : p.WellFormed) (ht : FrameTime dt) :
    (p.integrate Tuning.standard.gravity dt).WellFormed := by
  have hgravity : Tuning.standard.gravity.Within (1 / 2) := by decide +kernel
  have hpull : (Tuning.standard.gravity * dt).Within 4 := hgravity.mul ht.within
  have hfall : (p.velocity.y + Tuning.standard.gravity * dt).Within (2 ^ 28) :=
    h.velocity_y.add hpull
  have hdrop : ((p.velocity.y + Tuning.standard.gravity * dt) * dt).Within (2 ^ 31) :=
    hfall.mul ht.within
  have hstep : (p.velocity.x * dt).Within 32 := h.velocity_x.mul ht.within
  have hx : (p.body.left + p.velocity.x * dt).Within 512 := h.left_within.add hstep
  have hwidth : 0 ≤ (20 : Single).value := Single.value_nonneg (Single.ofNat_nonneg 20)
  obtain ⟨hge, hle⟩ := wrapX_mem hx.isFinite (Single.isFinite_literal 20) hwidth
  exact { h with
    left_ge := by
      rw [Player.integrate, h.width_eq]
      exact hge
    left_le := by
      rw [Player.integrate, h.width_eq]
      exact hle
    top_within := h.top_within.add hdrop
    velocity_y := hfall }

/-- **A landing** keeps the player well formed, on whatever platform within the bounds it is. -/
theorem bounce {game : Game} (h : game.player.WellFormed) (htuning : game.tuning = .standard)
    {platform : Platform} (htop : platform.body.top.Within (2 ^ 60)) :
    (game.bounce platform).WellFormed := by
  have hheight : (20 : Single).Within 20 := Single.within_literal 20
  have himpulse : ∀ kind, (Tuning.standard.jumpImpulse kind).Within (2 ^ 28) := by
    intro kind
    cases kind <;> decide +kernel
  exact { h with
    top_within := by
      rw [Game.bounce, h.height_eq]
      exact htop.sub hheight
    velocity_y := by
      rw [Game.bounce, htuning]
      exact himpulse _ }

end WellFormed

end Player

end Platformer
