import Platformer.Proofs.Coarse
import Platformer.Proofs.WellFormed
import Platformer.Single.Bits

/-! # The horizontal speed

The way to a wanted velocity is rounded three times in a frame: as a difference, as a share of it, and
as a sum. Only the first rounding can lead past the wanted velocity, by a fraction of the step from
full speed to the next number, and the last one leads no further than that step. As the wanted
velocity is at most full speed, no frame leads past the next number, whatever the frames before it
left.

* **`topSpeed`**, **`isLeast_topSpeed`** — the number after full speed.
* **`rounded_add_step_le`**, **`rounded_way_le`** — how far past a wanted velocity the rounded way to
  it leads.
* **`easeValue`**, **`easeValue_mem`** — the value of an eased velocity, and where it lies.
* **`Eases`**, **`Player.eases_steer`** — what steering does to the velocity.
* **`Game.velocity_of_step`**, **`Game.eases_of_tick`** — the same of a whole frame.
* **`Game.speed_bounded`** — the bound on the speed in every game that is played. -/

namespace Platformer

/-! ### The number after full speed -/

/-- The number after full speed. -/
def topSpeed : Single := .ofBits (Tuning.standard.playerSpeed.toBits + 1)

/-- It lies above full speed by the last bit of the numbers there. -/
theorem value_topSpeed :
    (Tuning.standard.playerSpeed.isFinite = true ∧ Tuning.standard.playerSpeed.value = 5) ∧
      topSpeed.isFinite = true ∧ topSpeed.value = 5 + 1 / 2 ^ 21 := by
  decide +kernel

/-- **There is no number between full speed and the one after it.** -/
theorem isLeast_topSpeed : IsLeast {x : Single | Tuning.standard.playerSpeed < x} topSpeed := by
  obtain ⟨⟨hfull, hspeed⟩, htop, hvalue⟩ := value_topSpeed
  constructor
  · refine (Single.lt_iff_of_isFinite hfull htop).mpr ?_
    rw [hspeed, hvalue]
    norm_num
  · intro x hx
    obtain ⟨-, hxn, habove⟩ := Single.lt_iff_value.mp hx
    rw [hspeed] at habove
    refine Single.le_iff_value.mpr ⟨Single.isNaN_of_isFinite htop, hxn, ?_⟩
    rw [hvalue]
    by_contra hbelow
    rw [not_le] at hbelow
    -- a number there is a whole count of the last bit, and no count lies between the two
    have habs : |x.value| = x.value := abs_of_pos (by linarith)
    have hfinite : x.isFinite = true :=
      Single.isFinite_of_abs_value_le hxn (n := 6) (by decide) (by
        rw [habs]
        push_cast
        linarith)
    obtain ⟨n, hn⟩ := Single.exists_eq_div_two_pow hfinite (k := 21) (by decide) (by
      rw [habs]
      linarith)
    rw [hn] at habove hbelow
    have hlow : (5 * 2 ^ 21 : ℚ) < n := by linarith
    have hhigh : (n : ℚ) < 5 * 2 ^ 21 + 1 := by linarith
    have hlow' : 5 * 2 ^ 21 < n := by exact_mod_cast hlow
    have hhigh' : n < 5 * 2 ^ 21 + 1 := by exact_mod_cast hhigh
    omega

/-- A bound on the magnitude is a bound on the speed. -/
theorem abs_le_topSpeed {v : Single} (hv : v.Within (5 + 1 / 2 ^ 21)) : v.abs ≤ topSpeed := by
  obtain ⟨-, htop, hvalue⟩ := value_topSpeed
  rw [Single.le_iff_of_isFinite (by rw [Single.isFinite_abs]; exact hv.isFinite) htop, hvalue,
    Single.value_abs]
  exact hv.abs_value_le

/-! ### The rounded way -/

/-- A step past a number between two and full speed is rounded to no more than the step. -/
theorem rounded_add_step_le {x : Single} (hx : x.isFinite = true) (htwo : 2 ≤ x.value)
    (hle : x.value ≤ 5) : rounded (x.value + 1 / 2 ^ 21) ≤ x.value + 1 / 2 ^ 21 := by
  have habs : |x.value| = x.value := abs_of_nonneg (by linarith)
  -- the end of the step is a number itself, but for the last number below four
  have hnumber : ∀ {k : ℕ} {n : ℤ}, k ≤ 149 → 0 ≤ n → n ≤ 2 ^ 24 →
      x.value + 1 / 2 ^ 21 = n / 2 ^ k → rounded (x.value + 1 / 2 ^ 21) ≤ x.value + 1 / 2 ^ 21 := by
    intro k n hk hnonneg hn hend
    obtain ⟨y, -, hy⟩ := Single.exists_value_eq (n := n) (abs_le.mpr ⟨by omega, hn⟩) hk
    rw [hend, ← hy, Single.rounded_value]
  by_cases hfour : 4 ≤ x.value
  · obtain ⟨n, hn⟩ := Single.exists_eq_div_two_pow hx (k := 21) (by decide) (by
      rw [habs]
      linarith)
    have hnonneg : (0 : ℚ) ≤ n := by linarith
    have hbound : (n : ℚ) ≤ 5 * 2 ^ 21 := by linarith
    have hnonneg' : 0 ≤ n := by exact_mod_cast hnonneg
    have hbound' : n ≤ 5 * 2 ^ 21 := by exact_mod_cast hbound
    refine hnumber (k := 21) (n := n + 1) (by decide) (by omega) (by omega) ?_
    rw [hn]
    push_cast
    ring
  · obtain ⟨n, hn⟩ := Single.exists_eq_div_two_pow hx (k := 22) (by decide) (by
      rw [habs]
      linarith)
    have hnonneg : (0 : ℚ) ≤ n := by linarith
    have hbound : (n : ℚ) < 2 ^ 24 := by linarith
    have hnonneg' : 0 ≤ n := by exact_mod_cast hnonneg
    have hbound' : n < 2 ^ 24 := by exact_mod_cast hbound
    by_cases hlast : n = 2 ^ 24 - 1
    · have htie : rounded (4 + 1 / 2 ^ 22) ≤ 4 := by decide +kernel
      have hend : x.value + 1 / 2 ^ 21 = 4 + 1 / 2 ^ 22 := by
        rw [hn, hlast]
        norm_num
      rw [hend]
      linarith
    · refine hnumber (k := 22) (n := n + 2) (by decide) (by omega) (by omega) ?_
      rw [hn]
      push_cast
      ring

/-- **The whole way to a wanted velocity**, rounded, leads past it by at most one step. -/
theorem rounded_way_le {v target : Single} (hv : v.Within (5 + 1 / 2 ^ 21))
    (htarget : target.Within 5) (hle : v.value ≤ target.value) :
    rounded (v.value + rounded (target.value - v.value)) ≤ target.value + 1 / 2 ^ 21 := by
  obtain ⟨hvlow, hvhigh⟩ := abs_le.mp hv.abs_value_le
  obtain ⟨hlow, hhigh⟩ := abs_le.mp htarget.abs_value_le
  have hnonneg : |target.value - v.value| = target.value - v.value :=
    abs_of_nonneg (by linarith)
  by_cases hnear : target.value - v.value ≤ 8
  · -- a short way loses half a step, and the target is no further from the sum than that
    have herror := abs_rounded_sub_self_le (k := 21) (by decide) (q := target.value - v.value)
      (by rw [hnonneg]; norm_num; linarith)
    have hhalf : v.value + rounded (target.value - v.value) ≤ target.value + 1 / 2 ^ 22 := by
      linarith [(abs_le.mp herror).2]
    by_cases hpast : v.value + rounded (target.value - v.value) ≤ target.value
    · have hround := rounded_le_rounded hpast
      rw [Single.rounded_value] at hround
      linarith
    · have hnearest := Single.abs_rounded_sub_le htarget.isFinite
        (v.value + rounded (target.value - v.value))
      rw [abs_of_nonpos (by linarith : target.value - _ ≤ 0)] at hnearest
      linarith [(abs_le.mp hnearest).2]
  · -- a long way loses up to a step, but ends where a step further on is a number again
    have herror := abs_rounded_sub_self_le (k := 20) (by decide) (q := target.value - v.value)
      (by rw [hnonneg]; norm_num; linarith)
    have hstep : v.value + rounded (target.value - v.value) ≤ target.value + 1 / 2 ^ 21 := by
      linarith [(abs_le.mp herror).2]
    exact (rounded_le_rounded hstep).trans
      (rounded_add_step_le htarget.isFinite (by linarith) hhigh)

/-! ### Easing -/

/-- The value of an eased velocity. -/
def easeValue (v target share : ℚ) : ℚ := rounded (v + rounded (rounded (target - v) * share))

/-- Easing is the same on both sides. -/
theorem easeValue_neg (v target share : ℚ) :
    easeValue (-v) (-target) share = -easeValue v target share := by
  have hway : -target - -v = -(target - v) := by ring
  rw [easeValue, hway, rounded_neg, neg_mul, rounded_neg, ← neg_add, rounded_neg, easeValue]

/-- The value that easing computes. -/
theorem value_ease {v target share : Single} (hv : v.Within (5 + 1 / 2 ^ 21))
    (htarget : target.Within 5) (hshare : share.Within 1) :
    (v + (target - v) * share).value = easeValue v.value target.value share.value := by
  obtain ⟨hway, hproduct⟩ := within_way hv htarget hshare
  rw [Single.value_add hv.isFinite hproduct.isFinite,
    Single.value_mul hway.isFinite hshare.isFinite,
    Single.value_sub htarget.isFinite hv.isFinite, easeValue]

/-- **Easing from below** leads up, and past the wanted velocity by at most one step. -/
theorem easeValue_mem {v target : Single} {share : ℚ} (hv : v.Within (5 + 1 / 2 ^ 21))
    (htarget : target.Within 5) (hnonneg : 0 ≤ share) (hone : share ≤ 1)
    (hle : v.value ≤ target.value) :
    v.value ≤ easeValue v.value target.value share ∧
      easeValue v.value target.value share ≤ target.value + 1 / 2 ^ 21 := by
  have hway : 0 ≤ rounded (target.value - v.value) := by
    have hround := rounded_le_rounded (sub_nonneg.mpr hle)
    rwa [rounded_zero] at hround
  -- a share of the rounded way is rounded to at most the way, which is a number
  have hfix : rounded (rounded (target.value - v.value)) = rounded (target.value - v.value) := by
    rw [← Single.value_sub htarget.isFinite hv.isFinite, Single.rounded_value]
  have hpart : 0 ≤ rounded (rounded (target.value - v.value) * share) := by
    have hround := rounded_le_rounded (mul_nonneg hway hnonneg)
    rwa [rounded_zero] at hround
  have hwhole : rounded (rounded (target.value - v.value) * share) ≤
      rounded (target.value - v.value) := by
    have hround := rounded_le_rounded (mul_le_of_le_one_right hway hone)
    rwa [hfix] at hround
  constructor
  · calc v.value = rounded v.value := (Single.rounded_value v).symm
      _ ≤ easeValue v.value target.value share := rounded_le_rounded (by linarith)
  · calc easeValue v.value target.value share
        ≤ rounded (v.value + rounded (target.value - v.value)) := rounded_le_rounded (by linarith)
      _ ≤ target.value + 1 / 2 ^ 21 := rounded_way_le hv htarget hle

/-- What a frame makes of a velocity: it leads toward the wanted one, and past it by at most the step
from full speed to the number after it. -/
structure Eases (v target next : Single) : Prop where
  up : v ≤ target → v ≤ next ∧ next.value ≤ target.value + 1 / 2 ^ 21
  down : target ≤ v → next ≤ v ∧ target.value - 1 / 2 ^ 21 ≤ next.value

/-- **Easing** toward a wanted velocity. -/
theorem eases_ease {v target share : Single} (hv : v.Within (5 + 1 / 2 ^ 21))
    (htarget : target.Within 5) (hshare : 0 ≤ share ∧ share ≤ 1) :
    Eases v target (v + (target - v) * share) := by
  have hpart := Single.within_of_share hshare
  have hnonneg := Single.value_nonneg hshare.1
  have hone : share.value ≤ 1 := (le_abs_self _).trans hpart.abs_value_le
  have hnext := within_ease hv htarget hshare
  constructor
  · intro hle
    rw [Single.le_iff_of_isFinite hv.isFinite htarget.isFinite] at hle
    rw [Single.le_iff_of_isFinite hv.isFinite hnext.isFinite, value_ease hv htarget hpart]
    exact easeValue_mem hv htarget hnonneg hone hle
  · intro hle
    rw [Single.le_iff_of_isFinite htarget.isFinite hv.isFinite] at hle
    rw [Single.le_iff_of_isFinite hnext.isFinite hv.isFinite, value_ease hv htarget hpart]
    -- the mirror image goes up
    obtain ⟨hback, hshort⟩ := easeValue_mem hv.neg htarget.neg hnonneg hone (by
      rw [Single.value_neg, Single.value_neg]
      exact neg_le_neg hle)
    rw [Single.value_neg, Single.value_neg, easeValue_neg] at hback hshort
    exact ⟨by linarith, by linarith⟩

/-- **Friction** leads toward standing still and not past it. -/
theorem eases_friction {v target friction : Single} (hv : v.Within (5 + 1 / 2 ^ 21))
    (hzero : target.value = 0) (hfriction : 0 ≤ friction ∧ friction ≤ 1) :
    Eases v target (v * friction) := by
  have hpart := Single.within_of_share hfriction
  have hnonneg := Single.value_nonneg hfriction.1
  have hone : friction.value ≤ 1 := (le_abs_self _).trans hpart.abs_value_le
  have hnext := hv.mul_share hpart
  constructor
  · intro hle
    have hv0 := (Single.le_iff_value.mp hle).2.2
    rw [hzero] at hv0
    rw [Single.le_iff_of_isFinite hv.isFinite hnext.isFinite,
      Single.value_mul hv.isFinite hpart.isFinite, hzero]
    have hlow := rounded_le_rounded (show v.value ≤ v.value * friction.value by nlinarith)
    have hhigh := rounded_le_rounded (mul_nonpos_of_nonpos_of_nonneg hv0 hnonneg)
    rw [Single.rounded_value] at hlow
    rw [rounded_zero] at hhigh
    exact ⟨hlow, by linarith⟩
  · intro hle
    have hv0 := (Single.le_iff_value.mp hle).2.2
    rw [hzero] at hv0
    rw [Single.le_iff_of_isFinite hnext.isFinite hv.isFinite,
      Single.value_mul hv.isFinite hpart.isFinite, hzero]
    have hhigh := rounded_le_rounded (mul_le_of_le_one_right hv0 hone)
    have hlow := rounded_le_rounded (mul_nonneg hv0 hnonneg)
    rw [Single.rounded_value] at hhigh
    rw [rounded_zero] at hlow
    exact ⟨hhigh, by linarith⟩

/-! ### Frames -/

/-- Steering eases a velocity that is within the bound. -/
theorem Player.eases_steer {p : Player} {dt : Single} (hv : p.velocity.x.Within (5 + 1 / 2 ^ 21))
    (c : Controls) (ht : FrameTime dt) :
    Eases p.velocity.x (c.targetVelocity .standard)
      (p.steer (c.targetVelocity .standard) .standard dt).velocity.x := by
  have htarget := c.within_targetVelocity
  generalize c.targetVelocity .standard = target at htarget
  simp only [Player.steer]
  split
  · next hzero =>
    have hvalue : target.value = 0 := by
      cases target with
      | finite s m hm =>
        cases m with
        | zero => simp [Single.value_finite, Single.signed]
        | succ m => cases hzero
      | _ => cases hzero
    exact eases_friction hv hvalue FrameTime.standard_mem.1
  · exact eases_ease hv htarget ht.share_mem

/-- The countdown has no part in the velocity. -/
theorem Player.velocity_coolDown (p : Player) (dt : Single) :
    (p.coolDown dt).velocity = p.velocity := by
  rw [coolDown]
  split
  · dsimp only
    split <;> rfl
  · rfl

namespace Game

variable {game next : Game} {c : Controls} {dt time : Single} {notices : List Notice}

/-- A landing has no part in the horizontal velocity. -/
theorem velocity_land (game : Game) :
    game.land.2.player.velocity.x = game.player.velocity.x := by
  cases h : firstLanding? { game.player with onGround := false } game.platforms with
  | none => rw [land_of_none h]
  | some landing => rw [land_of_some h]; rfl

/-- **Only steering** changes the horizontal velocity in a frame. -/
theorem velocity_of_step (h : { game with events := [] }.step c dt = .ok (next, notices)) :
    ∃ time, clampTime dt game.tuning.frameTimeMax = .ok time ∧ next.player.velocity.x =
      (game.player.steer (c.targetVelocity game.tuning) game.tuning time).velocity.x := by
  obtain ⟨time, s, htime, -, hplayer, rfl⟩ := step_eq_setUp_moved h
  obtain ⟨ready, hready, hmoved⟩ := moved_eq game c time
  refine ⟨time, htime, ?_⟩
  have hnext : (game.outcome s time).player.velocity.x = (game.setUp s).player.velocity.x := by
    rw [player_outcome, velocity_land]
  have hsetup : (game.setUp s).player.velocity.x = ready.velocity.x := by
    show s.player.velocity.x = _
    rw [hplayer, hmoved]
    rfl
  refine (hnext.trans hsetup).trans ?_
  rcases hready with rfl | rfl
  · rw [Player.velocity_coolDown]
  · show ((game.player.steer _ _ time).coolDown time).velocity.x = _
    rw [Player.velocity_coolDown]

/-- **A frame eases the velocity** toward what its controls ask for. -/
theorem eases_of_tick (hgame : game.WellFormed) (htuning : game.tuning = .standard)
    (hdt : dt.isNaN = false) (hrunning : game.running = true)
    (h : game.tick c dt = .ok (next, notices)) :
    Eases game.player.velocity.x ((game.controls c).targetVelocity .standard)
      next.player.velocity.x := by
  rw [tick_eq, if_pos hrunning] at h
  obtain ⟨time, htime, hnext⟩ := velocity_of_step h
  rw [htuning] at htime hnext
  rw [hnext]
  exact Player.eases_steer hgame.player.velocity_x _ (FrameTime.of_clampTime hdt htime)

/-- **The horizontal speed stays bounded.** Under the ordinary tuning calls from every seed lead to a
game in which the player is no faster than the number after full speed, whatever was asked for in
whatever order, unless a frame was given a time that is not a number. A further frame leads toward
the velocity that its controls ask for, and past it by at most the step to that number. -/
theorem speed_bounded (seed : UInt64) {calls : List Call}
    (hcalls : ∀ call ∈ calls, call.IsTimed) :
    IsLeast {x : Single | Tuning.standard.playerSpeed < x} topSpeed ∧
      topSpeed.value = 5 + 1 / 2 ^ 21 ∧
      ∃ game, play seed .standard calls = .ok game ∧ game.player.velocity.x.abs ≤ topSpeed ∧
        ∀ {c : Controls} {dt : Single} {next : Game} {notices : List Notice},
          dt.isNaN = false → game.running = true → game.tick c dt = .ok (next, notices) →
          Eases game.player.velocity.x ((game.controls c).targetVelocity .standard)
            next.player.velocity.x := by
  refine ⟨isLeast_topSpeed, value_topSpeed.2.2, ?_⟩
  obtain ⟨game, hplay, htuning, hgame⟩ := exists_play
    (P := fun game => game.tuning = .standard ∧ game.WellFormed) Tuning.playable_standard
    (fun htuning hfresh => ⟨htuning, wellFormed_of_fresh htuning hfresh⟩)
    (fun htuning hnext htimed h heffect => ⟨hnext, h.2.effect htuning hnext htimed heffect⟩) seed
    hcalls
  exact ⟨game, hplay, abs_le_topSpeed hgame.player.velocity_x,
    fun hdt hrunning htick => eases_of_tick hgame htuning hdt hrunning htick⟩

/-- A player who was thrown to the left, under a tilt that is not a number and through an endless
frame, and then turns to the right. -/
theorem speed_bounded_of_turn :
    (∀ call ∈ [.tick { tilt := some (.nan true) } (.infinite false), .tick { left := true } 6],
      Call.IsTimed call) ∧
    ∃ game next notices, play 7 .standard [.tick { tilt := some (.nan true) } (.infinite false),
        .tick { left := true } 6] = .ok game ∧
      game.player.velocity.x.abs ≤ topSpeed ∧ game.player.velocity.x < 0 ∧
      game.tick { right := true } 1 = .ok (next, notices) ∧
      Eases game.player.velocity.x 5 next.player.velocity.x := by
  have htimed : ∀ call ∈ [.tick { tilt := some (.nan true) } (.infinite false),
      .tick { left := true } 6], Call.IsTimed call := by decide +kernel
  refine ⟨htimed, ?_⟩
  obtain ⟨-, -, game, hplay, hbound, heases⟩ := speed_bounded 7 htimed
  obtain ⟨game', hplay', hcheck⟩ := exists_of_play 7 .standard
    [.tick { tilt := some (.nan true) } (.infinite false), .tick { left := true } 6]
    (fun game => game.running && decide (game.player.velocity.x < 0) &&
      (game.tick { right := true } 1).toOption.any fun _ => true) (by decide +kernel)
  obtain rfl : game = game' := Except.ok.inj (hplay.symm.trans hplay')
  simp only [Bool.and_eq_true, decide_eq_true_eq] at hcheck
  obtain ⟨⟨hrunning, hleft⟩, hnext⟩ := hcheck
  obtain ⟨⟨next, notices⟩, htick, -⟩ := exists_eq_ok_of_any _ hnext
  exact ⟨game, next, notices, hplay, hbound, hleft, htick,
    heases (Single.isNaN_of_isFinite (Single.isFinite_literal 1)) hrunning htick⟩

end Game

end Platformer
