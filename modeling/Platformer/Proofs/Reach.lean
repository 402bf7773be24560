import Platformer.Proofs.Clock
import Platformer.Proofs.Jump
import Platformer.Proofs.Parts

/-! # What a rising player reaches

The pilot steers to a platform that the height of a jump reaches. That height is the square of the
velocity, and a rising player comes no higher: under frames of whole milliseconds its velocity counts
32nds and its place counts 512ths, so that no frame is rounded, and each frame lowers the apex by the
square of what it adds to the velocity.

* **`Player.ExactFrame`**, **`Player.ExactFlight`** — frames in which nothing is rounded.
* **`Player.IsAt`**, **`Player.IsAt.fly`** — a player by its counts, and a frame of it.
* **`Player.Coast`**, **`Player.Coast.step`** — how the counts of a rising player change; twice the
  place less the square of the velocity never goes down.
* **`Player.IsAt.flight`** — many frames of a rising player.
* **`Player.Launched`**, **`Player.reach_sound`** — what that means for the height of a jump. -/

namespace Platformer

namespace Player

variable {p : Player} {dt : Single} {times : List Single} {i j i' j' n : ℤ}

/-! ### Frames without rounding -/

/-- **A frame in which no operation on the height is rounded**: neither what gravity adds nor the new
velocity, and neither the way nor the new place. -/
structure ExactFrame (p : Player) (dt : Single) : Prop where
  gain : (Tuning.standard.gravity * dt).Exactly (Tuning.standard.gravity.value * dt.value)
  velocity : (p.fly dt).velocity.y.Exactly
    (p.velocity.y.value + (Tuning.standard.gravity * dt).value)
  way : ((p.fly dt).velocity.y * dt).Exactly ((p.fly dt).velocity.y.value * dt.value)
  top : (p.fly dt).body.top.Exactly (p.body.top.value + ((p.fly dt).velocity.y * dt).value)

/-- Frames one after another in none of which an operation on the height is rounded. -/
def ExactFlight (p : Player) : List Single → Prop
  | [] => True
  | dt :: times => p.ExactFrame dt ∧ (p.fly dt).ExactFlight times

/-- **A player by its counts**: its top in 512ths and its velocity in 32nds. -/
structure IsAt (i j : ℤ) (p : Player) : Prop where
  top : p.body.top.IsParts 9 i
  velocity : p.velocity.y.IsParts 5 j

/-- **A frame of a counted player** is exact, and its counts are those of whole numbers. -/
theorem IsAt.fly (h : p.IsAt i j) (hdt : dt.IsParts 4 n) (hn : |n| ≤ 100) (hj : |j| ≤ 1000)
    (hi : |i| ≤ 2 ^ 23) : p.ExactFrame dt ∧ (p.fly dt).IsAt (i + (j + n) * n) (j + n) := by
  have hgravity : Tuning.standard.gravity.IsParts 1 1 := by decide +kernel
  -- all counts keep within 24 bits
  have hspeed : |j + n| ≤ 1100 := (abs_add_le j n).trans (by omega)
  have hgo : |(j + n) * n| ≤ 1100 * 100 := by
    rw [abs_mul]
    exact mul_le_mul hspeed hn (abs_nonneg n) (by norm_num)
  have hplace : |i + (j + n) * n| ≤ 2 ^ 23 + 1100 * 100 :=
    (abs_add_le _ _).trans (add_le_add hi hgo)
  -- so each operation gives the count of the exact result
  have hgain : (Tuning.standard.gravity * dt).IsParts 5 n := by
    have hproduct := hgravity.mul hdt (by rw [one_mul]; omega) (by decide)
    rwa [one_mul] at hproduct
  have hvelocity : (p.fly dt).velocity.y.IsParts 5 (j + n) :=
    h.velocity.add hgain (by omega) (by decide)
  have hway : ((p.fly dt).velocity.y * dt).IsParts 9 ((j + n) * n) :=
    hvelocity.mul hdt (by omega) (by decide)
  have htop : (p.fly dt).body.top.IsParts 9 (i + (j + n) * n) :=
    h.top.add hway (by omega) (by decide)
  refine ⟨⟨⟨hgain.isFinite, ?_⟩, ⟨hvelocity.isFinite, ?_⟩, ⟨hway.isFinite, ?_⟩,
    ⟨htop.isFinite, ?_⟩⟩, htop, hvelocity⟩
  · rw [hgain.value_eq, hgravity.value_eq, hdt.value_eq]
    push_cast
    ring
  · rw [hvelocity.value_eq, h.velocity.value_eq, hgain.value_eq]
    push_cast
    ring
  · rw [hway.value_eq, hvelocity.value_eq, hdt.value_eq]
    push_cast
    ring
  · rw [htop.value_eq, h.top.value_eq, hway.value_eq]
    push_cast
    ring

/-! ### The counts of a rising player -/

/-- **How the counts of a rising player may have changed**: the player is no lower and no faster, and
twice the place less the square of the velocity, the apex that it is bound for, is no higher up. -/
structure Coast (i j i' j' : ℤ) : Prop where
  higher : i' ≤ i
  slower : j ≤ j'
  rises : j' ≤ 0
  apex : 2 * i - j ^ 2 ≤ 2 * i' - j' ^ 2

namespace Coast

/-- At first nothing has changed. -/
theorem refl (hj : j ≤ 0) : Coast i j i j := ⟨le_rfl, le_rfl, hj, le_rfl⟩

/-- **A frame lowers the apex** by the square of what it adds to the velocity. -/
theorem step (h : Coast i j i' j') (hn : 0 ≤ n) (hrises : j' + n ≤ 0) :
    Coast i j (i' + (j' + n) * n) (j' + n) where
  higher := by linarith [h.higher, mul_nonpos_of_nonpos_of_nonneg hrises hn]
  slower := h.slower.trans (by omega)
  rises := hrises
  apex := by
    have hlower : 2 * (i' + (j' + n) * n) - (j' + n) ^ 2 = 2 * i' - j' ^ 2 + n ^ 2 := by ring
    linarith [h.apex, sq_nonneg n]

/-- **The rise is at most half of the square** of the velocity at first. -/
theorem rise_le (h : Coast i j i' j') : 2 * (i - i') ≤ j ^ 2 := by
  linarith [h.apex, sq_nonneg j']

/-- The counts of a rising player keep within bounds. -/
theorem bounds (h : Coast i j i' j') (hj : -576 ≤ j) (hi : |i| ≤ 2 ^ 22) :
    |j'| ≤ 1000 ∧ |i'| ≤ 2 ^ 23 := by
  have hrise := h.rise_le
  have hslower := h.slower
  have hrises := h.rises
  have hhigher := h.higher
  obtain ⟨hlow, hhigh⟩ := abs_le.mp hi
  have hsquare : j ^ 2 ≤ 576 ^ 2 := by
    rw [sq_le_sq, abs_of_nonpos (hslower.trans hrises)]
    exact (neg_le.mp hj).trans (le_abs_self _)
  exact ⟨abs_le.mpr ⟨by omega, by omega⟩, abs_le.mpr ⟨by omega, by omega⟩⟩

end Coast

/-! ### Many frames -/

/-- Frame times of the clock are not negative and up to a hundred milliseconds. -/
theorem framesIn_of_isClockTime (htimes : ∀ dt ∈ times, IsClockTime dt) :
    FramesIn 0 (25 / 4) times := by
  intro dt hdt
  obtain ⟨n, hn, hparts⟩ := htimes dt hdt
  have hbound : (n : ℚ) ≤ 100 := by exact_mod_cast hn
  refine ⟨hparts.isFinite, ?_, ?_⟩
  · rw [hparts.value_eq]
    positivity
  · rw [hparts.value_eq, Int.cast_natCast]
    linarith

/-- **A flight that still rises** has been exact from its first frame on, and its counts have changed as
those of a rising player do. -/
theorem IsAt.flight (h : p.IsAt i' j') (hcoast : Coast i j i' j') (hj : -576 ≤ j)
    (hi : |i| ≤ 2 ^ 22) (htimes : ∀ dt ∈ times, IsClockTime dt)
    (hrising : (p.flight times).velocity.y ≤ 0) :
    p.ExactFlight times ∧ ∃ i'' j'', (p.flight times).IsAt i'' j'' ∧ Coast i j i'' j'' := by
  -- the counts at first stay fixed, while those of the player move with the frames
  induction times generalizing p i' j' with
  | nil => exact ⟨trivial, i', j', h, hcoast⟩
  | cons dt times ih =>
    obtain ⟨⟨n, hn, hdt⟩, hrest⟩ := List.forall_mem_cons.mp htimes
    obtain ⟨hslow, hnear⟩ := hcoast.bounds hj hi
    obtain ⟨hexact, hnext⟩ := h.fly hdt (by rw [Nat.abs_cast]; exact_mod_cast hn) hslow hnear
    by_cases hrises : j' + n ≤ 0
    · have hstep := hcoast.step (Int.natCast_nonneg n) hrises
      obtain ⟨hflight, hlast⟩ := ih hnext hstep hrest hrising
      exact ⟨⟨hexact, hflight⟩, hlast⟩
    -- a player that fell in between would still fall
    · have hfalls : 0 < (p.fly dt).velocity.y := by
        refine (Single.pos_iff_of_isFinite hnext.velocity.isFinite).mpr ?_
        rw [hnext.velocity.value_eq]
        have hpos : (0 : ℚ) < (j' + n : ℤ) := by exact_mod_cast not_le.mp hrises
        exact div_pos hpos (by positivity)
      have hstill := velocity_pos_flight le_rfl (framesIn_of_isClockTime hrest) hfalls
      exact absurd hrising (Single.not_le_of_lt hstill)

/-! ### The height of a jump -/

/-- **A player thrown up** from a place that counts 512ths, at most 8192 from the origin, with a velocity
that counts 32nds, at most 18. -/
structure Launched (p : Player) : Prop where
  top : ∃ i : ℤ, p.body.top.IsParts 9 i
  abs_top_le : |p.body.top.value| ≤ 8192
  velocity : ∃ j : ℤ, p.velocity.y.IsParts 5 j
  velocity_ge : -18 ≤ p.velocity.y.value
  velocity_neg : p.velocity.y.value < 0

/-- The counts of a player thrown up. -/
theorem Launched.exists_isAt (h : p.Launched) :
    ∃ i j : ℤ, p.IsAt i j ∧ |i| ≤ 2 ^ 22 ∧ -576 ≤ j ∧ j < 0 := by
  obtain ⟨i, hi⟩ := h.top
  obtain ⟨j, hj⟩ := h.velocity
  have hnear := h.abs_top_le
  have hfast := h.velocity_ge
  have hup := h.velocity_neg
  rw [hi.value_eq, abs_div, abs_of_pos (by positivity : (0 : ℚ) < 2 ^ 9),
    div_le_iff₀ (by positivity)] at hnear
  rw [hj.value_eq, le_div_iff₀ (by positivity)] at hfast
  rw [hj.value_eq, div_lt_iff₀ (by positivity), zero_mul] at hup
  norm_num at hnear hfast
  refine ⟨i, j, ⟨hi, hj⟩, ?_, by exact_mod_cast hfast, by exact_mod_cast hup⟩
  norm_num
  exact_mod_cast hnear

/-- **The height of a jump** is exactly the square of the velocity. -/
theorem exactly_jumpHeight {v : Single} (hv : v.IsParts 5 j) (hj : |j| ≤ 1000) :
    (Tuning.standard.jumpHeight v).Exactly (v.value ^ 2) := by
  have hgravity : (2 * Tuning.standard.gravity).Exactly (2 ^ 0) := by decide +kernel
  have hsquare : |j * j| ≤ 2 ^ 24 := by
    rw [abs_mul]
    nlinarith [abs_nonneg j]
  have hheight := (hv.mul hv hsquare (by decide)).div_two_pow hgravity hsquare (by decide)
  refine ⟨hheight.isFinite, hheight.value_eq.trans ?_⟩
  rw [hv.value_eq]
  push_cast
  ring

/-- **The reach of a rising player is sound.** However a player is thrown up, and whatever frame times
the clock shows, as long as the velocity is not above zero no operation on the height has been rounded,
and the player has not risen by more than the height of its jump. -/
theorem reach_sound (h : p.Launched) :
    (Tuning.standard.jumpHeight p.velocity.y).Exactly (p.velocity.y.value ^ 2) ∧
      (∀ times : List Single, (∀ dt ∈ times, IsClockTime dt) → (p.flight times).velocity.y ≤ 0 →
        p.ExactFlight times ∧
          p.body.top.value - (p.flight times).body.top.value ≤
            (Tuning.standard.jumpHeight p.velocity.y).value) ∧
      (∀ (game next : Game) (now : ℕ) (dt : Single), game.tuning = .standard →
        game.advanceClock now = .ok (dt, next) → IsClockTime dt) := by
  obtain ⟨i, j, hat, hi, hfast, hup⟩ := h.exists_isAt
  have hheight := exactly_jumpHeight hat.velocity (abs_le.mpr ⟨by omega, by omega⟩)
  refine ⟨hheight, fun times htimes hrising => ?_,
    fun game next now dt htuning => Game.isClockTime_of_advanceClock htuning⟩
  obtain ⟨hexact, i', j', hlast, hcoast⟩ := hat.flight (.refl hup.le) hfast hi htimes hrising
  refine ⟨hexact, ?_⟩
  have hrise : (2 * (i - i') : ℚ) ≤ j ^ 2 := by exact_mod_cast hcoast.rise_le
  rw [hheight.value_eq, hat.top.value_eq, hlast.top.value_eq, hat.velocity.value_eq]
  calc (i / 2 ^ 9 - i' / 2 ^ 9 : ℚ) = 2 * (i - i') / 2 ^ 10 := by ring
    _ ≤ j ^ 2 / 2 ^ 10 := div_le_div_of_nonneg_right hrise (by positivity)
    _ = (j / 2 ^ 5) ^ 2 := by ring

/-- A player thrown up by a spring, in a long frame, a frame without any time and a nominal one. -/
theorem reach_sound_of_spring :
    let p : Player := { leaping with velocity := ⟨0, -18⟩ }
    let times := [millis 100, millis 0, 1]
    (p.flight times).velocity.y ≤ 0 ∧ p.ExactFlight times ∧
      p.body.top.value - (p.flight times).body.top.value ≤ 324 := by
  intro p times
  have hlaunched : p.Launched := by
    refine ⟨⟨291840, ?_⟩, ?_, ⟨-576, ?_⟩, ?_, ?_⟩ <;> decide +kernel
  have hclock : ∀ dt ∈ times, IsClockTime dt := by
    have hnominal : (1 : Single).IsParts 4 16 := by decide +kernel
    simp only [times, List.forall_mem_cons]
    exact ⟨isClockTime_millis 100, isClockTime_millis 0, ⟨16, by decide, hnominal⟩,
      List.forall_mem_nil _⟩
  have hrising : (p.flight times).velocity.y ≤ 0 := by decide +kernel
  obtain ⟨hheight, hreach, -⟩ := reach_sound hlaunched
  obtain ⟨hexact, hrise⟩ := hreach times hclock hrising
  have hsquare : p.velocity.y.value ^ 2 = 324 := by decide +kernel
  rw [hheight.value_eq, hsquare] at hrise
  exact ⟨hrising, hexact, hrise⟩

end Player

end Platformer
