import Platformer.Platform

/-! # Tuning

Every number that balances the game, in one value. Velocities are world units per nominal frame and
accelerations world units per nominal frame squared.

* **`Tuning`** — the numbers; **`Tuning.standard`** — the balance of an ordinary run.
* **`Tuning.jumpImpulse`**, **`Tuning.jumpHeight`** — how a landing throws the player up, and how
  high a throw goes.
* **`Tuning.spacingBonus`**, **`Tuning.speedMultiplier`**, **`Tuning.spawnChance`** — the three
  curves along which the game gets harder. -/

namespace Platformer

/-- The numbers that balance a run. -/
structure Tuning where
  /-- Downward acceleration. -/
  gravity : Single
  /-- Vertical velocity after a landing on a normal platform; negative is up. -/
  jumpForce : Single
  /-- What a landing on a moving platform multiplies the jump by. -/
  movingJumpMultiplier : Single
  /-- Vertical velocity after a landing on a spring. -/
  springJumpForce : Single
  /-- The greatest horizontal speed that controls ask for. -/
  playerSpeed : Single
  /-- The share of the way to the wanted horizontal speed that a frame covers. -/
  acceleration : Single
  /-- What a frame without controls multiplies the horizontal speed by. -/
  friction : Single
  /-- The least gap between platforms. -/
  spacingMin : Single
  /-- The bound of the random part of a gap. -/
  spacingMax : Single
  /-- The height above which gaps widen. -/
  referenceHeight : Single
  /-- The widening of a gap for each hundred units above that height. -/
  spacingPer100 : Single
  /-- The greatest widening of a gap. -/
  spacingBonusMax : Single
  /-- How far above the viewport platforms are generated. -/
  generationMargin : Single
  /-- How far below the viewport things are dropped. -/
  cullMargin : Single
  /-- The least speed of a new moving platform. -/
  movingSpeedMin : Single
  /-- The greatest speed of a new moving platform before the score counts. -/
  movingSpeedMax : Single
  /-- What each thousand points add to the factor on a new platform's speed. -/
  movingSpeedGrowth : Single
  /-- The greatest speed of a new moving platform. -/
  movingSpeedCap : Single
  /-- What each point adds to the speed multiplier of moving platforms. -/
  speedMultiplierPerPoint : Single
  /-- The greatest speed multiplier. -/
  speedMultiplierCap : Single
  /-- The score below which no monster appears. -/
  spawnScoreMin : Nat
  /-- The score from which monsters appear most often. -/
  spawnScoreMax : Nat
  /-- The chance of a monster in a frame at the least score. -/
  spawnChanceMin : Single
  /-- The chance of a monster in a frame at the greatest score. -/
  spawnChanceMax : Single
  /-- The distance that a new monster keeps from the others. -/
  monsterDistance : Single
  /-- The speed of a monster. -/
  monsterSpeed : Single
  /-- The vertical velocity of a shot. -/
  projectileSpeed : Single
  /-- The frames during which the shooting animation blocks further shots. -/
  shootCooldown : Single
  /-- How far above the viewport shots are dropped. -/
  projectileMargin : Single
  /-- How much higher than the middle of the picture the camera keeps the player. -/
  cameraOffset : Single
  /-- The degrees of tilt that count as level. -/
  tiltDeadzone : Single
  /-- The greatest frame time. -/
  frameTimeMax : Single
deriving DecidableEq, Inhabited

namespace Tuning

/-- The balance of an ordinary run. -/
def standard : Tuning where
  gravity := 0.5
  jumpForce := -12
  movingJumpMultiplier := 1.1
  springJumpForce := -18
  playerSpeed := 5
  acceleration := 0.2
  friction := 0.85
  spacingMin := 80
  spacingMax := 120
  referenceHeight := 1000
  spacingPer100 := 1
  spacingBonusMax := 15
  generationMargin := 200
  cullMargin := 100
  movingSpeedMin := 1
  movingSpeedMax := 2
  movingSpeedGrowth := 0.5
  movingSpeedCap := 4
  speedMultiplierPerPoint := 0.0005
  speedMultiplierCap := 2
  spawnScoreMin := 100
  spawnScoreMax := 1000
  spawnChanceMin := 0.002
  spawnChanceMax := 0.01
  monsterDistance := 150
  monsterSpeed := 1.5
  projectileSpeed := -10
  shootCooldown := 10
  projectileMargin := 50
  cameraOffset := 100
  tiltDeadzone := 5
  frameTimeMax := 100 / nominalFrame

/-! ### Jumps -/

/-- The vertical velocity after a landing on a platform of a kind. -/
def jumpImpulse (t : Tuning) : PlatformKind → Single
  | .spring => t.springJumpForce
  | .moving => t.jumpForce * t.movingJumpMultiplier
  | .normal | .breakable => t.jumpForce

/-- How high a throw with the given vertical velocity goes. -/
def jumpHeight (t : Tuning) (impulse : Single) : Single := impulse * impulse / (2 * t.gravity)

/-! ### Difficulty -/

/-- The widening of a gap at a height above the ground. -/
def spacingBonus (t : Tuning) (height : Single) : Single :=
  ((height - t.referenceHeight).positivePart / 100 * t.spacingPer100).min t.spacingBonusMax

/-- The speed multiplier of moving platforms at a score. -/
def speedMultiplier (t : Tuning) (score : Nat) : Single :=
  (1 + .ofNat score * t.speedMultiplierPerPoint).min t.speedMultiplierCap

/-- The chance of a monster in a frame at a score. It is zero below the least score and then rises
with the score, up to the greatest one. -/
def spawnChance (t : Tuning) (score : Nat) : Single :=
  if score < t.spawnScoreMin then 0
  else
    let span := Nat.max 1 (t.spawnScoreMax - t.spawnScoreMin)
    let progress := (.ofNat (score - t.spawnScoreMin) / .ofNat span : Single).min 1
    t.spawnChanceMin + (t.spawnChanceMax - t.spawnChanceMin) * progress

end Tuning

end Platformer
