import Platformer.Tuning

/-! # The numbers of a tuning by name

* **`Knob`** — a number of a tuning that can be read and set by its name.
* **`Tuning.knobs`** — all of them, in the order in which they are written. -/

namespace Platformer

/-- A named number of a tuning. -/
inductive Knob where
  | real (name : String) (get : Tuning → Single) (set : Tuning → Single → Tuning)
  /-- A score of 64 bits. -/
  | score (name : String) (get : Tuning → Nat) (set : Tuning → Nat → Tuning)

/-- The name of a number. -/
def Knob.name : Knob → String
  | .real name .. => name
  | .score name .. => name

/-- The numbers of a tuning. -/
def Tuning.knobs : List Knob :=
  [.real "gravity" (·.gravity) fun t x => { t with gravity := x },
    .real "jump_force" (·.jumpForce) fun t x => { t with jumpForce := x },
    .real "moving_jump_multiplier" (·.movingJumpMultiplier)
      fun t x => { t with movingJumpMultiplier := x },
    .real "spring_jump_force" (·.springJumpForce) fun t x => { t with springJumpForce := x },
    .real "player_speed" (·.playerSpeed) fun t x => { t with playerSpeed := x },
    .real "acceleration" (·.acceleration) fun t x => { t with acceleration := x },
    .real "friction" (·.friction) fun t x => { t with friction := x },
    .real "platform_spacing_min" (·.spacingMin) fun t x => { t with spacingMin := x },
    .real "platform_spacing_max" (·.spacingMax) fun t x => { t with spacingMax := x },
    .real "difficulty_reference_height" (·.referenceHeight)
      fun t x => { t with referenceHeight := x },
    .real "difficulty_spacing_per_100" (·.spacingPer100) fun t x => { t with spacingPer100 := x },
    .real "difficulty_max_bonus" (·.spacingBonusMax) fun t x => { t with spacingBonusMax := x },
    .real "generation_margin" (·.generationMargin) fun t x => { t with generationMargin := x },
    .real "cull_margin" (·.cullMargin) fun t x => { t with cullMargin := x },
    .real "moving_speed_min" (·.movingSpeedMin) fun t x => { t with movingSpeedMin := x },
    .real "moving_speed_max" (·.movingSpeedMax) fun t x => { t with movingSpeedMax := x },
    .real "moving_speed_growth_per_1000" (·.movingSpeedGrowth)
      fun t x => { t with movingSpeedGrowth := x },
    .real "moving_speed_cap" (·.movingSpeedCap) fun t x => { t with movingSpeedCap := x },
    .real "moving_score_multiplier_per_point" (·.speedMultiplierPerPoint)
      fun t x => { t with speedMultiplierPerPoint := x },
    .real "moving_score_multiplier_cap" (·.speedMultiplierCap)
      fun t x => { t with speedMultiplierCap := x },
    .score "monster_spawn_min_score" (·.spawnScoreMin) fun t n => { t with spawnScoreMin := n },
    .score "monster_spawn_max_score" (·.spawnScoreMax) fun t n => { t with spawnScoreMax := n },
    .real "monster_spawn_chance_min" (·.spawnChanceMin) fun t x => { t with spawnChanceMin := x },
    .real "monster_spawn_chance_max" (·.spawnChanceMax) fun t x => { t with spawnChanceMax := x },
    .real "monster_min_distance" (·.monsterDistance) fun t x => { t with monsterDistance := x },
    .real "monster_speed" (·.monsterSpeed) fun t x => { t with monsterSpeed := x },
    .real "projectile_speed" (·.projectileSpeed) fun t x => { t with projectileSpeed := x },
    .real "shoot_cooldown" (·.shootCooldown) fun t x => { t with shootCooldown := x },
    .real "projectile_margin" (·.projectileMargin) fun t x => { t with projectileMargin := x },
    .real "camera_offset" (·.cameraOffset) fun t x => { t with cameraOffset := x },
    .real "tilt_deadzone_deg" (·.tiltDeadzone) fun t x => { t with tiltDeadzone := x },
    .real "max_frame_dt" (·.frameTimeMax) fun t x => { t with frameTimeMax := x }]

end Platformer
