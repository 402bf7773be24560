/-! # Sprites

* **`Sprite`** — the things that a picture can show with an image from a sheet. -/

namespace Platformer

/-- The things that can be drawn with an image. -/
inductive Sprite where
  | player
  | playerShooting
  | platformNormal
  | platformMoving
  | platformBreakable
  | platformSpring
  | monster
  | projectile
deriving DecidableEq, Repr

/-- All sprites. -/
def Sprite.all : List Sprite :=
  [.player, .playerShooting, .platformNormal, .platformMoving, .platformBreakable,
    .platformSpring, .monster, .projectile]

/-- Every sprite is listed. -/
theorem Sprite.mem_all (s : Sprite) : s ∈ Sprite.all := by cases s <;> decide

/-- The name of a sprite. -/
def Sprite.name : Sprite → String
  | .player => "Player"
  | .playerShooting => "PlayerShooting"
  | .platformNormal => "PlatformNormal"
  | .platformMoving => "PlatformMoving"
  | .platformBreakable => "PlatformBreakable"
  | .platformSpring => "PlatformSpring"
  | .monster => "Monster"
  | .projectile => "Projectile"

end Platformer
