import Platformer.Box

/-! # Projectiles

* **`Projectile`** — a shot on its way up; **`Projectile.firedFrom`** starts one at a muzzle. -/

namespace Platformer

/-- The width of a projectile. -/
def projectileWidth : Single := 6

/-- The height of a projectile. -/
def projectileHeight : Single := 12

/-- The number of projectiles that the store holds at most. -/
def maxProjectiles : Nat := 10

/-- A projectile; a negative vertical velocity points up. -/
structure Projectile where
  body : Box
  velocity : Single
  active : Bool
deriving DecidableEq, Inhabited

namespace Projectile

/-- A projectile over a muzzle: it is centred on the muzzle and ends there. -/
def firedFrom (muzzle : Point) (velocity : Single) : Projectile where
  body := ⟨muzzle.x - projectileWidth / 2, muzzle.y - projectileHeight, projectileWidth,
    projectileHeight⟩
  velocity
  active := true

/-- Moves a projectile for one frame. -/
def advance (p : Projectile) (dt : Single) : Projectile :=
  { p with body := { p.body with top := p.body.top + p.velocity * dt } }

/-- The projectile, spent. -/
def spend (p : Projectile) : Projectile := { p with active := false }

end Projectile

end Platformer
