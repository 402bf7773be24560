import Platformer.Viewport

/-! # The player

* **`Player`** — the jumping character; **`Player.spawn`** puts it over the first platform.
* **`Player.integrate`** — gravity and motion for one frame.
* **`Player.coolDown`** — the countdown of the shooting animation, during which no shot is fired. -/

namespace Platformer

/-- The width of the player. -/
def playerWidth : Single := 20

/-- The height of the player. -/
def playerHeight : Single := 20

/-- How far the top of a new player lies above the bottom of the first picture. -/
def spawnOffset : Single := 100

/-- The jumping character. -/
structure Player where
  body : Box
  velocity : Point
  /-- Whether the player landed in the last frame. -/
  onGround : Bool
  /-- Minus one when looking left and one when looking right. -/
  facing : Single
  /-- Whether the shooting animation runs, which blocks further shots. -/
  shooting : Bool
  /-- The frames left of the shooting animation. -/
  timer : Single
deriving DecidableEq, Inhabited

namespace Player

/-- A new player, at rest over the first platform. -/
def spawn : Player where
  body := ⟨viewportWidth / 2 - playerWidth / 2, viewportHeight - spawnOffset, playerWidth,
    playerHeight⟩
  velocity := ⟨0, 0⟩
  onGround := false
  facing := 1
  shooting := false
  timer := 0

/-- Where shots leave the player: the middle of the top edge. -/
def muzzle (p : Player) : Point := ⟨p.body.left + p.body.width / 2, p.body.top⟩

/-- Counts the shooting animation down by a frame time; it ends when the countdown reaches zero. -/
def coolDown (p : Player) (dt : Single) : Player :=
  if p.shooting then
    let timer := p.timer - dt
    if timer ≤ 0 then { p with timer := 0, shooting := false } else { p with timer }
  else p

/-- Moves the player for one frame: gravity first, then the motion with the new velocity, then the
passage through the side edges. -/
def integrate (p : Player) (gravity dt : Single) : Player :=
  let velocity : Point := { p.velocity with y := p.velocity.y + gravity * dt }
  let x := p.body.left + velocity.x * dt
  let y := p.body.top + velocity.y * dt
  { p with velocity, body := { p.body with left := wrapX x p.body.width, top := y } }

end Player

end Platformer
