import Platformer.Player
import Platformer.Tuning

/-! # Controls

What is held down in a frame, and how it steers the player.

* **`Controls`** — the keys and the tilt of one frame.
* **`Controls.targetVelocity`** — the horizontal velocity they ask for.
* **`tiltVelocity`** — the velocity that a tilt angle asks for.
* **`Player.steer`** — the easing of the player toward a wanted velocity. -/

namespace Platformer

/-- The controls of one frame. -/
structure Controls where
  left : Bool := false
  right : Bool := false
  shoot : Bool := false
  /-- Heeded only after the end of a run. -/
  restart : Bool := false
  /-- The tilt of the device in degrees. -/
  tilt : Option Single := none
  /-- Whether the pilot plays instead. -/
  idle : Bool := false
deriving DecidableEq, Inhabited

/-! ### Tilt -/

/-- The width in degrees of the angles on each side that steer. -/
def tiltWindow : Single := 45

/-- The share of full speed at a deflection: nothing within the dead zone, then rising evenly to
one at the end of the window. -/
def tiltRamp (deadzone deflection : Single) : Single :=
  if deflection ≤ deadzone then 0
  else ((deflection - deadzone) / (tiltWindow - deadzone)).min 1

/-- The velocity of a tilt angle. A tilt to the right within 45 degrees of level steers right, one
to the left steers left, and a device held upside down steers left, most at half a turn. -/
def tiltVelocity (angle speed deadzone : Single) : Single :=
  let angle := angle.modulo 360
  if angle ≤ tiltWindow then speed * tiltRamp deadzone angle
  else if 360 - tiltWindow ≤ angle then -speed * tiltRamp deadzone (360 - angle)
  else if 180 - tiltWindow ≤ angle ∧ angle ≤ 180 + tiltWindow then
    -speed * tiltRamp deadzone (tiltWindow - (angle - 180).abs)
  else 0

/-! ### Steering -/

/-- The horizontal velocity that controls ask for: keys win over tilt, and right over left. -/
def Controls.targetVelocity (c : Controls) (t : Tuning) : Single :=
  if c.right then t.playerSpeed
  else if c.left then -t.playerSpeed
  else match c.tilt with
    | some angle => tiltVelocity angle t.playerSpeed t.tiltDeadzone
    | none => 0

/-- Eases the horizontal velocity toward a wanted one, which the player then faces; without a
wanted velocity friction slows the player down. -/
def Player.steer (p : Player) (target : Single) (t : Tuning) (dt : Single) : Player :=
  let vx := p.velocity.x
  if target.isZero then { p with velocity := { p.velocity with x := vx * t.friction } }
  else
    let blend := (t.acceleration * dt).min 1
    { p with
      velocity := { p.velocity with x := vx + (target - vx) * blend }
      facing := target.sign }

end Platformer
