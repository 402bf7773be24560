import Platformer.Controls
import Platformer.Game

/-! # The pilot

Plays the game by itself. While the player rises the pilot lines up under the lowest platform within
reach of the jump; while the player falls it steers onto the closest platform below. It shoots
whatever hovers overhead.

* **`Game.pilotTarget?`** — the platform that the pilot steers to.
* **`Game.pilot`** — its controls for a frame. -/

namespace Platformer

/-- How far to the side a platform may be before the pilot steers. -/
def steerSlack : Single := 4

namespace Game

/-- The active platforms in slot order. -/
def activePlatforms (game : Game) : List Platform := game.platforms.filter (·.active)

/-- The lowest active platform above the player's feet that the jump still reaches; of equally high
ones the one in the last slot. -/
def reachableAbove? (game : Game) : Option Platform :=
  let feet := game.player.body.bottom
  let reach := game.tuning.jumpHeight game.player.velocity.y
  let candidates := game.activePlatforms.filter fun p =>
    p.body.top < feet && feet - p.body.top ≤ reach
  candidates.reverse.maxOn? (·.body.top.totalRank)

/-- The highest active platform that is not above the player's feet; of equally high ones the one
in the first slot. -/
def nearestBelow? (game : Game) : Option Platform :=
  let candidates := game.activePlatforms.filter (game.player.body.bottom ≤ ·.body.top)
  candidates.minOn? (·.body.top.totalRank)

/-- The platform that the pilot steers to. -/
def pilotTarget? (game : Game) : Option Platform :=
  if game.player.velocity.y < 0 then game.reachableAbove?.or game.nearestBelow?
  else game.nearestBelow?

/-- Whether a monster hovers over the middle of the player. -/
def isOverhead (game : Game) (m : Monster) : Bool :=
  let x := game.player.body.centre.x
  m.body.bottom < game.player.body.top && m.body.left < x && x < m.body.right

/-- The controls of the pilot; after the end of a run it asks for another one. -/
def pilot (game : Game) : Controls :=
  if game.running then
    let shoot := game.monsters.any game.isOverhead
    match game.pilotTarget? with
    | some target =>
      let aside := target.body.centre.x - game.player.body.centre.x
      { left := aside < -steerSlack, right := steerSlack < aside, shoot, idle := true }
    | none => { shoot, idle := true }
  else { restart := true, idle := true }

end Game

end Platformer
