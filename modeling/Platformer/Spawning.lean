import Platformer.Monster
import Platformer.Pcg32
import Platformer.Tuning

/-! # Appearance of monsters

A monster appears above the picture with a chance that grows with the score, unless one is already
near the picture or the new one would be too close to another.

* **`Monster.isNearPicture`** — whether a monster belongs to the wave that must pass first.
* **`Monster.random`** — a monster above the picture.
* **`spawnMonster?`** — at most one new monster for a frame. -/

namespace Platformer

/-- Whether a live monster lies within a picture's height of the camera. -/
def Monster.isNearPicture (m : Monster) (camera : Single) : Bool :=
  m.active && camera - viewportHeight ≤ m.body.top && m.body.top ≤ camera + viewportHeight

/-- Whether a live monster is closer to a point than the monsters keep to each other. -/
def Monster.crowds (m : Monster) (centre : Point) (t : Tuning) : Bool :=
  m.active && m.body.centre.distance centre < t.monsterDistance

/-- The number of whole horizontal positions of a new monster. -/
def monsterPositions : Nat := 440

/-- The number of whole heights above the picture at which a monster appears. -/
def monsterLifts : Nat := 320

/-- A monster at a random place just above the picture, walking in a random direction. -/
def Monster.random (camera : Single) (t : Tuning) (g : Pcg32) : Monster × Pcg32 :=
  let (column, g) := g.below monsterPositions
  let (lift, g) := g.below monsterLifts
  let (toRight, g) := g.coin
  let y := camera - monsterHeight - .ofNat lift
  (.spawn (.ofNat column) y (if toRight then 1 else -1) t.monsterSpeed, g)

/-- The new monster of a frame, if one appears. Nothing is drawn from the generator unless the
chance is above zero, the store has room and no monster is near the picture. -/
def spawnMonster? (monsters : List Monster) (camera : Single) (score : Nat) (t : Tuning)
    (g : Pcg32) : Option Monster × Pcg32 :=
  let chance := t.spawnChance score
  if chance ≤ 0 ∨ maxMonsters ≤ monsters.length ∨ monsters.any (·.isNearPicture camera) then
    (none, g)
  else
    let (luck, g) := g.unit
    if chance ≤ luck then (none, g)
    else
      let (new, g) := Monster.random camera t g
      if monsters.any (·.crowds new.body.centre t) then (none, g) else (some new, g)

end Platformer
