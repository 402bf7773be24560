import Platformer.Viewport

/-! # Monsters

* **`Monster`** — a patrolling monster. Touching one ends the run.
* **`Monster.advance`** — its patrol between the edges of the world. -/

namespace Platformer

/-- The width of a monster. -/
def monsterWidth : Single := 40

/-- The height of a monster. -/
def monsterHeight : Single := 30

/-- The number of monsters that the store holds at most. -/
def maxMonsters : Nat := 20

/-- A monster. -/
structure Monster where
  body : Box
  speed : Single
  /-- Minus one for left and one for right. -/
  direction : Single
  active : Bool
deriving DecidableEq, Inhabited

namespace Monster

/-- A live monster of the usual size. -/
def spawn (x y direction speed : Single) : Monster where
  body := ⟨x, y, monsterWidth, monsterHeight⟩
  speed
  direction
  active := true

/-- Moves a live monster for one frame; it turns around at the edges of the world. -/
def advance (m : Monster) (dt : Single) : Monster :=
  if m.active then
    let (x, direction) :=
      turnAtEdges (m.body.left + m.direction * m.speed * dt) m.body.width m.direction
    { m with body := { m.body with left := x }, direction }
  else m

/-- The monster, dead. -/
def kill (m : Monster) : Monster := { m with active := false }

end Monster

end Platformer
