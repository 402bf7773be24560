import Platformer.Viewport

/-! # Platforms

* **`PlatformKind`** — what a platform does when it is landed on; **`PlatformKind.ofRoll`** reads a
  kind off a roll of a hundred.
* **`Platform`** — a slot of the platform store: a platform, or the remains of one when inactive.
* **`Platform.still`**, **`Platform.moving`**, **`Platform.anchor`** — new platforms.
* **`Platform.advance`** — the sliding of a moving platform. -/

namespace Platformer

/-- The kinds of platforms. -/
inductive PlatformKind where
  /-- Bounces the player. -/
  | normal
  /-- Slides from side to side. -/
  | moving
  /-- Breaks under the first landing. -/
  | breakable
  /-- Throws the player higher than the others. -/
  | spring
deriving DecidableEq, Repr, Inhabited

/-- All kinds. -/
def PlatformKind.all : List PlatformKind := [.normal, .moving, .breakable, .spring]

/-- The kind of a roll from 0 to 99: 85 rolls are normal, five each are moving and breakable, and
the rest are springs. -/
def PlatformKind.ofRoll (roll : Nat) : PlatformKind :=
  if roll < 85 then .normal
  else if roll < 90 then .moving
  else if roll < 95 then .breakable
  else .spring

/-- The name of a kind. -/
def PlatformKind.name : PlatformKind → String
  | .normal => "Normal"
  | .moving => "Moving"
  | .breakable => "Breakable"
  | .spring => "Spring"

/-- The width of a platform. -/
def platformWidth : Single := 80

/-- The height of a platform. -/
def platformHeight : Single := 15

/-- The number of slots that the platform store grows to. -/
def maxPlatforms : Nat := 100

/-- How far the first platform lies above the bottom of the first picture. -/
def anchorOffset : Single := 50

/-- A slot of the platform store. An inactive slot is free for a new platform. -/
structure Platform where
  body : Box
  kind : PlatformKind
  active : Bool
  /-- Minus one for left and one for right; zero when it stands still. -/
  direction : Single
  speed : Single
deriving DecidableEq, Inhabited

namespace Platform

/-- A platform that stands still. -/
def still (x y : Single) (kind : PlatformKind) : Platform where
  body := ⟨x, y, platformWidth, platformHeight⟩
  kind
  active := true
  direction := 0
  speed := 0

/-- A platform that slides. -/
def moving (x y direction speed : Single) : Platform :=
  { still x y .moving with direction, speed }

/-- The normal platform that a run starts over. -/
def anchor : Platform :=
  still (viewportWidth / 2 - platformWidth / 2) (viewportHeight - anchorOffset) .normal

/-- Slides a moving platform for one frame; it turns around at the edges of the world. -/
def advance (p : Platform) (dt multiplier : Single) : Platform :=
  if p.active && p.kind == .moving then
    let (x, direction) :=
      turnAtEdges (p.body.left + p.direction * p.speed * multiplier * dt) p.body.width p.direction
    { p with body := { p.body with left := x }, direction }
  else p

/-- The slot without its platform, free for reuse. -/
def free (p : Platform) : Platform := { p with active := false }

end Platform

end Platformer
