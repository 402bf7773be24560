import Platformer.Contact
import Platformer.Event
import Platformer.Generation
import Platformer.Notice
import Platformer.Spawning

/-! # The game

The whole world in one value, and the ways to make one and to change it outside of a frame.

* **`Game`** — the world.
* **`Game.start`**, **`Game.restart`** — a first run, and a run after another one, which goes on
  with the same generator so that its platforms differ; **`Game.startWith`** starts from any
  generator.
* **`Game.advanceClock`** — the frame time of a new time stamp.
* **`Game.addMonster?`**, **`Game.addProjectile?`**, **`Game.compact`** — the two stores that hold
  only what is live between frames.
* **`Game.followPlayer`**, **`Game.updateScore`**, **`Game.hasFallen`** — the camera, which only
  climbs, and what is read off it. -/

namespace Platformer

/-- The whole world. -/
structure Game where
  seed : UInt64
  generator : Pcg32
  tuning : Tuning
  player : Player
  /-- The slots of the platforms. -/
  platforms : List Platform
  monsters : List Monster
  projectiles : List Projectile
  /-- The top of the picture in the world. -/
  camera : Single
  score : Nat
  /-- The number of landings in this run that were not on the slot of the landing before. -/
  landings : Nat
  lastLanded : Option Nat
  running : Bool
  /-- The time stamp of the last frame in milliseconds. -/
  lastTime : Option Nat
  /-- The number of frames of this run. -/
  ticks : Nat
  /-- What happened in the last frame. -/
  events : List Event
deriving DecidableEq

/-- What is reported about a generation: that it found no slot. -/
def Filling.notices (f : Filling) : List Notice := if f.isFull then [.storeFull f.cursor] else []

/-- What is reported about a new monster. -/
def Monster.notice (m : Monster) (score : Nat) : Notice :=
  .monsterSpawned m.body.left m.body.top score

namespace Game

/-! ### Runs -/

/-- A game with a fresh run drawn from a generator, and what is reported about it. -/
def startWith (seed : UInt64) (tuning : Tuning) (generator : Pcg32) :
    Except Fault (Game × List Notice) := do
  let layout ← layOut tuning generator
  let game : Game :=
    { seed
      generator := layout.generator
      tuning
      player := .spawn
      platforms := layout.platforms
      monsters := []
      projectiles := []
      camera := 0
      score := 0
      landings := 0
      lastLanded := none
      running := true
      lastTime := none
      ticks := 0
      events := [] }
  return (game, layout.notices ++ [.newRun seed (activeCount layout.platforms)])

/-- The game of a seed, which its generator grows from. -/
def start (seed : UInt64) (tuning : Tuning := .standard) : Except Fault (Game × List Notice) :=
  startWith seed tuning (.ofSeed seed)

/-- The game with a fresh run under the same tuning, drawn from its own generator. -/
def restart (game : Game) : Except Fault (Game × List Notice) := do
  let layout ← layOut game.tuning game.generator
  let game :=
    { game with
      generator := layout.generator
      player := .spawn
      platforms := layout.platforms
      monsters := []
      projectiles := []
      camera := 0
      score := 0
      landings := 0
      lastLanded := none
      running := true
      ticks := 0
      events := game.events ++ [.restarted] }
  return (game, layout.notices ++ [.runRestarted (activeCount layout.platforms)])

/-! ### The clock -/

/-- A frame time kept between zero and an upper bound; a bound that is negative or not a number is a
fault. -/
def clampTime (time upper : Single) : Except Fault Single :=
  match time.clamp? upper with
  | some time => .ok time
  | none => .error (.clampBound upper)

/-- The frame time of an elapsed time in milliseconds, kept within an upper bound. -/
def frameTime (elapsed upper : Single) : Except Fault Single :=
  clampTime (elapsed / nominalFrame) upper

/-- The frame time since the last time stamp; a first stamp counts as one nominal frame, and a clock
that goes back counts as standing still. -/
def advanceClock (game : Game) (now : Nat) : Except Fault (Single × Game) := do
  let elapsed : Single := match game.lastTime with
    | some last => .ofNat (now - last)
    | none => nominalFrame
  let dt ← frameTime elapsed game.tuning.frameTimeMax
  return (dt, { game with lastTime := some now })

/-! ### Stores -/

/-- The game with a further monster, if there is room. -/
def addMonster? (game : Game) (m : Monster) : Option Game :=
  if game.monsters.length < maxMonsters then
    some { game with monsters := game.monsters ++ [m] }
  else none

/-- The game with a further projectile, if there is room. -/
def addProjectile? (game : Game) (p : Projectile) : Option Game :=
  if game.projectiles.length < maxProjectiles then
    some { game with projectiles := game.projectiles ++ [p] }
  else none

/-- The game without dead monsters and spent projectiles. -/
def compact (game : Game) : Game :=
  { game with
    monsters := game.monsters.filter (·.active)
    projectiles := game.projectiles.filter (·.active) }

/-! ### Camera and score -/

/-- The lower edge of the picture. -/
def viewportBottom (game : Game) : Single := game.camera + viewportHeight

/-- Moves the camera up to the player; it never moves down. -/
def followPlayer (game : Game) : Game :=
  let target := game.player.body.top - viewportHeight / 2 + game.tuning.cameraOffset
  if target < game.camera then { game with camera := target } else game

/-- The score of a camera: the whole tens of units that it has climbed. -/
def climbed (camera : Single) : Nat := (-camera / 10).floor.toNat (UInt64.size - 1)

/-- Raises the score to what the camera has climbed; it never falls. -/
def updateScore (game : Game) : Game :=
  { game with score := Nat.max game.score (climbed game.camera) }

/-- Whether the player has left the picture through its lower edge. -/
def hasFallen (game : Game) : Bool := game.viewportBottom ≤ game.player.body.top

end Game

end Platformer
