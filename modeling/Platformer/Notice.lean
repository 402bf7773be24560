import Platformer.Platform
import Platformer.Single.Text
import Platformer.Sprite

/-! # Notices

The game reports what it does as data; this file holds the reports, their importance and their
wording.

* **`Level`** — how important a notice is, from errors down to traces.
* **`Notice`** — the notices; **`Notice.level`** and **`Notice.text`**.
* **`Notice.atLeast`** — the notices that a log of a given level keeps. -/

namespace Platformer

/-- How important a notice is. -/
inductive Level where
  | error
  | warn
  | info
  | debug
  | trace
deriving DecidableEq, Repr

namespace Level

/-- All levels, the most important first. -/
def all : List Level := [.error, .warn, .info, .debug, .trace]

/-- The name of a level. -/
def name : Level → String
  | .error => "ERROR"
  | .warn => "WARN"
  | .info => "INFO"
  | .debug => "DEBUG"
  | .trace => "TRACE"

/-- The place of a level, the most important first. -/
def place : Level → Nat
  | .error => 0
  | .warn => 1
  | .info => 2
  | .debug => 3
  | .trace => 4

/-- The level of a name in either case. -/
def ofName? (name : String) : Option Level := all.find? (·.name == name.toUpper)

end Level

/-- What the game reports. -/
inductive Notice where
  /-- A game was made. -/
  | newRun (seed : UInt64) (platforms : Nat)
  | runRestarted (platforms : Nat)
  | gameOver (score landings : Nat)
  /-- No slot was left for the platform at a height. -/
  | storeFull (height : Single)
  | monsterSpawned (x y : Single) (score : Nat)
  | landed (kind : PlatformKind) (slot : Nat) (counted : Bool)
  /-- A sprite sheet has no rows or no columns. -/
  | emptySheet
  | cellOutside (sprite : Sprite) (column row : Nat)
  /-- A headless session begins. -/
  | starting
  | headless (seed : UInt64) (frames : Nat)
  | gameFinished (game frame score : Nat)
  | progress (frame score drawn skipped platforms : Nat)
  | finalRun (ticks : Nat)
  | finished (games best average : Nat)
deriving DecidableEq

namespace Notice

/-- The importance of a notice. -/
def level : Notice → Level
  | .newRun .. | .runRestarted .. | .gameOver .. | .starting | .headless .. | .gameFinished ..
  | .finalRun .. | .finished .. => .info
  | .storeFull .. | .monsterSpawned .. | .progress .. => .debug
  | .landed .. => .trace
  | .emptySheet | .cellOutside .. => .warn

/-- The wording of a notice. -/
def text : Notice → String
  | .newRun seed platforms => s!"New run (seed {seed}): {platforms} platforms"
  | .runRestarted platforms => s!"Run restarted: {platforms} platforms"
  | .gameOver score landings => s!"Game over: score {score}, {landings} platforms landed"
  | .storeFull height =>
    s!"Platform store full at y={height.wholeText}, deferring generation"
  | .monsterSpawned x y score =>
    s!"Monster spawned at ({x.wholeText}, {y.wholeText}), score {score}"
  | .landed kind slot counted =>
    s!"Landed on {kind.name} platform {slot} (counted: {counted})"
  | .emptySheet => "Sprite sheet grid is empty - using flat colors"
  | .cellOutside sprite column row =>
    s!"Sprite {sprite.name} cell ({column}, {row}) is outside the sheet"
  | .starting => "Doodle Jump (native) starting..."
  | .headless seed frames => s!"Headless autopilot run: seed {seed}, {frames} frames"
  | .gameFinished game frame score => s!"Game {game} over at frame {frame} with score {score}"
  | .progress frame score drawn skipped platforms =>
    s!"Frame {frame}: score {score}, {drawn} drawn, {skipped} culled, {platforms} platforms"
  | .finalRun ticks => s!"Final run lasted {ticks} ticks"
  | .finished games best average =>
    s!"Finished: {games} game(s), best score {best}, avg {average} vertices/frame"

/-- The notices that are at least as important as a level, in order. -/
def atLeast (level : Level) (notices : List Notice) : List Notice :=
  notices.filter (·.level.place ≤ level.place)

end Notice

end Platformer
