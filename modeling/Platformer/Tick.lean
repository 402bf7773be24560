import Platformer.Pilot

/-! # One frame

A frame runs through fixed stages: controls and the player's motion, then the platforms, shots and
monsters of the world, then contact, then camera and score, and at last the end of the run.

* **`Game.shoot?`** — fires a shot, if the player is free to.
* **`Game.act`** — what the controls and gravity do to the player.
* **`Game.scroll`** — moves, drops and makes platforms, and lets a monster appear.
* **`Game.moveProjectiles`**, **`Game.moveMonsters`** — the flight of shots and the patrols.
* **`Landing`**, **`Game.land`**, **`Game.hitMonsters`** — the contacts that change the world.
* **`Game.settle`** — the camera, the score and the end of the run.
* **`Game.tick`** — a whole frame. -/

namespace Platformer

/-- A landing: the slot, the kind of its platform, and whether the landing before was on another
slot, which is when it counts. -/
structure Landing where
  slot : Nat
  kind : PlatformKind
  counted : Bool
deriving DecidableEq

/-- The notice of a landing. -/
def Landing.notice (l : Landing) : Notice := .landed l.kind l.slot l.counted

namespace Game

/-- The game with a further event. -/
def emit (game : Game) (e : Event) : Game := { game with events := game.events ++ [e] }

/-! ### The player acts -/

/-- Fires a shot, unless the shooting animation runs or there is no room for the shot. -/
def shoot? (game : Game) : Option Game :=
  if game.player.shooting then none
  else
    let shot := Projectile.firedFrom game.player.muzzle game.tuning.projectileSpeed
    (game.addProjectile? shot).map fun game =>
      let player := { game.player with shooting := true, timer := game.tuning.shootCooldown }
      { game with player }.emit .shotFired

/-- Lets the controls steer the player and fire, and then moves the player. -/
def act (game : Game) (c : Controls) (dt : Single) : Game :=
  let target := c.targetVelocity game.tuning
  let game := { game with player := (game.player.steer target game.tuning dt).coolDown dt }
  let game := if c.shoot then game.shoot?.getD game else game
  { game with player := game.player.integrate game.tuning.gravity dt }

/-! ### The world moves -/

/-- Moves the platforms, drops those below the picture, makes new ones above it and lets a monster
appear. -/
def scroll (game : Game) (dt : Single) : Except Fault (Game × List Notice) := do
  let t := game.tuning
  let moved := game.platforms.map (·.advance dt (t.speedMultiplier game.score))
  let filling ← fill (cull moved (cullLimit game.camera t)) game.camera game.score t game.generator
  let (spawned, generator) :=
    spawnMonster? game.monsters game.camera game.score t filling.generator
  let game := { game with platforms := filling.platforms, generator }
  match spawned with
  | none => return (game, filling.notices)
  | some m =>
    let game := { game with monsters := game.monsters ++ [m] }
    return (game.emit .monsterSpawned, filling.notices ++ [m.notice game.score])

/-- Moves the shots and drops those that have left the picture upward. -/
def moveProjectiles (game : Game) (dt : Single) : Game :=
  let ceiling := game.camera - game.tuning.projectileMargin
  { game with
    projectiles := ((game.projectiles.filter (·.active)).map (·.advance dt)).filter
      fun p => !decide (p.body.top < ceiling) }

/-- Moves the monsters and drops those that have left the picture downward. -/
def moveMonsters (game : Game) (dt : Single) : Game :=
  let floor := cullLimit game.camera game.tuning
  { game with
    monsters := ((game.monsters.filter (·.active)).map (·.advance dt)).filter
      fun m => !decide (floor < m.body.top) }

/-! ### Contact -/

/-- The player on top of a platform, thrown up by it. -/
def bounce (game : Game) (p : Platform) : Player :=
  let player := game.player
  { player with
    body := { player.body with top := p.body.top - player.body.height }
    velocity := { player.velocity with y := game.tuning.jumpImpulse p.kind }
    onGround := true }

/-- Lands the player on the first platform that it meets, which breaks if it is breakable. -/
def land (game : Game) : Option Landing × Game :=
  let game := { game with player := { game.player with onGround := false } }
  match firstLanding? game.player game.platforms with
  | none => (none, game)
  | some (p, slot) =>
    let game := { game with player := game.bounce p }
    let game :=
      if p.kind = .breakable then
        { game with platforms := game.platforms.set slot p.free }.emit (.platformBroken slot)
      else game
    let counted := game.lastLanded ≠ some slot
    let game :=
      if counted then { game with landings := game.landings + 1, lastLanded := some slot }
      else game
    (some ⟨slot, p.kind, counted⟩, game.emit (.landed slot p.kind))

/-- Lets the shots hit monsters, with the number of kills; the dead stay in their places. -/
def hitMonsters (game : Game) : Nat × Game :=
  let volley := strike game.projectiles game.monsters
  (volley.kills, { game with projectiles := volley.projectiles, monsters := volley.monsters })

/-! ### The end of the frame -/

/-- Ends the run. -/
def finish (game : Game) : Game := { game with running := false }.emit (.gameOver game.score)

/-- Moves the camera, counts the score, and ends the run if the player was caught or has fallen out
of the picture. -/
def settle (game : Game) (caught : Bool) : Game × List Notice :=
  let game := game.followPlayer.updateScore
  if caught || game.hasFallen then (game.finish, [.gameOver game.score game.landings])
  else (game, [])

/-- A frame of a running game. -/
def step (game : Game) (c : Controls) (dt : Single) : Except Fault (Game × List Notice) := do
  let dt ← clampTime dt game.tuning.frameTimeMax
  let game := { game with ticks := game.ticks + 1 }
  let (game, scrolled) ← (game.act c dt).scroll dt
  let (landing, game) := ((game.moveProjectiles dt).moveMonsters dt).land
  let (kills, game) := game.hitMonsters
  let game := { game with events := game.events ++ List.replicate kills Event.monsterKilled }.compact
  let (game, ended) := game.settle (game.player.isCaught game.monsters)
  return (game, scrolled ++ (landing.map Landing.notice).toList ++ ended)

/-- A frame. The pilot takes the controls when they are idle. After the end of a run nothing moves
until the controls ask for another one. -/
def tick (game : Game) (c : Controls) (dt : Single) : Except Fault (Game × List Notice) :=
  let game := { game with events := [] }
  let c := if c.idle then game.pilot else c
  if game.running then game.step c dt
  else if c.restart then game.restart
  else .ok (game, [])

end Game

end Platformer
