import Platformer.Controls
import Platformer.Event
import Platformer.Game
import Platformer.Json.Parser
import Platformer.Knob

/-! # Records of the game

How the things of the game are written as JSON records and read back.

* **`PlatformKind.ofJson?`**, **`Event.ofJson?`** — choices, named by their constructors.
* **`Box.ofJson?`**, **`Player.ofJson?`**, **`Platform.ofJson?`**, **`Monster.ofJson?`**,
  **`Projectile.ofJson?`**, **`Controls.ofJson?`**, **`Tuning.ofJson?`** — records. A box is written
  as the pair of its corner and the pair of its size.
* **`Game.toJson`**, **`Game.ofJson?`** — a saved game. What happened in the last frame is not
  saved; a number that is not finite is written as null, which cannot be read.
* **`Game.reload?`** — the game after it is written as a text and read. -/

namespace Platformer

/-! ### Pairs -/

/-- A pair of numbers, written as an array of two. -/
def Json.pair? (x : Json) : Option (Single × Single) := do
  match x with
  | .array [a, b] => return (← a.single?, ← b.single?)
  | _ => none

/-- The value of a pair of numbers. -/
def Json.ofPair (a b : Single) : Json := .array [.ofSingle a, .ofSingle b]

/-- A box from the pair of its corner and the pair of its size. -/
def Box.ofPairs? (corner size : Option Json) : Option Box := do
  let (left, top) ← (← corner).pair?
  let (width, height) ← (← size).pair?
  return ⟨left, top, width, height⟩

/-- The fields of a box. -/
def Box.fields (b : Box) : List (String × Json) :=
  [("pos", .ofPair b.left b.top), ("size", .ofPair b.width b.height)]

/-- Reads a box. -/
def Box.ofJson? (x : Json) : Option Box := do
  match ← x.record? ["pos", "size"] with
  | [pos, size] => Box.ofPairs? pos size
  | _ => none

/-! ### Choices -/

/-- Reads the kind of a platform. -/
def PlatformKind.ofJson? (x : Json) : Option PlatformKind := do
  let name ← x.plainVariant?
  PlatformKind.all.find? (·.name == name)

/-- Reads the kind of a monster, of which there is one. -/
def Monster.isKind (x : Json) : Bool := x.plainVariant? == some "Basic"

/-- Reads a natural of 64 bits from a field. -/
def natField? (x : Option Json) : Option Nat := x.bind (·.nat? UInt64.size)

/-- Reads an event. -/
def Event.ofJson? (x : Json) : Option Event := do
  match ← x.variant? with
  | ("Landed", some fields) =>
    match ← fields.record? ["index", "kind"] with
    | [slot, kind] => return .landed (← natField? slot) (← PlatformKind.ofJson? (← kind))
    | _ => none
  | ("PlatformBroken", some fields) =>
    match ← fields.record? ["index"] with
    | [slot] => return .platformBroken (← natField? slot)
    | _ => none
  | ("GameOver", some fields) =>
    match ← fields.record? ["score"] with
    | [score] => return .gameOver (← natField? score)
    | _ => none
  | _ =>
    match ← x.plainVariant? with
    | "Shot" => return .shotFired
    | "MonsterSpawned" => return .monsterSpawned
    | "MonsterKilled" => return .monsterKilled
    | "Restarted" => return .restarted
    | _ => none

/-! ### Things of the world -/

/-- Reads a player. -/
def Player.ofJson? (x : Json) : Option Player := do
  match ← x.record? ["pos", "vel", "size", "on_ground", "facing", "is_shooting", "shoot_timer"] with
  | [pos, vel, size, onGround, facing, shooting, timer] =>
    let (vx, vy) ← (← vel).pair?
    return {
      body := ← Box.ofPairs? pos size
      velocity := ⟨vx, vy⟩
      onGround := ← (← onGround).bool?
      facing := ← (← facing).single?
      shooting := ← (← shooting).bool?
      timer := ← (← timer).single? }
  | _ => none

/-- The record of a player. -/
def Player.toJson (p : Player) : Json :=
  .ofFields (p.body.fields ++
    [("vel", .ofPair p.velocity.x p.velocity.y), ("on_ground", .bool p.onGround),
      ("facing", .ofSingle p.facing), ("is_shooting", .bool p.shooting),
      ("shoot_timer", .ofSingle p.timer)])

/-- Reads a platform. -/
def Platform.ofJson? (x : Json) : Option Platform := do
  match ← x.record? ["pos", "size", "kind", "active", "move_direction", "move_speed"] with
  | [pos, size, kind, active, direction, speed] =>
    return {
      body := ← Box.ofPairs? pos size
      kind := ← PlatformKind.ofJson? (← kind)
      active := ← (← active).bool?
      direction := ← (← direction).single?
      speed := ← (← speed).single? }
  | _ => none

/-- The record of a platform. -/
def Platform.toJson (p : Platform) : Json :=
  .ofFields (p.body.fields ++
    [("kind", .ofString p.kind.name), ("active", .bool p.active),
      ("move_direction", .ofSingle p.direction), ("move_speed", .ofSingle p.speed)])

/-- Reads a monster. -/
def Monster.ofJson? (x : Json) : Option Monster := do
  match ← x.record? ["pos", "size", "speed", "move_direction", "kind", "active"] with
  | [pos, size, speed, direction, kind, active] =>
    if Monster.isKind (← kind) then
      return {
        body := ← Box.ofPairs? pos size
        speed := ← (← speed).single?
        direction := ← (← direction).single?
        active := ← (← active).bool? }
    else none
  | _ => none

/-- The record of a monster. -/
def Monster.toJson (m : Monster) : Json :=
  .ofFields (m.body.fields ++
    [("speed", .ofSingle m.speed), ("move_direction", .ofSingle m.direction),
      ("kind", .ofString "Basic"), ("active", .bool m.active)])

/-- Reads a projectile. -/
def Projectile.ofJson? (x : Json) : Option Projectile := do
  match ← x.record? ["pos", "size", "vy", "active"] with
  | [pos, size, vy, active] =>
    return {
      body := ← Box.ofPairs? pos size
      velocity := ← (← vy).single?
      active := ← (← active).bool? }
  | _ => none

/-- The record of a projectile. -/
def Projectile.toJson (p : Projectile) : Json :=
  .ofFields (p.body.fields ++ [("vy", .ofSingle p.velocity), ("active", .bool p.active)])

/-! ### Controls and tuning -/

/-- Reads controls; the tilt may be left out. -/
def Controls.ofJson? (x : Json) : Option Controls := do
  match ← x.record? ["left", "right", "shoot", "restart", "tilt_deg", "idle_mode"] with
  | [left, right, shoot, restart, tilt, idle] =>
    return {
      left := ← (← left).bool?
      right := ← (← right).bool?
      shoot := ← (← shoot).bool?
      restart := ← (← restart).bool?
      tilt := ← (tilt.getD .null).option? Json.single?
      idle := ← (← idle).bool? }
  | _ => none

/-- Sets a number of a tuning to the value of its field. -/
def Knob.read? (t : Tuning) : Knob × Option Json → Option Tuning
  | (.real _ _ set, x) => (x.bind Json.single?).map (set t)
  | (.score _ _ set, x) => (natField? x).map (set t)

/-- Reads a tuning, all of whose numbers must be given. -/
def Tuning.ofJson? (x : Json) : Option Tuning := do
  let fields ← x.record? (Tuning.knobs.map Knob.name)
  (Tuning.knobs.zip fields).foldlM Knob.read? Tuning.standard

/-- The value of a number of a tuning. -/
def Knob.value (t : Tuning) : Knob → Json
  | .real _ get _ => .ofSingle (get t)
  | .score _ get _ => .ofNat (get t)

/-- The record of a tuning. -/
def Tuning.toJson (t : Tuning) : Json :=
  .ofFields (Tuning.knobs.map fun k => (k.name, k.value t))

/-! ### Saved games -/

/-- Reads a generator. -/
def Pcg32.ofJson? (x : Json) : Option Pcg32 := do
  match ← x.record? ["state", "increment"] with
  | [state, increment] => return ⟨← (← state).word?, ← (← increment).word?⟩
  | _ => none

/-- The record of a generator. -/
def Pcg32.toJson (g : Pcg32) : Json :=
  .ofFields [("state", .ofNat g.state.toNat), ("increment", .ofNat g.increment.toNat)]

namespace Game

/-- The names of the fields of a saved game. -/
def fieldNames : List String :=
  ["seed", "rng", "tuning", "player", "platforms", "monsters", "projectiles", "camera_y", "score",
    "platforms_landed", "last_landed", "game_running", "last_time_ms", "time_ticks"]

/-- The record of a game. -/
def toJson (game : Game) : Json :=
  .ofFields (fieldNames.zip
    [.ofNat game.seed.toNat, game.generator.toJson, game.tuning.toJson, game.player.toJson,
      .array (game.platforms.map Platform.toJson), .array (game.monsters.map Monster.toJson),
      .array (game.projectiles.map Projectile.toJson), .ofSingle game.camera, .ofNat game.score,
      .ofNat game.landings, .ofOption .ofNat game.lastLanded, .bool game.running,
      .ofOption .ofNat game.lastTime, .ofNat game.ticks])

/-- Reads a game. The number of landings has 32 bits, the other naturals 64. -/
def ofJson? (x : Json) : Option Game := do
  let natural (x : Json) : Option Nat := x.nat? UInt64.size
  match ← x.record? fieldNames with
  | [seed, generator, tuning, player, platforms, monsters, projectiles, camera, score, landings,
      lastLanded, running, lastTime, ticks] =>
    return {
      seed := ← (← seed).word?
      generator := ← Pcg32.ofJson? (← generator)
      tuning := ← Tuning.ofJson? (← tuning)
      player := ← Player.ofJson? (← player)
      platforms := ← (← platforms).list? Platform.ofJson?
      monsters := ← (← monsters).list? Monster.ofJson?
      projectiles := ← (← projectiles).list? Projectile.ofJson?
      camera := ← (← camera).single?
      score := ← natural (← score)
      landings := ← (← landings).nat? UInt32.size
      lastLanded := ← (lastLanded.getD .null).option? natural
      running := ← (← running).bool?
      lastTime := ← (lastTime.getD .null).option? natural
      ticks := ← natural (← ticks)
      events := [] }
  | _ => none

/-- The game after it is saved as a text and read again. -/
def reload? (game : Game) : Option Game := (Json.parse? game.toJson.render).bind ofJson?

end Game

end Platformer
