import Platformer.Proofs.Contact
import Platformer.Proofs.Generation
import Platformer.Tick

/-! # The stages of a frame

A frame is a chain of stages, and each of them leaves most of the game alone. This file takes a frame
apart once: what each stage may change, and how the outcome of a frame is put together.

* **`Game.shoot?_eq_some`**, **`Game.player_shoot?`**, **`Game.act_eq`** — the player's stage.
* **`Game.refill`**, **`Game.scroll_eq_ok`** — the stage of the platforms and the new monster.
* **`Game.collide`**, **`Game.collide_eq`** — the motion of shots and monsters, all contacts, and the
  removal of the dead.
* **`Game.conclude`**, **`Game.conclude_eq`** — the camera, the score and the end of the run.
* **`Game.step_eq_ok`** — a whole frame as these stages.
* **`Game.Setup`**, **`Game.step_eq_setUp`** — a whole frame as what it sets up before anything meets,
  and what comes of it; **`Game.moved`** is the player in between, and **`Game.moved_eq`** how it got
  there.
* **`Game.SameView`**, **`Game.sameView_of_scroll`** — what stays until the end of a frame. -/

namespace Platformer

namespace Game

/-! ### The player's stage -/

/-- A shot that a game has room for leaves the muzzle of its player. -/
def Fires (game : Game) (shot : Option Projectile) : Prop :=
  ∀ p ∈ shot, p = .firedFrom game.player.muzzle game.tuning.projectileSpeed ∧
    game.projectiles.length < maxProjectiles

/-- **A shot** adds one projectile to a store with room for it, and starts the animation. -/
theorem shoot?_eq_some {game next : Game} (h : game.shoot? = some next) :
    ∃ shot timer, game.Fires (some shot) ∧
      next = { game with
        player := { game.player with shooting := true, timer }
        projectiles := game.projectiles ++ [shot]
        events := game.events ++ [.shotFired] } := by
  simp only [shoot?, addProjectile?] at h
  by_cases hshooting : game.player.shooting = true
  · rw [if_pos hshooting] at h
    cases h
  · rw [if_neg hshooting] at h
    by_cases hroom : game.projectiles.length < maxProjectiles
    · rw [if_pos hroom] at h
      cases h
      refine ⟨_, _, ?_, rfl⟩
      rintro shot ⟨⟩
      exact ⟨rfl, hroom⟩
    · rw [if_neg hroom] at h
      cases h

/-- A shot leaves of the player all but the animation, which starts with its full time. -/
theorem player_shoot? {game next : Game} (h : game.shoot? = some next) :
    next.player =
      { game.player with shooting := true, timer := game.tuning.shootCooldown } := by
  simp only [shoot?] at h
  split at h
  · cases h
  · obtain ⟨armed, harmed, rfl⟩ := Option.map_eq_some_iff.mp h
    simp only [addProjectile?] at harmed
    split at harmed
    · cases harmed
      rfl
    · cases harmed

/-- Steering and the countdown of the animation leave the player in place. -/
theorem body_coolDown_steer (player : Player) (target : Single) (t : Tuning) (dt : Single) :
    ((player.steer target t dt).coolDown dt).body = player.body := by
  have hsteer : (player.steer target t dt).body = player.body := by
    simp only [Player.steer]
    split <;> rfl
  rw [← hsteer]
  simp only [Player.coolDown]
  split
  · split <;> rfl
  · rfl

/-- **The player's stage** changes the player and fires at most one shot, which is reported. -/
theorem act_eq (game : Game) (c : Controls) (dt : Single) :
    ∃ player shot, game.Fires shot ∧
      game.act c dt = { game with
        player
        projectiles := game.projectiles ++ shot.toList
        events := game.events ++ (shot.map fun _ => Event.shotFired).toList } := by
  have hquiet : game.Fires none := fun p hp => nomatch hp
  simp only [act]
  split
  · cases hshot : shoot? { game with
        player := (game.player.steer (c.targetVelocity game.tuning) game.tuning dt).coolDown dt } with
    | none => exact ⟨_, none, hquiet, by simp; rfl⟩
    | some next =>
      obtain ⟨shot, timer, hfires, rfl⟩ := shoot?_eq_some hshot
      refine ⟨_, some shot, ?_, rfl⟩
      -- the muzzle is where it was, since the player has not moved yet
      intro p hp
      have hfired := hfires p hp
      simp only [Player.muzzle, body_coolDown_steer] at hfired
      exact hfired
  · exact ⟨_, none, hquiet, by simp; rfl⟩

/-! ### The world's stage -/

/-- The slots of a frame before platforms are made: those that are there have moved, and those below
the picture have left their slots. -/
def cleared (game : Game) (dt : Single) : List Platform :=
  cull (game.platforms.map (·.advance dt (game.tuning.speedMultiplier game.score)))
    (cullLimit game.camera game.tuning)

/-- Moving and dropping platforms keeps every slot in its place. -/
@[simp] theorem length_cleared (game : Game) (dt : Single) :
    (game.cleared dt).length = game.platforms.length := by
  rw [cleared, length_cull, List.length_map]

/-- The platforms that a frame makes. -/
def refill (game : Game) (dt : Single) : Except Fault Filling :=
  fill (game.cleared dt) game.camera game.score game.tuning game.generator

/-- **The platforms move, are dropped and made, and at most one monster appears**, which is
reported. -/
theorem scroll_eq_ok {game next : Game} {dt : Single} {notices : List Notice}
    (h : game.scroll dt = .ok (next, notices)) :
    ∃ filling spawned generator, game.refill dt = .ok filling ∧
      spawnMonster? game.monsters game.camera game.score game.tuning filling.generator =
        (spawned, generator) ∧
      next = { game with
        platforms := filling.platforms
        generator
        monsters := game.monsters ++ spawned.toList
        events := game.events ++ (spawned.map fun _ => Event.monsterSpawned).toList } := by
  obtain ⟨filling, hfill, hrest⟩ := bind_eq_ok h
  cases hspawn : spawnMonster? game.monsters game.camera game.score game.tuning
      filling.generator with
  | mk spawned generator =>
    simp only [hspawn] at hrest
    cases spawned with
    | none =>
      cases hrest
      exact ⟨filling, none, generator, hfill, hspawn, by simp⟩
    | some m =>
      cases hrest
      exact ⟨filling, some m, generator, hfill, hspawn, rfl⟩

/-! ### Contacts -/

/-- Without a platform to land on, only the player's contact with the ground ends. -/
theorem land_of_none {game : Game}
    (h : firstLanding? { game.player with onGround := false } game.platforms = none) :
    game.land = (none, { game with player := { game.player with onGround := false } }) := by
  simp only [land, h]

/-- **A landing** throws the player up from the platform, breaks it if it is breakable, and counts
unless the landing before was on the same slot. -/
theorem land_of_some {game : Game} {p : Platform} {slot : Nat}
    (h : firstLanding? { game.player with onGround := false } game.platforms = some (p, slot)) :
    game.land = (some ⟨slot, p.kind, game.lastLanded ≠ some slot⟩, { game with
      player := game.bounce p
      platforms := if p.kind = .breakable then game.platforms.set slot p.free else game.platforms
      landings := if game.lastLanded ≠ some slot then game.landings + 1 else game.landings
      lastLanded := some slot
      events := game.events ++ (if p.kind = .breakable then [.platformBroken slot] else []) ++
        [.landed slot p.kind] }) := by
  simp only [land, h]
  by_cases hbreaks : p.kind = .breakable <;> by_cases hsame : game.lastLanded = some slot <;>
    simp [hbreaks, hsame, emit, bounce]

/-- A landing is on a slot of the store and keeps the number of slots. Everything that has to do with
shots and monsters, with the camera or with the score stays. -/
theorem land_frame (game : Game) :
    ∃ player platforms landings lastLanded events, platforms.length = game.platforms.length ∧
      (lastLanded = game.lastLanded ∨
        ∃ slot, lastLanded = some slot ∧ slot < game.platforms.length) ∧
      game.land.2 = { game with player, platforms, landings, lastLanded, events } := by
  cases hlanding : firstLanding? { game.player with onGround := false } game.platforms with
  | none => exact ⟨_, _, _, _, _, rfl, Or.inl rfl, by rw [land_of_none hlanding]⟩
  | some landing =>
    obtain ⟨p, slot⟩ := landing
    refine ⟨_, _, _, _, _, ?_, Or.inr ⟨slot, rfl, firstLanding?_lt hlanding⟩, by
      rw [land_of_some hlanding]⟩
    split
    · exact List.length_set
    · rfl

/-- The game after its shots and monsters have moved, all contacts have had their effect, and the
dead have been removed. -/
def collide (game : Game) (dt : Single) : Game :=
  let game := ((game.moveProjectiles dt).moveMonsters dt).land.2
  let (kills, game) := game.hitMonsters
  { game with events := game.events ++ List.replicate kills Event.monsterKilled }.compact

/-- What the shots of a frame hit, once the shots and the monsters have moved. -/
def volley (game : Game) (dt : Single) : Volley :=
  strike (game.moveProjectiles dt).projectiles (game.moveMonsters dt).monsters

/-- **The contacts do not interfere**: a landing is the same before and after the shots and monsters
have moved. -/
theorem collide_eq (game : Game) (dt : Single) :
    game.collide dt = { game.land.2 with
      projectiles := (game.volley dt).projectiles.filter (·.active)
      monsters := (game.volley dt).monsters.filter (·.active)
      events := game.land.2.events ++
        List.replicate (game.volley dt).kills Event.monsterKilled } := by
  cases hlanding : firstLanding? { game.player with onGround := false } game.platforms with
  | none =>
    have hmoved : firstLanding?
        { ((game.moveProjectiles dt).moveMonsters dt).player with onGround := false }
        ((game.moveProjectiles dt).moveMonsters dt).platforms = none := hlanding
    rw [collide, land_of_none hmoved, land_of_none hlanding]
    rfl
  | some landing =>
    obtain ⟨p, slot⟩ := landing
    have hmoved : firstLanding?
        { ((game.moveProjectiles dt).moveMonsters dt).player with onGround := false }
        ((game.moveProjectiles dt).moveMonsters dt).platforms = some (p, slot) := hlanding
    rw [collide, land_of_some hmoved, land_of_some hlanding]
    rfl

/-! ### The end of the frame -/

/-- The camera that a frame ends with. -/
def nextCamera (game : Game) : Single :=
  let target := game.player.body.top - viewportHeight / 2 + game.tuning.cameraOffset
  if target < game.camera then target else game.camera

/-- Whether the player has left the picture of the camera that the frame ends with. -/
def endsFallen (game : Game) : Bool := game.nextCamera + viewportHeight ≤ game.player.body.top

/-- Whether a frame ends the run: a monster has caught the player, or the player has fallen. -/
def endsRun (game : Game) : Bool := game.player.isCaught game.monsters || game.endsFallen

/-- The game after the end of a frame. -/
def conclude (game : Game) : Game := (game.settle (game.player.isCaught game.monsters)).1

/-- **The end of a frame** moves the camera, counts the score, and ends the run of a player who was
caught or has fallen, which is reported with the score. -/
theorem conclude_eq (game : Game) :
    game.conclude = { game with
      camera := game.nextCamera
      score := Nat.max game.score (climbed game.nextCamera)
      running := game.running && !game.endsRun
      events := game.events ++
        if game.endsRun then [.gameOver (Nat.max game.score (climbed game.nextCamera))]
        else [] } := by
  have hfollow : game.followPlayer = { game with camera := game.nextCamera } := by
    simp only [followPlayer, nextCamera]
    split <;> rfl
  have hfallen : ({ game with camera := game.nextCamera }.updateScore).hasFallen =
      game.endsFallen := rfl
  have hends : (game.player.isCaught game.monsters || game.endsFallen) = game.endsRun := rfl
  simp only [conclude, settle, hfollow, hfallen, hends]
  cases game.endsRun with
  | true => simp [finish, emit, updateScore]
  | false => simp [updateScore]

/-- **A frame is its stages in order.** -/
theorem step_eq_ok {game next : Game} {c : Controls} {dt : Single} {notices : List Notice}
    (h : game.step c dt = .ok (next, notices)) :
    ∃ time scrolled reports, clampTime dt game.tuning.frameTimeMax = .ok time ∧
      ({ game with ticks := game.ticks + 1 }.act c time).scroll time = .ok (scrolled, reports) ∧
      next = (scrolled.collide time).conclude := by
  obtain ⟨time, htime, hacted⟩ := bind_eq_ok h
  obtain ⟨⟨scrolled, reports⟩, hscroll, hrest⟩ := bind_eq_ok hacted
  cases hrest
  exact ⟨time, scrolled, reports, htime, hscroll, rfl⟩

/-! ### The two halves of a frame -/

/-- What the first half of a frame sets up: the player who has moved, the shot that was fired, the
platforms that were made, and the monster that appeared. -/
structure Setup where
  player : Player
  shot : Option Projectile
  filling : Filling
  spawned : Option Monster
  generator : Pcg32

/-- The reports of the first half of a frame. -/
def Setup.events (s : Setup) : List Event :=
  (s.shot.map fun _ => Event.shotFired).toList ++
    (s.spawned.map fun _ => Event.monsterSpawned).toList

/-- A game in the middle of a frame, before anything meets. -/
def setUp (game : Game) (s : Setup) : Game :=
  { game with
    player := s.player
    platforms := s.filling.platforms
    generator := s.generator
    monsters := game.monsters ++ s.spawned.toList
    projectiles := game.projectiles ++ s.shot.toList
    ticks := game.ticks + 1
    events := s.events }

/-- What the first half of a frame sets up comes from the game and the frame time. -/
structure IsSetup (game : Game) (dt : Single) (s : Setup) : Prop where
  fires : game.Fires s.shot
  refill_eq : game.refill dt = .ok s.filling
  spawn_eq : spawnMonster? game.monsters game.camera game.score game.tuning s.filling.generator =
    (s.spawned, s.generator)

/-- The player of a frame once the controls and gravity have moved it. -/
def moved (game : Game) (c : Controls) (time : Single) : Player :=
  ({ game with events := [], ticks := game.ticks + 1 }.act c time).player

/-- **The motion of the player** begins with the steering and the countdown, after which a shot may
start the animation again; gravity comes last. -/
theorem moved_eq (game : Game) (c : Controls) (time : Single) :
    ∃ ready : Player,
      (ready = (game.player.steer (c.targetVelocity game.tuning) game.tuning time).coolDown time ∨
        ready = { (game.player.steer (c.targetVelocity game.tuning) game.tuning time).coolDown time
          with shooting := true, timer := game.tuning.shootCooldown }) ∧
      game.moved c time = ready.integrate game.tuning.gravity time := by
  simp only [moved, act]
  split
  · cases hshot : shoot? { game with
        events := []
        ticks := game.ticks + 1
        player := (game.player.steer (c.targetVelocity game.tuning) game.tuning time).coolDown
          time } with
    | none => exact ⟨_, Or.inl rfl, by rw [Option.getD_none]⟩
    | some next =>
      have hplayer := player_shoot? hshot
      obtain ⟨shot, timer, -, rfl⟩ := shoot?_eq_some hshot
      exact ⟨_, Or.inr hplayer, rfl⟩
  · exact ⟨_, Or.inl rfl, rfl⟩

/-- **A frame is a setup, the contacts and the end of the frame**, and what is set up holds the player
who has moved. Events of earlier frames are gone. -/
theorem step_eq_setUp_moved {game next : Game} {c : Controls} {dt : Single}
    {notices : List Notice} (h : { game with events := [] }.step c dt = .ok (next, notices)) :
    ∃ time s, clampTime dt game.tuning.frameTimeMax = .ok time ∧ game.IsSetup time s ∧
      s.player = game.moved c time ∧ next = ((game.setUp s).collide time).conclude := by
  obtain ⟨time, scrolled, reports, htime, hscroll, rfl⟩ := step_eq_ok h
  obtain ⟨player, shot, hfires, hact⟩ :=
    act_eq { game with events := [], ticks := game.ticks + 1 } c time
  have hmoved : player = game.moved c time := by rw [moved, hact]
  rw [hact] at hscroll
  obtain ⟨filling, spawned, generator, hfill, hspawn, rfl⟩ := scroll_eq_ok hscroll
  exact ⟨time, ⟨player, shot, filling, spawned, generator⟩, htime, ⟨hfires, hfill, hspawn⟩, hmoved,
    rfl⟩

/-- **A frame is a setup, the contacts and the end of the frame.** -/
theorem step_eq_setUp {game next : Game} {c : Controls} {dt : Single} {notices : List Notice}
    (h : { game with events := [] }.step c dt = .ok (next, notices)) :
    ∃ time s, clampTime dt game.tuning.frameTimeMax = .ok time ∧ game.IsSetup time s ∧
      next = ((game.setUp s).collide time).conclude := by
  obtain ⟨time, s, htime, hsetup, -, hnext⟩ := step_eq_setUp_moved h
  exact ⟨time, s, htime, hsetup, hnext⟩

/-! ### What stays until the end of the frame -/

/-- Two games with the same camera and score in the same state of the run. -/
structure SameView (game next : Game) : Prop where
  tuning : next.tuning = game.tuning
  camera : next.camera = game.camera
  score : next.score = game.score
  running : next.running = game.running

/-- **Only the end of a frame** moves the camera, counts the score or ends the run. -/
theorem sameView_of_scroll {game scrolled : Game} {c : Controls} {dt : Single}
    {reports : List Notice} (h : (game.act c dt).scroll dt = .ok (scrolled, reports)) :
    SameView game (scrolled.collide dt) := by
  obtain ⟨player, shot, -, hact⟩ := act_eq game c dt
  rw [hact] at h
  obtain ⟨filling, spawned, generator, -, -, rfl⟩ := scroll_eq_ok h
  rw [collide_eq]
  obtain ⟨player', platforms, landings, lastLanded, events, -, -, hland⟩ := land_frame
    { game with
      player, platforms := filling.platforms, generator
      monsters := game.monsters ++ spawned.toList
      projectiles := game.projectiles ++ shot.toList
      events := (game.events ++ (shot.map fun _ => Event.shotFired).toList) ++
        (spawned.map fun _ => Event.monsterSpawned).toList }
  rw [hland]
  exact ⟨rfl, rfl, rfl, rfl⟩

end Game

end Platformer
