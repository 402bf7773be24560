import Platformer.Proofs.Report
import Platformer.Proofs.Stores
import Platformer.Proofs.Volley

/-! # The outcome of a frame

What a frame of a running game leaves in each part of the game, read off its setup, and what its
events tell of it.

* **`Game.landing?`** — the platform that the player lands on, and what that does to the game.
* **`Game.outcome`** — the game after a frame with a given setup, part by part.
* **`Game.report`**, **`Game.events_outcome`** — what the frame reports.
* **`Game.FrameEffect`**, **`Game.frameEffect_of_tick`** — all that a frame can do.
* **`Game.Reported`**, **`Game.reported_outcome`** — what the events of a frame tell. -/

namespace Platformer

namespace Game

/-! ### Landing -/

/-- The slot on which the player lands, if there is one, and the kind of its platform. -/
def landing? (game : Game) : Option (Nat × PlatformKind) :=
  (firstLanding? { game.player with onGround := false } game.platforms).map
    fun (p, slot) => (slot, p.kind)

section

variable (game : Game)

/-- A landing is reported. -/
theorem events_land :
    game.land.2.events = game.events ++ Report.landingEvents game.landing? := by
  cases h : firstLanding? { game.player with onGround := false } game.platforms with
  | none => simp [land_of_none h, landing?, h, Report.landingEvents]
  | some landing => simp [land_of_some h, landing?, h, Report.landingEvents]

/-- The player is on the ground after a landing only. -/
theorem onGround_land : game.land.2.player.onGround = game.landing?.isSome := by
  cases h : firstLanding? { game.player with onGround := false } game.platforms with
  | none => simp [land_of_none h, landing?, h]
  | some landing => simp [land_of_some h, landing?, h, bounce]

/-- The slot of the landing is remembered. -/
theorem lastLanded_land :
    game.land.2.lastLanded = (game.landing?.map Prod.fst).or game.lastLanded := by
  cases h : firstLanding? { game.player with onGround := false } game.platforms with
  | none => simp [land_of_none h, landing?, h]
  | some landing => simp [land_of_some h, landing?, h]

/-- A landing counts unless it is on the slot of the landing before. -/
theorem landings_land :
    game.land.2.landings = game.landings +
      if game.landing?.all fun l => game.lastLanded = some l.1 then 0 else 1 := by
  cases h : firstLanding? { game.player with onGround := false } game.platforms with
  | none => simp [land_of_none h, landing?, h]
  | some landing =>
    by_cases hsame : game.lastLanded = some landing.2 <;> simp [land_of_some h, landing?, h, hsame]

/-- **A landing frees the slot of a breakable platform** and leaves all others alone. -/
theorem getElem?_platforms_land (slot : Nat) :
    game.land.2.platforms[slot]? =
      if game.landing? = some (slot, .breakable) then game.platforms[slot]?.map Platform.free
      else game.platforms[slot]? := by
  cases h : firstLanding? { game.player with onGround := false } game.platforms with
  | none => simp [land_of_none h, landing?, h]
  | some landing =>
    obtain ⟨p, place⟩ := landing
    -- the platform that is freed is the one in the slot, which a landing always is on
    have hget := (firstLanding?_eq_some h).1
    have hlanding : game.landing? = some (place, p.kind) := by rw [landing?, h]; rfl
    simp only [land_of_some h, hlanding, Option.some.injEq, Prod.mk.injEq]
    by_cases hkind : p.kind = .breakable
    · by_cases hslot : place = slot
      · subst hslot
        simp only [hkind, if_true, and_self, hget, Option.map_some]
        exact List.getElem?_set_self (List.getElem?_eq_some_iff.mp hget).1
      · simp [hkind, hslot, List.getElem?_set_ne]
    · simp [hkind]

end

/-! ### The game after a frame -/

/-- The game after a frame with a setup. -/
def outcome (game : Game) (s : Setup) (time : Single) : Game :=
  ((game.setUp s).collide time).conclude

/-- What a frame with a setup reports. -/
def report (game : Game) (s : Setup) (time : Single) : Report where
  shot := s.shot.isSome
  spawned := s.spawned.isSome
  landing := (game.setUp s).landing?
  kills := ((game.setUp s).volley time).kills
  final :=
    if ((game.setUp s).collide time).endsRun then some (game.outcome s time).score else none

section

variable (game : Game) (s : Setup) (time : Single)

/-- **The events of a frame are its report.** -/
theorem events_outcome : (game.outcome s time).events = (game.report s time).events := by
  have hsetup : s.events = (if s.shot.isSome then [.shotFired] else []) ++
      if s.spawned.isSome then [.monsterSpawned] else [] := by
    cases hshot : s.shot <;> cases hspawned : s.spawned <;> simp [Setup.events, hshot, hspawned]
  have hmiddle : ((game.setUp s).collide time).events =
      s.events ++ Report.landingEvents (game.setUp s).landing? ++
        List.replicate ((game.setUp s).volley time).kills .monsterKilled := by
    rw [collide_eq]
    simp only [events_land]
    rfl
  have hend : (game.outcome s time).events = ((game.setUp s).collide time).events ++
      (((game.report s time).final).map Event.gameOver).toList := by
    simp only [report, outcome, conclude_eq]
    split <;> rfl
  rw [hend, hmiddle, hsetup]
  rfl

/-- A frame leaves the player on the ground after a landing only. -/
theorem onGround_outcome : (game.outcome s time).player.onGround = (game.setUp s).landing?.isSome := by
  rw [outcome, conclude_eq, collide_eq]
  exact onGround_land _

/-- The slots after a frame: what its setup left, less a platform that broke. -/
theorem getElem?_platforms_outcome (slot : Nat) :
    (game.outcome s time).platforms[slot]? =
      if (game.setUp s).landing? = some (slot, .breakable) then
        s.filling.platforms[slot]?.map Platform.free
      else s.filling.platforms[slot]? := by
  rw [outcome, conclude_eq, collide_eq]
  exact getElem?_platforms_land _ slot

/-- The slot of the last landing after a frame. -/
theorem lastLanded_outcome : (game.outcome s time).lastLanded =
    ((game.setUp s).landing?.map Prod.fst).or game.lastLanded := by
  rw [outcome, conclude_eq, collide_eq]
  exact lastLanded_land _

/-- The count of landings after a frame. -/
theorem landings_outcome : (game.outcome s time).landings = game.landings +
    if (game.setUp s).landing?.all fun l => game.lastLanded = some l.1 then 0 else 1 := by
  rw [outcome, conclude_eq, collide_eq]
  exact landings_land _

/-- The monsters after a frame. -/
theorem monsters_outcome : (game.outcome s time).monsters =
    ((game.setUp s).volley time).monsters.filter (·.active) := by
  rw [outcome, conclude_eq, collide_eq]

/-- The projectiles after a frame. -/
theorem projectiles_outcome : (game.outcome s time).projectiles =
    ((game.setUp s).volley time).projectiles.filter (·.active) := by
  rw [outcome, conclude_eq, collide_eq]

/-- The player after a frame. -/
theorem player_outcome : (game.outcome s time).player = (game.setUp s).land.2.player := by
  rw [outcome, conclude_eq, collide_eq]

/-- The camera after a frame is the old one, unless the player has left it behind. -/
theorem camera_outcome : (game.outcome s time).camera =
    { game with player := (game.outcome s time).player }.nextCamera := by
  obtain ⟨player, platforms, landings, lastLanded, events, -, -, hland⟩ := land_frame (game.setUp s)
  rw [player_outcome, outcome, conclude_eq, collide_eq, hland]
  rfl

/-- A platform after a frame is one that its setup left, or the remains of one. -/
theorem exists_of_mem_platforms_outcome {p : Platform} (hp : p ∈ (game.outcome s time).platforms) :
    ∃ q ∈ s.filling.platforms, p = q ∨ p = q.free := by
  obtain ⟨slot, hslot⟩ := List.mem_iff_getElem?.mp hp
  rw [getElem?_platforms_outcome] at hslot
  split at hslot
  · obtain ⟨q, hq, rfl⟩ := Option.map_eq_some_iff.mp hslot
    exact ⟨q, List.mem_of_getElem? hq, Or.inr rfl⟩
  · exact ⟨p, List.mem_of_getElem? hslot, Or.inl rfl⟩

/-- A monster after a frame has patrolled. -/
theorem exists_of_mem_monsters_outcome {m : Monster} (hm : m ∈ (game.outcome s time).monsters) :
    ∃ m₀ ∈ game.monsters ++ s.spawned.toList, m = m₀.advance time := by
  rw [monsters_outcome] at hm
  obtain ⟨hstruck, hactive⟩ := List.mem_filter.mp hm
  obtain ⟨m₀, hm₀, rfl⟩ := List.mem_map.mp
    (List.mem_filter.mp (mem_of_mem_strike_monsters hstruck hactive)).1
  exact ⟨m₀, (List.mem_filter.mp hm₀).1, rfl⟩

/-- A projectile after a frame has flown. -/
theorem exists_of_mem_projectiles_outcome {p : Projectile}
    (hp : p ∈ (game.outcome s time).projectiles) :
    ∃ p₀ ∈ game.projectiles ++ s.shot.toList, p = p₀.advance time := by
  rw [projectiles_outcome] at hp
  obtain ⟨hstruck, hactive⟩ := List.mem_filter.mp hp
  obtain ⟨p₀, hp₀, rfl⟩ := List.mem_map.mp
    (List.mem_filter.mp (mem_of_mem_strike_projectiles hstruck hactive)).1
  exact ⟨p₀, (List.mem_filter.mp hp₀).1, rfl⟩

/-- A frame is counted. -/
theorem ticks_outcome : (game.outcome s time).ticks = game.ticks + 1 := by
  obtain ⟨player, platforms, landings, lastLanded, events, -, -, hland⟩ := land_frame (game.setUp s)
  rw [outcome, conclude_eq, collide_eq, hland]
  rfl

/-- A frame does not lower the score. -/
theorem le_score_outcome : game.score ≤ (game.outcome s time).score := by
  obtain ⟨player, platforms, landings, lastLanded, events, -, -, hland⟩ := land_frame (game.setUp s)
  have hsame : ((game.setUp s).collide time).score = game.score := by
    rw [collide_eq, hland]
    rfl
  rw [outcome, conclude_eq, hsame]
  exact Nat.le_max_left _ _

/-- A frame of a running game leaves it running unless it ends the run. -/
theorem running_outcome (hrunning : game.running = true) : (game.outcome s time).running =
    !((game.setUp s).collide time).endsRun := by
  obtain ⟨player, platforms, landings, lastLanded, events, -, -, hland⟩ := land_frame (game.setUp s)
  have hsame : ((game.setUp s).collide time).running = game.running := by
    rw [collide_eq, hland]
    rfl
  rw [outcome, conclude_eq, hsame, hrunning, Bool.true_and]

/-- **A frame kills no more monsters** than there is room for projectiles. -/
theorem kills_report_le (hfires : game.Fires s.shot)
    (hroom : game.projectiles.length ≤ maxProjectiles) :
    (game.report s time).kills ≤ maxProjectiles := by
  calc (game.report s time).kills
      ≤ ((game.setUp s).moveProjectiles time).projectiles.countP (·.active) :=
        countP_projectiles_strike _ _ ▸ Nat.le_add_left _ _
    _ ≤ ((game.setUp s).moveProjectiles time).projectiles.length := List.countP_le_length
    _ ≤ (game.projectiles ++ s.shot.toList).length := length_sweep_le _ _ _ _
    _ ≤ maxProjectiles := hfires.length_le hroom

end

/-! ### The effects of a frame -/

/-- **All that a frame can do.** A running game has an outcome; an ended one only loses its events,
unless the controls ask for another run. -/
inductive FrameEffect (game : Game) (c : Controls) (dt : Single) : Game → Prop
  | played {time : Single} {s : Setup} (hrunning : game.running = true)
      (htime : clampTime dt game.tuning.frameTimeMax = .ok time) (hsetup : game.IsSetup time s) :
      FrameEffect game c dt (game.outcome s time)
  | still (hover : game.running = false) (hkeep : (game.controls c).restart = false) :
      FrameEffect game c dt { game with events := [] }
  | restarted {next : Game} (hover : game.running = false)
      (hrestart : (game.controls c).restart = true) (hfresh : next.Fresh)
      (hevents : next.events = [.restarted]) : FrameEffect game c dt next

/-- The report of a restart comes after the events of the frame so far. -/
theorem events_restart {game next : Game} {notices : List Notice}
    (h : game.restart = .ok (next, notices)) : next.events = game.events ++ [.restarted] := by
  obtain ⟨layout, -, hnext⟩ := bind_eq_ok h
  cases hnext
  rfl

/-- **What a frame does is one of its effects.** -/
theorem frameEffect_of_tick {game next : Game} {c : Controls} {dt : Single} {notices : List Notice}
    (h : game.tick c dt = .ok (next, notices)) : FrameEffect game c dt next := by
  rw [tick_eq] at h
  by_cases hrunning : game.running = true
  · rw [if_pos hrunning] at h
    obtain ⟨time, s, htime, hsetup, rfl⟩ := step_eq_setUp h
    exact .played hrunning htime hsetup
  · rw [if_neg hrunning] at h
    have hover : game.running = false := by simpa using hrunning
    by_cases hrestart : (game.controls c).restart = true
    · rw [if_pos hrestart] at h
      exact .restarted hover hrestart (fresh_of_restart h) (events_restart h)
    · rw [if_neg hrestart] at h
      cases h
      exact .still hover (by simpa using hrestart)

/-- A running game plays its frame. -/
theorem FrameEffect.exists_setup {game next : Game} {c : Controls} {dt : Single}
    (h : FrameEffect game c dt next) (hrunning : game.running = true) :
    ∃ time s, clampTime dt game.tuning.frameTimeMax = .ok time ∧ game.IsSetup time s ∧
      next = game.outcome s time := by
  cases h with
  | @played time s _ htime hsetup => exact ⟨time, s, htime, hsetup, rfl⟩
  | still hover hkeep =>
    rw [hover] at hrunning
    cases hrunning
  | restarted hover hrestart hfresh hevents =>
    rw [hover] at hrunning
    cases hrunning

/-- **A landing is reported by a frame that was played**, in which the player lands there. -/
theorem FrameEffect.exists_landing {game next : Game} {c : Controls} {dt : Single} {slot : Nat}
    {kind : PlatformKind} (h : FrameEffect game c dt next)
    (hlanded : .landed slot kind ∈ next.events) :
    ∃ time s, game.running = true ∧ clampTime dt game.tuning.frameTimeMax = .ok time ∧
      game.IsSetup time s ∧ next = game.outcome s time ∧
      (game.setUp s).landing? = some (slot, kind) := by
  cases h with
  | @played time s hrunning htime hsetup =>
    rw [events_outcome, Report.landed_mem_events] at hlanded
    exact ⟨time, s, hrunning, htime, hsetup, rfl, hlanded⟩
  | still hover hkeep => cases hlanded
  | restarted hover hrestart hfresh hevents =>
    rw [hevents] at hlanded
    cases List.mem_singleton.mp hlanded

/-- After the end of a run the controls ask for another one by themselves or through the pilot. -/
theorem controls_restart {game : Game} (hover : game.running = false) (c : Controls) :
    (game.controls c).restart = (c.restart || c.idle) := by
  rw [controls]
  split
  · next hidle => simp [pilot, hover, hidle]
  · next hidle => simp [hidle]

/-- What the events of a frame of a running game tell: they are a report, in which the player stands
on the ground after a landing, and the end of the run is told with the final score. -/
structure Reported (next : Game) : Prop where
  events_eq : ∃ r : Report, next.events = r.events ∧ r.kills ≤ maxProjectiles
  onGround_iff : next.player.onGround = true ↔ ∃ slot kind, .landed slot kind ∈ next.events
  gameOver_iff : ∀ score,
    .gameOver score ∈ next.events ↔ next.running = false ∧ score = next.score

/-- **A frame of a running game is reported.** -/
theorem reported_outcome {game : Game} {s : Setup} (time : Single) (hrunning : game.running = true)
    (hfires : game.Fires s.shot) (hroom : game.projectiles.length ≤ maxProjectiles) :
    (game.outcome s time).Reported where
  events_eq := ⟨_, events_outcome game s time, kills_report_le game s time hfires hroom⟩
  onGround_iff := by
    rw [onGround_outcome, events_outcome, Option.isSome_iff_exists]
    simp [report]
  gameOver_iff := by
    intro score
    rw [events_outcome, Report.gameOver_mem_events, running_outcome game s time hrunning, report]
    cases ((game.setUp s).collide time).endsRun <;> simp [eq_comm]

end Game

end Platformer
