import Platformer.Proofs.History

/-! # A restart is a fresh start

A start and a restart list the same first values in two places, and a restart keeps two fields that a
start sets: the seed of the first run and the time stamp of the last frame. Neither is ever read by a
frame, so that nothing of the runs before can be seen in the run that a restart begins.

* **`Game.relabel`** — a game with another seed and another time stamp.
* **`Game.step_relabel`**, **`Game.tick_relabel`** — a frame is the same under other labels.
* **`Game.trail`**, **`Game.trail_relabel`** — the games that a sequence of frames leads to, which
  are the same under other labels.
* **`Game.fst_map_restart`** — a restart in terms of a start.
* **`Game.replay`**, **`Game.restart_eq_start`** — what is played after a restart depends on the
  tuning and the generator alone. -/

namespace Platformer

namespace Game

/-- The game with other labels: the fields that outlive a run. -/
def relabel (seed : UInt64) (lastTime : Option Nat) (game : Game) : Game :=
  { game with seed, lastTime }

variable (seed : UInt64) (lastTime : Option Nat)

/-! ### The stages of a frame -/

/-- A shot is the same under other labels. -/
theorem shoot?_relabel (game : Game) :
    (game.relabel seed lastTime).shoot? = game.shoot?.map (relabel seed lastTime) := by
  simp only [shoot?, addProjectile?, relabel]
  by_cases hshooting : game.player.shooting = true
  · simp [hshooting]
  · by_cases hroom : game.projectiles.length < maxProjectiles
    · simp [hshooting, hroom, emit, relabel]
    · simp [hshooting, hroom]

/-- The player acts the same under other labels. -/
theorem act_relabel (game : Game) (c : Controls) (dt : Single) :
    (game.relabel seed lastTime).act c dt = (game.act c dt).relabel seed lastTime := by
  let steered : Game :=
    { game with
      player := (game.player.steer (c.targetVelocity game.tuning) game.tuning dt).coolDown dt }
  have hfired : (if c.shoot then (steered.relabel seed lastTime).shoot?.getD
      (steered.relabel seed lastTime) else steered.relabel seed lastTime) =
      (if c.shoot then steered.shoot?.getD steered else steered).relabel seed lastTime := by
    rw [shoot?_relabel]
    cases c.shoot with
    | true => cases steered.shoot? <;> rfl
    | false => rfl
  exact congrArg (fun fired : Game =>
    { fired with player := fired.player.integrate fired.tuning.gravity dt }) hfired

/-- The world moves the same under other labels. -/
theorem scroll_relabel (game : Game) (dt : Single) :
    (Prod.fst <$> (game.relabel seed lastTime).scroll dt : Except Fault Game) =
      relabel seed lastTime <$> Prod.fst <$> game.scroll dt := by
  have hrefill : (game.relabel seed lastTime).refill dt = game.refill dt := rfl
  cases hfill : game.refill dt with
  | error fault =>
    rw [show game.scroll dt = _ from error_bind hfill _,
      show (game.relabel seed lastTime).scroll dt = _ from error_bind (hrefill.trans hfill) _]
    rfl
  | ok filling =>
    rw [show game.scroll dt = _ from ok_bind hfill _,
      show (game.relabel seed lastTime).scroll dt = _ from ok_bind (hrefill.trans hfill) _]
    rcases hspawn : spawnMonster? game.monsters game.camera game.score game.tuning
      filling.generator with ⟨_ | m, generator⟩
    · simp only [relabel, hspawn]
      rfl
    · simp only [relabel, hspawn]
      rfl

/-- The player lands the same under other labels. -/
theorem land_relabel (game : Game) :
    (game.relabel seed lastTime).land.2 = game.land.2.relabel seed lastTime := by
  cases hlanding : firstLanding? { game.player with onGround := false } game.platforms with
  | none =>
    have hsame : firstLanding? { (game.relabel seed lastTime).player with onGround := false }
        (game.relabel seed lastTime).platforms = none := hlanding
    rw [land_of_none hlanding, land_of_none hsame]
    rfl
  | some landing =>
    obtain ⟨p, slot⟩ := landing
    have hsame : firstLanding? { (game.relabel seed lastTime).player with onGround := false }
        (game.relabel seed lastTime).platforms = some (p, slot) := hlanding
    rw [land_of_some hlanding, land_of_some hsame]
    rfl

/-- All contacts are the same under other labels. -/
theorem collide_relabel (game : Game) (dt : Single) :
    (game.relabel seed lastTime).collide dt = (game.collide dt).relabel seed lastTime := by
  rw [collide_eq, collide_eq, land_relabel]
  rfl

/-- A frame ends the same under other labels. -/
theorem conclude_relabel (game : Game) :
    (game.relabel seed lastTime).conclude = game.conclude.relabel seed lastTime := by
  rw [conclude_eq, conclude_eq]
  rfl

/-! ### Frames -/

/-- A frame without its reports, as its stages in order. -/
theorem fst_map_step (game : Game) (c : Controls) (dt : Single) :
    Prod.fst <$> game.step c dt = (do
      let time ← clampTime dt game.tuning.frameTimeMax
      (fun scrolled => (scrolled.collide time).conclude) <$> Prod.fst <$>
        ({ game with ticks := game.ticks + 1 }.act c time).scroll time) := by
  rw [step, map_bind]
  refine bind_congr fun time => ?_
  dsimp only
  cases ({ game with ticks := game.ticks + 1 }.act c time).scroll time with
  | error fault => rfl
  | ok result => rfl

/-- **A frame of a running game is the same under other labels.** -/
theorem step_relabel (game : Game) (c : Controls) (dt : Single) :
    (Prod.fst <$> (game.relabel seed lastTime).step c dt : Except Fault Game) =
      relabel seed lastTime <$> Prod.fst <$> game.step c dt := by
  rw [fst_map_step, fst_map_step, map_bind]
  refine bind_congr fun time => ?_
  have hacted : { game.relabel seed lastTime with
      ticks := (game.relabel seed lastTime).ticks + 1 }.act c time =
      ({ game with ticks := game.ticks + 1 }.act c time).relabel seed lastTime :=
    act_relabel seed lastTime { game with ticks := game.ticks + 1 } c time
  have hend (scrolled : Game) : ((scrolled.relabel seed lastTime).collide time).conclude =
      ((scrolled.collide time).conclude).relabel seed lastTime := by
    rw [collide_relabel, conclude_relabel]
  rw [hacted, scroll_relabel]
  simp only [Functor.map_map, hend]

/-- **A restart is a start** under the tuning and from the generator of the game, which keeps its
labels and reports the restart. -/
theorem fst_map_restart (game : Game) (seed : UInt64) :
    Prod.fst <$> game.restart = (fun r =>
      { r.1 with
        seed := game.seed
        lastTime := game.lastTime
        events := game.events ++ [.restarted] }) <$>
      startWith seed game.tuning game.generator := by
  cases hlayout : layOut game.tuning game.generator with
  | error fault =>
    rw [show game.restart = _ from error_bind hlayout _,
      show startWith seed game.tuning game.generator = _ from error_bind hlayout _]
    rfl
  | ok layout =>
    rw [show game.restart = _ from ok_bind hlayout _,
      show startWith seed game.tuning game.generator = _ from ok_bind hlayout _]
    rfl

/-- A restart is the same under other labels. -/
theorem restart_relabel (game : Game) :
    (Prod.fst <$> (game.relabel seed lastTime).restart : Except Fault Game) =
      relabel seed lastTime <$> Prod.fst <$> game.restart := by
  rw [fst_map_restart _ seed, fst_map_restart game seed, Functor.map_map]
  rfl

/-- **A frame is the same under other labels.** -/
theorem tick_relabel (game : Game) (c : Controls) (dt : Single) :
    (Prod.fst <$> (game.relabel seed lastTime).tick c dt : Except Fault Game) =
      relabel seed lastTime <$> Prod.fst <$> game.tick c dt := by
  have hcontrols : (game.relabel seed lastTime).controls c = game.controls c := rfl
  rw [tick_eq, tick_eq, hcontrols]
  by_cases hrunning : game.running = true
  · rw [if_pos hrunning, if_pos (show (game.relabel seed lastTime).running = true from hrunning)]
    exact step_relabel seed lastTime { game with events := [] } _ dt
  · rw [if_neg hrunning,
      if_neg (show ¬ (game.relabel seed lastTime).running = true from hrunning)]
    by_cases hrestart : (game.controls c).restart = true
    · rw [if_pos hrestart, if_pos hrestart]
      exact restart_relabel seed lastTime { game with events := [] }
    · rw [if_neg hrestart, if_neg hrestart]
      rfl

/-! ### Sequences of frames -/

/-- The games that frames under inputs in order lead to, one after each. -/
def trail (game : Game) (inputs : List (Controls × Single)) : Except Fault (List Game) :=
  (fun r => r.2.map (·.after)) <$> game.film inputs

/-- The games after a first frame and further ones. -/
theorem trail_cons (game : Game) (c : Controls) (dt : Single) (inputs : List (Controls × Single)) :
    game.trail ((c, dt) :: inputs) = (do
      let next ← Prod.fst <$> game.tick c dt
      (next :: ·) <$> next.trail inputs) := by
  rw [trail, film, map_bind, bind_map_left]
  refine bind_congr fun r => ?_
  dsimp only
  rw [trail, map_bind, Functor.map_map, map_eq_pure_bind]
  rfl

/-- **Every sequence of frames is the same under other labels.** -/
theorem trail_relabel (game : Game) (inputs : List (Controls × Single)) :
    (game.relabel seed lastTime).trail inputs =
      List.map (relabel seed lastTime) <$> game.trail inputs := by
  -- the game after a frame is again one under other labels
  induction inputs generalizing game with
  | nil => rfl
  | cons input inputs ih =>
    obtain ⟨c, dt⟩ := input
    rw [trail_cons, trail_cons, tick_relabel, bind_map_left, map_bind]
    refine bind_congr fun next => ?_
    rw [ih, Functor.map_map, Functor.map_map]
    rfl

/-- What was reported before makes no difference to a sequence of frames. -/
theorem trail_events (game : Game) (events : List Event) (inputs : List (Controls × Single)) :
    { game with events }.trail inputs = game.trail inputs := by
  cases inputs with
  | nil => rfl
  | cons input inputs =>
    obtain ⟨c, dt⟩ := input
    -- a frame begins by clearing the events
    have htick : { game with events }.tick c dt = game.tick c dt := rfl
    rw [trail_cons, trail_cons, htick]

/-- The games that frames under inputs in order lead to after a restart. -/
def replay (game : Game) (inputs : List (Controls × Single)) : Except Fault (List Game) := do
  (← game.restart).1.trail inputs

/-- **A restart is a fresh start.** It is a start from the generator that the game has reached, apart
from the labels and the report of the restart; and whatever is played after it, with all that is
reported, is the same for any two games with the same tuning and the same generator. -/
theorem restart_eq_start :
    (∀ (game : Game) (seed : UInt64),
      Prod.fst <$> game.restart = (fun r =>
        { r.1 with
          seed := game.seed
          lastTime := game.lastTime
          events := game.events ++ [.restarted] }) <$>
        startWith seed game.tuning game.generator) ∧
    ∀ (a b : Game), a.tuning = b.tuning → a.generator = b.generator →
      ∀ inputs, b.replay inputs = List.map (relabel b.seed b.lastTime) <$> a.replay inputs := by
  refine ⟨fst_map_restart, ?_⟩
  intro a b htuning hgenerator inputs
  -- of a restart only the start, the labels and the report are left
  have hreplay (game : Game) : game.replay inputs =
      startWith 0 game.tuning game.generator >>= fun r =>
        (r.1.relabel game.seed game.lastTime).trail inputs := by
    have hbind : game.replay inputs =
        (Prod.fst <$> game.restart) >>= fun first => first.trail inputs := by
      rw [bind_map_left]
      rfl
    rw [hbind, fst_map_restart game 0, bind_map_left]
    refine bind_congr fun r => ?_
    exact trail_events (r.1.relabel game.seed game.lastTime) _ inputs
  rw [hreplay, hreplay, htuning, hgenerator, map_bind]
  refine bind_congr fun r => ?_
  rw [trail_relabel, trail_relabel, Functor.map_map]
  -- of two labels the later one counts
  have hlabels : relabel b.seed b.lastTime ∘ relabel a.seed a.lastTime =
      relabel b.seed b.lastTime := rfl
  simp only [List.map_map, hlabels]

/-- A game in which nothing is as it should be, apart from the tuning and the generator. -/
def scrambled (game : Game) : Game :=
  { game with
    seed := 9
    player := { game.player with body := { game.player.body with top := .nan false } }
    platforms := []
    monsters := [.spawn 0 0 1 1]
    camera := .infinite true
    score := 77
    lastLanded := some 3
    running := false
    lastTime := some 16
    ticks := 5
    events := [.shotFired] }

/-- A game that has ended in a mess is played on after a restart as one that has just begun. -/
theorem replay_scrambled :
    ∃ game notices games, start 3 = .ok (game, notices) ∧
      game.replay [({ right := true }, 1), ({ shoot := true }, .nan false)] = .ok games ∧
      games.length = 2 ∧
      game.scrambled.replay [({ right := true }, 1), ({ shoot := true }, .nan false)] =
        .ok (games.map (relabel 9 (some 16))) := by
  obtain ⟨⟨game, notices⟩, hstart, hcheck⟩ := exists_eq_ok_of_any
    (fun r => (r.1.replay [({ right := true }, 1), ({ shoot := true }, .nan false)]).toOption.any
      fun games => games.length = 2)
    (show (start 3).toOption.any _ = true by decide +kernel)
  obtain ⟨games, hgames, hlength⟩ := exists_eq_ok_of_any _ hcheck
  refine ⟨game, notices, games, hstart, hgames, by simpa using hlength, ?_⟩
  have hsame := restart_eq_start.2 game game.scrambled rfl rfl
    [({ right := true }, 1), ({ shoot := true }, .nan false)]
  rw [hsame, hgames]
  rfl

end Game

end Platformer
