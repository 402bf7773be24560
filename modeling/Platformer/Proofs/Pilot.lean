import Platformer.Proofs.Monotone
import Platformer.Proofs.Run

/-! # The choices of the pilot

The pilot compares the tops of platforms in the order used for sorting, which also gives a place to
what is not a number. All its candidates have passed a comparison with the player's feet before, and
no such comparison holds of what is not a number; so the platform that it takes is the best one in the
order of numbers as well.

* **`Game.IsReachable`**, **`Game.IsBelow`** — the platforms that a rising player reaches, and those
  that a falling one may come down on.
* **`Game.Targets`** — what makes a platform the one to steer at; **`Game.targets_pilotTarget?`** —
  the pilot takes such a one.
* **`Game.pilot_left_iff`**, **`Game.pilot_right_iff`**, **`Game.pilot_shoot_iff`** — the keys that the
  pilot holds down.
* **`Game.pilot_congr`** — all that the pilot looks at.
* **`Game.tick_pilot`** — a frame of the pilot is an ordinary frame under its controls.
* **`Game.pilot_steers_at_best`** — all of it together. -/

namespace Platformer

namespace Game

variable {game : Game} {p q : Platform}

/-! ### Candidates -/

/-- An active platform above the feet of a rising player that its jump still reaches. -/
structure IsReachable (game : Game) (p : Platform) : Prop where
  rising : game.player.velocity.y < 0
  mem : p ∈ game.platforms
  active : p.active = true
  above : p.body.top < game.player.body.bottom
  near : game.player.body.bottom - p.body.top ≤ game.tuning.jumpHeight game.player.velocity.y

/-- An active platform that is not above the player's feet. -/
structure IsBelow (game : Game) (p : Platform) : Prop where
  mem : p ∈ game.platforms
  active : p.active = true
  below : game.player.body.bottom ≤ p.body.top

/-- The top of a reachable platform is a number. -/
theorem IsReachable.isNaN_top (h : game.IsReachable p) : p.body.top.isNaN = false :=
  (Single.lt_iff_value.mp h.above).1

/-- The top of a platform below the feet is a number. -/
theorem IsBelow.isNaN_top (h : game.IsBelow p) : p.body.top.isNaN = false :=
  Single.isNaN_right_of_le h.below

/-- The reachable platforms in slot order, if the player is rising. -/
def reachable (game : Game) : List Platform :=
  game.activePlatforms.filter fun p => p.body.top < game.player.body.bottom &&
    game.player.body.bottom - p.body.top ≤ game.tuning.jumpHeight game.player.velocity.y

/-- The active platforms that are not above the feet, in slot order. -/
def underFeet (game : Game) : List Platform :=
  game.activePlatforms.filter (game.player.body.bottom ≤ ·.body.top)

/-- The platforms that a rising player reaches. -/
theorem mem_reachable (hrising : game.player.velocity.y < 0) :
    p ∈ game.reachable ↔ game.IsReachable p := by
  unfold reachable activePlatforms
  simp only [List.mem_filter, Bool.and_eq_true, decide_eq_true_eq]
  constructor
  · rintro ⟨⟨hmem, hactive⟩, habove, hnear⟩
    exact ⟨hrising, hmem, hactive, habove, hnear⟩
  · intro h
    exact ⟨⟨h.mem, h.active⟩, h.above, h.near⟩

/-- The platforms that are not above the feet. -/
theorem mem_underFeet : p ∈ game.underFeet ↔ game.IsBelow p := by
  unfold underFeet activePlatforms
  simp only [List.mem_filter, decide_eq_true_eq]
  constructor
  · rintro ⟨⟨hmem, hactive⟩, hbelow⟩
    exact ⟨hmem, hactive, hbelow⟩
  · intro h
    exact ⟨⟨h.mem, h.active⟩, h.below⟩

/-! ### The best candidate -/

/-- **Above the feet the pilot takes the lowest** of the platforms within reach. -/
theorem reachableAbove?_eq_some (hrising : game.player.velocity.y < 0)
    (h : game.reachableAbove? = some p) :
    game.IsReachable p ∧ ∀ q, game.IsReachable q → q.body.top ≤ p.body.top := by
  have hbest : game.reachable.reverse.maxOn? (·.body.top.totalRank) = some p := h
  have hp : game.IsReachable p :=
    (mem_reachable hrising).mp (List.mem_reverse.mp (List.maxOn?_mem hbest))
  refine ⟨hp, fun q hq => Single.le_of_totalRank_le hq.isNaN_top hp.isNaN_top ?_⟩
  have hmem : q ∈ game.reachable.reverse := List.mem_reverse.mpr ((mem_reachable hrising).mpr hq)
  have hle := List.le_apply_get_maxOn?_of_mem (f := fun p => p.body.top.totalRank) hmem
  simpa only [hbest, Option.get_some] using hle

/-- Above the feet the pilot finds nothing only if nothing is within reach. -/
theorem reachableAbove?_eq_none (h : game.reachableAbove? = none) (p : Platform) :
    ¬ game.IsReachable p := by
  intro hp
  have hmem : p ∈ game.reachable.reverse :=
    List.mem_reverse.mpr ((mem_reachable hp.rising).mpr hp)
  have hsome := List.isSome_maxOn?_of_mem (f := fun p => p.body.top.totalRank) hmem
  have hnone : game.reachable.reverse.maxOn? (·.body.top.totalRank) = none := h
  rw [hnone] at hsome
  cases hsome

/-- **Below the feet the pilot takes the highest** of the platforms. -/
theorem nearestBelow?_eq_some (h : game.nearestBelow? = some p) :
    game.IsBelow p ∧ ∀ q, game.IsBelow q → p.body.top ≤ q.body.top := by
  have hbest : game.underFeet.minOn? (·.body.top.totalRank) = some p := h
  have hp : game.IsBelow p := mem_underFeet.mp (List.minOn?_mem hbest)
  refine ⟨hp, fun q hq => Single.le_of_totalRank_le hp.isNaN_top hq.isNaN_top ?_⟩
  have hle := List.apply_get_minOn?_le_of_mem (f := fun p => p.body.top.totalRank)
    (mem_underFeet.mpr hq)
  simpa only [hbest, Option.get_some] using hle

/-- Below the feet the pilot finds nothing only if there is nothing. -/
theorem nearestBelow?_eq_none (h : game.nearestBelow? = none) (p : Platform) :
    ¬ game.IsBelow p := by
  intro hp
  have hsome := List.isSome_minOn?_of_mem (f := fun p => p.body.top.totalRank)
    (mem_underFeet.mpr hp)
  have hnone : game.underFeet.minOn? (·.body.top.totalRank) = none := h
  rw [hnone] at hsome
  cases hsome

/-- **What the pilot is to steer at.** A platform within reach goes before all below the feet, the
lowest one first; without one it is a platform below the feet with none between, and without any it is
nothing. -/
inductive Targets (game : Game) : Option Platform → Prop
  | above {p : Platform} (hp : game.IsReachable p)
      (lowest : ∀ q, game.IsReachable q → ¬ p.body.top < q.body.top) : Targets game (some p)
  | below {p : Platform} (hnone : ∀ q, ¬ game.IsReachable q) (hp : game.IsBelow p)
      (highest : ∀ q, game.IsBelow q → ¬ q.body.top < p.body.top) : Targets game (some p)
  | nothing (hnone : ∀ q, ¬ game.IsReachable q) (hnothing : ∀ q, ¬ game.IsBelow q) :
      Targets game none

/-- With nothing within reach the pilot steers at what is nearest below the feet. -/
theorem targets_nearestBelow? (hnone : ∀ q, ¬ game.IsReachable q) :
    game.Targets game.nearestBelow? := by
  cases hbelow : game.nearestBelow? with
  | none => exact .nothing hnone (nearestBelow?_eq_none hbelow)
  | some p =>
    obtain ⟨hp, hle⟩ := nearestBelow?_eq_some hbelow
    refine .below hnone hp fun q hq hlt => ?_
    exact Single.not_le_of_lt hlt (hle q hq)

/-- **The pilot steers at what it is to steer at.** -/
theorem targets_pilotTarget? (game : Game) : game.Targets game.pilotTarget? := by
  unfold pilotTarget?
  split
  · next hrising =>
    cases habove : game.reachableAbove? with
    | none => exact targets_nearestBelow? (reachableAbove?_eq_none habove)
    | some p =>
      obtain ⟨hp, hle⟩ := reachableAbove?_eq_some hrising habove
      refine .above hp fun q hq hlt => ?_
      exact Single.not_le_of_lt hlt (hle q hq)
  · next hfalling => exact targets_nearestBelow? fun q hq => hfalling hq.rising

/-! ### The keys -/

/-- How far to the right of the player a platform is, from middle to middle. -/
def aside (game : Game) (p : Platform) : Single := p.body.centre.x - game.player.body.centre.x

/-- A platform is to the side when it is more than four units away. -/
theorem steerSlack_eq : steerSlack = 4 := rfl

/-- The pilot holds the left key while what it steers at is to the left. -/
theorem pilot_left_iff (hrunning : game.running = true) :
    game.pilot.left = true ↔ ∃ p, game.pilotTarget? = some p ∧ game.aside p < -4 := by
  simp only [pilot, hrunning, if_true]
  cases game.pilotTarget? with
  | none => simp
  | some p =>
    rw [decide_eq_true_iff, steerSlack_eq]
    simp only [Option.some.injEq, exists_eq_left', aside]

/-- The pilot holds the right key while what it steers at is to the right. -/
theorem pilot_right_iff (hrunning : game.running = true) :
    game.pilot.right = true ↔ ∃ p, game.pilotTarget? = some p ∧ 4 < game.aside p := by
  simp only [pilot, hrunning, if_true]
  cases game.pilotTarget? with
  | none => simp
  | some p =>
    rw [decide_eq_true_iff, steerSlack_eq]
    simp only [Option.some.injEq, exists_eq_left', aside]

/-- The pilot shoots while there is a monster over the middle of the player. -/
theorem pilot_shoot_iff (hrunning : game.running = true) :
    game.pilot.shoot = true ↔ ∃ m ∈ game.monsters, m.body.bottom < game.player.body.top ∧
      m.body.left < game.player.body.centre.x ∧ game.player.body.centre.x < m.body.right := by
  have hshoot : game.pilot.shoot = game.monsters.any game.isOverhead := by
    simp only [pilot, hrunning, if_true]
    cases game.pilotTarget? <;> rfl
  simp only [hshoot, List.any_eq_true, isOverhead, Bool.and_eq_true, decide_eq_true_eq, and_assoc]

/-- Nothing is to the left and to the right. -/
theorem not_aside_both (hleft : game.aside p < -4) : ¬ 4 < game.aside p := by
  intro hright
  have hcross : ¬ (4 : Single) < -4 := by decide +kernel
  exact hcross (Single.lt_trans hright hleft)

/-- The pilot never holds both keys. -/
theorem pilot_not_both (hrunning : game.running = true) :
    ¬ (game.pilot.left = true ∧ game.pilot.right = true) := by
  rw [pilot_left_iff hrunning, pilot_right_iff hrunning]
  rintro ⟨⟨p, hp, hleft⟩, q, hq, hright⟩
  obtain rfl : p = q := Option.some.inj (hp.symm.trans hq)
  exact not_aside_both hleft hright

/-! ### What the pilot looks at -/

/-- **All that the pilot looks at**: whether the game runs, the tuning, the player, the active platforms
and the monsters. -/
theorem pilot_congr {other : Game} (hrunning : other.running = game.running)
    (htuning : other.tuning = game.tuning) (hplayer : other.player = game.player)
    (hplatforms : other.activePlatforms = game.activePlatforms)
    (hmonsters : other.monsters = game.monsters) : other.pilot = game.pilot := by
  have htarget : other.pilotTarget? = game.pilotTarget? := by
    simp only [pilotTarget?, reachableAbove?, nearestBelow?, htuning, hplayer, hplatforms]
  have hoverhead : other.isOverhead = game.isOverhead := by
    funext m
    simp only [isOverhead, hplayer]
  simp only [pilot, hrunning, htarget, hplayer, hmonsters, hoverhead]

/-- **A frame of the pilot** is the frame under its controls, given as ordinary ones. -/
theorem tick_pilot {c : Controls} (hidle : c.idle = true) (dt : Single) :
    game.tick c dt = game.tick { game.pilot with idle := false } dt := by
  have hpilot : game.controls c = game.pilot := by
    rw [controls, if_pos hidle]
    exact pilot_congr rfl rfl rfl rfl rfl
  have hordinary : game.controls { game.pilot with idle := false } =
      { game.pilot with idle := false } := rfl
  rw [tick_eq, tick_eq, hpilot, hordinary]
  rfl

/-- **The pilot steers at the best platform.** In a running game it steers at the lowest platform
within reach of a rising player, or else at the highest one that is not above the feet, or else at
nothing. It holds the key to the side on which the middle of that platform is more than four units
away, and never both; and it shoots exactly while a monster is above the player's top and spans its
middle. Platforms that are not active make no difference to it. Running or over, a frame that it plays
is the frame under its controls with the pilot turned off. -/
theorem pilot_steers_at_best (game : Game) :
    (game.running = true →
      game.Targets game.pilotTarget? ∧
      (game.pilot.left = true ↔ ∃ p, game.pilotTarget? = some p ∧
        p.body.centre.x - game.player.body.centre.x < -4) ∧
      (game.pilot.right = true ↔ ∃ p, game.pilotTarget? = some p ∧
        4 < p.body.centre.x - game.player.body.centre.x) ∧
      ¬ (game.pilot.left = true ∧ game.pilot.right = true) ∧
      (game.pilot.shoot = true ↔ ∃ m ∈ game.monsters, m.body.bottom < game.player.body.top ∧
        m.body.left < game.player.body.centre.x ∧ game.player.body.centre.x < m.body.right)) ∧
    (∀ platforms : List Platform,
      platforms.filter (·.active) = game.platforms.filter (·.active) →
        { game with platforms }.pilot = game.pilot) ∧
    ∀ (c : Controls) (dt : Single), c.idle = true →
      game.tick c dt = game.tick { game.pilot with idle := false } dt := by
  refine ⟨fun hrunning => ?_, fun platforms hactive => ?_, fun c dt hidle => tick_pilot hidle dt⟩
  · exact ⟨game.targets_pilotTarget?, pilot_left_iff hrunning, pilot_right_iff hrunning,
      pilot_not_both hrunning, pilot_shoot_iff hrunning⟩
  · exact pilot_congr rfl rfl rfl hactive rfl

/-- A player that has just jumped off the first platform, with two platforms within reach, a broken one
that would be nearer, and a monster overhead. -/
def beneathTwo : Game where
  seed := 0
  generator := .ofSeed 0
  tuning := .standard
  player := { Player.spawn with velocity := ⟨0, -12⟩ }
  platforms := [.anchor, .still 20 440 .spring, .free (.still 100 500 .breakable),
    .still 300 460 .normal]
  monsters := [.spawn 220 300 1 0]
  projectiles := []
  camera := 0
  score := 0
  landings := 1
  lastLanded := some 0
  running := true
  lastTime := none
  ticks := 9
  events := [.landed 0 .normal]

/-- The pilot steers at the lower of the two, to the right, and shoots; it would do the same without
the broken one; and its frame is that of the two keys held down by hand. -/
theorem pilot_steers_at_best_beneath_two :
    beneathTwo.Targets (some (.still 300 460 .normal)) ∧
    beneathTwo.pilot.right = true ∧ ¬ beneathTwo.pilot.left = true ∧
    beneathTwo.pilot.shoot = true ∧
    { beneathTwo with
      platforms := [.anchor, .still 20 440 .spring, .still 300 460 .normal] }.pilot =
        beneathTwo.pilot ∧
    beneathTwo.tick { idle := true } 1 = beneathTwo.tick { right := true, shoot := true } 1 := by
  obtain ⟨hkeys, hactive, hframe⟩ := pilot_steers_at_best beneathTwo
  obtain ⟨htargets, -, hright, hboth, hshoot⟩ := hkeys rfl
  have htarget : beneathTwo.pilotTarget? = some (.still 300 460 .normal) := by decide +kernel
  have hheld : beneathTwo.pilot.right = true :=
    hright.mpr ⟨_, htarget, by decide +kernel⟩
  have hoverhead : beneathTwo.pilot.shoot = true :=
    hshoot.mpr ⟨.spawn 220 300 1 0, List.mem_singleton_self _, by decide +kernel⟩
  have hpilot : { beneathTwo.pilot with idle := false } = { right := true, shoot := true } := by
    decide +kernel
  refine ⟨htarget ▸ htargets, hheld, fun hleft => hboth ⟨hleft, hheld⟩, hoverhead, ?_, ?_⟩
  · exact hactive _ rfl
  · exact (hframe { idle := true } 1 rfl).trans (by rw [hpilot])

end Game

end Platformer
