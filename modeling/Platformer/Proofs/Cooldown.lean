import Platformer.Proofs.History
import Platformer.Proofs.Playable
import Platformer.Proofs.Snapshot

/-! # The pace of shots

A shot starts the shooting animation, and no further shot is fired until the animation has been
counted down. The countdown is the first thing that a frame does to the animation and the shot the
last, and nothing else of a run touches it, so what a shot starts is what the frames after it count
down.

* **`Player.animation`** — the part of the player that the countdown and the shots change.
* **`Player.Expired`**, **`Player.Settled`** — a countdown that leaves the player free, and how that
  is read off the time alone.
* **`Game.CanFire`**, **`Game.Paced`**, **`Game.paced_of_tick`** — what a frame fires and what it
  leaves of the animation.
* **`RunsOut`**, **`Game.runsOut_of_shot`** — a countdown over frame times, and that of an animation
  until the next shot.
* **`Game.shots_are_paced`** — how far apart shots are, when a frame fires one, and that a refused
  shot changes nothing. -/

namespace Platformer

namespace Player

/-! ### The animation -/

/-- The shooting animation: whether it runs, and the time left of it. -/
def animation (p : Player) : Bool × Single := (p.shooting, p.timer)

/-- Whether the countdown of a frame time leaves the player free to fire. -/
def Expired (p : Player) (dt : Single) : Prop := p.shooting = true → p.timer - dt ≤ 0

/-- The animation has no time left when it does not run. -/
def Settled (p : Player) : Prop := p.shooting = false → p.timer = 0

section

variable {p : Player} {dt : Single}

/-- Steering has no part in the animation. -/
@[simp] theorem animation_steer (p : Player) (target : Single) (t : Tuning) (dt : Single) :
    (p.steer target t dt).animation = p.animation := by
  simp only [steer]
  split <;> rfl

/-- Motion has no part in the animation. -/
@[simp] theorem animation_integrate (p : Player) (gravity dt : Single) :
    (p.integrate gravity dt).animation = p.animation := rfl

/-- The countdown depends on the animation alone. -/
theorem animation_coolDown (p : Player) (dt : Single) : (p.coolDown dt).animation =
    if p.animation.1 then
      if p.animation.2 - dt ≤ 0 then (false, 0) else (true, p.animation.2 - dt)
    else p.animation := by
  rw [coolDown]
  by_cases hshooting : p.shooting = true
  · simp only [animation, hshooting, if_true]
    split
    · rfl
    · simp
  · simp [animation, hshooting]

/-- The countdown is the same for players with the same animation. -/
theorem animation_coolDown_congr {q : Player} (h : q.animation = p.animation) :
    (q.coolDown dt).animation = (p.coolDown dt).animation := by
  rw [animation_coolDown, h, animation_coolDown]

/-- A countdown that has expired frees the player. -/
theorem shooting_coolDown_eq_false_iff : (p.coolDown dt).shooting = false ↔ p.Expired dt := by
  rw [coolDown, Expired]
  by_cases hshooting : p.shooting = true
  · by_cases hover : p.timer - dt ≤ 0 <;> simp [hshooting, hover]
  · simp [hshooting]

/-- A countdown that has not expired goes on with less time. -/
theorem animation_coolDown_of_not_expired (h : ¬ p.Expired dt) :
    (p.coolDown dt).animation = (true, p.timer - dt) := by
  obtain ⟨hshooting, hleft⟩ := Classical.not_imp.mp h
  rw [animation_coolDown]
  simp [animation, hshooting, hleft]

/-- Whether a player is settled depends on the animation alone. -/
theorem Settled.congr {q : Player} (h : p.Settled) (hsame : q.animation = p.animation) :
    q.Settled := by
  obtain ⟨hshooting, htimer⟩ := Prod.ext_iff.mp hsame
  intro hfree
  exact htimer.trans (h (hshooting.symm.trans hfree))

/-- A settled player stays settled through the countdown. -/
theorem Settled.coolDown (h : p.Settled) (dt : Single) : (p.coolDown dt).Settled := by
  intro hfree
  rw [Player.coolDown]
  by_cases hshooting : p.shooting = true
  · have hover := shooting_coolDown_eq_false_iff.mp hfree hshooting
    simp only [if_pos hshooting, if_pos hover]
  · rw [if_neg hshooting]
    exact h (by simpa using hshooting)

/-- **A settled player is free exactly when no time is left.** -/
theorem Settled.timer_coolDown_le_iff (h : p.Settled) :
    (p.coolDown dt).timer ≤ 0 ↔ p.Expired dt := by
  have hzero : (0 : Single) ≤ 0 := by decide +kernel
  constructor
  · intro hover
    by_contra hleft
    have htimer : (p.coolDown dt).timer = p.timer - dt :=
      congrArg Prod.snd (animation_coolDown_of_not_expired hleft)
    exact (Classical.not_imp.mp hleft).2 (htimer ▸ hover)
  · intro hexpired
    rw [h.coolDown dt (shooting_coolDown_eq_false_iff.mpr hexpired)]
    exact hzero

end

end Player

namespace Game

variable {game next last : Game} {c : Controls} {dt time : Single} {notices : List Notice}

/-! ### Shots -/

/-- **A shot is refused** while the animation runs, and when there is no room for it. -/
theorem shoot?_eq_none_iff : game.shoot? = none ↔
    game.player.shooting = true ∨ maxProjectiles ≤ game.projectiles.length := by
  by_cases hshooting : game.player.shooting = true
  · simp [shoot?, hshooting]
  · by_cases hroom : game.projectiles.length < maxProjectiles <;>
      simp [shoot?, addProjectile?, hshooting, hroom, Nat.le_of_not_lt]

/-- A shot that is fired is reported. -/
theorem events_shoot? (h : game.shoot? = some next) : next.events = game.events ++ [.shotFired] := by
  obtain ⟨shot, timer, -, rfl⟩ := shoot?_eq_some h
  rfl

/-- **A call for a shot changes nothing exactly when it is refused.** -/
theorem perform_shoot_eq_self_iff :
    game.perform .shoot = .ok game ↔ game.shoot? = none := by
  rw [perform]
  cases hshot : game.shoot? with
  | none => simp
  | some next =>
    have hlonger : next ≠ game := by
      intro hsame
      have hevents := events_shoot? hshot
      rw [hsame] at hevents
      simpa using congrArg List.length hevents
    simpa using hlonger

/-- What makes a frame fire a shot: the controls ask for it, the countdown has expired, and there is
room. -/
structure CanFire (game : Game) (c : Controls) (time : Single) : Prop where
  asked : c.shoot = true
  expired : game.player.Expired time
  room : game.projectiles.length < maxProjectiles

/-- The game in a frame when the controls may fire: steered and counted down. -/
def ready (game : Game) (c : Controls) (time : Single) : Game :=
  { game with
    player := (game.player.steer (c.targetVelocity game.tuning) game.tuning time).coolDown time }

/-- Steering has no part in the countdown. -/
theorem animation_ready (game : Game) (c : Controls) (time : Single) :
    (game.ready c time).player.animation = (game.player.coolDown time).animation :=
  Player.animation_coolDown_congr (Player.animation_steer ..)

/-- A game that is ready fires when the countdown has expired and there is room. -/
theorem shoot?_ready_eq_none_iff : (game.ready c time).shoot? = none ↔
    ¬ (game.player.Expired time ∧ game.projectiles.length < maxProjectiles) := by
  have hshooting : (game.ready c time).player.shooting = (game.player.coolDown time).shooting :=
    congrArg Prod.fst (animation_ready game c time)
  rw [shoot?_eq_none_iff, hshooting, ← Player.shooting_coolDown_eq_false_iff, ← Nat.not_lt,
    ← Bool.not_eq_false, ← not_and_or]
  rfl

/-- The player's stage is readiness, a shot if one is wanted, and motion. -/
theorem act_eq_ready (game : Game) (c : Controls) (time : Single) : game.act c time =
    let shot := if c.shoot then (game.ready c time).shoot?.getD (game.ready c time)
      else game.ready c time
    { shot with player := shot.player.integrate shot.tuning.gravity time } := rfl

/-- **A frame that can fire does**, and the animation starts with its full time. -/
theorem act_of_canFire (h : game.CanFire c time) :
    (game.act c time).events = game.events ++ [.shotFired] ∧
      (game.act c time).player.animation = (true, game.tuning.shootCooldown) := by
  have hfires : (game.ready c time).shoot? ≠ none := by
    rw [Ne, shoot?_ready_eq_none_iff, not_not]
    exact ⟨h.expired, h.room⟩
  obtain ⟨fired, hfired⟩ := Option.ne_none_iff_exists'.mp hfires
  have hplayer := player_shoot? hfired
  have hevents : fired.events = (game.ready c time).events ++ [.shotFired] := events_shoot? hfired
  simp only [act_eq_ready, if_pos h.asked, hfired, Option.getD_some, Player.animation_integrate]
  rw [hplayer]
  exact ⟨hevents, rfl⟩

/-- **A frame that cannot fire** is the same as one that does not want to. -/
theorem act_of_not_canFire (h : ¬ game.CanFire c time) :
    game.act c time = game.act { c with shoot := false } time := by
  by_cases hasked : c.shoot = true
  · have hrefused : (game.ready c time).shoot? = none :=
      shoot?_ready_eq_none_iff.mpr fun hfree => h ⟨hasked, hfree.1, hfree.2⟩
    rw [act_eq_ready, if_pos hasked, hrefused]
    rfl
  · have hsame : { c with shoot := false } = c := by
      rw [← Bool.eq_false_of_not_eq_true hasked]
    rw [hsame]

/-- A frame that does not want to fire reports no shot and counts the animation down. -/
theorem act_of_no_wish (game : Game) (c : Controls) (time : Single) :
    (game.act { c with shoot := false } time).events = game.events ∧
      (game.act { c with shoot := false } time).player.animation =
        (game.player.coolDown time).animation := by
  rw [act_eq_ready]
  exact ⟨rfl, animation_ready game _ time⟩

/-- **A refused shot changes nothing** of a frame. -/
theorem step_of_not_canFire (htime : clampTime dt game.tuning.frameTimeMax = .ok time)
    (h : ¬ game.CanFire c time) : game.step c dt = game.step { c with shoot := false } dt := by
  have hcounted : ¬ { game with ticks := game.ticks + 1 }.CanFire c time :=
    fun hfires => h ⟨hfires.asked, hfires.expired, hfires.room⟩
  simp only [step, htime, bind, Except.bind, act_of_not_canFire hcounted]

/-! ### Frames -/

/-- What a frame under controls does to the pace of shots. -/
structure Paced (game next : Game) (c : Controls) (time : Single) : Prop where
  shot_iff : .shotFired ∈ next.events ↔ game.CanFire c time
  fired : game.CanFire c time → next.player.animation = (true, game.tuning.shootCooldown)
  counted : ¬ game.CanFire c time →
    next.player.animation = (game.player.coolDown time).animation

/-- A landing has no part in the animation. -/
theorem animation_land (game : Game) : game.land.2.player.animation = game.player.animation := by
  cases h : firstLanding? { game.player with onGround := false } game.platforms with
  | none => rw [land_of_none h]; rfl
  | some landing => rw [land_of_some h]; rfl

/-- **All of a frame after the player's stage** has no part in shots and in the animation. -/
theorem animation_of_scroll {acted scrolled : Game} {reports : List Notice}
    (h : acted.scroll time = .ok (scrolled, reports)) :
    (.shotFired ∈ (scrolled.collide time).conclude.events ↔ .shotFired ∈ acted.events) ∧
      (scrolled.collide time).conclude.player.animation = acted.player.animation := by
  obtain ⟨filling, spawned, generator, -, -, rfl⟩ := scroll_eq_ok h
  rw [conclude_eq, collide_eq]
  refine ⟨?_, animation_land _⟩
  simp only [events_land]
  cases spawned <;> split <;> simp

/-- **The pace of shots in a frame of a running game.** -/
theorem paced_of_step (h : { game with events := [] }.step c dt = .ok (next, notices)) :
    ∃ time, clampTime dt game.tuning.frameTimeMax = .ok time ∧ game.Paced next c time := by
  obtain ⟨time, scrolled, reports, htime, hscroll, rfl⟩ := step_eq_ok h
  obtain ⟨hevents, hanimation⟩ := animation_of_scroll hscroll
  refine ⟨time, htime, ?_⟩
  by_cases hfires : game.CanFire c time
  · have hcounted : { game with events := [], ticks := game.ticks + 1 }.CanFire c time :=
      ⟨hfires.asked, hfires.expired, hfires.room⟩
    obtain ⟨hshot, hstarted⟩ := act_of_canFire hcounted
    refine ⟨?_, fun _ => hanimation.trans hstarted, fun hnot => absurd hfires hnot⟩
    rw [hevents, hshot]
    simp [hfires]
  · have hcounted : ¬ { game with events := [], ticks := game.ticks + 1 }.CanFire c time :=
      fun hcan => hfires ⟨hcan.asked, hcan.expired, hcan.room⟩
    obtain ⟨hquiet, hleft⟩ :=
      act_of_no_wish { game with events := [], ticks := game.ticks + 1 } c time
    rw [← act_of_not_canFire hcounted] at hquiet hleft
    refine ⟨?_, fun hcan => absurd hcan hfires, fun _ => hanimation.trans hleft⟩
    rw [hevents, hquiet]
    simp [hfires]

/-- The same of a frame under given controls or the pilot's. -/
theorem paced_of_tick (hrunning : game.running = true)
    (h : game.tick c dt = .ok (next, notices)) :
    ∃ time, clampTime dt game.tuning.frameTimeMax = .ok time ∧
      game.Paced next (game.controls c) time := by
  rw [tick_eq, if_pos hrunning] at h
  exact paced_of_step h

/-- Only a running game fires. -/
theorem running_of_shot (h : game.tick c dt = .ok (next, notices))
    (hshot : .shotFired ∈ next.events) : game.running = true := by
  cases frameEffect_of_tick h with
  | played hrunning htime hsetup => exact hrunning
  | still hover hkeep => cases hshot
  | restarted hover hrestart hfresh hevents =>
    rw [hevents] at hshot
    cases List.mem_singleton.mp hshot

/-! ### The time of the animation -/

/-- A frame leaves a settled player settled. -/
theorem Paced.settled (h : game.Paced next c time) (hsettled : game.player.Settled) :
    next.player.Settled := by
  by_cases hfires : game.CanFire c time
  · intro hfree
    have hshooting : next.player.shooting = true := congrArg Prod.fst (h.fired hfires)
    rw [hshooting] at hfree
    cases hfree
  · exact (hsettled.coolDown time).congr (h.counted hfires)

/-- A call leaves a settled player settled. -/
theorem settled_of_effect {call : Call} (hsettled : game.player.Settled)
    (h : Effect game call next) : next.player.Settled := by
  cases h with
  | frame hrunning hstep =>
    obtain ⟨time, -, hpaced⟩ := paced_of_step hstep
    exact hpaced.settled hsettled
  | newRun hbegins hfresh =>
    rw [hfresh.player]
    exact fun _ => rfl
  | shot hshot =>
    rw [player_shoot? hshot]
    exact fun hfree => nomatch hfree
  | frozen hover hkeep => exact hsettled
  | clock => exact hsettled
  | refused => exact hsettled
  | compacted => exact hsettled

/-- **In every game the animation has no time left when it does not run.** -/
theorem settled_of_play {seed : UInt64} {t : Tuning} {calls : List Call}
    (hplay : play seed t calls = .ok game) : game.player.Settled := by
  refine play_preserves (P := fun game => game.player.Settled) ?_ settled_of_effect hplay
  intro first hfresh
  rw [hfresh.player]
  exact fun _ => rfl

end Game

/-! ### Countdowns -/

/-- A countdown from which times are taken in order comes to zero. -/
def RunsOut (timer : Single) : List Single → Prop
  | [] => False
  | time :: times => timer - time ≤ 0 ∨ RunsOut (timer - time) times

/-- The times that frames under inputs take, each kept within an upper bound. -/
def TakeTimes (upper : Single) : List (Controls × Single) → List Single → Prop :=
  List.Forall₂ fun input time => Game.clampTime input.2 upper = .ok time

namespace Game

variable {game next last : Game} {inputs : List (Controls × Single)} {frames : List Frame}
  {times : List Single} {f : Frame}

/-- A game starts under the tuning that is asked for. -/
theorem tuning_of_start {seed : UInt64} {t : Tuning} {notices : List Notice}
    (h : start seed t = .ok (game, notices)) : game.tuning = t := by
  obtain ⟨layout, -, hgame⟩ := bind_eq_ok h
  cases hgame
  rfl

/-- Times can be kept within a bound when one time can. -/
theorem exists_takeTimes {upper dt time : Single} (h : clampTime dt upper = .ok time)
    (inputs : List (Controls × Single)) : ∃ times, TakeTimes upper inputs times := by
  have hbound : 0 ≤ upper := by
    by_contra hnot
    unfold clampTime Single.clamp? at h
    rw [if_neg hnot] at h
    cases h
  induction inputs with
  | nil => exact ⟨[], .nil⟩
  | cons input inputs ih =>
    obtain ⟨times, htimes⟩ := ih
    obtain ⟨first, hfirst⟩ := exists_clampTime hbound input.2
    exact ⟨first :: times, .cons hfirst htimes⟩

/-- **A frame of a history** is a frame under its input, and the rest of the history comes after it. -/
theorem tick_of_film (hfilm : game.film inputs = .ok (last, frames)) {n : Nat}
    (hf : frames[n]? = some f) :
    ∃ c dt notices, f.before.tick c dt = .ok (f.after, notices) ∧
      f.before.tuning = game.tuning ∧
      f.after.film (inputs.drop (n + 1)) = .ok (last, frames.drop (n + 1)) := by
  induction inputs generalizing game frames n with
  | nil =>
    cases hfilm
    cases hf
  | cons input inputs ih =>
    obtain ⟨c, dt⟩ := input
    obtain ⟨next, notices, later, htick, hlater, rfl⟩ := exists_of_film_cons hfilm
    cases n with
    | zero =>
      cases hf
      exact ⟨c, dt, notices, htick, rfl, hlater⟩
    | succ n =>
      obtain ⟨c', dt', notices', htick', htuning, hfilm'⟩ := ih hlater hf
      exact ⟨c', dt', notices', htick', htuning.trans (tuning_of_tick htick), hfilm'⟩

/-- **No shot is fired between the end of a run and the restart.** -/
theorem no_shot_of_over (hfilm : game.film inputs = .ok (last, frames))
    (hover : game.running = false) {n : Nat} (hf : frames[n]? = some f)
    (hrun : ∀ k g, k < n → frames[k]? = some g → .restarted ∉ g.after.events) :
    .shotFired ∉ f.after.events := by
  induction inputs generalizing game frames n with
  | nil =>
    cases hfilm
    cases hf
  | cons input inputs ih =>
    obtain ⟨c, dt⟩ := input
    obtain ⟨next, notices, later, htick, hlater, rfl⟩ := exists_of_film_cons hfilm
    cases n with
    | zero =>
      cases hf
      intro hshot
      rw [running_of_shot htick hshot] at hover
      cases hover
    | succ n =>
      have hkept : .restarted ∉ next.events := hrun 0 ⟨game, next⟩ n.succ_pos rfl
      refine ih hlater ?_ hf fun k g hk hg => hrun (k + 1) g (Nat.succ_lt_succ hk) hg
      cases frameEffect_of_tick htick with
      | played hrunning htime hsetup =>
        rw [hover] at hrunning
        cases hrunning
      | still hover' hkeep => exact hover
      | restarted hover' hrestart hfresh hevents =>
        rw [hevents] at hkept
        exact absurd (List.mem_singleton_self _) hkept

/-- **An animation has been counted down when the next shot of its run is fired**: the times of the
frames from here to the shot take all of it away. -/
theorem runsOut_of_shot (hfilm : game.film inputs = .ok (last, frames))
    (hshooting : game.player.shooting = true) {n : Nat} (hf : frames[n]? = some f)
    (hshot : .shotFired ∈ f.after.events)
    (hrun : ∀ k g, k < n → frames[k]? = some g → .restarted ∉ g.after.events)
    (htimes : TakeTimes game.tuning.frameTimeMax (inputs.take (n + 1)) times) :
    RunsOut game.player.timer times := by
  induction inputs generalizing game frames n times with
  | nil =>
    cases hfilm
    cases hf
  | cons input inputs ih =>
    have hrunning : game.running = true := by
      by_contra hover
      exact no_shot_of_over hfilm (by simpa using hover) hf hrun hshot
    obtain ⟨c, dt⟩ := input
    obtain ⟨next, notices, later, htick, hlater, rfl⟩ := exists_of_film_cons hfilm
    obtain ⟨time, htime, hpaced⟩ := paced_of_tick hrunning htick
    rw [List.take_succ_cons] at htimes
    obtain ⟨time', rest, htime', hrest', rfl⟩ := List.forall₂_cons_left_iff.mp htimes
    obtain rfl : time = time' := Except.ok.inj (htime.symm.trans htime')
    -- before the time is up nothing can be fired, and the animation goes on with what is left
    by_cases hover : game.player.timer - time ≤ 0
    · exact Or.inl hover
    · have hwaits : ¬ game.player.Expired time := fun hexpired => hover (hexpired hshooting)
      have hleft := (hpaced.counted fun hfires => hwaits hfires.expired).trans
        (Player.animation_coolDown_of_not_expired hwaits)
      obtain ⟨hshooting', htimer'⟩ := Prod.ext_iff.mp hleft
      cases n with
      | zero =>
        cases hf
        exact absurd (hpaced.shot_iff.mp hshot).expired hwaits
      | succ n =>
        have hlater' := ih hlater hshooting' hf
          (fun k g hk hg => hrun (k + 1) g (Nat.succ_lt_succ hk) hg)
          ((tuning_of_tick htick).symm ▸ hrest')
        rw [show next.player.timer = game.player.timer - time from htimer'] at hlater'
        exact Or.inr hlater'

/-- **Two shots without a restart between them** are at least the cooldown apart. -/
theorem runsOut_of_shots {seed : UInt64} {t : Tuning} {g : Frame}
    (hfilm : filmFrom seed t inputs = .ok (last, frames)) {i j : Nat} (hlt : i < j)
    (hf : frames[i]? = some f) (hg : frames[j]? = some g) (hfirst : .shotFired ∈ f.after.events)
    (hsecond : .shotFired ∈ g.after.events)
    (hrun : ∀ k h, i < k → k < j → frames[k]? = some h → .restarted ∉ h.after.events) :
    ∃ times, TakeTimes t.frameTimeMax ((inputs.drop (i + 1)).take (j - i)) times ∧
      RunsOut t.shootCooldown times := by
  obtain ⟨⟨first, notices⟩, hstart, hfilm⟩ := bind_eq_ok hfilm
  obtain ⟨c, dt, notices, htick, htuning, hlater⟩ := tick_of_film hfilm hf
  rw [tuning_of_start hstart] at htuning
  -- the first shot starts the animation, and the history after it is that of its countdown
  obtain ⟨time, htime, hpaced⟩ := paced_of_tick (running_of_shot htick hfirst) htick
  have hstarted := hpaced.fired (hpaced.shot_iff.mp hfirst)
  obtain ⟨hshooting, htimer⟩ := Prod.ext_iff.mp hstarted
  have hafter : f.after.tuning = t := (tuning_of_tick htick).trans htuning
  rw [htuning] at htime
  obtain ⟨times, htimes⟩ := exists_takeTimes htime ((inputs.drop (i + 1)).take (j - i))
  refine ⟨times, htimes, ?_⟩
  obtain ⟨n, rfl⟩ := Nat.exists_eq_add_of_lt hlt
  have hplace (k : Nat) : (frames.drop (i + 1))[k]? = frames[i + k + 1]? := by
    rw [List.getElem?_drop, Nat.add_right_comm]
  rw [Nat.add_assoc, Nat.add_sub_cancel_left, ← hafter] at htimes
  have hout := runsOut_of_shot hlater hshooting ((hplace n).trans hg) hsecond
    (fun k h hk hh => hrun (i + k + 1) h (by omega) (by omega) ((hplace k).symm.trans hh)) htimes
  rwa [show f.after.player.timer = t.shootCooldown from htimer.trans (by rw [htuning])] at hout

/-- **Shots are paced.** From one shot to the next without a restart between them, the times of the
frames after the first one, taken off the cooldown in order, bring it to zero. A frame of a running
game fires exactly when its controls ask for it, its countdown has freed the player and the store has
room; and in every game that is played, the countdown has freed the player when no time is left of
it. A shot is refused while the animation runs and when the store is full, and then it changes
nothing, whether it was asked for from outside or by a frame. -/
theorem shots_are_paced :
    (∀ {seed : UInt64} {t : Tuning} {inputs : List (Controls × Single)} {last : Game}
        {frames : List Frame}, filmFrom seed t inputs = .ok (last, frames) →
      ∀ {i j : Nat} {f g : Frame}, i < j → frames[i]? = some f → frames[j]? = some g →
        .shotFired ∈ f.after.events → .shotFired ∈ g.after.events →
        (∀ k h, i < k → k < j → frames[k]? = some h → .restarted ∉ h.after.events) →
        ∃ times, TakeTimes t.frameTimeMax ((inputs.drop (i + 1)).take (j - i)) times ∧
          RunsOut t.shootCooldown times) ∧
    (∀ {game next : Game} {c : Controls} {dt : Single} {notices : List Notice},
      game.running = true → game.tick c dt = .ok (next, notices) →
      ∃ time, clampTime dt game.tuning.frameTimeMax = .ok time ∧
        (.shotFired ∈ next.events ↔ (game.controls c).shoot = true ∧
          (game.player.coolDown time).shooting = false ∧
          game.projectiles.length < maxProjectiles) ∧
        ∀ seed t calls, play seed t calls = .ok game →
          (.shotFired ∈ next.events ↔ (game.controls c).shoot = true ∧
            (game.player.coolDown time).timer ≤ 0 ∧ game.projectiles.length < maxProjectiles)) ∧
    ∀ game : Game,
      (game.shoot? = none ↔
        game.player.shooting = true ∨ maxProjectiles ≤ game.projectiles.length) ∧
      (game.perform .shoot = .ok game ↔ game.shoot? = none) ∧
      ∀ {c : Controls} {dt time : Single}, clampTime dt game.tuning.frameTimeMax = .ok time →
        ((game.player.coolDown time).shooting = true ∨
          maxProjectiles ≤ game.projectiles.length) →
        game.step c dt = game.step { c with shoot := false } dt := by
  refine ⟨fun hfilm => runsOut_of_shots hfilm, ?_, fun game => ⟨shoot?_eq_none_iff,
    perform_shoot_eq_self_iff, fun htime hrefused => step_of_not_canFire htime fun hfires => ?_⟩⟩
  · intro game next c dt notices hrunning htick
    obtain ⟨time, htime, hpaced⟩ := paced_of_tick hrunning htick
    have hshot : .shotFired ∈ next.events ↔ (game.controls c).shoot = true ∧
        game.player.Expired time ∧ game.projectiles.length < maxProjectiles :=
      hpaced.shot_iff.trans ⟨fun h => ⟨h.asked, h.expired, h.room⟩, fun h => ⟨h.1, h.2.1, h.2.2⟩⟩
    refine ⟨time, htime, ?_, fun seed t calls hplay => ?_⟩
    · rwa [Player.shooting_coolDown_eq_false_iff]
    · rwa [(settled_of_play hplay).timer_coolDown_le_iff]
  · rcases hrefused with hbusy | hfull
    · rw [Player.shooting_coolDown_eq_false_iff.mpr hfires.expired] at hbusy
      cases hbusy
    · exact absurd hfires.room (Nat.not_lt.mpr hfull)

/-- At six frames at a time a player who keeps asking fires in the first frame and, the cooldown of
ten being over, in the third one; a game that has just fired refuses a shot, in a frame and from
outside. -/
theorem shots_are_paced_of_seven :
    (∃ last frames f g times,
      filmFrom 7 .standard (List.replicate 3 ({ shoot := true }, 6)) = .ok (last, frames) ∧
      frames[0]? = some f ∧ frames[2]? = some g ∧ .shotFired ∈ f.after.events ∧
      .shotFired ∈ g.after.events ∧
      TakeTimes Tuning.standard.frameTimeMax (List.replicate 2 ({ shoot := true }, 6)) times ∧
      RunsOut Tuning.standard.shootCooldown times) ∧
    ∃ game next notices, play 7 .standard [] = .ok game ∧ game.running = true ∧
      game.tick { shoot := true } 1 = .ok (next, notices) ∧ .shotFired ∈ next.events ∧
      next.shoot? = none ∧ next.perform .shoot = .ok next ∧
      next.step { shoot := true } 1 = next.step {} 1 := by
  constructor
  · obtain ⟨⟨last, frames⟩, hfilm, hcheck⟩ := exists_eq_ok_of_any
      (x := filmFrom 7 .standard (List.replicate 3 ({ shoot := true }, 6)))
      (fun r => r.2[0]?.any (·.after.events.contains .shotFired) &&
        r.2[2]?.any (·.after.events.contains .shotFired) && !r.2[1]?.any Frame.restarts)
      (by decide +kernel)
    simp only [Bool.and_eq_true, Option.any_eq_true, Bool.not_eq_true', Option.any_eq_false,
      List.contains_iff_mem] at hcheck
    obtain ⟨⟨⟨f, hf, hfirst⟩, g, hg, hsecond⟩, hkept⟩ := hcheck
    obtain ⟨times, htimes, hout⟩ := shots_are_paced.1 hfilm (by decide : 0 < 2) hf hg hfirst hsecond
      (fun k h hk hk' hh => by
        obtain rfl : k = 1 := by omega
        simpa [Frame.restarts] using hkept h hh)
    exact ⟨last, frames, f, g, times, hfilm, hf, hg, hfirst, hsecond, htimes, hout⟩
  · obtain ⟨game, hplay, hcheck⟩ := exists_of_play 7 .standard []
      (fun game => game.running && decide ((game.player.coolDown 1).timer ≤ 0) &&
        decide (game.projectiles.length < maxProjectiles) &&
        decide (clampTime 1 game.tuning.frameTimeMax = .ok 1) &&
        (game.tick { shoot := true } 1).toOption.any fun r => r.1.player.shooting &&
          decide (clampTime 1 r.1.tuning.frameTimeMax = .ok 1) && (r.1.player.coolDown 1).shooting)
      (by decide +kernel)
    simp only [Bool.and_eq_true, decide_eq_true_eq] at hcheck
    obtain ⟨⟨⟨⟨hrunning, hover⟩, hroom⟩, hone⟩, hnext⟩ := hcheck
    obtain ⟨⟨next, notices⟩, htick, hbusy⟩ := exists_eq_ok_of_any _ hnext
    simp only [Bool.and_eq_true, decide_eq_true_eq] at hbusy
    obtain ⟨⟨hshooting, hone'⟩, hwaits⟩ := hbusy
    obtain ⟨time, htime, -, hshot⟩ := shots_are_paced.2.1 hrunning htick
    obtain rfl : 1 = time := Except.ok.inj (hone.symm.trans htime)
    obtain ⟨hrefused, hsame, hframe⟩ := shots_are_paced.2.2 next
    have hnone := hrefused.mpr (Or.inl hshooting)
    exact ⟨game, next, notices, hplay, hrunning, htick,
      (hshot _ _ _ hplay).mpr ⟨by rw [controls]; rfl, hover, hroom⟩, hnone, hsame.mpr hnone,
      hframe hone' (Or.inl hwaits)⟩

end Game

end Platformer
