import Platformer.Tick

/-! # Runs of calls

A game lives through calls: frames, clock readings, shots and restarts asked for from outside, and
compactions. This file says what a run of calls is and what one call can do, so that an invariant of
all runs is settled by looking at the effects of a single call.

* **`Call`**, **`Game.perform`** — the calls and their results.
* **`Game.run`**, **`Game.play`** — a sequence of calls, which stops at the first fault, on a game
  and from the start of one.
* **`Game.begins`**, **`Game.keepsRun`** — whether a call begins a new run, and whether a sequence
  of calls begins none.
* **`Game.Fresh`** — the games at the beginning of a run, after a start or a restart.
* **`Game.Effect`**, **`Game.effect_of_perform`** — all that a call can do.
* **`Game.play_preserves`**, **`Game.run_relates`** — invariants of all games that are played, and
  relations between the games of one run. -/

namespace Platformer

/-- What may be asked of a game. -/
inductive Call where
  /-- A frame under given controls and a frame time. -/
  | tick (c : Controls) (dt : Single)
  /-- A reading of the clock in milliseconds. -/
  | advanceClock (now : Nat)
  | shoot
  | restart
  | compact
deriving DecidableEq

namespace Game

/-! ### Calls and runs -/

/-- The game after a call. A shot that is refused leaves the game as it is. -/
def perform (game : Game) : Call → Except Fault Game
  | .tick c dt => do return (← game.tick c dt).1
  | .advanceClock now => do return (← game.advanceClock now).2
  | .shoot => .ok (game.shoot?.getD game)
  | .restart => do return (← game.restart).1
  | .compact => .ok game.compact

/-- The game after calls in order. -/
def run (game : Game) : List Call → Except Fault Game
  | [] => .ok game
  | call :: calls => do (← game.perform call).run calls

/-- The game that a start and calls in order lead to. -/
def play (seed : UInt64) (t : Tuning) (calls : List Call) : Except Fault Game := do
  (← start seed t).1.run calls

/-- The controls of a frame: those of the pilot when the given ones are idle. -/
def controls (game : Game) (c : Controls) : Controls :=
  if c.idle then { game with events := [] }.pilot else c

/-- Whether a call begins a new run. -/
def begins (game : Game) : Call → Bool
  | .tick c _ => !game.running && (game.controls c).restart
  | .restart => true
  | _ => false

/-- Whether calls in order succeed and none of them begins a new run. -/
def keepsRun (game : Game) : List Call → Bool
  | [] => true
  | call :: calls => !game.begins call && match game.perform call with
    | .ok next => next.keepsRun calls
    | .error _ => false

/-- Calls that keep the run succeed. -/
theorem exists_run_of_keepsRun {game : Game} {calls : List Call}
    (h : game.keepsRun calls = true) : ∃ last, game.run calls = .ok last := by
  induction calls generalizing game with
  | nil => exact ⟨game, rfl⟩
  | cons call calls ih =>
    rw [keepsRun, Bool.and_eq_true] at h
    cases hperform : game.perform call with
    | error fault =>
      rw [hperform] at h
      cases h.2
    | ok next =>
      rw [hperform] at h
      obtain ⟨last, hlast⟩ := ih h.2
      refine ⟨last, ?_⟩
      rw [run, hperform]
      exact hlast

/-- A check that a result passes is passed by some value. -/
theorem exists_eq_ok_of_any {ε α : Type} {x : Except ε α} (check : α → Bool)
    (h : x.toOption.any check = true) : ∃ a, x = .ok a ∧ check a = true := by
  cases x with
  | error e => cases h
  | ok a => exact ⟨a, rfl, h⟩

/-- A check that a game passes after it was played is passed by some game. -/
theorem exists_of_play (seed : UInt64) (t : Tuning) (calls : List Call) (check : Game → Bool)
    (h : (play seed t calls).toOption.any check = true) :
    ∃ game, play seed t calls = .ok game ∧ check game = true :=
  exists_eq_ok_of_any check h

/-! ### The beginning of a run -/

/-- A game at the beginning of a run: all that a run changes has its first value. -/
structure Fresh (game : Game) : Prop where
  platforms : ∃ generator layout, layOut game.tuning generator = .ok layout ∧
    game.platforms = layout.platforms
  player : game.player = .spawn
  monsters : game.monsters = []
  projectiles : game.projectiles = []
  camera : game.camera = 0
  score : game.score = 0
  landings : game.landings = 0
  lastLanded : game.lastLanded = none
  running : game.running = true
  ticks : game.ticks = 0

/-- A game starts at the beginning of a run. -/
theorem fresh_of_start {seed : UInt64} {t : Tuning} {game : Game} {notices : List Notice}
    (h : start seed t = .ok (game, notices)) : game.Fresh := by
  obtain ⟨layout, hlayout, hgame⟩ := bind_eq_ok h
  cases hgame
  exact ⟨⟨_, layout, hlayout, rfl⟩, rfl, rfl, rfl, rfl, rfl, rfl, rfl, rfl, rfl⟩

/-- A restart leads to the beginning of a run. -/
theorem fresh_of_restart {game next : Game} {notices : List Notice}
    (h : game.restart = .ok (next, notices)) : next.Fresh := by
  obtain ⟨layout, hlayout, hnext⟩ := bind_eq_ok h
  cases hnext
  exact ⟨⟨_, layout, hlayout, rfl⟩, rfl, rfl, rfl, rfl, rfl, rfl, rfl, rfl, rfl⟩

/-! ### The effects of a call -/

/-- **All that a call can do.** A frame is played in a running game; after the end of a run a frame
only clears the events, unless it begins a new run. -/
inductive Effect (game : Game) : Call → Game → Prop
  | frame {c : Controls} {dt : Single} {next : Game} {notices : List Notice}
      (hrunning : game.running = true)
      (hstep : { game with events := [] }.step (game.controls c) dt = .ok (next, notices)) :
      Effect game (.tick c dt) next
  | frozen {c : Controls} {dt : Single} (hover : game.running = false)
      (hkeep : (game.controls c).restart = false) :
      Effect game (.tick c dt) { game with events := [] }
  | newRun {call : Call} {next : Game} (hbegins : game.begins call = true) (hfresh : next.Fresh) :
      Effect game call next
  | clock {now : Nat} : Effect game (.advanceClock now) { game with lastTime := some now }
  | shot {next : Game} (hshot : game.shoot? = some next) : Effect game .shoot next
  | refused : Effect game .shoot game
  | compacted : Effect game .compact game.compact

/-- A frame by cases on the end of the run and on the controls. -/
theorem tick_eq (game : Game) (c : Controls) (dt : Single) :
    game.tick c dt =
      if game.running then { game with events := [] }.step (game.controls c) dt
      else if (game.controls c).restart then { game with events := [] }.restart
      else .ok ({ game with events := [] }, []) := rfl

/-- **What a call does is one of its effects.** -/
theorem effect_of_perform {game next : Game} {call : Call} (h : game.perform call = .ok next) :
    Effect game call next := by
  cases call with
  | tick c dt =>
    obtain ⟨⟨played, notices⟩, htick, hnext⟩ := bind_eq_ok h
    cases hnext
    -- a running game plays the frame; an ended one begins anew or stays as it is
    rw [tick_eq] at htick
    by_cases hrunning : game.running = true
    · rw [if_pos hrunning] at htick
      exact .frame hrunning htick
    · rw [if_neg hrunning] at htick
      have hover : game.running = false := by simpa using hrunning
      by_cases hrestart : (game.controls c).restart = true
      · rw [if_pos hrestart] at htick
        exact .newRun (by rw [begins, hover, hrestart]; rfl) (fresh_of_restart htick)
      · rw [if_neg hrestart] at htick
        cases htick
        exact .frozen hover (by simpa using hrestart)
  | advanceClock now =>
    obtain ⟨⟨time, clocked⟩, hclock, hnext⟩ := bind_eq_ok h
    cases hnext
    obtain ⟨dt, -, hclocked⟩ := bind_eq_ok hclock
    cases hclocked
    exact .clock
  | shoot =>
    cases h
    cases hshot : game.shoot? with
    | none => exact .refused
    | some next => exact .shot hshot
  | restart =>
    obtain ⟨⟨restarted, notices⟩, hrestart, hnext⟩ := bind_eq_ok h
    cases hnext
    exact .newRun rfl (fresh_of_restart hrestart)
  | compact =>
    cases h
    exact .compacted

/-- A call leads to the beginning of a run or goes on with the run. -/
theorem Effect.fresh_or_keeps {game next : Game} {call : Call} (h : Effect game call next) :
    next.Fresh ∨ game.begins call = false := by
  cases h with
  | frame hrunning hstep =>
    rw [begins, hrunning]
    exact Or.inr rfl
  | frozen hover hkeep =>
    rw [begins, hover, hkeep]
    exact Or.inr rfl
  | newRun hbegins hfresh => exact Or.inl hfresh
  | _ => exact Or.inr rfl

/-! ### Invariants of runs -/

/-- **An invariant of single calls is an invariant of runs.** -/
theorem run_preserves {P : Game → Prop}
    (hcall : ∀ {game call next}, P game → Effect game call next → P next)
    {game last : Game} {calls : List Call} (hgame : P game) (hrun : game.run calls = .ok last) :
    P last := by
  -- the invariant moves to the game after the first call, and the rest is a shorter run
  induction calls generalizing game with
  | nil =>
    cases hrun
    exact hgame
  | cons call calls ih =>
    obtain ⟨next, hperform, hrest⟩ := bind_eq_ok hrun
    exact ih (hcall hgame (effect_of_perform hperform)) hrest

/-- **What holds at the beginning of runs and is kept by calls** holds of every game that a start and
calls lead to. -/
theorem play_preserves {P : Game → Prop} (hfresh : ∀ {game}, Fresh game → P game)
    (hcall : ∀ {game call next}, P game → Effect game call next → P next) {seed : UInt64}
    {t : Tuning} {calls : List Call} {last : Game} (hplay : play seed t calls = .ok last) :
    P last := by
  obtain ⟨⟨first, notices⟩, hstart, hrun⟩ := bind_eq_ok hplay
  exact run_preserves hcall (hfresh (fresh_of_start hstart)) hrun

/-- **A relation between the games before and after single calls** that begin no new run, if it can
be chained, holds between any two games of one run. -/
theorem run_relates {P : Game → Prop} {R : Game → Game → Prop}
    (hrefl : ∀ {game}, P game → R game game) (htrans : ∀ {a b c}, R a b → R b c → R a c)
    (hcall : ∀ {game call next}, P game → Effect game call next → P next)
    (hrelate : ∀ {game call next}, P game → game.begins call = false → Effect game call next →
      R game next)
    {game last : Game} {calls : List Call} (hgame : P game) (hkeeps : game.keepsRun calls = true)
    (hrun : game.run calls = .ok last) : R game last := by
  induction calls generalizing game with
  | nil =>
    cases hrun
    exact hrefl hgame
  | cons call calls ih =>
    obtain ⟨next, hperform, hrest⟩ := bind_eq_ok hrun
    simp only [keepsRun, hperform, Bool.and_eq_true, Bool.not_eq_true'] at hkeeps
    have heffect := effect_of_perform hperform
    exact htrans (hrelate hgame hkeeps.1 heffect) (ih (hcall hgame heffect) hkeeps.2 hrest)

end Game

end Platformer
