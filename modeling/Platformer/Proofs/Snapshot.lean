import Platformer.Proofs.Restart

/-! # What a saved game may leave out

A saved game leaves out what happened in the last frame, and two of the fields that it holds belong to
the session rather than to the run: the seed and the time stamp of the last frame. No frame reads any
of the three. So two games that agree on all the rest go through the same frames, up to the same
fault if there is one, and each of them keeps its own seed and time stamp.

* **`Course`**, **`Game.course`** — the games that a sequence of inputs leads to, one after each
  frame, and the fault that ended it.
* **`Game.SameWorld`** — two games that agree on all that a frame reads.
* **`Game.seed_of_tick`**, **`Game.lastTime_of_tick`**, **`Game.tuning_of_tick`** — what no frame
  changes.
* **`Game.course_of_sameWorld`** — games of the same world have the same course. -/

namespace Platformer

/-- What a sequence of frames leads to: the game after every frame that had a result, and the fault
of the first one that had none. -/
structure Course where
  games : List Game
  fault : Option Fault

/-- The course of the same games under other labels. -/
def Course.relabel (seed : UInt64) (lastTime : Option Nat) (course : Course) : Course :=
  { course with games := course.games.map (Game.relabel seed lastTime) }

namespace Game

/-! ### Courses -/

/-- The course of a game under inputs in order. -/
def course (game : Game) : List (Controls × Single) → Course
  | [] => ⟨[], none⟩
  | (c, dt) :: inputs =>
    match Prod.fst <$> game.tick c dt with
    | .error fault => ⟨[], some fault⟩
    | .ok next => { next.course inputs with games := next :: (next.course inputs).games }

/-- **The course is the same under other labels.** -/
theorem course_relabel (seed : UInt64) (lastTime : Option Nat) (game : Game)
    (inputs : List (Controls × Single)) :
    (game.relabel seed lastTime).course inputs =
      (game.course inputs).relabel seed lastTime := by
  -- both games have the same fault in a frame, or the same result up to the labels
  induction inputs generalizing game with
  | nil => rfl
  | cons input inputs ih =>
    obtain ⟨c, dt⟩ := input
    rw [course, course, tick_relabel]
    cases htick : (Prod.fst <$> game.tick c dt : Except Fault Game) with
    | error fault => rfl
    | ok next =>
      show Course.mk _ _ = Course.mk _ _
      rw [ih]
      rfl

/-- What was reported before makes no difference to a frame. -/
theorem tick_events (game : Game) (events : List Event) (c : Controls) (dt : Single) :
    { game with events }.tick c dt = game.tick c dt := rfl

/-- What was reported before makes no difference to the course. -/
theorem course_events (game : Game) (events : List Event) (inputs : List (Controls × Single)) :
    { game with events }.course inputs = game.course inputs := by
  cases inputs with
  | nil => rfl
  | cons input inputs =>
    obtain ⟨c, dt⟩ := input
    rw [course, course, tick_events]

/-! ### What no frame changes -/

section

variable {game next : Game} {c : Controls} {dt : Single} {notices : List Notice}

/-- A frame takes the labels of a game along, whatever they are. -/
theorem relabel_of_tick (h : game.tick c dt = .ok (next, notices)) :
    next.relabel game.seed game.lastTime = next := by
  have hsame := tick_relabel game.seed game.lastTime game c dt
  have hself : game.relabel game.seed game.lastTime = game := rfl
  rw [hself, h] at hsame
  exact (Except.ok.inj hsame).symm

/-- **No frame changes the seed.** -/
theorem seed_of_tick (h : game.tick c dt = .ok (next, notices)) : next.seed = game.seed := by
  rw [← relabel_of_tick h]
  rfl

/-- **No frame changes the time stamp.** -/
theorem lastTime_of_tick (h : game.tick c dt = .ok (next, notices)) :
    next.lastTime = game.lastTime := by
  rw [← relabel_of_tick h]
  rfl

/-- A frame of a running game keeps the tuning. -/
theorem tuning_of_step (h : game.step c dt = .ok (next, notices)) : next.tuning = game.tuning := by
  obtain ⟨time, scrolled, reports, -, hscroll, rfl⟩ := step_eq_ok h
  rw [conclude_eq]
  exact (sameView_of_scroll hscroll).tuning

/-- A restart keeps the tuning. -/
theorem tuning_of_restart (h : game.restart = .ok (next, notices)) : next.tuning = game.tuning := by
  obtain ⟨layout, -, hnext⟩ := bind_eq_ok h
  cases hnext
  rfl

/-- **No frame changes the tuning.** -/
theorem tuning_of_tick (h : game.tick c dt = .ok (next, notices)) : next.tuning = game.tuning := by
  rw [tick_eq] at h
  by_cases hrunning : game.running = true
  · rw [if_pos hrunning] at h
    have hstep : next.tuning = { game with events := [] }.tuning := tuning_of_step h
    exact hstep
  · rw [if_neg hrunning] at h
    by_cases hrestart : (game.controls c).restart = true
    · rw [if_pos hrestart] at h
      have hagain : next.tuning = { game with events := [] }.tuning := tuning_of_restart h
      exact hagain
    · rw [if_neg hrestart] at h
      cases h
      rfl

end

/-! ### Games of the same world -/

/-- Two games that agree on everything but the labels and what happened in the last frame. -/
structure SameWorld (a b : Game) : Prop where
  generator : b.generator = a.generator
  tuning : b.tuning = a.tuning
  player : b.player = a.player
  platforms : b.platforms = a.platforms
  monsters : b.monsters = a.monsters
  projectiles : b.projectiles = a.projectiles
  camera : b.camera = a.camera
  score : b.score = a.score
  landings : b.landings = a.landings
  lastLanded : b.lastLanded = a.lastLanded
  running : b.running = a.running
  ticks : b.ticks = a.ticks

/-- Of two games of the same world, one is the other with its own labels and its own events. -/
theorem SameWorld.eq_relabel {a b : Game} (h : SameWorld a b) :
    b = { a.relabel b.seed b.lastTime with events := b.events } := by
  cases a
  cases b
  obtain ⟨rfl, rfl, rfl, rfl, rfl, rfl, rfl, rfl, rfl, rfl, rfl, rfl⟩ := h
  rfl

/-- **Games of the same world have the same course.** From two games that agree on everything but
the seed, the time stamp and what happened in the last frame, the same inputs lead to the same games,
with all that is reported, and to the same fault after as many frames; each game keeps its own seed
and its own time stamp. No frame of any game changes either of them, nor the tuning. -/
theorem course_of_sameWorld :
    (∀ a b : Game, SameWorld a b → ∀ inputs,
      b.course inputs = (a.course inputs).relabel b.seed b.lastTime) ∧
    ∀ {game next : Game} {c : Controls} {dt : Single} {notices : List Notice},
      game.tick c dt = .ok (next, notices) →
      next.seed = game.seed ∧ next.lastTime = game.lastTime ∧ next.tuning = game.tuning := by
  constructor
  · intro a b hsame inputs
    calc b.course inputs
        = { a.relabel b.seed b.lastTime with events := b.events }.course inputs := by
          rw [← hsame.eq_relabel]
      _ = (a.relabel b.seed b.lastTime).course inputs := course_events _ b.events inputs
      _ = (a.course inputs).relabel b.seed b.lastTime := course_relabel _ _ a inputs
  · intro game next c dt notices htick
    exact ⟨seed_of_tick htick, lastTime_of_tick htick, tuning_of_tick htick⟩

/-- A game as another session holds it: under another seed and time stamp, and without the events of
the last frame. -/
def resumed (game : Game) : Game := { game.relabel 99 (some 1600) with events := [] }

/-- A tuning that leaves no time for any frame. -/
def timeless : Tuning := { Tuning.standard with frameTimeMax := -1 }

/-- A resumed game goes on as the game itself does, here under the pilot, with a shot, and with a frame
time that is not a number; and where the game has a fault in its first frame, so has the resumed
one. -/
theorem course_of_resumed :
    (∃ game next notices, play 7 .standard [.tick {} 1, .tick { shoot := true } 1] = .ok game ∧
      game.resumed ≠ game ∧
      game.resumed.course [({ idle := true }, 1), ({ shoot := true }, .nan false), ({}, 2)] =
        (game.course [({ idle := true }, 1), ({ shoot := true }, .nan false), ({}, 2)]).relabel 99
          (some 1600) ∧
      (game.course [({ idle := true }, 1), ({ shoot := true }, .nan false), ({}, 2)]).games.length =
        3 ∧
      game.tick {} 1 = .ok (next, notices) ∧ next.seed = 7 ∧ next.lastTime = none) ∧
    ∃ game, play 7 timeless [] = .ok game ∧
      game.resumed.course [({}, 1), ({}, 1)] = ⟨[], some (.clampBound (-1))⟩ := by
  constructor
  · obtain ⟨game, hplay, hcheck⟩ := exists_of_play 7 .standard
      [.tick {} 1, .tick { shoot := true } 1]
      (fun game => decide (game.seed = 7 ∧ game.lastTime = none) &&
        (game.course [({ idle := true }, 1), ({ shoot := true }, .nan false), ({}, 2)]).games.length
          == 3 && (game.tick {} 1).toOption.isSome) (by decide +kernel)
    simp only [Bool.and_eq_true, decide_eq_true_eq, beq_iff_eq] at hcheck
    obtain ⟨⟨⟨hseed, hlast⟩, hlength⟩, htick⟩ := hcheck
    obtain ⟨⟨next, notices⟩, htick, -⟩ := exists_eq_ok_of_any (x := game.tick {} 1)
      (fun _ => true) (by simpa [Option.any_true] using htick)
    obtain ⟨hkept, hkept', -⟩ := course_of_sameWorld.2 htick
    refine ⟨game, next, notices, hplay, ?_, ?_, hlength, htick, hkept.trans hseed,
      hkept'.trans hlast⟩
    · intro hsame
      have hseeds := congrArg Game.seed hsame
      rw [hseed] at hseeds
      cases hseeds
    · exact course_of_sameWorld.1 game game.resumed
        ⟨rfl, rfl, rfl, rfl, rfl, rfl, rfl, rfl, rfl, rfl, rfl, rfl⟩ _
  · obtain ⟨game, hplay, hcheck⟩ := exists_of_play 7 timeless []
      (fun game => decide ((game.course [({}, 1), ({}, 1)]).games = [] ∧
        (game.course [({}, 1), ({}, 1)]).fault = some (.clampBound (-1)))) (by decide +kernel)
    obtain ⟨hgames, hfault⟩ := of_decide_eq_true hcheck
    refine ⟨game, hplay, ?_⟩
    rw [course_of_sameWorld.1 game game.resumed
      ⟨rfl, rfl, rfl, rfl, rfl, rfl, rfl, rfl, rfl, rfl, rfl, rfl⟩, Course.relabel, hgames, hfault]
    rfl

end Game

end Platformer
