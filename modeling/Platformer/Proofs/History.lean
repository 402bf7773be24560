import Mathlib.Data.List.DropRight
import Platformer.Proofs.Outcome

/-! # Histories of frames

A history keeps the game before and after every frame that was played, so that a game can be compared
with all that its frames have reported since the run began.

* **`Frame`**, **`Game.film`**, **`Game.filmFrom`** — the frames that a sequence of inputs plays, from
  a game and from the start of one.
* **`log`** — all events of a history; **`currentRun`** — its frames since the last restart.
* **`Game.film_preserves`** — what every frame keeps, of a game and its whole history.
* **`Game.currentRun_preserves`** — the same of a game and its current run. -/

namespace Platformer

/-- A frame that was played: the game before and after it. -/
structure Frame where
  before : Game
  after : Game

/-- Whether a frame began a new run. -/
def Frame.restarts (f : Frame) : Bool := f.after.events.contains .restarted

/-- All events of frames, in order. -/
def log (frames : List Frame) : List Event := frames.flatMap (·.after.events)

/-- The frames since the last one that began a new run, or all of them if none did. -/
def currentRun (frames : List Frame) : List Frame := frames.rtakeWhile (!·.restarts)

/-- The events of a frame come last. -/
@[simp] theorem log_concat (frames : List Frame) (f : Frame) :
    log (frames ++ [f]) = log frames ++ f.after.events := by
  simp [log]

/-- The first run has no frames at first. -/
@[simp] theorem currentRun_nil : currentRun [] = [] := by
  simp [currentRun]

/-- A restart begins a run without frames. -/
theorem currentRun_concat_restart (frames : List Frame) {f : Frame}
    (h : .restarted ∈ f.after.events) : currentRun (frames ++ [f]) = [] := by
  rw [currentRun, List.rtakeWhile_concat_neg]
  simpa [Frame.restarts] using h

/-- Every other frame adds to the current run. -/
theorem currentRun_concat_keep (frames : List Frame) {f : Frame}
    (h : .restarted ∉ f.after.events) : currentRun (frames ++ [f]) = currentRun frames ++ [f] := by
  rw [currentRun, List.rtakeWhile_concat_pos, currentRun]
  simpa [Frame.restarts] using h

namespace Game

/-- The game after frames under inputs in order, and the history of these frames. -/
def film (game : Game) : List (Controls × Single) → Except Fault (Game × List Frame)
  | [] => .ok (game, [])
  | (c, dt) :: inputs => do
    let next := (← game.tick c dt).1
    let (last, frames) ← next.film inputs
    return (last, ⟨game, next⟩ :: frames)

/-- A history under some inputs begins with the frame of the first one. -/
theorem exists_of_film_cons {game last : Game} {c : Controls} {dt : Single}
    {inputs : List (Controls × Single)} {frames : List Frame}
    (h : game.film ((c, dt) :: inputs) = .ok (last, frames)) :
    ∃ next notices later, game.tick c dt = .ok (next, notices) ∧
      next.film inputs = .ok (last, later) ∧ frames = ⟨game, next⟩ :: later := by
  obtain ⟨⟨next, notices⟩, htick, hrest⟩ := bind_eq_ok h
  obtain ⟨⟨last', later⟩, hlater, heq⟩ := bind_eq_ok hrest
  cases heq
  exact ⟨next, notices, later, htick, hlater, rfl⟩

/-- The history of frames from the start of a game. -/
def filmFrom (seed : UInt64) (t : Tuning) (inputs : List (Controls × Single)) :
    Except Fault (Game × List Frame) := do
  (← start seed t).1.film inputs

/-- **What holds of a game without a history and is kept by every frame** holds of a game and its
history. -/
theorem film_preserves {P : List Frame → Game → Prop}
    (hframe : ∀ {frames game c dt next}, P frames game → FrameEffect game c dt next →
      P (frames ++ [⟨game, next⟩]) next)
    {first last : Game} {inputs : List (Controls × Single)} {frames : List Frame}
    (hfirst : P [] first) (hfilm : first.film inputs = .ok (last, frames)) : P frames last := by
  -- the frames already played are kept in front while the rest of the inputs is played
  suffices hfilmed : ∀ {inputs : List (Controls × Single)} {played : List Frame} {game : Game}
      {frames : List Frame}, P played game → game.film inputs = .ok (last, frames) →
      P (played ++ frames) last from hfilmed hfirst hfilm
  intro inputs
  induction inputs with
  | nil =>
    intro played game frames hgame hrest
    cases hrest
    rwa [List.append_nil]
  | cons input inputs ih =>
    obtain ⟨c, dt⟩ := input
    intro played game frames hgame hrest
    obtain ⟨next, notices, later, htick, hlater, rfl⟩ := exists_of_film_cons hrest
    rw [List.append_cons]
    exact ih (hframe hgame (frameEffect_of_tick htick)) hlater

/-- The same from the start of a game. -/
theorem filmFrom_preserves {P : List Frame → Game → Prop}
    (hfresh : ∀ {game}, Fresh game → P [] game)
    (hframe : ∀ {frames game c dt next}, P frames game → FrameEffect game c dt next →
      P (frames ++ [⟨game, next⟩]) next)
    {seed : UInt64} {t : Tuning} {last : Game} {inputs : List (Controls × Single)}
    {frames : List Frame} (hfilm : filmFrom seed t inputs = .ok (last, frames)) :
    P frames last := by
  obtain ⟨⟨first, notices⟩, hstart, hfilm⟩ := bind_eq_ok hfilm
  exact film_preserves hframe (hfresh (fresh_of_start hstart)) hfilm

/-- **What holds at the beginning of a run and is kept by its frames** holds of a game and the frames
of its current run. -/
theorem currentRun_preserves {P : List Frame → Game → Prop}
    (hfresh : ∀ {game}, Fresh game → P [] game)
    (hplayed : ∀ {frames game time s}, P frames game → game.running = true →
      game.IsSetup time s → P (frames ++ [⟨game, game.outcome s time⟩]) (game.outcome s time))
    (hstill : ∀ {frames game}, P frames game → game.running = false →
      P (frames ++ [⟨game, { game with events := [] }⟩]) { game with events := [] })
    {seed : UInt64} {t : Tuning} {last : Game} {inputs : List (Controls × Single)}
    {frames : List Frame} (hfilm : filmFrom seed t inputs = .ok (last, frames)) :
    P (currentRun frames) last := by
  refine filmFrom_preserves (P := fun frames game => P (currentRun frames) game) ?_ ?_ hfilm
  · intro game hgame
    rw [currentRun_nil]
    exact hfresh hgame
  · intro frames game c dt next hgame heffect
    -- only a restart begins a run, and it leaves no frame of the runs before
    cases heffect with
    | played hrunning htime hsetup =>
      rw [currentRun_concat_keep _ (by rw [events_outcome]; simp)]
      exact hplayed hgame hrunning hsetup
    | still hover hkeep =>
      rw [currentRun_concat_keep _ List.not_mem_nil]
      exact hstill hgame hover
    | restarted hover hrestart hnext hevents =>
      rw [currentRun_concat_restart _ (by rw [hevents]; exact List.mem_singleton_self _)]
      exact hfresh hnext

end Game

end Platformer
