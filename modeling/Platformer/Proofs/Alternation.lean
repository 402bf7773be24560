import Mathlib.Data.List.Chain
import Platformer.Proofs.History

/-! # Ends and beginnings of runs

A game that has ended reports nothing until it is restarted, and a running game cannot be restarted by
a frame. So the ends and the beginnings of runs take turns in every history, and the count of frames
is that of the current run.

* **`Mark`**, **`marks`** — the ends and the beginnings of runs in a history.
* **`Alternates`** — they take turns, beginning with an end.
* **`Game.reported_and_alternates`** — the events of a single frame, and their turns in a history. -/

namespace Platformer

/-- The end of a run, or the beginning of another one. -/
inductive Mark where
  | ended
  | begun
deriving DecidableEq

/-- The mark of an event, if it has one. -/
def Event.mark? : Event → Option Mark
  | .gameOver _ => some .ended
  | .restarted => some .begun
  | _ => none

/-- The marks of frames in order. -/
def marks (frames : List Frame) : List Mark := (log frames).filterMap Event.mark?

/-- Ends and beginnings take turns, and the first is an end. -/
structure Alternates (l : List Mark) : Prop where
  isChain : l.IsChain (· ≠ ·)
  head_eq : ∀ m ∈ l.head?, m = .ended

/-- Nothing has happened yet. -/
theorem Alternates.nil : Alternates [] := ⟨List.isChain_nil, fun _ h => nomatch h⟩

/-- An end may follow where the last mark is not an end, and a beginning where it is. -/
theorem Alternates.concat {l : List Mark} {m : Mark} (h : Alternates l)
    (hturn : m = .ended ↔ l.getLast? ≠ some .ended) : Alternates (l ++ [m]) := by
  constructor
  · refine List.isChain_append.mpr ⟨h.isChain, List.isChain_singleton m, ?_⟩
    rintro x hx y ⟨⟩ rfl
    cases x with
    | ended => exact hturn.mp rfl hx
    | begun =>
      have hend : l.getLast? ≠ some .ended := by
        rw [Option.mem_def.mp hx]
        decide
      cases hturn.mpr hend
  · intro x hx
    cases l with
    | nil =>
      cases hx
      exact hturn.mpr (by decide)
    | cons a l => exact h.head_eq x hx

/-- The only mark of a report is the end of the run. -/
theorem Report.filterMap_mark?_events (r : Report) :
    r.events.filterMap Event.mark? = (r.final.map fun _ => Mark.ended).toList := by
  have hlanding : (landingEvents r.landing).filterMap Event.mark? = [] := by
    cases r.landing with
    | none => rfl
    | some l => by_cases h : l.2 = .breakable <;> simp [landingEvents, h, Event.mark?]
  rw [filterMap_events r rfl rfl rfl, hlanding]
  cases r.final <;> rfl

/-- The marks of a frame come last. -/
theorem marks_concat (frames : List Frame) (f : Frame) :
    marks (frames ++ [f]) = marks frames ++ f.after.events.filterMap Event.mark? := by
  rw [marks, log_concat, List.filterMap_append, marks]

namespace Game

/-- The marks so far take turns, and a game is running unless the last of them is an end. -/
structure InTurn (frames : List Frame) (game : Game) : Prop where
  alternates : Alternates (marks frames)
  running_iff : game.running = true ↔ (marks frames).getLast? ≠ some .ended

/-- A game starts without marks. -/
theorem InTurn.of_fresh {game : Game} (h : game.Fresh) : InTurn [] game where
  alternates := .nil
  running_iff := iff_of_true h.running (by decide)

/-- A frame without a mark keeps the turns if it neither ends nor begins a run. -/
theorem InTurn.concat_unmarked {frames : List Frame} {game next : Game} (h : InTurn frames game)
    (hmarks : next.events.filterMap Event.mark? = []) (hrunning : next.running = game.running) :
    InTurn (frames ++ [⟨game, next⟩]) next := by
  have hsame : marks (frames ++ [⟨game, next⟩]) = marks frames := by
    rw [marks_concat, hmarks, List.append_nil]
  constructor
  · rw [hsame]
    exact h.alternates
  · rw [hsame, hrunning]
    exact h.running_iff

/-- A frame with a mark keeps the turns if it ends the run of a running game or begins a run after
another one. -/
theorem InTurn.concat_marked {frames : List Frame} {game next : Game} {m : Mark}
    (h : InTurn frames game) (hmarks : next.events.filterMap Event.mark? = [m])
    (hbefore : m = .ended ↔ game.running = true) (hafter : next.running = true ↔ m ≠ .ended) :
    InTurn (frames ++ [⟨game, next⟩]) next := by
  have hmore : marks (frames ++ [⟨game, next⟩]) = marks frames ++ [m] := by
    rw [marks_concat, hmarks]
  constructor
  · rw [hmore]
    exact h.alternates.concat (hbefore.trans h.running_iff)
  · rw [hmore, List.getLast?_concat, hafter, Ne, Ne, Option.some.injEq]

/-- **A frame keeps the turns.** -/
theorem InTurn.frame {frames : List Frame} {game next : Game} {c : Controls} {dt : Single}
    (h : InTurn frames game) (heffect : FrameEffect game c dt next) :
    InTurn (frames ++ [⟨game, next⟩]) next := by
  cases heffect with
  | @played time s hrunning htime hsetup =>
    -- a frame of a running game has a mark only where it ends the run
    have hmarks : (game.outcome s time).events.filterMap Event.mark? =
        ((game.report s time).final.map fun _ => Mark.ended).toList := by
      rw [events_outcome, Report.filterMap_mark?_events]
    have hnext := running_outcome game s time hrunning
    cases hends : ((game.setUp s).collide time).endsRun with
    | true =>
      rw [report, hends] at hmarks
      rw [hends] at hnext
      exact h.concat_marked hmarks (iff_of_true rfl hrunning) (by simp [hnext])
    | false =>
      rw [report, hends] at hmarks
      rw [hends] at hnext
      exact h.concat_unmarked hmarks (hnext.trans hrunning.symm)
  | still hover hkeep => exact h.concat_unmarked rfl rfl
  | restarted hover hrestart hfresh hevents =>
    refine h.concat_marked (m := .begun) (by rw [hevents]; rfl) ?_ ?_
    · simp [hover]
    · simp [hfresh.running]

/-- **The count of frames** is the number of frames of the current run in which the game was
running. -/
theorem ticks_eq_countP {seed : UInt64} {t : Tuning} {last : Game}
    {inputs : List (Controls × Single)} {frames : List Frame}
    (hfilm : filmFrom seed t inputs = .ok (last, frames)) :
    last.ticks = (currentRun frames).countP (·.before.running) := by
  refine currentRun_preserves
    (P := fun frames game => game.ticks = frames.countP (·.before.running)) ?_ ?_ ?_ hfilm
  · intro game hfresh
    exact hfresh.ticks
  · intro frames game time s hticks hrunning hsetup
    rw [ticks_outcome, hticks, List.countP_append, List.countP_singleton, if_pos hrunning]
  · intro frames game hticks hover
    rw [List.countP_append, List.countP_singleton, hover]
    exact hticks

/-- **What a game reports.** A frame of a running game, if the projectiles were within their capacity,
reports in a fixed order what it did, ends the run with the final score, and has the player on the
ground after a landing only. A frame of an ended game begins another run when it is asked to, and
otherwise does nothing. In every history from the start of a game the ends and the beginnings of runs
take turns, and the count of frames is the number of frames of the current run in which the game was
running. -/
theorem reported_and_alternates :
    (∀ {game next : Game} {c : Controls} {dt : Single} {notices : List Notice},
      game.projectiles.length ≤ maxProjectiles → game.tick c dt = .ok (next, notices) →
      (game.running = true → next.Reported) ∧
      (game.running = false →
        if c.restart || c.idle then next.events = [.restarted] ∧ next.Fresh
        else next = { game with events := [] })) ∧
    ∀ {seed : UInt64} {t : Tuning} {inputs : List (Controls × Single)} {last : Game}
      {frames : List Frame}, filmFrom seed t inputs = .ok (last, frames) →
      Alternates (marks frames) ∧ last.ticks = (currentRun frames).countP (·.before.running) := by
  constructor
  · intro game next c dt notices hroom htick
    cases frameEffect_of_tick htick with
    | played hrunning htime hsetup =>
      refine ⟨fun _ => reported_outcome _ hrunning hsetup.fires hroom, fun hover => ?_⟩
      rw [hrunning] at hover
      cases hover
    | still hover hkeep =>
      refine ⟨fun hrunning => ?_, fun _ => ?_⟩
      · rw [hover] at hrunning
        cases hrunning
      · rw [controls_restart hover] at hkeep
        rw [hkeep]
        rfl
    | restarted hover hrestart hfresh hevents =>
      refine ⟨fun hrunning => ?_, fun _ => ?_⟩
      · rw [hover] at hrunning
        cases hrunning
      · rw [controls_restart hover] at hrestart
        rw [hrestart]
        exact ⟨hevents, hfresh⟩
  · intro seed t inputs last frames hfilm
    exact ⟨(filmFrom_preserves InTurn.of_fresh InTurn.frame hfilm).alternates,
      ticks_eq_countP hfilm⟩

/-- A tuning under which a player falls out of the picture in a single frame. -/
def heavy : Tuning := { Tuning.standard with gravity := 1000 }

/-- Under a heavy gravity the first frame ends the run, and so does the first frame after a
restart. -/
theorem alternates_under_heavy :
    (∃ (game next : Game) (notices : List Notice), game.projectiles.length ≤ maxProjectiles ∧
      game.running = true ∧ game.tick {} 1 = .ok (next, notices) ∧ next.Reported ∧
      next.running = false) ∧
    ∃ last frames,
      filmFrom 7 heavy [({}, 1), ({}, 1), ({ restart := true }, 1), ({}, 1), ({}, 1)] =
        .ok (last, frames) ∧
      marks frames = [.ended, .begun, .ended] ∧ Alternates (marks frames) ∧ last.ticks = 1 ∧
      (currentRun frames).countP (·.before.running) = 1 := by
  constructor
  · obtain ⟨⟨game, started⟩, -, hcheck⟩ := exists_eq_ok_of_any (x := start 7 heavy)
      (fun r => decide (r.1.projectiles.length ≤ maxProjectiles) && r.1.running &&
        (r.1.tick {} 1).toOption.any fun r => !r.1.running) (by decide +kernel)
    obtain ⟨⟨hroom, hrunning⟩, htick⟩ : (game.projectiles.length ≤ maxProjectiles ∧
        game.running = true) ∧ (game.tick {} 1).toOption.any (fun r => !r.1.running) = true := by
      simpa using hcheck
    obtain ⟨⟨next, notices⟩, htick, hover⟩ := exists_eq_ok_of_any _ htick
    refine ⟨game, next, notices, hroom, hrunning, htick, ?_, by simpa using hover⟩
    exact (reported_and_alternates.1 hroom htick).1 hrunning
  · obtain ⟨⟨last, frames⟩, hfilm, hcheck⟩ := exists_eq_ok_of_any
      (x := filmFrom 7 heavy [({}, 1), ({}, 1), ({ restart := true }, 1), ({}, 1), ({}, 1)])
      (fun r => decide (marks r.2 = [.ended, .begun, .ended]) && r.1.ticks == 1) (by decide +kernel)
    obtain ⟨hmarks, hticks⟩ : marks frames = [.ended, .begun, .ended] ∧ last.ticks = 1 := by
      simpa using hcheck
    obtain ⟨halternates, hcount⟩ := reported_and_alternates.2 hfilm
    exact ⟨last, frames, hfilm, hmarks, halternates, hticks, hcount ▸ hticks⟩

end Game

end Platformer
