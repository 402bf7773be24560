import Platformer.Proofs.Run
import Platformer.Proofs.Frame

/-! # What frames report

Of all that a frame or a restart reports, only its generation can report that no slot was left for a
platform; and none of it is about a session, which speaks for itself.

* **`Notice.isRoutine`** — the notices of a game that do not come from a generation.
* **`Filling.Reports`** — the notices of a generation and routine ones behind them.
* **`Game.reports_of_start`**, **`Game.reports_of_restart`**, **`Game.reports_of_step`**,
  **`Game.reports_of_tick`** — all reports are of that kind. -/

namespace Platformer

/-- Whether a notice is about a game, but not about a platform that found no slot. -/
def Notice.isRoutine : Notice → Bool
  | .newRun .. | .runRestarted .. | .gameOver .. | .monsterSpawned .. | .landed .. => true
  | _ => false

/-- **The report of a generation** among routine notices. -/
def Filling.Reports (f : Filling) (notices : List Notice) : Prop :=
  ∃ routine, notices = f.notices ++ routine ∧ ∀ notice ∈ routine, notice.isRoutine = true

/-- Further routine notices. -/
theorem Filling.Reports.append {f : Filling} {notices more : List Notice} (h : f.Reports notices)
    (hmore : ∀ notice ∈ more, notice.isRoutine = true) : f.Reports (notices ++ more) := by
  obtain ⟨routine, rfl, hroutine⟩ := h
  refine ⟨routine ++ more, List.append_assoc .., ?_⟩
  intro notice hnotice
  rcases List.mem_append.mp hnotice with hold | hnew
  · exact hroutine notice hold
  · exact hmore notice hnew

/-- A generation reports what it does. -/
theorem Filling.reports_notices (f : Filling) : f.Reports f.notices :=
  ⟨[], (List.append_nil _).symm, by simp⟩

namespace Game

variable {game next : Game} {t : Tuning} {c : Controls} {dt : Single} {notices : List Notice}

/-- A start reports what its layout does. -/
theorem reports_of_start {seed : UInt64} (h : start seed t = .ok (game, notices)) :
    ∃ layout, layOut t (.ofSeed seed) = .ok layout ∧ layout.Reports notices := by
  obtain ⟨layout, hlayout, hgame⟩ := bind_eq_ok h
  cases hgame
  exact ⟨layout, hlayout, layout.reports_notices.append (by simp [Notice.isRoutine])⟩

/-- A restart reports what its layout does. -/
theorem reports_of_restart (h : game.restart = .ok (next, notices)) :
    ∃ layout, layOut game.tuning game.generator = .ok layout ∧ layout.Reports notices := by
  obtain ⟨layout, hlayout, hnext⟩ := bind_eq_ok h
  cases hnext
  exact ⟨layout, hlayout, layout.reports_notices.append (by simp [Notice.isRoutine])⟩

/-- The world's stage reports what its generation does. -/
theorem reports_of_scroll (h : game.scroll dt = .ok (next, notices)) :
    ∃ filling, game.refill dt = .ok filling ∧ filling.Reports notices := by
  obtain ⟨filling, hfill, hrest⟩ := bind_eq_ok h
  refine ⟨filling, hfill, ?_⟩
  dsimp only at hrest
  split at hrest
  · cases hrest
    exact filling.reports_notices
  · cases hrest
    exact filling.reports_notices.append (by simp [Notice.isRoutine, Monster.notice])

/-- The end of a frame reports at most the end of the run. -/
theorem isRoutine_settle (game : Game) (caught : Bool) :
    ∀ notice ∈ (game.settle caught).2, notice.isRoutine = true := by
  simp only [settle]
  split <;> simp [Notice.isRoutine]

/-- A frame of a running game reports what its generation does. -/
theorem reports_of_step (h : { game with events := [] }.step c dt = .ok (next, notices)) :
    ∃ time filling, game.refill time = .ok filling ∧ filling.Reports notices := by
  obtain ⟨time, -, hacted⟩ := bind_eq_ok h
  obtain ⟨⟨scrolled, reports⟩, hscroll, hrest⟩ := bind_eq_ok hacted
  dsimp only at hrest
  obtain ⟨-, rfl⟩ := Prod.mk.inj (Except.ok.inj hrest)
  -- what the player does has no part in the generation
  obtain ⟨player, shot, -, hact⟩ :=
    act_eq { game with events := [], ticks := game.ticks + 1 } c time
  rw [hact] at hscroll
  obtain ⟨filling, hfill, hreports⟩ := reports_of_scroll hscroll
  refine ⟨time, filling, hfill, (hreports.append ?_).append (isRoutine_settle _ _)⟩
  simp [Notice.isRoutine, Landing.notice]

/-- **A frame reports nothing, or what its generation does**, be it of a frame that was played or of
a restart. -/
theorem reports_of_tick (h : game.tick c dt = .ok (next, notices)) :
    notices = [] ∨ ∃ filling, filling.Reports notices ∧
      ((∃ time, game.refill time = .ok filling) ∨
        ∃ g, layOut game.tuning g = .ok filling) := by
  rw [tick_eq] at h
  split at h
  · obtain ⟨time, filling, hfill, hreports⟩ := reports_of_step h
    exact Or.inr ⟨filling, hreports, Or.inl ⟨time, hfill⟩⟩
  · split at h
    · obtain ⟨layout, hlayout, hreports⟩ := reports_of_restart h
      exact Or.inr ⟨layout, hreports, Or.inr ⟨_, hlayout⟩⟩
    · cases h
      exact Or.inl rfl

end Game

end Platformer
