import Platformer.Proofs.Alternation
import Platformer.Proofs.Notices
import Platformer.Proofs.Playable
import Platformer.Session

/-! # A frame of a session

A session counts from the outside, by the events that frames report: a finished game is one whose
end was reported, and every restart is a further game. This file says what one frame does to a
session; since the pilot never leaves a finished game alone, there are three cases.

* **`Final`**, **`finals`** — the lines of a log that finished games leave.
* **`Game.finals_tick`** — the frames of a game leave no such lines themselves.
* **`Game.piloted`**, **`pilotedFrom`** — the games after the frames of the pilot.
* **`Session.record_report`** — what a session takes note of.
* **`Session.Advance`**, **`Session.advance_eq_ok`** — all that a frame can do to a session;
  **`Session.exists_advance`** — a session can always go on. -/

namespace Platformer

/-! ### The lines of finished games -/

/-- The line of a finished game: its number, the frame that it ended with and its score. -/
structure Final where
  game : Nat
  frame : Nat
  score : Nat
deriving DecidableEq

/-- The line of a notice, if it is about a finished game. -/
def Notice.final? : Notice → Option Final
  | .gameFinished game frame score => some ⟨game, frame, score⟩
  | _ => none

/-- The lines of the finished games in a log. -/
def finals (notices : List Notice) : List Final := notices.filterMap Notice.final?

/-- The lines of a log in two parts. -/
@[simp] theorem finals_append (front back : List Notice) :
    finals (front ++ back) = finals front ++ finals back := List.filterMap_append ..

/-- The report of a generation leaves no line. -/
theorem finals_of_reports {f : Filling} {notices : List Notice} (h : f.Reports notices) :
    finals notices = [] := by
  obtain ⟨routine, rfl, hroutine⟩ := h
  have hfilling : finals f.notices = [] := by
    unfold Filling.notices
    split <;> rfl
  rw [finals_append, hfilling, List.nil_append]
  refine List.filterMap_eq_nil_iff.mpr fun notice hnotice => ?_
  have hplain := hroutine notice hnotice
  cases notice with
  | gameFinished => cases hplain
  | _ => rfl

namespace Game

/-- A start leaves no line. -/
theorem finals_start {seed : UInt64} {t : Tuning} {game : Game} {notices : List Notice}
    (h : start seed t = .ok (game, notices)) : finals notices = [] := by
  obtain ⟨layout, -, hreports⟩ := reports_of_start h
  exact finals_of_reports hreports

/-- **A frame leaves no line** by itself. -/
theorem finals_tick {game next : Game} {c : Controls} {dt : Single} {notices : List Notice}
    (h : game.tick c dt = .ok (next, notices)) : finals notices = [] := by
  rcases reports_of_tick h with rfl | ⟨filling, hreports, -⟩
  · rfl
  · exact finals_of_reports hreports

/-! ### The games of the pilot -/

/-- **The games after the frames of the pilot**, at the time stamps from `now` on. -/
def piloted : (frames now : Nat) → Game → Except Fault (List Game)
  | 0, _, _ => .ok []
  | frames + 1, now, game => do
    let (dt, clocked) ← game.advanceClock now
    let next := (← clocked.tick { idle := true } dt).1
    return next :: (← piloted frames (now + Session.frameInterval) next)

/-- Whether the last frame began a new run. -/
def restarted (game : Game) : Bool := game.events.contains .restarted

/-- A reading of the clock keeps everything but the time stamp. -/
theorem eq_of_advanceClock {game clocked : Game} {now : Nat} {dt : Single}
    (h : game.advanceClock now = .ok (dt, clocked)) :
    clocked = { game with lastTime := some now } := by
  obtain ⟨time, -, h⟩ := bind_eq_ok h
  cases h
  rfl

end Game

/-- The games after the frames of the pilot in the game of a seed. -/
def pilotedFrom (seed : UInt64) (frames : Nat) : Except Fault (List Game) := do
  (← Game.start seed).1.piloted frames 0

/-! ### What a session takes note of -/

/-- The end of the run is the last event of a report, and no other is the end or the beginning of
one. -/
theorem Report.events_eq (r : Report) :
    r.events = ({ r with final := none } : Report).events ++
      (r.final.map Event.gameOver).toList := by
  simp [events]

namespace Session

/-- Events that neither end nor begin a run are passed over. -/
theorem record_append (s : Session) {quiet : List Event} (h : ∀ e ∈ quiet, e.mark? = none)
    (events : List Event) : s.record (quiet ++ events) = s.record events := by
  induction quiet with
  | nil => rfl
  | cons e quiet ih =>
    have hnone := h e List.mem_cons_self
    have hrest := ih fun e' he' => h e' (List.mem_cons_of_mem _ he')
    cases e with
    | gameOver score => cases hnone
    | restarted => cases hnone
    | _ => exact hrest

/-- **What a session takes note of** in a frame of a running game is the end of the run. -/
theorem record_report (s : Session) (r : Report) :
    s.record r.events = match r.final with
      | some score =>
        ({ s with best := Nat.max s.best score }, [.gameFinished s.games s.frame score])
      | none => (s, []) := by
  have hquiet : ∀ e ∈ ({ r with final := none } : Report).events, e.mark? = none :=
    List.filterMap_eq_nil_iff.mp (Report.filterMap_mark?_events { r with final := none })
  rw [r.events_eq, record_append s hquiet]
  cases r.final <;> rfl

/-! ### All that a frame can do -/

/-- A frame of a running game in a session. -/
structure Played (s next : Session) : Prop where
  running : s.game.running = true
  restarted_eq : next.game.restarted = false
  ticks_eq : next.game.ticks = s.game.ticks + 1
  score_le : s.game.score ≤ next.game.score
  games_eq : next.games = s.games

/-- **All that a frame can do to a session**, with the lines that it leaves: the run goes on, or it
ends, which leaves a line, or another one begins after it. -/
inductive Advance (s next : Session) : List Final → Prop
  | goesOn (hplayed : s.Played next) (hrunning : next.game.running = true)
      (hreport : ∀ score, .gameOver score ∉ next.game.events) (hbest : next.best = s.best) :
      Advance s next []
  | ends (hplayed : s.Played next) (hover : next.game.running = false)
      (hreport : ∀ score, .gameOver score ∈ next.game.events ↔ score = next.game.score)
      (hbest : next.best = Nat.max s.best next.game.score) :
      Advance s next [⟨s.games, s.frame, next.game.score⟩]
  | restarts (hover : s.game.running = false) (hfresh : next.game.Fresh)
      (hevents : next.game.events = [.restarted]) (hgames : next.games = s.games + 1)
      (hbest : next.best = s.best) : Advance s next []

/-- **What a session takes note of** in a frame is how the frame advances it: nothing but the games
begun and the best score changes. -/
theorem record_of_frameEffect {s : Session} {game : Game} {dt : Single} {last : Option Nat}
    (now : Nat) (h : Game.FrameEffect { s.game with lastTime := last } { idle := true } dt game) :
    ∃ games best notices,
      { s with game, now }.record game.events = ({ s with game, now, games, best }, notices) ∧
      ∀ next : Session, next.game = game → next.games = games → next.best = best →
        s.Advance next (finals notices) := by
  generalize hclocked : { s.game with lastTime := last } = clocked at h
  have hbefore : clocked.running = s.game.running ∧ clocked.ticks = s.game.ticks ∧
      clocked.score = s.game.score := by
    rw [← hclocked]
    exact ⟨rfl, rfl, rfl⟩
  obtain ⟨hrunning, hticks, hscore⟩ := hbefore
  cases h with
  | @played time setup hplays htime hsetup =>
    have hplayed : ∀ next : Session, next.game = clocked.outcome setup time →
        next.games = s.games → s.Played next := by
      intro next hgame hgames
      refine ⟨hrunning ▸ hplays, ?_, ?_, ?_, hgames⟩
      · simp [hgame, Game.restarted, Game.events_outcome]
      · rw [hgame, Game.ticks_outcome, hticks]
      · rw [hgame, ← hscore]
        exact Game.le_score_outcome clocked setup time
    have hreport : ∀ score, .gameOver score ∈ (clocked.outcome setup time).events ↔
        (clocked.report setup time).final = some score := by
      intro score
      rw [Game.events_outcome, Report.gameOver_mem_events]
    have hafter := Game.running_outcome clocked setup time hplays
    rw [Game.events_outcome, record_report]
    cases hends : ((clocked.setUp setup).collide time).endsRun with
    | false =>
      have hfinal : (clocked.report setup time).final = none := by
        rw [Game.report, hends]
        rfl
      rw [hfinal]
      refine ⟨s.games, s.best, [], rfl, fun next hgame hgames hbest =>
        .goesOn (hplayed next hgame hgames) ?_ ?_ hbest⟩
      · rw [hgame, hafter, hends]
        rfl
      · intro score
        rw [hgame, hreport, hfinal]
        exact (Option.some_ne_none score).symm
    | true =>
      have hfinal : (clocked.report setup time).final =
          some (clocked.outcome setup time).score := by
        rw [Game.report, hends]
        rfl
      rw [hfinal]
      refine ⟨s.games, _, _, rfl, fun next hgame hgames hbest => ?_⟩
      rw [← hgame] at hbest ⊢
      refine .ends (hplayed next hgame hgames) ?_ ?_ hbest
      · rw [hgame, hafter, hends]
        rfl
      · intro score
        rw [hgame, hreport, hfinal, Option.some.injEq, eq_comm]
  | still hover hkeep =>
    rw [Game.controls_restart hover] at hkeep
    cases hkeep
  | restarted hover hrestart hfresh hevents =>
    rw [hevents]
    exact ⟨s.games + 1, s.best, [], rfl, fun next hgame hgames hbest =>
      .restarts (hrunning ▸ hover) (hgame ▸ hfresh) (hgame ▸ hevents) hgames hbest⟩

/-- **What a frame does to a session.** -/
theorem advance_eq_ok {s next : Session} {notices : List Notice}
    (h : s.advance = .ok (next, notices)) :
    (∃ dt clocked played, s.game.advanceClock s.now = .ok (dt, clocked) ∧
      clocked.tick { idle := true } dt = .ok (next.game, played)) ∧
    next.now = s.now + frameInterval ∧ next.frame = s.frame + 1 ∧
    next.vertices = s.vertices + (next.game.picture sheet.1).vertices.length ∧
    s.Advance next (finals notices) := by
  obtain ⟨⟨dt, clocked⟩, hclock, h⟩ := bind_eq_ok h
  obtain ⟨⟨game, played⟩, htick, h⟩ := bind_eq_ok h
  dsimp only at h
  obtain ⟨rfl, rfl⟩ := Prod.mk.inj (Except.ok.inj h)
  have heffect := Game.eq_of_advanceClock hclock ▸ Game.frameEffect_of_tick htick
  obtain ⟨games, best, recorded, hrecord, hadvance⟩ :=
    record_of_frameEffect (s.now + frameInterval) heffect
  rw [hrecord, finals_append, finals_append, Game.finals_tick htick, List.nil_append]
  have hreport : ∀ {due : Prop} [Decidable due] (frame score drawn skipped platforms : Nat),
      finals (if due then [.progress frame score drawn skipped platforms] else []) = [] := by
    intros
    split <;> rfl
  rw [hreport, List.append_nil]
  exact ⟨⟨dt, clocked, played, hclock, htick⟩, rfl, rfl, rfl, hadvance _ rfl rfl rfl⟩

/-- **A session can always go on** under a playable tuning. -/
theorem exists_advance {s : Session} (h : s.game.tuning.Playable) :
    ∃ next notices, s.advance = .ok (next, notices) ∧ next.game.tuning = s.game.tuning := by
  obtain ⟨clocked, hperform, hclocked⟩ := Game.exists_perform h (.advanceClock s.now)
  obtain ⟨⟨dt, _⟩, hclock, hsame⟩ := bind_eq_ok hperform
  cases hsame
  obtain ⟨game, played, htick, htuning⟩ :=
    Game.exists_tick (hclocked ▸ h) { idle := true } dt
  have hadvance : s.advance = .ok _ := (ok_bind hclock _).trans (ok_bind htick _)
  refine ⟨_, _, hadvance, ?_⟩
  -- the frame that the session plays is this one
  obtain ⟨⟨dt', clocked', played', hclock', htick'⟩, -⟩ := advance_eq_ok hadvance
  cases hclock.symm.trans hclock'
  have hgame := congrArg Prod.fst (Except.ok.inj (htick.symm.trans htick'))
  exact (congrArg Game.tuning hgame).symm.trans (htuning.trans hclocked)

end Session

end Platformer
