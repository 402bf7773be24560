import Mathlib.Data.List.Destutter
import Platformer.Proofs.History

/-! # The count of landings

The game counts its landings with nothing but a number and the slot of the last landing. Over a whole
run this is the number of landings in which those that repeat the slot before them are left out.

* **`landedSlots`** — the slots of the landings in a history.
* **`destutter_ne_concat`** — one more element, after those before it.
* **`Game.landings_of_filmFrom`** — the count and the last slot, from the history of the run. -/

namespace Platformer

/-- The slot of a landing. -/
def Event.landedSlot? : Event → Option Nat
  | .landed slot _ => some slot
  | _ => none

/-- The slots of the landings in frames, in order. -/
def landedSlots (frames : List Frame) : List Nat := (log frames).filterMap Event.landedSlot?

/-- The landings of a frame come last. -/
theorem landedSlots_concat (frames : List Frame) (f : Frame) :
    landedSlots (frames ++ [f]) =
      landedSlots frames ++ f.after.events.filterMap Event.landedSlot? := by
  rw [landedSlots, log_concat, List.filterMap_append, landedSlots]

/-- A report has at most one landing. -/
theorem Report.filterMap_landedSlot?_events (r : Report) :
    r.events.filterMap Event.landedSlot? = (r.landing.map Prod.fst).toList := by
  have hlanding : (landingEvents r.landing).filterMap Event.landedSlot? =
      (r.landing.map Prod.fst).toList := by
    cases r.landing with
    | none => rfl
    | some l =>
      by_cases h : l.2 = .breakable <;>
        simp [landingEvents, h, List.filterMap_cons, Event.landedSlot?]
  rw [filterMap_events r rfl rfl rfl, hlanding]
  cases r.final with
  | none => exact List.append_nil _
  | some score => exact List.append_nil _

/-! ### Leaving out repetitions -/

/-- One more element after a first one, by cases on the element before it. -/
theorem destutter'_ne_concat {α : Type} [DecidableEq α] (b : α) (l : List α) (a : α) :
    (l ++ [a]).destutter' (· ≠ ·) b =
      if (b :: l).getLast? = some a then l.destutter' (· ≠ ·) b
      else l.destutter' (· ≠ ·) b ++ [a] := by
  induction l generalizing b with
  | nil => by_cases h : b = a <;> simp [h]
  | cons c l ih =>
    rw [List.getLast?_cons_cons, List.cons_append]
    by_cases h : b = c
    · subst h
      simpa using ih b
    · rw [List.destutter'_cons_pos _ h, List.destutter'_cons_pos _ h, ih c]
      split <;> rfl

/-- **One more element** adds to the list without repetitions unless it repeats the one before it. -/
theorem destutter_ne_concat {α : Type} [DecidableEq α] (l : List α) (a : α) :
    (l ++ [a]).destutter (· ≠ ·) =
      if l.getLast? = some a then l.destutter (· ≠ ·) else l.destutter (· ≠ ·) ++ [a] := by
  cases l with
  | nil => simp
  | cons b l => exact destutter'_ne_concat b l a

namespace Game

/-- The count of landings and the last slot are those of the landings of the run so far. -/
structure Counted (frames : List Frame) (game : Game) : Prop where
  landings_eq : game.landings = ((landedSlots frames).destutter (· ≠ ·)).length
  lastLanded_eq : game.lastLanded = (landedSlots frames).getLast?

/-- **A frame keeps the count.** -/
theorem Counted.outcome {frames : List Frame} {game : Game} (h : Counted frames game) (s : Setup)
    (time : Single) :
    Counted (frames ++ [⟨game, game.outcome s time⟩]) (game.outcome s time) := by
  have hslots := landedSlots_concat frames ⟨game, game.outcome s time⟩
  simp only [events_outcome, Report.filterMap_landedSlot?_events, report] at hslots
  have hlandings := landings_outcome game s time
  have hlast := lastLanded_outcome game s time
  cases hlanding : (game.setUp s).landing? with
  | none =>
    simp only [hlanding, Option.map_none, Option.toList_none, List.append_nil] at hslots
    rw [hlanding] at hlandings hlast
    constructor
    · rw [hslots, hlandings]
      exact h.landings_eq
    · rw [hslots, hlast]
      exact h.lastLanded_eq
  | some landing =>
    simp only [hlanding, Option.map_some, Option.toList_some] at hslots
    rw [hlanding] at hlandings hlast
    constructor
    -- the slot that the game remembers is the one that a repetition would have to repeat
    · rw [hslots, hlandings, destutter_ne_concat, h.landings_eq, h.lastLanded_eq]
      by_cases hsame : (landedSlots frames).getLast? = some landing.1 <;> simp [hsame]
    · rw [hslots, hlast]
      simp

/-- **The count of landings.** After any frames from the start of a game the count is the number of
landings of the current run without those on the slot of the landing before, and the last slot is that
of the last landing, if there was one. -/
theorem landings_of_filmFrom {seed : UInt64} {t : Tuning} {inputs : List (Controls × Single)}
    {last : Game} {frames : List Frame} (hfilm : filmFrom seed t inputs = .ok (last, frames)) :
    last.landings = ((landedSlots (currentRun frames)).destutter (· ≠ ·)).length ∧
      last.lastLanded = (landedSlots (currentRun frames)).getLast? := by
  have hcounted : Counted (currentRun frames) last := by
    refine currentRun_preserves (P := Counted) ?_ ?_ ?_ hfilm
    · intro game hfresh
      exact ⟨hfresh.landings, hfresh.lastLanded⟩
    · intro frames game time s h hrunning hsetup
      exact h.outcome s time
    · intro frames game h hover
      have hslots := landedSlots_concat frames ⟨game, { game with events := [] }⟩
      rw [List.filterMap_nil, List.append_nil] at hslots
      exact ⟨hslots ▸ h.landings_eq, hslots ▸ h.lastLanded_eq⟩
  exact ⟨hcounted.landings_eq, hcounted.lastLanded_eq⟩

/-- A tuning with low jumps and platforms close above each other. -/
def dense : Tuning :=
  { Tuning.standard with
    gravity := 4
    jumpForce := -12
    spacingMin := 10
    spacingMax := 11
    generationMargin := -1130 }

/-- A player who comes back to a slot after another one, and then stays on it, has made three
landings that count. -/
theorem landings_on_dense :
    ∃ last frames, filmFrom 61 dense (List.replicate 19 ({}, 1)) = .ok (last, frames) ∧
      landedSlots (currentRun frames) = [2, 1, 2, 2] ∧ last.landings = 3 ∧
      last.lastLanded = some 2 := by
  obtain ⟨⟨last, frames⟩, hfilm, hcheck⟩ := exists_eq_ok_of_any
    (x := filmFrom 61 dense (List.replicate 19 ({}, 1)))
    (fun r => landedSlots (currentRun r.2) == [2, 1, 2, 2]) (by decide +kernel)
  have hslots : landedSlots (currentRun frames) = [2, 1, 2, 2] := by simpa using hcheck
  obtain ⟨hlandings, hlast⟩ := landings_of_filmFrom hfilm
  rw [hslots] at hlandings hlast
  exact ⟨last, frames, hfilm, hslots, hlandings, hlast⟩

end Game

end Platformer
