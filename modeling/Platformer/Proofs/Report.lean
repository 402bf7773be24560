import Mathlib.Data.List.Count
import Platformer.Event

/-! # Reports of frames

Every stage of a frame adds its events behind those of the stages before it. So what a frame of a
running game reports is a fixed sequence of parts, each of which is present or not.

* **`Report`** — the parts; **`Report.events`** — the events that they make, in order.
* **`Report.landed_mem_events`** and its neighbours — each part is read off the events alone. -/

namespace Platformer

/-- What a frame of a running game may report. -/
structure Report where
  /-- Whether the player fired. -/
  shot : Bool
  /-- Whether a monster appeared. -/
  spawned : Bool
  /-- The slot that the player landed on, and the kind of its platform. -/
  landing : Option (Nat × PlatformKind)
  /-- The number of monsters that were shot. -/
  kills : Nat
  /-- The final score of a run that ended. -/
  final : Option Nat

namespace Report

/-- The events of a landing: a breakable platform breaks first. -/
def landingEvents : Option (Nat × PlatformKind) → List Event
  | none => []
  | some (slot, kind) =>
    (if kind = .breakable then [.platformBroken slot] else []) ++ [.landed slot kind]

/-- The events of a report, in the order of the stages of a frame. -/
def events (r : Report) : List Event :=
  (if r.shot then [.shotFired] else []) ++ (if r.spawned then [.monsterSpawned] else []) ++
    landingEvents r.landing ++ List.replicate r.kills .monsterKilled ++
    (r.final.map Event.gameOver).toList

/-! ### Landings -/

/-- A landing event tells the slot and the kind. -/
@[simp] theorem landed_mem_landingEvents {landing : Option (Nat × PlatformKind)} {slot : Nat}
    {kind : PlatformKind} :
    .landed slot kind ∈ landingEvents landing ↔ landing = some (slot, kind) := by
  cases landing with
  | none => simp [landingEvents]
  | some l => by_cases h : l.2 = .breakable <;> simp [landingEvents, h, Prod.ext_iff, eq_comm]

/-- A platform breaks in a landing on it exactly when it is breakable. -/
@[simp] theorem platformBroken_mem_landingEvents {landing : Option (Nat × PlatformKind)}
    {slot : Nat} :
    .platformBroken slot ∈ landingEvents landing ↔ landing = some (slot, .breakable) := by
  cases landing with
  | none => simp [landingEvents]
  | some l => by_cases h : l.2 = .breakable <;> simp [landingEvents, h, Prod.ext_iff, eq_comm]

/-- A landing reports nothing else. -/
@[simp] theorem notMem_landingEvents {landing : Option (Nat × PlatformKind)} {e : Event}
    (hbroken : ∀ slot, e ≠ .platformBroken slot) (hlanded : ∀ slot kind, e ≠ .landed slot kind) :
    e ∉ landingEvents landing := by
  cases landing with
  | none => simp [landingEvents]
  | some l => by_cases h : l.2 = .breakable <;> simp [landingEvents, h, hbroken, hlanded]

/-! ### Reading a report -/

variable (r : Report)

/-- The landing is read off the events. -/
@[simp] theorem landed_mem_events {slot : Nat} {kind : PlatformKind} :
    .landed slot kind ∈ r.events ↔ r.landing = some (slot, kind) := by
  simp [events]

/-- The platform that broke is read off the events. -/
@[simp] theorem platformBroken_mem_events {slot : Nat} :
    .platformBroken slot ∈ r.events ↔ r.landing = some (slot, .breakable) := by
  simp [events]

/-- The end of the run is read off the events. -/
@[simp] theorem gameOver_mem_events {score : Nat} :
    .gameOver score ∈ r.events ↔ r.final = some score := by
  simp [events]

/-- A frame of a running game reports no restart. -/
@[simp] theorem restarted_notMem_events : .restarted ∉ r.events := by
  simp [events]

/-- The number of an event that has to do neither with a landing nor with the end of the run. -/
theorem count_events {e : Event} (hbroken : ∀ slot, e ≠ .platformBroken slot)
    (hlanded : ∀ slot kind, e ≠ .landed slot kind) (hfinal : ∀ score, e ≠ .gameOver score) :
    r.events.count e =
      (if r.shot ∧ .shotFired = e then 1 else 0) + (if r.spawned ∧ .monsterSpawned = e then 1 else 0)
        + if .monsterKilled = e then r.kills else 0 := by
  have hland : (landingEvents r.landing).count e = 0 :=
    List.count_eq_zero.mpr (notMem_landingEvents hbroken hlanded)
  have hover : (r.final.map Event.gameOver).toList.count e = 0 := by
    rw [List.count_eq_zero, Option.mem_toList, Option.map_eq_some_iff]
    rintro ⟨score, -, rfl⟩
    exact hfinal score rfl
  simp only [events, List.count_append, hland, hover, Nat.add_zero, List.count_replicate]
  cases r.shot <;> cases r.spawned <;> simp [List.count_singleton]

/-- The shot is read off the events. -/
@[simp] theorem count_shotFired_events : r.events.count .shotFired = r.shot.toNat := by
  cases h : r.shot <;> simp [count_events, h]

/-- The monster that appeared is read off the events. -/
@[simp] theorem count_monsterSpawned_events : r.events.count .monsterSpawned = r.spawned.toNat := by
  cases h : r.spawned <;> simp [count_events, h]

/-- The kills are read off the events. -/
@[simp] theorem count_monsterKilled_events : r.events.count .monsterKilled = r.kills := by
  simp [count_events]

/-- What concerns neither shots nor monsters is read off the landing and the end of the run. -/
theorem filterMap_events {α : Type} {f : Event → Option α} (hshot : f .shotFired = none)
    (hspawned : f .monsterSpawned = none) (hkilled : f .monsterKilled = none) :
    r.events.filterMap f = (landingEvents r.landing).filterMap f ++
      (r.final.map Event.gameOver).toList.filterMap f := by
  simp only [events, List.filterMap_append, List.filterMap_replicate_of_none hkilled]
  cases r.shot <;> cases r.spawned <;> simp [hshot, hspawned]

end Report

end Platformer
