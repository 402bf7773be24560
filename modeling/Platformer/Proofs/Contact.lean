import Mathlib.Data.List.Basic
import Platformer.Contact

/-! # What contacts leave alone

A round of shots kills monsters in their places and moves none of them, and a landing is on a slot of
the store.

* **`map_body_killFirst?`**, **`map_body_strike`** — no shot moves, adds or removes a monster.
* **`firstLanding?_eq_some_iff`**, **`firstLanding?_lt`** — a landing is on the first of the slots
  that fit.
* **`isSome_firstLanding?`** — where the player lands on a platform, there is a landing. -/

namespace Platformer

/-! ### Shots -/

/-- A shot leaves every monster where it is. -/
theorem map_body_killFirst? {shot : Box} {ms ms' : List Monster}
    (h : killFirst? shot ms = some ms') : ms'.map (·.body) = ms.map (·.body) := by
  induction ms generalizing ms' with
  | nil => simp [killFirst?] at h
  | cons m ms ih =>
    rw [killFirst?] at h
    by_cases hhit : (m.active && shot.overlaps m.body) = true
    · rw [if_pos hhit] at h
      cases h
      rfl
    · rw [if_neg hhit] at h
      obtain ⟨rest, hrest, rfl⟩ := Option.map_eq_some_iff.mp h
      rw [List.map_cons, List.map_cons, ih hrest]

/-- A volley leaves every monster where it is. -/
theorem map_body_strike (ps : List Projectile) (ms : List Monster) :
    (strike ps ms).monsters.map (·.body) = ms.map (·.body) := by
  -- each shot acts on the monsters that the shots before it have left
  induction ps generalizing ms with
  | nil => rfl
  | cons p ps ih =>
    rw [strike]
    split
    · next ms' hhit =>
      rw [ih]
      by_cases hactive : p.active = true
      · rw [if_pos hactive] at hhit
        exact map_body_killFirst? hhit
      · rw [if_neg hactive] at hhit
        cases hhit
    · exact ih ms

/-- A volley keeps every monster in its place. -/
@[simp] theorem length_monsters_strike (ps : List Projectile) (ms : List Monster) :
    (strike ps ms).monsters.length = ms.length := by
  simpa using congrArg List.length (map_body_strike ps ms)

/-! ### Landing -/

/-- **A landing is on the first slot** whose platform the player lands on. -/
theorem firstLanding?_eq_some_iff {player : Player} {platforms : List Platform} {p : Platform}
    {slot : Nat} : firstLanding? player platforms = some (p, slot) ↔
      platforms[slot]? = some p ∧ player.landsOn p = true ∧
        ∀ earlier < slot, ∀ q ∈ platforms[earlier]?, player.landsOn q = false := by
  rw [firstLanding?, List.find?_eq_some_iff_getElem]
  constructor
  · rintro ⟨hlands, i, hi, hget, hbefore⟩
    rw [List.length_zipIdx] at hi
    obtain ⟨rfl, rfl⟩ : platforms[i] = p ∧ i = slot := by simpa using hget
    refine ⟨List.getElem?_eq_getElem hi, hlands, ?_⟩
    intro earlier hearlier q hq
    obtain ⟨hlt, rfl⟩ := List.getElem?_eq_some_iff.mp hq
    simpa using hbefore earlier hearlier
  · rintro ⟨hslot, hlands, hbefore⟩
    obtain ⟨hlt, rfl⟩ := List.getElem?_eq_some_iff.mp hslot
    refine ⟨hlands, slot, by simpa using hlt, by simp, ?_⟩
    intro earlier hearlier
    have hinside := Nat.lt_trans hearlier hlt
    simpa using hbefore earlier hearlier _ (List.getElem?_eq_getElem hinside)

/-- A landing is on the platform of its slot. -/
theorem firstLanding?_eq_some {player : Player} {platforms : List Platform} {p : Platform}
    {slot : Nat} (h : firstLanding? player platforms = some (p, slot)) :
    platforms[slot]? = some p ∧ player.landsOn p = true :=
  ⟨(firstLanding?_eq_some_iff.mp h).1, (firstLanding?_eq_some_iff.mp h).2.1⟩

/-- A landing is on a slot of the store. -/
theorem firstLanding?_lt {player : Player} {platforms : List Platform} {p : Platform} {slot : Nat}
    (h : firstLanding? player platforms = some (p, slot)) : slot < platforms.length :=
  (List.getElem?_eq_some_iff.mp (firstLanding?_eq_some h).1).1

/-- A platform that the player lands on makes a landing, there or on an earlier slot. -/
theorem isSome_firstLanding? {player : Player} {platforms : List Platform} {p : Platform}
    {slot : Nat} (hslot : platforms[slot]? = some p) (hlands : player.landsOn p = true) :
    (firstLanding? player platforms).isSome = true := by
  rw [firstLanding?, List.find?_isSome]
  exact ⟨(p, slot), List.mem_zipIdx_iff_getElem?.mpr hslot, hlands⟩

end Platformer
