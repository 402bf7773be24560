import Platformer.Proofs.Frame
import Platformer.Proofs.Run
import Platformer.Proofs.Spawning

/-! # The stores of a game

Three stores grow during a run: the slots of the platforms, the monsters and the projectiles. Each
keeps within its capacity at every stage of a frame; the dead and the spent lie in their stores only
until the contacts of the same frame are over.

* **`Game.Sized`** — the capacities and the slot of the last landing, which every stage keeps.
* **`Game.Tidy`** — the same for a game between two calls, whose stores hold only what is live.
* **`Game.tidy_of_play`** — every game that a run leads to is tidy, and its slots stay for the run. -/

namespace Platformer

namespace Game

/-- The stores keep within their capacities, and the last landing was on one of the slots. -/
structure Sized (game : Game) : Prop where
  platforms_le : game.platforms.length ≤ maxPlatforms
  monsters_le : game.monsters.length ≤ maxMonsters
  projectiles_le : game.projectiles.length ≤ maxProjectiles
  lastLanded_lt : ∀ slot, game.lastLanded = some slot → slot < game.platforms.length

/-- The stores keep within their capacities and hold no dead monster and no spent projectile. -/
structure Tidy (game : Game) : Prop extends Sized game where
  monsters_active : ∀ m ∈ game.monsters, m.active = true
  projectiles_active : ∀ p ∈ game.projectiles, p.active = true

variable {game next : Game}

/-! ### The stages of a frame -/

/-- A shot keeps the capacity of the projectiles. -/
theorem Fires.length_le {shot : Option Projectile} (hfires : game.Fires shot)
    (hroom : game.projectiles.length ≤ maxProjectiles) :
    (game.projectiles ++ shot.toList).length ≤ maxProjectiles := by
  cases shot with
  | none => simpa using hroom
  | some p =>
    rw [Option.toList_some, List.length_append, List.length_singleton]
    exact (hfires p rfl).2

/-- The player's stage keeps the capacities. -/
theorem Sized.act (h : game.Sized) (c : Controls) (dt : Single) : (game.act c dt).Sized := by
  obtain ⟨player, shot, hfires, hact⟩ := act_eq game c dt
  rw [hact]
  exact ⟨h.platforms_le, h.monsters_le, hfires.length_le h.projectiles_le, h.lastLanded_lt⟩

/-- The player's stage leaves the slots alone. -/
theorem platforms_act (game : Game) (c : Controls) (dt : Single) :
    (game.act c dt).platforms = game.platforms := by
  obtain ⟨player, shot, -, hact⟩ := act_eq game c dt
  rw [hact]

/-- The world's stage only adds slots. -/
theorem length_platforms_scroll {dt : Single} {notices : List Notice}
    (h : game.scroll dt = .ok (next, notices)) :
    game.platforms.length ≤ next.platforms.length := by
  obtain ⟨filling, spawned, generator, hfill, -, rfl⟩ := scroll_eq_ok h
  simpa using (length_fill hfill).1

/-- The world's stage keeps the capacities. -/
theorem Sized.scroll (h : game.Sized) {dt : Single} {notices : List Notice}
    (hscroll : game.scroll dt = .ok (next, notices)) : next.Sized := by
  have hslots := length_platforms_scroll hscroll
  obtain ⟨filling, spawned, generator, hfill, hspawn, rfl⟩ := scroll_eq_ok hscroll
  have hfilled := (length_fill hfill).2
  rw [length_cleared, Nat.max_eq_right h.platforms_le] at hfilled
  refine ⟨hfilled, ?_, h.projectiles_le, ?_⟩
  · cases spawned with
    | none => simpa using h.monsters_le
    | some m =>
      have hroom := (spawnMonster?_eq_some hspawn).1
      rw [Option.toList_some, List.length_append, List.length_singleton]
      exact hroom
  · intro slot hslot
    exact Nat.lt_of_lt_of_le (h.lastLanded_lt slot hslot) hslots

/-- The contacts leave every slot in its place. -/
theorem length_platforms_collide (game : Game) (dt : Single) :
    (game.collide dt).platforms.length = game.platforms.length := by
  obtain ⟨player, platforms, landings, lastLanded, events, hlength, -, hland⟩ := land_frame game
  rw [collide_eq, hland]
  exact hlength

/-- Moving what is live, and dropping what has left the picture, adds nothing to a store. -/
theorem length_sweep_le {α : Type} (live inside : α → Bool) (move : α → α) (store : List α) :
    (((store.filter live).map move).filter inside).length ≤ store.length := by
  calc (((store.filter live).map move).filter inside).length
      ≤ ((store.filter live).map move).length := List.length_filter_le _ _
    _ = (store.filter live).length := List.length_map _
    _ ≤ store.length := List.length_filter_le _ _

/-- **The contacts clear the stores**: what they kill and spend is gone after them. -/
theorem Sized.collide (h : game.Sized) (dt : Single) : (game.collide dt).Tidy := by
  obtain ⟨player, platforms, landings, lastLanded, events, hlength, hlanded, hland⟩ :=
    land_frame game
  rw [collide_eq, hland]
  refine ⟨⟨hlength ▸ h.platforms_le, ?_, ?_, ?_⟩, ?_, ?_⟩
  · refine Nat.le_trans (List.length_filter_le _ _) ?_
    rw [volley, length_monsters_strike]
    exact Nat.le_trans (length_sweep_le _ _ _ _) h.monsters_le
  · refine Nat.le_trans (List.length_filter_le _ _) ?_
    rw [volley, length_projectiles_strike]
    exact Nat.le_trans (length_sweep_le _ _ _ _) h.projectiles_le
  · intro slot hslot
    rw [hlength]
    rcases hlanded with hsame | ⟨slot', hslot', hlt⟩
    · exact h.lastLanded_lt slot (hsame ▸ hslot)
    · rw [hslot'] at hslot
      cases hslot
      exact hlt
  · intro m hm
    exact (List.mem_filter.mp hm).2
  · intro p hp
    exact (List.mem_filter.mp hp).2

/-- The end of a frame leaves the stores alone. -/
theorem Tidy.conclude (h : game.Tidy) : game.conclude.Tidy := by
  rw [conclude_eq]
  exact ⟨⟨h.platforms_le, h.monsters_le, h.projectiles_le, h.lastLanded_lt⟩, h.monsters_active,
    h.projectiles_active⟩

/-! ### Calls -/

/-- A run begins with tidy stores. -/
theorem tidy_of_fresh (h : game.Fresh) : game.Tidy := by
  obtain ⟨generator, layout, hlayout, hplatforms⟩ := h.platforms
  refine ⟨⟨?_, ?_, ?_, ?_⟩, ?_, ?_⟩
  · rw [hplatforms]
    exact (length_fill hlayout).2
  · rw [h.monsters]
    exact Nat.zero_le _
  · rw [h.projectiles]
    exact Nat.zero_le _
  · simp [h.lastLanded]
  · simp [h.monsters]
  · simp [h.projectiles]

/-- **A call keeps the stores tidy.** -/
theorem Tidy.effect {call : Call} (h : game.Tidy) (heffect : Effect game call next) :
    next.Tidy := by
  cases heffect with
  | frame hrunning hstep =>
    obtain ⟨time, scrolled, reports, -, hscroll, rfl⟩ := step_eq_ok hstep
    -- the capacities pass from stage to stage, and the contacts make the stores tidy again
    have hcleared : Sized { game with events := [], ticks := game.ticks + 1 } :=
      ⟨h.platforms_le, h.monsters_le, h.projectiles_le, h.lastLanded_lt⟩
    exact (((hcleared.act _ time).scroll hscroll).collide time).conclude
  | frozen hover hkeep => exact ⟨⟨h.1.1, h.1.2, h.1.3, h.1.4⟩, h.2, h.3⟩
  | newRun hbegins hfresh => exact tidy_of_fresh hfresh
  | clock => exact ⟨⟨h.1.1, h.1.2, h.1.3, h.1.4⟩, h.2, h.3⟩
  | shot hshot =>
    obtain ⟨shot, timer, hfires, rfl⟩ := shoot?_eq_some hshot
    refine ⟨⟨h.platforms_le, h.monsters_le, hfires.length_le h.projectiles_le, h.lastLanded_lt⟩,
      h.monsters_active, ?_⟩
    intro p hp
    rcases List.mem_append.mp hp with hold | hnew
    · exact h.projectiles_active p hold
    · rw [List.mem_singleton.mp hnew, (hfires shot rfl).1]
      rfl
  | refused => exact h
  | compacted =>
    exact ⟨⟨h.platforms_le, Nat.le_trans (List.length_filter_le _ _) h.monsters_le,
      Nat.le_trans (List.length_filter_le _ _) h.projectiles_le, h.lastLanded_lt⟩,
      fun m hm => (List.mem_filter.mp hm).2, fun p hp => (List.mem_filter.mp hp).2⟩

/-- **A call of the same run takes no slot away.** -/
theorem length_platforms_effect {call : Call} (hkeeps : game.begins call = false)
    (heffect : Effect game call next) : game.platforms.length ≤ next.platforms.length := by
  cases heffect with
  | frame hrunning hstep =>
    obtain ⟨time, scrolled, reports, -, hscroll, rfl⟩ := step_eq_ok hstep
    have hgrown := length_platforms_scroll hscroll
    rw [platforms_act] at hgrown
    rw [conclude_eq]
    simpa only [length_platforms_collide] using hgrown
  | newRun hbegins hfresh =>
    rw [hkeeps] at hbegins
    cases hbegins
  | shot hshot =>
    obtain ⟨shot, timer, -, rfl⟩ := shoot?_eq_some hshot
    exact Nat.le_refl _
  | _ => exact Nat.le_refl _

/-- **The stores of a run.** After any calls the stores keep within their capacities, every monster
and every projectile is active, and the last landing was on a slot of the store; from there on the
number of slots does not fall until the next run begins. -/
theorem tidy_of_play {seed : UInt64} {t : Tuning} {calls : List Call}
    (hplay : play seed t calls = .ok game) :
    game.Tidy ∧ ∀ later last, game.keepsRun later = true → game.run later = .ok last →
      game.platforms.length ≤ last.platforms.length := by
  constructor
  · exact play_preserves (P := Tidy) tidy_of_fresh Tidy.effect hplay
  · intro later last hkeeps hlater
    exact run_relates (P := fun _ => True)
      (R := fun a b => a.platforms.length ≤ b.platforms.length) (fun _ => Nat.le_refl _)
      Nat.le_trans (fun _ _ => trivial)
      (fun _ hbegins heffect => length_platforms_effect hbegins heffect) trivial hkeeps hlater

/-- The stores over a shot, a restart and a few frames, and over two more frames after them. -/
theorem tidy_after_restart :
    ∃ game last, play 7 .standard [.shoot, .tick {} 1, .restart, .advanceClock 20, .tick {} 1] =
        .ok game ∧
      game.Tidy ∧ game.run [.tick { shoot := true } 1, .compact, .tick {} 1] = .ok last ∧
      game.platforms.length ≤ last.platforms.length := by
  obtain ⟨game, hplay, hkeeps⟩ := exists_of_play 7 .standard
    [.shoot, .tick {} 1, .restart, .advanceClock 20, .tick {} 1]
    (fun game => game.keepsRun [.tick { shoot := true } 1, .compact, .tick {} 1])
    (by decide +kernel)
  obtain ⟨last, hlast⟩ := exists_run_of_keepsRun hkeeps
  obtain ⟨htidy, hslots⟩ := tidy_of_play hplay
  exact ⟨game, last, hplay, htidy, hlast, hslots _ _ hkeeps hlast⟩

end Game

end Platformer
