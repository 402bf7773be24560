import Platformer.Proofs.Stores

/-! # A run goes on as long as the player is safe

A frame tests the contact with monsters before the camera moves and the fall after it. The camera has
no part in the first test and the monsters have none in the second, so that at the end of the frame
both tests speak of the same game.

* **`Game.Safe`** — no monster touches the player, and the player is above the lower edge.
* **`Game.conclude_running_iff`** — what the end of a frame decides.
* **`Game.running_iff_safe`** — a game is running exactly when its player is safe. -/

namespace Platformer

namespace Game

/-- No monster touches the player, and the player has not left the picture through its lower
edge. -/
structure Safe (game : Game) : Prop where
  untouched : ∀ m ∈ game.monsters, game.player.body.overlaps m.body = false
  inPicture : ¬ game.camera + viewportHeight ≤ game.player.body.top

variable {game next : Game}

/-- Safety in terms of its two parts. -/
theorem safe_iff (game : Game) : game.Safe ↔
    (∀ m ∈ game.monsters, game.player.body.overlaps m.body = false) ∧
      ¬ game.camera + viewportHeight ≤ game.player.body.top :=
  ⟨fun h => ⟨h.untouched, h.inPicture⟩, fun h => ⟨h.1, h.2⟩⟩

/-- What changes neither the run, the camera, the monsters nor the place of the player keeps running
and safety together. -/
theorem running_iff_safe_congr (h : game.running = true ↔ game.Safe)
    (hrunning : next.running = game.running) (hcamera : next.camera = game.camera)
    (hmonsters : next.monsters = game.monsters) (hbody : next.player.body = game.player.body) :
    next.running = true ↔ next.Safe := by
  rw [hrunning, h, safe_iff, safe_iff, hcamera, hmonsters, hbody]

/-- Among live monsters only contact counts. -/
theorem isCaught_eq_false_iff {player : Player} {monsters : List Monster}
    (hactive : ∀ m ∈ monsters, m.active = true) :
    player.isCaught monsters = false ↔ ∀ m ∈ monsters, player.body.overlaps m.body = false := by
  rw [Player.isCaught, List.any_eq_false]
  constructor
  · intro h m hm
    simpa [hactive m hm] using h m hm
  · intro h m hm
    simp [h m hm]

/-- **The end of a frame** leaves a game running exactly when its player is safe. -/
theorem conclude_running_iff (hactive : ∀ m ∈ game.monsters, m.active = true)
    (hrunning : game.running = true) :
    game.conclude.running = true ↔ game.conclude.Safe := by
  have hfallen : game.endsFallen = false ↔
      ¬ game.nextCamera + viewportHeight ≤ game.player.body.top := by
    rw [endsFallen, decide_eq_false_iff_not]
  rw [conclude_eq]
  show (game.running && !(game.player.isCaught game.monsters || game.endsFallen)) = true ↔ _
  rw [hrunning, Bool.true_and, Bool.not_eq_true', Bool.or_eq_false_iff,
    isCaught_eq_false_iff hactive, hfallen, safe_iff]

/-- A run begins with a safe player. -/
theorem safe_of_fresh (h : game.Fresh) : game.Safe := by
  have hspawn : ¬ (0 : Single) + viewportHeight ≤ Player.spawn.body.top := by decide +kernel
  constructor
  · intro m hm
    rw [h.monsters] at hm
    exact absurd hm List.not_mem_nil
  · rwa [h.camera, h.player]

/-- **A call keeps running and safety together** in a tidy game. -/
theorem running_iff_safe_of_effect {call : Call} (htidy : game.Tidy)
    (h : game.running = true ↔ game.Safe) (heffect : Effect game call next) :
    next.running = true ↔ next.Safe := by
  have hnext : next.Tidy := htidy.effect heffect
  cases heffect with
  | frame hrunning hstep =>
    obtain ⟨time, scrolled, reports, -, hscroll, rfl⟩ := step_eq_ok hstep
    -- the end of the frame takes no monster away, so all were live when contact was tested
    have hactive := hnext.monsters_active
    rw [conclude_eq] at hactive
    exact conclude_running_iff hactive ((sameView_of_scroll hscroll).running.trans hrunning)
  | frozen hover hkeep => exact running_iff_safe_congr h rfl rfl rfl rfl
  | newRun hbegins hfresh =>
    exact ⟨fun _ => safe_of_fresh hfresh, fun _ => hfresh.running⟩
  | clock => exact running_iff_safe_congr h rfl rfl rfl rfl
  | shot hshot =>
    obtain ⟨shot, timer, -, rfl⟩ := shoot?_eq_some hshot
    exact running_iff_safe_congr h rfl rfl rfl rfl
  | refused => exact h
  | compacted =>
    have hmonsters : game.compact.monsters = game.monsters :=
      List.filter_eq_self.mpr htidy.monsters_active
    exact running_iff_safe_congr h rfl rfl hmonsters rfl

/-- **Running means safe.** After any calls a game is running exactly when no monster in it touches
the player and the player has not left the picture through its lower edge. -/
theorem running_iff_safe {seed : UInt64} {t : Tuning} {calls : List Call}
    (hplay : play seed t calls = .ok game) : game.running = true ↔ game.Safe := by
  have hboth := play_preserves (P := fun game => game.Tidy ∧ (game.running = true ↔ game.Safe))
    (fun hfresh => ⟨tidy_of_fresh hfresh, fun _ => safe_of_fresh hfresh, fun _ => hfresh.running⟩)
    (fun h heffect => ⟨h.1.effect heffect, running_iff_safe_of_effect h.1 h.2 heffect⟩) hplay
  exact hboth.2

/-- Under a heavy gravity the first frame ends the run, and the frame after it leaves it ended. -/
theorem not_safe_after_fall :
    ∃ game, play 7 { Tuning.standard with gravity := 1000 } [.tick {} 1, .tick {} 1] = .ok game ∧
      game.running = false ∧ ¬ game.Safe := by
  obtain ⟨game, hplay, hover⟩ := exists_of_play 7
    { Tuning.standard with gravity := 1000 } [.tick {} 1, .tick {} 1]
    (fun game => !game.running) (by decide +kernel)
  have hended : game.running = false := by simpa using hover
  refine ⟨game, hplay, hended, fun hsafe => ?_⟩
  rw [(running_iff_safe hplay).mpr hsafe] at hended
  cases hended

end Game

end Platformer
