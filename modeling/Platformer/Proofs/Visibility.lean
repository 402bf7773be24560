import Platformer.Proofs.Coarse
import Platformer.Proofs.Picture
import Platformer.Proofs.Safety
import Platformer.Proofs.WellFormed

/-! # The player stays in the picture

The camera follows the player at a distance, so that the player is never above the picture, and a
run ends when the player is below it. Both are rounded, the distance in two steps, and far from the
origin the steps are lost altogether; but what is lost is lost towards the player. So a picture of a
running game shows the player at every height.

* **`Game.nextCamera_le_top`** — a frame leaves the camera above the player.
* **`Game.screenY_nonneg`**, **`Game.screenY_le_of_safe`** — the height of the player on the screen.
* **`Game.player_shown`** — while a run goes on, its pictures show the player. -/

namespace Platformer

namespace Game

variable {game next : Game}

/-! ### The upper edge -/

/-- **The camera stays above the player.** It moves only to a height above the player, and where it
stays it is above that height. -/
theorem nextCamera_le_top (htuning : game.tuning = .standard) (hcamera : game.camera.isNaN = false)
    (htop : game.player.body.top.Within (2 ^ 60)) : game.nextCamera ≤ game.player.body.top := by
  have hmiddle : (viewportHeight / 2).Within 320 ∧ (viewportHeight / 2).value = 320 := by
    decide +kernel
  have hoffset : Tuning.standard.cameraOffset.Within 100 ∧
      Tuning.standard.cameraOffset.value = 100 := by decide +kernel
  have hsub : (game.player.body.top - viewportHeight / 2).Within (2 ^ 60) := htop.sub hmiddle.1
  have htarget : (game.player.body.top - viewportHeight / 2 + Tuning.standard.cameraOffset).Within
      (2 ^ 60) := hsub.add hoffset.1
  have hle : game.player.body.top - viewportHeight / 2 + game.tuning.cameraOffset ≤
      game.player.body.top := by
    rw [htuning]
    refine Single.sub_add_le (k := 8) (by decide) htop.isFinite hmiddle.1.isFinite
      hoffset.1.isFinite hsub.isFinite htarget.isFinite ?_ ?_ ?_ ?_ <;>
      rw [hoffset.2] <;> norm_num [hmiddle.2]
  rw [nextCamera]
  split
  · exact hle
  · next hstay =>
    have hnumber := htuning ▸ htarget.isNaN
    exact Single.le_trans (Single.le_of_not_lt hnumber hcamera hstay) hle

/-- A run begins with the player below the camera. -/
theorem camera_le_top_of_fresh (h : game.Fresh) : game.camera ≤ game.player.body.top := by
  rw [h.camera, h.player]
  decide +kernel

/-- **A call keeps the player below the camera** in a well formed game. -/
theorem camera_le_top_of_effect (htuning : game.tuning = .standard)
    (hcamera : game.camera.isNaN = false) (hnext : next.WellFormed)
    (h : game.camera ≤ game.player.body.top) {call : Call} (heffect : Effect game call next) :
    next.camera ≤ next.player.body.top := by
  cases heffect with
  | frame hrunning hstep =>
    obtain ⟨time, s, -, -, -, rfl⟩ := step_eq_setUp_moved hstep
    show (game.outcome s time).camera ≤ (game.outcome s time).player.body.top
    rw [camera_outcome]
    exact nextCamera_le_top htuning hcamera hnext.player.top_within
  | frozen hover hkeep => exact h
  | newRun hbegins hfresh => exact camera_le_top_of_fresh hfresh
  | clock => exact h
  | shot hshot =>
    obtain ⟨shot, timer, -, rfl⟩ := shoot?_eq_some hshot
    exact h
  | refused => exact h
  | compacted => exact h

/-! ### The height on the screen -/

/-- A player below the camera is not above the screen. -/
theorem screenY_nonneg (hgame : game.WellFormed) (h : game.camera ≤ game.player.body.top) :
    0 ≤ screenY game.player.body.top game.camera :=
  Single.sub_nonneg hgame.camera_within.isFinite hgame.player.top_within.isFinite h

/-- A safe player is at most the height of the screen below its upper edge. -/
theorem screenY_le_of_safe (hgame : game.WellFormed) (h : game.Safe) :
    screenY game.player.body.top game.camera ≤ viewportHeight := by
  have hcamera := hgame.camera_within
  have htop := hgame.player.top_within
  have hheight : viewportHeight.Within 640 := by decide +kernel
  have hbottom : (game.camera + viewportHeight).Within (2 ^ 61) := hcamera.add hheight
  exact Single.sub_le_of_lt_add hcamera.isFinite htop.isFinite hheight.isFinite
    (Single.lt_of_not_le hbottom.isNaN htop.isNaN h.inPicture)

/-- What is as high as a player is visible everywhere from the upper to the lower edge. -/
theorem isVisible_of_mem {y : Single} (hnonneg : 0 ≤ y) (hle : y ≤ viewportHeight) :
    y < 660 ∧ isVisible y playerHeight = true := by
  have hlow : -playerHeight < 0 := by decide +kernel
  have hhigh : viewportHeight < 660 ∧ viewportHeight + playerHeight = 660 := by decide +kernel
  have hlt := Single.lt_of_le_of_lt hle hhigh.1
  refine ⟨hlt, ?_⟩
  rw [isVisible, hhigh.2, Bool.and_eq_true, decide_eq_true_eq, decide_eq_true_eq]
  exact ⟨Single.lt_of_lt_of_le hlow hnonneg, hlt⟩

/-! ### Pictures -/

/-- **While a run goes on, its pictures show the player.** Under the ordinary tuning calls from
every seed lead to a game, unless a frame is given a time that is not a number; and if it is
running, the player is on the screen and its figure is the last one of a picture with whatever
atlas. -/
theorem player_shown (seed : UInt64) {calls : List Call} (hcalls : ∀ call ∈ calls, call.IsTimed) :
    ∃ game, play seed .standard calls = .ok game ∧ (game.running = true →
      0 ≤ screenY game.player.body.top game.camera ∧
      screenY game.player.body.top game.camera < 660 ∧
      isVisible (screenY game.player.body.top game.camera) game.player.body.height = true ∧
      ∀ atlas, (game.picture atlas).block (game.picture atlas).drawn =
        game.player.figure.vertices atlas game.camera) := by
  obtain ⟨game, hplay, hgame, hcamera⟩ := exists_play
    (P := fun game => game.WellFormed ∧ game.camera ≤ game.player.body.top)
    Tuning.playable_standard
    (fun htuning hfresh => ⟨wellFormed_of_fresh htuning hfresh, camera_le_top_of_fresh hfresh⟩)
    (fun htuning hnext htimed h heffect =>
      have hkept := h.1.effect htuning hnext htimed heffect
      ⟨hkept, camera_le_top_of_effect htuning h.1.camera_within.isNaN hkept h.2 heffect⟩)
    seed hcalls
  refine ⟨game, hplay, fun hrunning => ?_⟩
  have hsafe := (running_iff_safe hplay).mp hrunning
  have hnonneg := screenY_nonneg hgame hcamera
  obtain ⟨hlt, hvisible⟩ := isVisible_of_mem hnonneg (screenY_le_of_safe hgame hsafe)
  have hheight : game.player.body.height = playerHeight := hgame.player.height_eq
  rw [hheight]
  refine ⟨hnonneg, hlt, hvisible, block_player ?_⟩
  rw [Figure.isVisible, Player.body_figure, hheight]
  exact hvisible

/-- A shot, an endless frame, a restart and two more frames leave a running game, whose player is on
the screen and in its pictures. -/
theorem player_shown_after_restart :
    (∀ call ∈ [.tick { shoot := true } 1, .tick { left := true } (.infinite false), .restart,
      .tick { idle := true } 2, .tick { tilt := some (.nan true) } 1], Call.IsTimed call) ∧
    ∃ game, play 7 .standard [.tick { shoot := true } 1, .tick { left := true } (.infinite false),
        .restart, .tick { idle := true } 2, .tick { tilt := some (.nan true) } 1] = .ok game ∧
      game.running = true ∧ 0 ≤ screenY game.player.body.top game.camera ∧
      screenY game.player.body.top game.camera < 660 ∧
      ∀ atlas, (game.picture atlas).block (game.picture atlas).drawn =
        game.player.figure.vertices atlas game.camera := by
  have htimed : ∀ call ∈ [.tick { shoot := true } 1, .tick { left := true } (.infinite false),
      .restart, .tick { idle := true } 2, .tick { tilt := some (.nan true) } 1],
      Call.IsTimed call := by decide +kernel
  obtain ⟨game, hplay, hshown⟩ := player_shown 7 htimed
  obtain ⟨game', hplay', hrunning⟩ := exists_of_play 7 .standard
    [.tick { shoot := true } 1, .tick { left := true } (.infinite false), .restart,
      .tick { idle := true } 2, .tick { tilt := some (.nan true) } 1]
    (·.running) (by decide +kernel)
  obtain rfl : game' = game := Except.ok.inj (hplay'.symm.trans hplay)
  obtain ⟨hnonneg, hlt, -, hblock⟩ := hshown hrunning
  exact ⟨htimed, game', hplay, hrunning, hnonneg, hlt, hblock⟩

end Game

end Platformer
