import Platformer.Proofs.Frame
import Platformer.Proofs.Run
import Platformer.Proofs.Tenth

/-! # The climb and its score

The camera only climbs, and every operation on the way from the camera to the score keeps order. So
the greatest score so far is always the score of the current camera, and the score is read off the
camera alone.

* **`Game.climbed_le_climbed`**, **`Game.climbed_eq_ite`**, **`Game.climbed_eq_floor`** — the score
  of a camera.
* **`Game.Level`** — the camera and the score of a game between two calls.
* **`Game.level_of_play`** — they are level in every game, and neither falls during a run. -/

namespace Platformer

namespace Game

/-! ### The score of a camera -/

/-- **A higher camera** has at least the same score. -/
theorem climbed_le_climbed {low high : Single} (h : high ≤ low) : climbed low ≤ climbed high := by
  have hten : (0 : ℚ) < (10 : Single).value := by norm_num
  have hquot : -low / 10 ≤ -high / 10 :=
    Single.div_le_div_right (Single.neg_le_neg h) Single.isFinite_ten hten
  exact Single.toNat_le_toNat _ (Single.floor_le_floor hquot)

/-- The score of a camera by cases on whether there is a height. -/
theorem climbed_eq_ite (camera : Single) :
    climbed camera =
      if 0 < (-camera / 10).floor then (-camera / 10).floor.toNat (2 ^ 64 - 1) else 0 := by
  split
  · rfl
  · next hnone => exact Single.toNat_of_not_pos _ hnone

/-- **The score of a camera** that has not climbed past `2 ^ 25` is the exact whole part of a tenth
of its height: no rounding lifts it. -/
theorem climbed_eq_floor {camera : Single} (hle : camera ≤ 0) (hlow : -2 ^ 25 ≤ camera.value) :
    (climbed camera : ℤ) = ⌊-camera.value / 10⌋ := by
  have hnonpos : camera.value ≤ 0 := by simpa using (Single.le_iff_value.mp hle).2.2
  have hfinite : camera.isFinite = true := by
    refine Single.isFinite_of_abs_value_lt (Single.isNaN_left_of_le hle) ?_
    rw [abs_of_nonpos hnonpos]
    linarith [Single.two_pow_lt_range]
  obtain ⟨hfloor, hvalue⟩ := Single.value_floor_div_ten (x := -camera)
    (by rwa [Single.isFinite_neg]) (by rw [Single.value_neg]; linarith)
    (by rw [Single.value_neg]; linarith)
  have hnonneg : 0 ≤ -camera.value / 10 := by linarith
  have hlimit : ⌊-camera.value / 10⌋₊ ≤ UInt64.size - 1 := by
    refine Nat.floor_le_of_le ?_
    norm_num
    linarith
  have hmin : Nat.min (UInt64.size - 1) ⌊-camera.value / 10⌋₊ = ⌊-camera.value / 10⌋₊ :=
    Nat.min_eq_right hlimit
  rw [climbed, Single.toNat_of_isFinite _ hfloor, hvalue, Nat.floor_natCast, Single.value_neg, hmin]
  exact Int.natCast_floor_eq_floor hnonneg

/-! ### Calls -/

/-- The camera is a number at or above the start of the climb, and the score is that of the
camera. -/
structure Level (game : Game) : Prop where
  camera_le : game.camera ≤ 0
  score_eq : game.score = climbed game.camera

variable {game next : Game}

/-- A camera that is a number moves up or stays. -/
theorem nextCamera_le (h : game.camera.isNaN = false) : game.nextCamera ≤ game.camera := by
  simp only [nextCamera]
  split
  · next hup => exact Single.le_of_lt hup
  -- a target below the camera, or one that is not a number, leaves the camera where it is
  · exact Single.le_refl h

/-- A run begins on the ground with no score. -/
theorem level_of_fresh (h : game.Fresh) : game.Level := by
  have hground : (0 : Single) ≤ 0 ∧ climbed 0 = 0 := by decide +kernel
  constructor
  · rw [h.camera]
    exact hground.1
  · rw [h.camera, h.score, hground.2]

/-- **A call of the same run** does not lower the camera. -/
theorem camera_le_of_effect {call : Call} (h : game.Level) (hkeeps : game.begins call = false)
    (heffect : Effect game call next) : next.camera ≤ game.camera := by
  have hnumber := Single.isNaN_left_of_le h.camera_le
  cases heffect with
  | frame hrunning hstep =>
    obtain ⟨time, scrolled, reports, -, hscroll, rfl⟩ := step_eq_ok hstep
    have hcamera := (sameView_of_scroll hscroll).camera
    rw [conclude_eq]
    have hle : (scrolled.collide time).nextCamera ≤ (scrolled.collide time).camera :=
      nextCamera_le (by rwa [hcamera])
    rwa [hcamera] at hle
  | newRun hbegins hfresh =>
    rw [hkeeps] at hbegins
    cases hbegins
  | shot hshot =>
    obtain ⟨shot, timer, -, rfl⟩ := shoot?_eq_some hshot
    exact Single.le_refl hnumber
  | _ => exact Single.le_refl hnumber

/-- **A call keeps the score level with the camera.** The greater of the score so far and that of the
new camera is the latter. -/
theorem Level.effect {call : Call} (h : game.Level) (heffect : Effect game call next) :
    next.Level := by
  cases heffect with
  | frame hrunning hstep =>
    have hle := camera_le_of_effect h (by rw [begins, hrunning]; rfl) (.frame hrunning hstep)
    obtain ⟨time, scrolled, reports, -, hscroll, rfl⟩ := step_eq_ok hstep
    rw [conclude_eq] at hle ⊢
    have hscore : (scrolled.collide time).score = climbed game.camera :=
      (sameView_of_scroll hscroll).score.trans h.score_eq
    -- the running maximum is taken against the score of the old camera, which is no greater
    exact ⟨Single.le_trans hle h.camera_le, Nat.max_eq_right (hscore ▸ climbed_le_climbed hle)⟩
  | frozen hover hkeep => exact ⟨h.camera_le, h.score_eq⟩
  | newRun hbegins hfresh => exact level_of_fresh hfresh
  | clock => exact ⟨h.camera_le, h.score_eq⟩
  | shot hshot =>
    obtain ⟨shot, timer, -, rfl⟩ := shoot?_eq_some hshot
    exact ⟨h.camera_le, h.score_eq⟩
  | refused => exact h
  | compacted => exact ⟨h.camera_le, h.score_eq⟩

/-- **The climb of a run.** After any calls the camera is a number at or above the start, and the
score is read off it alone: the rounded height in tens, where there is one. Up to a height of
`2 ^ 25` this is the exact height in whole tens. From there on the camera does not fall and the score
does not shrink until the next run begins. -/
theorem level_of_play {seed : UInt64} {t : Tuning} {calls : List Call}
    (hplay : play seed t calls = .ok game) :
    (game.camera.isNaN = false ∧ game.camera ≤ 0 ∧
      game.score = (if 0 < (-game.camera / 10).floor
        then (-game.camera / 10).floor.toNat (2 ^ 64 - 1) else 0) ∧
      (-2 ^ 25 ≤ game.camera.value → (game.score : ℤ) = ⌊-game.camera.value / 10⌋)) ∧
    ∀ later last, game.keepsRun later = true → game.run later = .ok last →
      last.camera ≤ game.camera ∧ game.score ≤ last.score := by
  have hlevel := play_preserves (P := Level) level_of_fresh Level.effect hplay
  refine ⟨⟨Single.isNaN_left_of_le hlevel.camera_le, hlevel.camera_le,
    hlevel.score_eq.trans (climbed_eq_ite _), ?_⟩, ?_⟩
  · intro hlow
    rw [hlevel.score_eq]
    exact climbed_eq_floor hlevel.camera_le hlow
  · intro later last hkeeps hlater
    have hcamera : last.camera ≤ game.camera :=
      run_relates (P := Level) (R := fun a b => b.camera ≤ a.camera)
        (fun h => Single.le_refl (Single.isNaN_left_of_le h.camera_le))
        (fun hab hbc => Single.le_trans hbc hab) Level.effect camera_le_of_effect hlevel hkeeps
        hlater
    have hlast := run_preserves (P := Level) Level.effect hlevel hlater
    refine ⟨hcamera, ?_⟩
    rw [hlevel.score_eq, hlast.score_eq]
    exact climbed_le_climbed hcamera

/-- Under a gravity that pulls upward two frames climb 67 tens, and what comes after them takes none
away. -/
theorem level_after_two_frames :
    ∃ game last, play 7 { Tuning.standard with gravity := -333.3 } [.tick {} 1, .tick {} 1] =
        .ok game ∧
      game.score = 67 ∧ ⌊-game.camera.value / 10⌋ = 67 ∧
      game.run [.shoot, .tick {} 0, .tick {} 1] = .ok last ∧
      last.camera ≤ game.camera ∧ 67 ≤ last.score := by
  obtain ⟨game, hplay, hcheck⟩ := exists_of_play 7
    { Tuning.standard with gravity := -333.3 } [.tick {} 1, .tick {} 1]
    (fun game => game.score == 67 && decide (-1000 ≤ game.camera) &&
      game.keepsRun [.shoot, .tick {} 0, .tick {} 1])
    (by decide +kernel)
  obtain ⟨⟨hscore, hlow⟩, hkeeps⟩ : (game.score = 67 ∧ -1000 ≤ game.camera) ∧
      game.keepsRun [.shoot, .tick {} 0, .tick {} 1] = true := by simpa using hcheck
  obtain ⟨last, hlast⟩ := exists_run_of_keepsRun hkeeps
  obtain ⟨⟨-, -, -, hexact⟩, hmonotone⟩ := level_of_play hplay
  obtain ⟨hcamera, hgrown⟩ := hmonotone _ _ hkeeps hlast
  have hvalue : -2 ^ 25 ≤ game.camera.value := by
    have hbound := (Single.le_iff_value.mp hlow).2.2
    have hthousand : (1000 : Single).value = 1000 := by
      exact_mod_cast Single.value_ofNat (n := 1000) (by decide)
    rw [Single.value_neg, hthousand] at hbound
    linarith
  have hfloor := hexact hvalue
  rw [hscore] at hfloor hgrown
  exact ⟨game, last, hplay, hscore, hfloor.symm, hlast, hcamera, hgrown⟩

end Game

end Platformer
