import Platformer.Proofs.Climb
import Platformer.Proofs.Gaps
import Platformer.Proofs.Patrol

/-! # Everything stays well formed

Under the ordinary tuning everything in the world keeps its size, its directions and its bounds, in
every game that calls lead to, as long as no frame is given a time that is not a number. There is no
bound on the length of a run, on the height of the climb or on the fall; but far out the rounding
absorbs what a frame adds.

* **`Game.WellFormed`** — the player, all platforms, monsters and projectiles, and the camera of a
  game.
* **`Game.WellFormed.outcome`**, **`Game.WellFormed.effect`** — a frame, and a call, keeps a game well
  formed.
* **`Game.wellFormed_of_play`** — every game that calls lead to is well formed.
* **`Game.numbers`**, **`Game.isFinite_of_play`** — no number of the world is ever an infinity or a
  not-a-number. -/

namespace Platformer

/-- Whether a call gives a frame no time that is not a number. -/
def Call.IsTimed : Call → Prop
  | .tick _ dt => dt.isNaN = false
  | _ => True

instance : DecidablePred Call.IsTimed
  | .tick _ dt => inferInstanceAs (Decidable (dt.isNaN = false))
  | .advanceClock _ | .shoot | .restart | .compact => inferInstanceAs (Decidable True)

/-! ### Platforms -/

/-- **A generation keeps platforms well formed.** Its cursor begins above the highest platform that is
there, or above the camera, and only climbs. -/
theorem wellFormed_fill {platforms : List Platform} {camera : Single} {score : Nat} {g : Pcg32}
    {f : Filling} (h : fill platforms camera score .standard g = .ok f)
    (hplatforms : ∀ p ∈ platforms, p.WellFormed) (hle : camera ≤ 0)
    (hcamera : camera.Within (2 ^ 60)) : ∀ p ∈ f.platforms, p.WellFormed := by
  have hstep : Tuning.standard.spacingMin.Within 80 := by decide +kernel
  have hground : (0 : Single) ≤ 590 ∧ 590 - Tuning.standard.spacingMin ≤ 510 := by decide +kernel
  have hgap (y : Single) (g : Pcg32) (hy : y.Within (2 ^ 60) ∧ y ≤ 510) :
      (y - (randomGap y .standard g).1).Within (2 ^ 60) ∧
        y - (randomGap y .standard g).1 ≤ 510 := by
    obtain ⟨hleast, hwithin⟩ := Tuning.randomGap_mem y g
    have hclimb : y - (randomGap y .standard g).1 ≤ y :=
      Single.sub_le_self hy.1.isNaN hwithin.isFinite (by linarith)
    exact ⟨hy.1.sub hwithin, Single.le_trans hclimb hy.2⟩
  -- the height that the generation starts from
  have hstart : ((highestTop? platforms).getD camera).Within (2 ^ 60) ∧
      (highestTop? platforms).getD camera ≤ 590 := by
    cases htop : highestTop? platforms with
    | none => exact ⟨hcamera, Single.le_trans hle hground.1⟩
    | some top =>
      obtain ⟨p, hp, -, rfl⟩ := exists_of_highestTop? htop
      refine ⟨(hplatforms p hp).top_within, ?_⟩
      rw [Option.getD_some]
      rcases (hplatforms p hp).anchored with habove | ⟨-, rfl | rfl⟩
      · exact Single.le_trans habove (by decide +kernel)
      · decide +kernel
      · decide +kernel
  have hcursor : ((highestTop? platforms).getD camera - Tuning.standard.spacingMin).Within (2 ^ 60) ∧
      (highestTop? platforms).getD camera - Tuning.standard.spacingMin ≤ 510 :=
    ⟨hstart.1.sub hstep,
      Single.le_trans (Single.sub_le_sub_right hstart.2 hstep.isFinite) hground.2⟩
  intro p hp
  rcases mem_or_mem_created_of_fill h hp with hold | hnew
  · exact hplatforms p hold
  · obtain ⟨y, g₁, g₂, hy, -, hrandom⟩ := exists_random_of_mem_created hgap hcursor h p hnew
    exact Platform.wellFormed_of_random hrandom hy.1 hy.2

namespace Game

/-! ### Games -/

/-- **A game in which everything is well formed.** -/
structure WellFormed (game : Game) : Prop where
  player : game.player.WellFormed
  platforms : ∀ p ∈ game.platforms, p.WellFormed
  monsters : ∀ m ∈ game.monsters, m.WellFormed
  projectiles : ∀ p ∈ game.projectiles, p.WellFormed
  camera_le : game.camera ≤ 0
  camera_within : game.camera.Within (2 ^ 60)

variable {game next : Game}

/-- **A run begins well formed.** -/
theorem wellFormed_of_fresh (htuning : game.tuning = .standard) (h : game.Fresh) :
    game.WellFormed := by
  obtain ⟨generator, layout, hlayout, hplatforms⟩ := h.platforms
  have hground : (0 : Single) ≤ 0 ∧ (0 : Single).Within (2 ^ 60) := by decide +kernel
  rw [htuning] at hlayout
  refine ⟨?_, ?_, ?_, ?_, ?_, ?_⟩
  · rw [h.player]
    exact Player.wellFormed_spawn
  · rw [hplatforms]
    refine wellFormed_fill hlayout ?_ hground.1 hground.2
    intro p hp
    rw [List.mem_singleton.mp hp]
    exact Platform.wellFormed_anchor
  · simp [h.monsters]
  · simp [h.projectiles]
  · rw [h.camera]
    exact hground.1
  · rw [h.camera]
    exact hground.2

namespace WellFormed

variable {s : Setup} {time : Single} {c : Controls}

/-- The player of a frame is well formed before it meets anything. -/
theorem moved (h : game.WellFormed) (htuning : game.tuning = .standard) (ht : FrameTime time) :
    (game.moved c time).WellFormed := by
  obtain ⟨ready, hready, hmoved⟩ := moved_eq game c time
  rw [htuning] at hready hmoved
  have hsteered := (h.player.steer c ht).coolDown ht
  rw [hmoved]
  rcases hready with rfl | rfl
  · exact hsteered.integrate ht
  · exact hsteered.shoot.integrate ht

/-- The platforms of a frame are well formed before they meet the player. -/
theorem filling (h : game.WellFormed) (htuning : game.tuning = .standard) (ht : FrameTime time)
    (hsetup : game.IsSetup time s) : ∀ p ∈ s.filling.platforms, p.WellFormed := by
  have hfill := hsetup.refill_eq
  rw [refill, htuning] at hfill
  refine wellFormed_fill hfill ?_ h.camera_le h.camera_within
  intro p hp
  rw [cleared, htuning, cull, List.map_map] at hp
  obtain ⟨q, hq, rfl⟩ := List.mem_map.mp hp
  have hslid := (h.platforms q hq).advance ht (speedMultiplier_mem game.score)
  simp only [Function.comp_apply]
  split
  · exact hslid.free
  · exact hslid

/-- **A landing keeps the player well formed.** -/
theorem land (hplayer : game.player.WellFormed) (htuning : game.tuning = .standard)
    (hplatforms : ∀ p ∈ game.platforms, p.WellFormed) : game.land.2.player.WellFormed := by
  have hair : { game.player with onGround := false }.WellFormed := { hplayer with }
  cases hlanding : firstLanding? { game.player with onGround := false } game.platforms with
  | none =>
    rw [land_of_none hlanding]
    exact hair
  | some landing =>
    obtain ⟨p, slot⟩ := landing
    rw [land_of_some hlanding]
    have hp := hplatforms p (List.mem_of_getElem? (firstLanding?_eq_some hlanding).1)
    exact hplayer.bounce htuning hp.top_within

/-- The camera that follows a well formed player keeps its bound. -/
theorem camera (h : game.WellFormed) (htuning : game.tuning = .standard)
    (hlanded : (game.outcome s time).player.WellFormed) :
    (game.outcome s time).camera.Within (2 ^ 60) := by
  have hoffset : Tuning.standard.cameraOffset.Within 100 ∧ (viewportHeight / 2).Within 320 := by
    decide +kernel
  rw [camera_outcome, nextCamera]
  dsimp only
  split
  · rw [htuning]
    have hmiddle : ((game.outcome s time).player.body.top - viewportHeight / 2).Within (2 ^ 60) :=
      hlanded.top_within.sub hoffset.2
    exact hmiddle.add hoffset.1
  · exact h.camera_within

/-- **A frame keeps a game well formed.** -/
theorem outcome (h : game.WellFormed) (htuning : game.tuning = .standard) (ht : FrameTime time)
    (hsetup : game.IsSetup time s) (hplayer : s.player = game.moved c time) :
    (game.outcome s time).WellFormed := by
  have hfilling := h.filling htuning ht hsetup
  have hlanded : (game.outcome s time).player.WellFormed := by
    have hmoved : s.player.WellFormed := by
      rw [hplayer]
      exact h.moved htuning ht
    rw [player_outcome]
    exact @land (game.setUp s) hmoved htuning hfilling
  refine ⟨hlanded, ?_, ?_, ?_, ?_, h.camera htuning hlanded⟩
  · intro p hp
    obtain ⟨q, hq, rfl | rfl⟩ := exists_of_mem_platforms_outcome game s time hp
    · exact hfilling p hq
    · exact (hfilling q hq).free
  · intro m hm
    obtain ⟨m₀, hm₀, rfl⟩ := exists_of_mem_monsters_outcome game s time hm
    refine Monster.WellFormed.advance ?_ ht
    rcases List.mem_append.mp hm₀ with hold | hnew
    · exact h.monsters m₀ hold
    · have hspawn := hsetup.spawn_eq
      rw [Option.mem_toList.mp hnew, htuning] at hspawn
      exact Monster.wellFormed_of_spawn hspawn h.camera_within
  · intro p hp
    obtain ⟨p₀, hp₀, rfl⟩ := exists_of_mem_projectiles_outcome game s time hp
    refine Projectile.WellFormed.advance ?_ ht
    rcases List.mem_append.mp hp₀ with hold | hnew
    · exact h.projectiles p₀ hold
    · rw [(hsetup.fires p₀ (Option.mem_toList.mp hnew)).1, htuning]
      exact Projectile.wellFormed_firedFrom h.player
  · rw [camera_outcome]
    exact Single.le_trans (nextCamera_le h.camera_within.isNaN) h.camera_le

/-- **A call keeps a game well formed.** -/
theorem effect (h : game.WellFormed) (htuning : game.tuning = .standard)
    (hnext : next.tuning = .standard) {call : Call} (htimed : call.IsTimed)
    (heffect : Effect game call next) : next.WellFormed := by
  cases heffect with
  | frame hrunning hstep =>
    obtain ⟨time, s, htime, hsetup, hplayer, rfl⟩ := step_eq_setUp_moved hstep
    rw [htuning] at htime
    exact h.outcome htuning (FrameTime.of_clampTime htimed htime) hsetup hplayer
  | frozen hover hkeep => exact { h with }
  | newRun hbegins hfresh => exact wellFormed_of_fresh hnext hfresh
  | clock => exact { h with }
  | shot hshot =>
    have hplayer := player_shoot? hshot
    obtain ⟨shot, timer, hfires, rfl⟩ := shoot?_eq_some hshot
    refine ⟨?_, h.platforms, h.monsters, ?_, h.camera_le, h.camera_within⟩
    · rw [hplayer, htuning]
      exact h.player.shoot
    · intro p hp
      rcases List.mem_append.mp hp with hold | hnew
      · exact h.projectiles p hold
      · rw [List.mem_singleton.mp hnew, (hfires shot rfl).1, htuning]
        exact Projectile.wellFormed_firedFrom h.player
  | refused => exact h
  | compacted =>
    exact { h with
      monsters := fun m hm => h.monsters m (List.mem_filter.mp hm).1
      projectiles := fun p hp => h.projectiles p (List.mem_filter.mp hp).1 }

end WellFormed

/-- **Everything stays well formed.** Under the ordinary tuning calls from every seed lead to a game,
however many frames, shots and restarts there are and whatever the controls are, and in this game
everything is well formed, unless a frame was given a time that is not a number. -/
theorem wellFormed_of_play (seed : UInt64) {calls : List Call}
    (hcalls : ∀ call ∈ calls, call.IsTimed) :
    ∃ game, play seed .standard calls = .ok game ∧ game.WellFormed :=
  exists_play Tuning.playable_standard wellFormed_of_fresh
    (fun htuning hnext htimed h heffect => h.effect htuning hnext htimed heffect) seed hcalls

/-- A game that was well formed all along: through an endless frame, a tilt that is not a number, shots
and a restart. -/
theorem wellFormed_of_rough :
    (∀ call ∈ [.tick { tilt := some (.nan true), shoot := true } (.infinite false), .restart,
      .shoot, .tick { left := true } 1, .tick { idle := true } (.infinite true)],
      Call.IsTimed call) ∧
    ∃ game, play 7 .standard [.tick { tilt := some (.nan true), shoot := true } (.infinite false),
        .restart, .shoot, .tick { left := true } 1, .tick { idle := true } (.infinite true)] =
        .ok game ∧
      game.WellFormed := by
  refine ⟨?_, wellFormed_of_play 7 ?_⟩
  · decide +kernel
  · decide +kernel

end Game

/-! ### Finite numbers -/

/-- The numbers of a box. -/
def Box.numbers (b : Box) : List Single := [b.left, b.top, b.width, b.height]

/-- The numbers of a player. -/
def Player.numbers (p : Player) : List Single :=
  p.body.numbers ++ [p.velocity.x, p.velocity.y, p.facing, p.timer]

/-- The numbers of a platform. -/
def Platform.numbers (p : Platform) : List Single := p.body.numbers ++ [p.direction, p.speed]

/-- The numbers of a monster. -/
def Monster.numbers (m : Monster) : List Single := m.body.numbers ++ [m.direction, m.speed]

/-- The numbers of a projectile. -/
def Projectile.numbers (p : Projectile) : List Single := p.body.numbers ++ [p.velocity]

/-- **All numbers of the world**: those of the player, of every platform, monster and projectile, and
the camera. -/
def Game.numbers (game : Game) : List Single :=
  game.player.numbers ++ game.platforms.flatMap (·.numbers) ++ game.monsters.flatMap (·.numbers) ++
    game.projectiles.flatMap (·.numbers) ++ [game.camera]

/-- The numbers of a box are finite if each of them is. -/
theorem Box.isFinite_numbers {b : Box} {width height : Single} (hleft : b.left.isFinite = true)
    (htop : b.top.isFinite = true) (hwidth : b.width = width) (hheight : b.height = height)
    (hsize : width.isFinite = true ∧ height.isFinite = true) :
    ∀ x ∈ b.numbers, x.isFinite = true := by
  simp [numbers, hleft, htop, hwidth, hheight, hsize]

/-- The numbers of a well-formed player are finite. -/
theorem Player.WellFormed.isFinite {p : Player} (h : p.WellFormed) :
    ∀ x ∈ p.numbers, x.isFinite = true := by
  have hbody := Box.isFinite_numbers h.left_within.isFinite h.top_within.isFinite h.width_eq
    h.height_eq (by decide +kernel)
  intro x hx
  rcases List.mem_append.mp hx with hbox | hmotion
  · exact hbody x hbox
  · simp only [List.mem_cons, List.not_mem_nil, or_false] at hmotion
    rcases hmotion with rfl | rfl | rfl | rfl
    · exact h.velocity_x.isFinite
    · exact h.velocity_y.isFinite
    · exact (Single.within_of_unit h.facing_eq).isFinite
    · exact h.timer_within.isFinite

/-- The numbers of a well-formed platform are finite. -/
theorem Platform.WellFormed.isFinite {p : Platform} (h : p.WellFormed) :
    ∀ x ∈ p.numbers, x.isFinite = true := by
  -- a platform that slides is between the edges, and one that stands still is at a whole place
  have hmotion : p.body.left.isFinite = true ∧ p.direction.isFinite = true ∧
      p.speed.isFinite = true := by
    by_cases hkind : p.kind = .moving
    · obtain ⟨hdirection, hslow, hfast, hge, hle⟩ := h.mover hkind
      exact ⟨Single.isFinite_of_le_of_le hge hle Single.isFinite_zero
        (Single.isFinite_literal 400), (Single.within_of_unit hdirection).isFinite,
        Single.isFinite_of_le_of_le hslow hfast Single.isFinite_one
          (Single.isFinite_literal 4)⟩
    · obtain ⟨hdirection, hspeed, column, hcolumn, hleft⟩ := h.stander hkind
      rw [hleft, hdirection, hspeed]
      exact ⟨Single.isFinite_ofNat (hcolumn.le.trans (by decide)), Single.isFinite_zero,
        Single.isFinite_zero⟩
  have hbody := Box.isFinite_numbers hmotion.1 h.top_within.isFinite h.width_eq h.height_eq
    (by decide +kernel)
  intro x hx
  rcases List.mem_append.mp hx with hbox | hpair
  · exact hbody x hbox
  · simp only [List.mem_cons, List.not_mem_nil, or_false] at hpair
    rcases hpair with rfl | rfl
    · exact hmotion.2.1
    · exact hmotion.2.2

/-- The numbers of a well-formed monster are finite. -/
theorem Monster.WellFormed.isFinite {m : Monster} (h : m.WellFormed) :
    ∀ x ∈ m.numbers, x.isFinite = true := by
  have hleft : m.body.left.isFinite = true := Single.isFinite_of_le_of_le h.left_ge h.left_le
    Single.isFinite_zero (Single.isFinite_literal 440)
  have hbody := Box.isFinite_numbers hleft h.top_within.isFinite h.width_eq h.height_eq
    (by decide +kernel)
  intro x hx
  rcases List.mem_append.mp hx with hbox | hpair
  · exact hbody x hbox
  · simp only [List.mem_cons, List.not_mem_nil, or_false] at hpair
    rcases hpair with rfl | rfl
    · exact (Single.within_of_unit h.direction_eq).isFinite
    · rw [h.speed_eq]
      decide +kernel

/-- The numbers of a well-formed projectile are finite. -/
theorem Projectile.WellFormed.isFinite {p : Projectile} (h : p.WellFormed) :
    ∀ x ∈ p.numbers, x.isFinite = true := by
  have hbody := Box.isFinite_numbers h.left_within.isFinite h.top_within.isFinite h.width_eq
    h.height_eq (by decide +kernel)
  intro x hx
  rcases List.mem_append.mp hx with hbox | hlast
  · exact hbody x hbox
  · rw [List.mem_singleton.mp hlast, h.velocity_eq]
    decide +kernel

namespace Game

/-- The numbers of a well-formed game are finite. -/
theorem WellFormed.isFinite {game : Game} (h : game.WellFormed) :
    ∀ x ∈ game.numbers, x.isFinite = true := by
  intro x hx
  simp only [numbers, List.mem_append, List.mem_flatMap, List.mem_singleton] at hx
  rcases hx with (((hplayer | ⟨p, hp, hx⟩) | ⟨m, hm, hx⟩) | ⟨p, hp, hx⟩) | rfl
  · exact h.player.isFinite x hplayer
  · exact (h.platforms p hp).isFinite x hx
  · exact (h.monsters m hm).isFinite x hx
  · exact (h.projectiles p hp).isFinite x hx
  · exact h.camera_within.isFinite

/-- **No infinity and no not-a-number enters the world.** Under the ordinary tuning calls from every
seed lead to a game, and all numbers of its world are finite, unless a frame was given a time that is
not a number. -/
theorem isFinite_of_play (seed : UInt64) {calls : List Call}
    (hcalls : ∀ call ∈ calls, call.IsTimed) :
    ∃ game, play seed .standard calls = .ok game ∧ ∀ x ∈ game.numbers, x.isFinite = true := by
  obtain ⟨game, hplay, hgame⟩ := exists_play Tuning.playable_standard wellFormed_of_fresh
    (fun htuning hnext htimed h heffect => h.effect htuning hnext htimed heffect) seed hcalls
  exact ⟨game, hplay, hgame.isFinite⟩

/-- The numbers of a world after two endless frames, one of them under an infinite tilt, a shot and a
restart. -/
theorem isFinite_after_endless :
    (∀ call ∈ [.tick { tilt := some (.infinite true) } (.infinite false), .shoot,
      .tick { right := true } (.infinite false), .restart, .tick {} 1], Call.IsTimed call) ∧
    ∃ game, play 3 .standard [.tick { tilt := some (.infinite true) } (.infinite false), .shoot,
        .tick { right := true } (.infinite false), .restart, .tick {} 1] = .ok game ∧
      ∀ x ∈ game.numbers, x.isFinite = true := by
  refine ⟨?_, isFinite_of_play 3 ?_⟩
  · decide +kernel
  · decide +kernel

end Game

end Platformer
