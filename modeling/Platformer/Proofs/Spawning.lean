import Platformer.Proofs.Frame
import Platformer.Proofs.Monotone

/-! # When and where a monster appears

* **`spawnHeight_le`**, **`le_spawnHeight`** — a monster appears above the upper edge of the picture
  and within a picture's height of it, at every magnitude of the camera.
* **`Monster.random_eq`** — the place of a new monster.
* **`MayAppear`** — the conditions for a monster to appear; **`spawnMonster?_of_not_mayAppear`**,
  **`spawnMonster?_of_unlucky`**, **`spawnMonster?_of_lucky`** — the three ways a frame can go.
* **`spawnMonster?_eq_some_iff`**, **`spawnMonster?_eq_some`** — what is known of a store that a
  monster is added to, and of the monster.
* **`Monster.IsNew`**, **`spawn_gated`** — nothing but one new monster comes of it, and nothing is
  drawn before the conditions are met. -/

namespace Platformer

/-! ### The height of a new monster -/

/-- The height of the picture is finite. -/
theorem isFinite_viewportHeight : viewportHeight.isFinite = true :=
  Single.isFinite_literal 640

/-- The height of the picture in units. -/
theorem value_viewportHeight : viewportHeight.value = 640 := Single.value_literal 640

/-- The height of a monster is finite. -/
theorem isFinite_monsterHeight : monsterHeight.isFinite = true :=
  Single.isFinite_literal 30

/-- The height of a monster in units. -/
theorem value_monsterHeight : monsterHeight.value = 30 := Single.value_literal 30

/-- A whole height above the picture is finite and has its own value. -/
theorem finite_lift {lift : Nat} (h : lift < monsterLifts) :
    (Single.ofNat lift).isFinite = true ∧ (Single.ofNat lift).value = lift := by
  have hbits : lift ≤ 2 ^ 24 := h.le.trans (by decide)
  exact ⟨Single.isFinite_ofNat hbits, Single.value_ofNat hbits⟩

/-- A monster does not appear below the upper edge of the picture. -/
theorem spawnHeight_le {camera : Single} (hcamera : camera.isNaN = false) {lift : Nat}
    (hlift : lift < monsterLifts) : camera - monsterHeight - .ofNat lift ≤ camera := by
  obtain ⟨hfinite, hvalue⟩ := finite_lift hlift
  have hedge : camera - monsterHeight ≤ camera :=
    Single.sub_le_self hcamera isFinite_monsterHeight (by rw [value_monsterHeight]; norm_num)
  refine Single.le_trans (Single.sub_le_self (Single.isNaN_left_of_le hedge) hfinite ?_) hedge
  rw [hvalue]
  positivity

/-- **A monster appears within a picture's height** of the upper edge. Both subtractions round, but
the camera itself is a number, so that the first is off by no more than what it takes away. -/
theorem le_spawnHeight {camera : Single} (hcamera : camera.isNaN = false) {lift : Nat}
    (hlift : lift < monsterLifts) :
    camera - viewportHeight ≤ camera - monsterHeight - .ofNat lift := by
  obtain ⟨hfinite, hvalue⟩ := finite_lift hlift
  have hband : (camera - viewportHeight).isNaN = false :=
    Single.isNaN_sub hcamera isFinite_viewportHeight
  have hedge : (camera - monsterHeight).isNaN = false :=
    Single.isNaN_sub hcamera isFinite_monsterHeight
  have hspawn : (camera - monsterHeight - .ofNat lift).isNaN = false :=
    Single.isNaN_sub hedge hfinite
  rcases Single.finite_or_infinite hcamera with hcameraFinite | rfl | rfl
  · rcases Single.finite_or_infinite hedge with hedgeFinite | hlow | hhigh
    · have hnear := Single.abs_rounded_sub_le hcameraFinite (camera.value - monsterHeight.value)
      rw [← Single.value_sub hcameraFinite isFinite_monsterHeight, value_monsterHeight,
        sub_sub_cancel] at hnear
      have hedgeValue : camera.value - 60 ≤ (camera - monsterHeight).value := by
        have hbelow := (abs_le.mp hnear).1
        norm_num at hbelow
        linarith
      have hliftValue : ((lift : ℕ) : ℚ) ≤ 319 := by
        have hle : lift ≤ 319 := Nat.le_of_lt_succ hlift
        exact_mod_cast hle
      refine Single.le_iff_value.mpr ⟨hband, hspawn, ?_⟩
      rw [Single.value_sub hcameraFinite isFinite_viewportHeight,
        Single.value_sub hedgeFinite hfinite, hvalue, value_viewportHeight]
      exact rounded_le_rounded (by linarith)
    -- an upper edge past the end of the format takes the whole band along
    · have hpast : camera - viewportHeight ≤ camera - monsterHeight :=
        Single.sub_le_sub_left hcamera isFinite_monsterHeight isFinite_viewportHeight (by
          rw [value_monsterHeight, value_viewportHeight]
          norm_num)
      rw [hlow] at hpast ⊢
      rwa [Single.infinite_sub true hfinite]
    · rw [hhigh, Single.infinite_sub false hfinite]
      exact Single.le_infinite hband
  · rw [Single.infinite_sub true isFinite_viewportHeight]
    exact Single.neg_infinite_le hspawn
  · rw [Single.infinite_sub false isFinite_monsterHeight, Single.infinite_sub false hfinite]
    exact Single.le_infinite hband

/-! ### The new monster of a frame -/

/-- **A new monster** stands at one of the whole places above the picture and looks to one side. -/
theorem Monster.random_eq (camera : Single) (t : Tuning) (g : Pcg32) :
    ∃ column lift direction g', column < monsterPositions ∧ lift < monsterLifts ∧
      (direction = 1 ∨ direction = -1) ∧
      Monster.random camera t g = (.spawn (.ofNat column) (camera - monsterHeight - .ofNat lift)
        direction t.monsterSpeed, g') := by
  simp only [Monster.random]
  have hcolumn := Pcg32.below_lt g (n := monsterPositions) (by decide) (by decide)
  have hlift := Pcg32.below_lt (g.below monsterPositions).2 (n := monsterLifts) (by decide)
    (by decide)
  cases hdraw : g.below monsterPositions with
  | mk column g₁ =>
    rw [hdraw] at hcolumn hlift
    cases hdraw' : g₁.below monsterLifts with
    | mk lift g₂ =>
      rw [hdraw'] at hlift
      cases hcoin : g₂.coin with
      | mk toRight g₃ =>
        refine ⟨column, lift, _, g₃, hcolumn, hlift, ?_, rfl⟩
        cases toRight
        · exact Or.inr rfl
        · exact Or.inl rfl

/-- **A monster may appear** while there is a chance, the store has room, and no live monster is
within a picture's height of the camera. -/
structure MayAppear (monsters : List Monster) (camera : Single) (score : Nat) (t : Tuning) :
    Prop where
  chance : ¬ t.spawnChance score ≤ 0
  room : monsters.length < maxMonsters
  calm : ∀ m ∈ monsters, m.active = true →
    ¬ (camera - viewportHeight ≤ m.body.top ∧ m.body.top ≤ camera + viewportHeight)

section

variable {monsters : List Monster} {camera : Single} {score : Nat} {t : Tuning} {g g' : Pcg32}
  {m : Monster}

/-- The conditions as they are looked at, one after the other. -/
theorem not_mayAppear_iff : ¬ MayAppear monsters camera score t ↔
    t.spawnChance score ≤ 0 ∨ maxMonsters ≤ monsters.length ∨
      monsters.any (·.isNearPicture camera) = true := by
  rw [← not_iff_not, not_not]
  constructor
  · rintro ⟨hchance, hroom, hcalm⟩
    simp only [not_or, Nat.not_le, List.any_eq_true, not_exists, not_and]
    refine ⟨hchance, hroom, fun m hm hnear => ?_⟩
    simp only [Monster.isNearPicture, Bool.and_eq_true, decide_eq_true_eq] at hnear
    exact hcalm m hm hnear.1.1 ⟨hnear.1.2, hnear.2⟩
  · simp only [not_or, Nat.not_le, List.any_eq_true, not_exists, not_and]
    rintro ⟨hchance, hroom, hfar⟩
    refine ⟨hchance, hroom, fun m hm halive hnear => hfar m hm ?_⟩
    simp [Monster.isNearPicture, halive, hnear]

/-- The luck of a frame is a single output of the generator. -/
theorem unit_snd (g : Pcg32) : g.unit.2 = g.next.2 := by
  simp only [Pcg32.unit]

/-- **Where no monster may appear**, none does, and nothing is drawn. -/
theorem spawnMonster?_of_not_mayAppear (h : ¬ MayAppear monsters camera score t) :
    spawnMonster? monsters camera score t g = (none, g) := by
  rw [spawnMonster?, if_pos (not_mayAppear_iff.mp h)]

/-- **With bad luck** no monster appears, and the luck is all that is drawn. -/
theorem spawnMonster?_of_unlucky (h : MayAppear monsters camera score t)
    (hluck : t.spawnChance score ≤ g.unit.1) :
    spawnMonster? monsters camera score t g = (none, g.next.2) := by
  have hopen := mt not_mayAppear_iff.mpr (not_not.mpr h)
  have hdrawn := unit_snd g
  rw [spawnMonster?, if_neg hopen]
  cases hdraw : g.unit with
  | mk luck rest =>
    rw [hdraw] at hluck hdrawn
    dsimp only at hluck hdrawn ⊢
    rw [if_pos hluck, hdrawn]

/-- **With good luck** a place is drawn, and a monster appears there unless it would crowd another
one. -/
theorem spawnMonster?_of_lucky (h : MayAppear monsters camera score t)
    (hluck : ¬ t.spawnChance score ≤ g.unit.1) :
    spawnMonster? monsters camera score t g =
      (if monsters.any (·.crowds (Monster.random camera t g.next.2).1.body.centre t) then none
        else some (Monster.random camera t g.next.2).1, (Monster.random camera t g.next.2).2) := by
  have hopen := mt not_mayAppear_iff.mpr (not_not.mpr h)
  have hdrawn := unit_snd g
  rw [spawnMonster?, if_neg hopen]
  cases hdraw : g.unit with
  | mk luck rest =>
    rw [hdraw] at hluck hdrawn
    dsimp only at hluck hdrawn ⊢
    rw [if_neg hluck, hdrawn]
    split <;> rfl

/-- **A monster appears** exactly where it may, with good luck, and away from all others. -/
theorem spawnMonster?_eq_some_iff :
    spawnMonster? monsters camera score t g = (some m, g') ↔
      MayAppear monsters camera score t ∧ ¬ t.spawnChance score ≤ g.unit.1 ∧
        Monster.random camera t g.next.2 = (m, g') ∧
        ∀ other ∈ monsters, other.crowds m.body.centre t = false := by
  by_cases hopen : MayAppear monsters camera score t
  · by_cases hluck : t.spawnChance score ≤ g.unit.1
    · simp [spawnMonster?_of_unlucky hopen hluck, hluck]
    · rw [spawnMonster?_of_lucky hopen hluck]
      obtain ⟨new, rest⟩ := Monster.random camera t g.next.2
      by_cases hcrowded : monsters.any (·.crowds new.body.centre t) = true
      · rw [if_pos hcrowded]
        refine iff_of_false (by simp) ?_
        rintro ⟨-, -, hnew, hapart⟩
        cases hnew
        obtain ⟨other, hother, hcrowds⟩ := List.any_eq_true.mp hcrowded
        rw [hapart other hother] at hcrowds
        cases hcrowds
      · rw [if_neg hcrowded, Prod.mk.injEq, Option.some.injEq, Prod.mk.injEq]
        rw [Bool.not_eq_true, List.any_eq_false] at hcrowded
        constructor
        · rintro ⟨rfl, rfl⟩
          exact ⟨hopen, hluck, ⟨rfl, rfl⟩, fun other hother => by simpa using hcrowded other hother⟩
        · rintro ⟨-, -, hnew, -⟩
          exact hnew
  · rw [spawnMonster?_of_not_mayAppear hopen]
    exact iff_of_false (by simp) fun h => hopen h.1

/-- **A monster appears** only where there is room and no monster is near the picture. -/
theorem spawnMonster?_eq_some (h : spawnMonster? monsters camera score t g = (some m, g')) :
    monsters.length < maxMonsters ∧ (∀ other ∈ monsters, other.isNearPicture camera = false) ∧
      ∃ column lift direction, column < monsterPositions ∧ lift < monsterLifts ∧
        (direction = 1 ∨ direction = -1) ∧
        m = .spawn (.ofNat column) (camera - monsterHeight - .ofNat lift) direction
          t.monsterSpeed := by
  obtain ⟨hopen, -, hdrawn, -⟩ := spawnMonster?_eq_some_iff.mp h
  obtain ⟨column, lift, direction, g₂, hcolumn, hlift, hdirection, hrandom⟩ :=
    Monster.random_eq camera t g.next.2
  refine ⟨hopen.room, fun other hother => ?_, column, lift, direction, hcolumn, hlift, hdirection,
    ?_⟩
  · have hfar := mt not_mayAppear_iff.mpr (not_not.mpr hopen)
    simp only [not_or, Bool.not_eq_true, List.any_eq_false] at hfar
    exact by simpa using hfar.2.2 other hother
  · rw [hdrawn] at hrandom
    exact congrArg Prod.fst hrandom

end

/-! ### What comes of it -/

/-- **A monster that has just appeared**: it is alive and of the usual size, it stands at a whole
place across the world and within half a picture above the upper edge, it looks to one side, and it
keeps its distance from all live monsters that were there. -/
structure Monster.IsNew (m : Monster) (monsters : List Monster) (camera : Single) (t : Tuning) :
    Prop where
  active : m.active = true
  width_eq : m.body.width = monsterWidth
  height_eq : m.body.height = monsterHeight
  left_eq : ∃ column ≤ 439, m.body.left = .ofNat column
  le_top : camera - monsterHeight - 319 ≤ m.body.top
  top_le : m.body.top ≤ camera - monsterHeight
  direction_eq : m.direction = 1 ∨ m.direction = -1
  speed_eq : m.speed = t.monsterSpeed
  apart : ∀ other ∈ monsters, other.active = true →
    ¬ other.body.centre.distance m.body.centre < t.monsterDistance

/-- **A monster that appears is new**, whatever the camera is, as long as it is a number. -/
theorem isNew_of_spawnMonster? {monsters : List Monster} {camera : Single} {score : Nat} {t : Tuning}
    {g g' : Pcg32} {m : Monster} (hcamera : camera.isNaN = false)
    (h : spawnMonster? monsters camera score t g = (some m, g')) : m.IsNew monsters camera t := by
  obtain ⟨-, -, -, hapart⟩ := spawnMonster?_eq_some_iff.mp h
  obtain ⟨-, -, column, lift, direction, hcolumn, hlift, hdirection, rfl⟩ :=
    spawnMonster?_eq_some h
  have hedge : (camera - monsterHeight).isNaN = false :=
    Single.isNaN_sub hcamera isFinite_monsterHeight
  obtain ⟨hfinite, hvalue⟩ := finite_lift hlift
  refine ⟨rfl, rfl, rfl, ⟨column, Nat.le_of_lt_succ hcolumn, by rw [Monster.spawn]⟩, ?_, ?_,
    hdirection, rfl, ?_⟩
  · have hmost : (319 : Single).isFinite = true := by decide +kernel
    have hmostValue : (319 : Single).value = 319 := Single.value_literal 319
    refine Single.sub_le_sub_left hedge hfinite hmost ?_
    rw [hvalue, hmostValue]
    exact_mod_cast Nat.le_of_lt_succ hlift
  · exact Single.sub_le_self hedge hfinite (by rw [hvalue]; positivity)
  · intro other hother halive hnear
    have hfar := hapart other hother
    simp [Monster.crowds, halive, hnear] at hfar

/-- **The appearance of monsters is gated, and all or nothing.** Where the chance, the room or the wave
refuses, no monster appears and the generator stays as it is; where the luck refuses, one output of
the generator is drawn and no monster appears; and otherwise a place is drawn, and a monster appears
there unless it would be too close to another one. A monster that appears does so where it may and is
new in every respect. A frame adds it behind the monsters that are there, and nothing else. -/
theorem spawn_gated {camera : Single} (hcamera : camera.isNaN = false) (monsters : List Monster)
    (score : Nat) (t : Tuning) (g : Pcg32) :
    (¬ MayAppear monsters camera score t → spawnMonster? monsters camera score t g = (none, g)) ∧
    (MayAppear monsters camera score t → t.spawnChance score ≤ g.unit.1 →
      spawnMonster? monsters camera score t g = (none, g.next.2)) ∧
    (MayAppear monsters camera score t → ¬ t.spawnChance score ≤ g.unit.1 →
      spawnMonster? monsters camera score t g =
        (if monsters.any (·.crowds (Monster.random camera t g.next.2).1.body.centre t) then none
          else some (Monster.random camera t g.next.2).1,
          (Monster.random camera t g.next.2).2)) ∧
    (∀ m ∈ (spawnMonster? monsters camera score t g).1,
      MayAppear monsters camera score t ∧ m.IsNew monsters camera t) ∧
    ∀ {game next : Game} {dt : Single} {notices : List Notice},
      game.scroll dt = .ok (next, notices) → ∃ filling, game.refill dt = .ok filling ∧
        (next.monsters, next.generator) = (spawnMonster? game.monsters game.camera game.score
          game.tuning filling.generator).map (game.monsters ++ ·.toList) id := by
  refine ⟨spawnMonster?_of_not_mayAppear, spawnMonster?_of_unlucky, spawnMonster?_of_lucky, ?_, ?_⟩
  · intro m hm
    cases hspawn : spawnMonster? monsters camera score t g with
    | mk new rest =>
      rw [hspawn, Option.mem_def] at hm
      dsimp only at hm
      subst hm
      exact ⟨(spawnMonster?_eq_some_iff.mp hspawn).1, isNew_of_spawnMonster? hcamera hspawn⟩
  · intro game next dt notices hscroll
    obtain ⟨filling, spawned, generator, hfill, hspawn, rfl⟩ := Game.scroll_eq_ok hscroll
    exact ⟨filling, hfill, by rw [hspawn]; rfl⟩

/-- A tuning whose chance of a monster is not a number, so that the luck never refuses one. -/
def doubtful : Tuning :=
  { Tuning.standard with spawnScoreMin := 0, spawnChanceMin := .nan false }

/-- A monster that appears far up, although there is a live monster below the band and a dead one
within it. -/
theorem spawn_gated_doubtful :
    (-2000 : Single).isNaN = false ∧
    ∃ m ∈ (spawnMonster? [.spawn 100 0 1 1.5, (Monster.spawn 100 (-2000) 1 1.5).kill] (-2000) 0
        doubtful (.ofSeed 7)).1,
      MayAppear [.spawn 100 0 1 1.5, (Monster.spawn 100 (-2000) 1 1.5).kill] (-2000) 0 doubtful ∧
      m.IsNew [.spawn 100 0 1 1.5, (Monster.spawn 100 (-2000) 1 1.5).kill] (-2000) doubtful := by
  have hcamera : (-2000 : Single).isNaN = false := by decide +kernel
  have happears : (spawnMonster? [.spawn 100 0 1 1.5, (Monster.spawn 100 (-2000) 1 1.5).kill] (-2000)
      0 doubtful (.ofSeed 7)).1.isSome = true := by decide +kernel
  obtain ⟨m, hm⟩ := Option.isSome_iff_exists.mp happears
  exact ⟨hcamera, m, hm, (spawn_gated hcamera _ 0 doubtful (.ofSeed 7)).2.2.2.1 m hm⟩

end Platformer
