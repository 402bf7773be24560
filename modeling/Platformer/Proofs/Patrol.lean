import Platformer.Proofs.Difficulty
import Platformer.Proofs.Slots
import Platformer.Proofs.Steering

/-! # What slides and patrols

Platforms and monsters turn around at the edges of the world. Their places are kept between the edges
by the turns, their directions by the coin and the turns, and their speeds by the draw and the cap, for
every score and every time of a frame.

* **`turnAtEdges_mem`**, **`turnAtEdges_unit`** — the places and the directions that a turn leaves.
* **`Single.ofBits_mem`**, **`randomSpeed_mem`**, **`cappedSpeed_mem`**, **`speedMultiplier_mem`** —
  the speeds of moving platforms.
* **`Platform.WellFormed`**, **`Monster.WellFormed`**, **`Projectile.WellFormed`** — what stands, slides,
  patrols and flies in an ordinary run, from its making on. -/

namespace Platformer

/-! ### Turning at the edges -/

/-- **A turn at the edges** leaves a place between the edges. The sum with the width is rounded, and so
is the place at the right edge; no place lies between the two roundings. -/
theorem turnAtEdges_mem {x width : Single} (direction : Single) (hx : x.isNaN = false)
    (hwidth : width.isFinite = true) (hle : width.value ≤ 480) :
    0 ≤ (turnAtEdges x width direction).1 ∧
      (turnAtEdges x width direction).1 ≤ viewportWidth - width := by
  have hview := Single.isNaN_of_isFinite isFinite_viewportWidth
  have hedge : (viewportWidth - width).isNaN = false :=
    Single.isNaN_sub hview hwidth
  have hroom : 0 ≤ viewportWidth - width := by
    refine Single.le_iff_value.mpr ⟨Single.isNaN_zero, hedge, ?_⟩
    rw [Single.value_sub isFinite_viewportWidth hwidth, value_viewportWidth,
      ← Single.rounded_value 0, Single.value_zero]
    exact rounded_le_rounded (by linarith)
  rw [turnAtEdges]
  split
  · exact ⟨Single.le_refl Single.isNaN_zero, hroom⟩
  · next hleft =>
    split
    · exact ⟨hroom, Single.le_refl hedge⟩
    · next hright =>
      have hsum : (x + width).isNaN = false := Single.isNaN_add hx hwidth
      have hwithin : x + width < viewportWidth := Single.lt_of_not_le hview hsum hright
      exact ⟨Single.le_of_lt (Single.lt_of_not_le hx Single.isNaN_zero hleft),
        Single.le_sub_of_add_lt hx isFinite_viewportWidth hwidth hwithin⟩

/-- A turn at the edges leaves a direction that leads away from the edge, or the old one. -/
theorem turnAtEdges_unit {direction : Single} (h : direction = 1 ∨ direction = -1)
    (x width : Single) :
    (turnAtEdges x width direction).2 = 1 ∨ (turnAtEdges x width direction).2 = -1 := by
  rw [turnAtEdges]
  split
  · exact Or.inl rfl
  · split
    · exact Or.inr rfl
    · exact h

/-! ### Speeds -/

/-- The number of a word with the exponent of one, whatever its fraction is. -/
theorem Single.ofBits_of_exponent {word : UInt32} {fraction : ℕ} (hfraction : fraction < 2 ^ 23)
    (hword : word.toNat = 127 * 2 ^ 23 + fraction) :
    Single.ofBits word = Single.round false ((2 ^ 23 + fraction) * 2 ^ 126) 1 := by
  have hsign : (word.toNat / 2 ^ 31 == 1) = false := by
    rw [hword, beq_eq_false_iff_ne]
    omega
  have hexponent : word.toNat / 2 ^ 23 % 2 ^ 8 = 127 := by omega
  have hrest : word.toNat % 2 ^ 23 = fraction := by omega
  show (if word.toNat / 2 ^ 23 % 2 ^ 8 = 0 then _
    else if word.toNat / 2 ^ 23 % 2 ^ 8 = 255 then _
    else Single.round (word.toNat / 2 ^ 31 == 1)
      ((2 ^ 23 + word.toNat % 2 ^ 23) <<< (word.toNat / 2 ^ 23 % 2 ^ 8 - 1)) 1) = _
  rw [hsign, hexponent, hrest, if_neg (by decide), if_neg (by decide), Nat.shiftLeft_eq]

/-- **The number of a word with the exponent of one** lies between one and two. -/
theorem Single.ofBits_mem (word : UInt32) :
    (1 : Single) ≤ Single.ofBits ((0x3f800000 : UInt32) ||| (word >>> 9)) ∧
      Single.ofBits ((0x3f800000 : UInt32) ||| (word >>> 9)) ≤ 2 := by
  have hlt := word.toNat_lt
  have hfraction : word.toNat / 2 ^ 9 < 2 ^ 23 := by omega
  have hword : ((0x3f800000 : UInt32) ||| (word >>> 9)).toNat =
      127 * 2 ^ 23 + word.toNat / 2 ^ 9 := by
    have hshift : (word >>> 9).toNat = word.toNat / 2 ^ 9 := by
      rw [UInt32.toNat_shiftRight, Nat.shiftRight_eq_div_pow]
      rfl
    rw [UInt32.toNat_or, hshift, Nat.mul_comm 127, Nat.two_pow_add_eq_or_of_lt hfraction]
    rfl
  rw [ofBits_of_exponent hfraction hword]
  generalize word.toNat / 2 ^ 9 = fraction at hfraction
  have hvalue := value_round false ((2 ^ 23 + fraction) * 2 ^ 126) Nat.one_pos
  have hsteps : (stepsPerOne : ℚ) = 2 ^ 23 * 2 ^ 126 := by
    rw [← pow_add, stepsPerOne, Nat.cast_pow, Nat.cast_ofNat]
  rw [cast_signed, if_neg Bool.false_ne_true, Nat.cast_one, div_one, Nat.cast_mul, Nat.cast_pow,
    Nat.cast_ofNat, hsteps, mul_div_mul_right _ _ (by positivity)] at hvalue
  have hnonneg : (0 : ℚ) ≤ fraction := fraction.cast_nonneg
  have hbound : (fraction : ℚ) < 2 ^ 23 := by exact_mod_cast hfraction
  have hnumbers : (1 : Single).isNaN = false ∧ (2 : Single).isNaN = false := by decide +kernel
  refine ⟨le_iff_value.mpr ⟨hnumbers.1, isNaN_round _ _ _, ?_⟩,
    le_iff_value.mpr ⟨isNaN_round _ _ _, hnumbers.2, ?_⟩⟩
  · rw [hvalue, ← rounded_value 1, value_one]
    refine rounded_le_rounded ?_
    rw [le_div_iff₀ (by positivity)]
    push_cast
    linarith
  · rw [hvalue, ← rounded_value 2, value_literal 2]
    refine rounded_le_rounded ?_
    rw [div_le_iff₀ (by positivity)]
    push_cast
    linarith

/-- **A drawn speed** lies in the range of an ordinary run. -/
theorem randomSpeed_mem {g g' : Pcg32} {base : Single}
    (h : randomSpeed .standard g = .ok (base, g')) : 1 ≤ base ∧ base ≤ 2 := by
  have hmin : Tuning.standard.movingSpeedMin = 1 := rfl
  have hmax : Tuning.standard.movingSpeedMax = 2 := rfl
  have hrange : (1 : Single) < 2 := by decide +kernel
  have hwidth : (2 - 1 : Single).isFinite = true ∧ 0 < (2 - 1 : Single).value := by decide +kernel
  have hone := Single.isFinite_one
  rw [randomSpeed, hmin, hmax, if_pos hrange, Pcg32.between] at h
  dsimp only at h
  rw [if_pos hwidth.1] at h
  obtain ⟨hlow, hhigh⟩ := Single.ofBits_mem g.next.1
  generalize Single.ofBits ((0x3f800000 : UInt32) ||| (g.next.1 >>> 9)) = stretched at h hlow hhigh
  obtain rfl : (stretched - 1) * (2 - 1) + 1 = base := congrArg Prod.fst (Except.ok.inj h)
  -- each operation keeps order, and the ends of the range are closed terms
  constructor
  · have hbelow : (1 - 1 : Single) * (2 - 1) + 1 ≤ (stretched - 1) * (2 - 1) + 1 :=
      Single.add_le_add_right (Single.mul_le_mul_right (Single.sub_le_sub_right hlow hone)
        hwidth.1 hwidth.2) hone
    exact Single.le_trans (by decide +kernel) hbelow
  · have habove : (stretched - 1) * (2 - 1) + 1 ≤ (2 - 1 : Single) * (2 - 1) + 1 :=
      Single.add_le_add_right (Single.mul_le_mul_right (Single.sub_le_sub_right hhigh hone)
        hwidth.1 hwidth.2) hone
    exact Single.le_trans habove (by decide +kernel)

/-- The factor on a speed is at least one for every score. -/
theorem one_le_speedGrowth (score : Nat) : 1 ≤ speedGrowth .standard score := by
  have hthousand : (1000 : Single).isFinite = true ∧ 0 < (1000 : Single).value := by decide +kernel
  have hgrowth : Tuning.standard.movingSpeedGrowth.isFinite = true ∧
      0 < Tuning.standard.movingSpeedGrowth.value := by decide +kernel
  have hgrown : 1 + 0 / 1000 * Tuning.standard.movingSpeedGrowth ≤ speedGrowth .standard score :=
    Single.add_le_add_left (Single.mul_le_mul_right (Single.div_le_div_right
      (Single.ofNat_nonneg score) hthousand.1 hthousand.2) hgrowth.1 hgrowth.2)
      Single.isFinite_one
  exact Single.le_trans (by decide +kernel) hgrown

/-- **The speed of a new platform** is at least one and at most the cap, even where the factor is
infinite. -/
theorem cappedSpeed_mem {base : Single} (h : 1 ≤ base ∧ base ≤ 2) (score : Nat) :
    1 ≤ (base * speedGrowth .standard score).min Tuning.standard.movingSpeedCap ∧
      (base * speedGrowth .standard score).min Tuning.standard.movingSpeedCap ≤ 4 := by
  have hcap : Tuning.standard.movingSpeedCap = 4 := rfl
  have hfour : (1 : Single) ≤ 4 ∧ (4 : Single).isNaN = false := by decide +kernel
  have hfinite : base.isFinite = true :=
    Single.isFinite_of_le_of_le h.1 h.2 Single.isFinite_one (Single.isFinite_literal 2)
  have hpos : 0 < base.value := by
    have hle := (Single.le_iff_value.mp h.1).2.2
    rw [Single.value_one] at hle
    linarith
  have hfaster : 1 * base ≤ speedGrowth .standard score * base :=
    Single.mul_le_mul_right (one_le_speedGrowth score) hfinite hpos
  rw [Single.mul_comm, Single.mul_one (Single.isNaN_of_isFinite hfinite),
    Single.mul_comm] at hfaster
  rw [hcap]
  exact ⟨Single.le_min (Single.le_trans h.1 hfaster) hfour.1, Single.min_le_right hfour.2⟩

/-- The speed multiplier of a score lies between one and two. -/
theorem speedMultiplier_mem (score : Nat) :
    1 ≤ Tuning.standard.speedMultiplier score ∧ Tuning.standard.speedMultiplier score ≤ 2 := by
  have hone : 1 ≤ Tuning.standard.speedMultiplier 0 := by decide +kernel
  exact ⟨Single.le_trans hone (Tuning.rising_standard.multiplier_le_multiplier score.zero_le),
    Tuning.rising_standard.multiplier_le score⟩

/-! ### Platforms -/

namespace Platform

/-- **A slot of an ordinary run**, whether there is a platform in it or the remains of one. A moving
platform has a direction, a speed within the cap and a place between the edges; every other one
stands still at a whole place. Only the first platform of a run is lower than 510, and it stands at
200. -/
structure WellFormed (p : Platform) : Prop where
  width_eq : p.body.width = 80
  height_eq : p.body.height = 15
  mover : p.kind = .moving → (p.direction = 1 ∨ p.direction = -1) ∧ 1 ≤ p.speed ∧ p.speed ≤ 4 ∧
    0 ≤ p.body.left ∧ p.body.left ≤ 400
  stander : p.kind ≠ .moving → p.direction = 0 ∧ p.speed = 0 ∧
    ∃ column < 400, p.body.left = .ofNat column
  anchored : p.body.top ≤ 510 ∨ p.body.left = 200 ∧ (p = anchor ∨ p = anchor.free)
  top_within : p.body.top.Within (2 ^ 60)

variable {p : Platform}

/-- The first platform is well formed. -/
theorem wellFormed_anchor : anchor.WellFormed where
  width_eq := rfl
  height_eq := rfl
  mover := fun hkind => nomatch hkind
  stander := fun _ => ⟨rfl, rfl, 200, by decide, by decide +kernel⟩
  anchored := Or.inr ⟨by decide +kernel, Or.inl rfl⟩
  top_within := by decide +kernel

/-- **A new platform** is well formed. -/
theorem wellFormed_of_random {y : Single} {score : Nat} {g g' : Pcg32}
    (h : random y score .standard g = .ok (p, g')) (hy : y.Within (2 ^ 60)) (hle : y ≤ 510) :
    p.WellFormed := by
  have hdrawn := random_eq_ok h
  obtain ⟨column, hcolumn, hleft⟩ := hdrawn.left
  have hplace : 0 ≤ p.body.left ∧ p.body.left ≤ 400 := by
    rw [hleft]
    exact ⟨Single.ofNat_nonneg column, Single.ofNat_le_ofNat hcolumn.le⟩
  rw [← hdrawn.top_eq] at hy hle
  refine ⟨hdrawn.width_eq, hdrawn.height_eq, ?_, ?_, Or.inl hle, hy⟩
  · intro hmoves
    obtain ⟨hdirection, base, g₁, g₂, hspeed, hcapped⟩ := hdrawn.moving hmoves
    obtain ⟨hslow, hfast⟩ := cappedSpeed_mem (randomSpeed_mem hspeed) score
    rw [← hcapped] at hslow hfast
    exact ⟨hdirection, hslow, hfast, hplace⟩
  · intro hstill
    obtain ⟨hdirection, hspeed⟩ := hdrawn.still hstill
    exact ⟨hdirection, hspeed, column, hcolumn, hleft⟩

namespace WellFormed

/-- The remains of a platform are well formed. -/
theorem free (h : p.WellFormed) : p.free.WellFormed := by
  refine ⟨h.width_eq, h.height_eq, h.mover, h.stander, ?_, h.top_within⟩
  rcases h.anchored with habove | ⟨hleft, rfl | rfl⟩
  · exact Or.inl habove
  · exact Or.inr ⟨hleft, Or.inr rfl⟩
  · exact Or.inr ⟨hleft, Or.inr rfl⟩

/-- **The motion of a frame** keeps a platform well formed. -/
theorem advance (h : p.WellFormed) {dt multiplier : Single} (ht : FrameTime dt)
    (hmultiplier : 1 ≤ multiplier ∧ multiplier ≤ 2) : (p.advance dt multiplier).WellFormed := by
  rw [Platform.advance]
  split
  · next hmoves =>
    have hkind : p.kind = .moving := by
      simp only [Bool.and_eq_true, beq_iff_eq] at hmoves
      exact hmoves.2
    obtain ⟨hdirection, hslow, hfast, hge, hle⟩ := h.mover hkind
    have hside : p.direction.Within 1 := Single.within_of_unit hdirection
    have hspeed : p.speed.Within 4 :=
      Single.within_of_le_of_le hslow hfast (by decide +kernel) (by decide +kernel)
    have hfactor : multiplier.Within 2 :=
      Single.within_of_le_of_le hmultiplier.1 hmultiplier.2 (by decide +kernel) (by decide +kernel)
    have hleft : p.body.left.Within 400 :=
      Single.within_of_nonneg_of_le hge hle (by decide +kernel)
    have hvelocity : (p.direction * p.speed).Within 4 := hside.mul hspeed
    have hscaled : (p.direction * p.speed * multiplier).Within 8 := hvelocity.mul hfactor
    have hway : (p.direction * p.speed * multiplier * dt).Within 50 := hscaled.mul ht.within
    have hx : (p.body.left + p.direction * p.speed * multiplier * dt).Within 450 := hleft.add hway
    have hwidth : (80 : Single).isFinite = true ∧ (80 : Single).value ≤ 480 ∧
        viewportWidth - 80 ≤ 400 := by decide +kernel
    obtain ⟨hge', hle'⟩ := turnAtEdges_mem p.direction hx.isNaN hwidth.1 hwidth.2.1
    rw [← h.width_eq] at hge' hle'
    refine ⟨h.width_eq, h.height_eq, fun _ => ⟨?_, hslow, hfast, hge', ?_⟩,
      fun hstill => absurd hkind hstill, ?_, h.top_within⟩
    · exact turnAtEdges_unit hdirection _ _
    · rw [h.width_eq] at hle' ⊢
      exact Single.le_trans hle' hwidth.2.2
    -- the first platform does not move
    · rcases h.anchored with habove | ⟨-, rfl | rfl⟩
      · exact Or.inl habove
      · cases hkind
      · cases hkind
  · exact h

end WellFormed

end Platform

/-! ### Monsters -/

namespace Monster

/-- **A monster of an ordinary run**: it has its size, its speed and a direction, and it is between the
edges. -/
structure WellFormed (m : Monster) : Prop where
  width_eq : m.body.width = 40
  height_eq : m.body.height = 30
  direction_eq : m.direction = 1 ∨ m.direction = -1
  speed_eq : m.speed = 1.5
  left_ge : 0 ≤ m.body.left
  left_le : m.body.left ≤ 440
  top_within : m.body.top.Within (2 ^ 60)

variable {m : Monster}

/-- **A new monster** is well formed. -/
theorem wellFormed_of_spawn {monsters : List Monster} {camera : Single} {score : Nat}
    {g g' : Pcg32} (h : spawnMonster? monsters camera score .standard g = (some m, g'))
    (hcamera : camera.Within (2 ^ 60)) : m.WellFormed := by
  obtain ⟨-, -, column, lift, direction, hcolumn, hlift, hdirection, rfl⟩ :=
    spawnMonster?_eq_some h
  have hplace : 0 ≤ Single.ofNat column ∧ Single.ofNat column ≤ 440 :=
    ⟨Single.ofNat_nonneg column, Single.ofNat_le_ofNat hcolumn.le⟩
  obtain ⟨hliftFinite, hliftValue⟩ := finite_lift hlift
  have hlifted : (Single.ofNat lift).Within 320 := by
    refine ⟨hliftFinite, ?_⟩
    rw [hliftValue, Nat.abs_cast]
    exact_mod_cast hlift.le
  have hspeed : Tuning.standard.monsterSpeed = 1.5 := by decide +kernel
  have hheight : monsterHeight.Within 30 := by decide +kernel
  have hedge : (camera - monsterHeight).Within (2 ^ 60) := hcamera.sub hheight
  refine ⟨rfl, rfl, hdirection, hspeed, ?_, ?_, hedge.sub hlifted⟩
  · simpa only [spawn] using hplace.1
  · simpa only [spawn] using hplace.2

/-- **A patrol** keeps a monster well formed. -/
theorem WellFormed.advance (h : m.WellFormed) {dt : Single} (ht : FrameTime dt) :
    (m.advance dt).WellFormed := by
  rw [Monster.advance]
  split
  · have hside : m.direction.Within 1 := Single.within_of_unit h.direction_eq
    have hspeed : m.speed.Within 2 := by
      rw [h.speed_eq]
      decide +kernel
    have hleft : m.body.left.Within 440 :=
      Single.within_of_nonneg_of_le h.left_ge h.left_le (by decide +kernel)
    have hvelocity : (m.direction * m.speed).Within 2 := hside.mul hspeed
    have hway : (m.direction * m.speed * dt).Within 13 := hvelocity.mul ht.within
    have hx : (m.body.left + m.direction * m.speed * dt).Within 453 := hleft.add hway
    have hwidth : (40 : Single).isFinite = true ∧ (40 : Single).value ≤ 480 ∧
        viewportWidth - 40 ≤ 440 := by decide +kernel
    obtain ⟨hge, hle⟩ := turnAtEdges_mem m.direction hx.isNaN hwidth.1 hwidth.2.1
    rw [← h.width_eq] at hge hle
    refine ⟨h.width_eq, h.height_eq, ?_, h.speed_eq, hge, ?_, h.top_within⟩
    · exact turnAtEdges_unit h.direction_eq _ _
    · rw [h.width_eq] at hle ⊢
      exact Single.le_trans hle hwidth.2.2
  · exact h

end Monster

/-! ### Projectiles -/

namespace Projectile

/-- **A projectile of an ordinary run**: it has its size and its speed, and it is where a player can
have fired it from. -/
structure WellFormed (p : Projectile) : Prop where
  width_eq : p.body.width = 6
  height_eq : p.body.height = 12
  velocity_eq : p.velocity = -10
  left_within : p.body.left.Within 512
  top_within : p.body.top.Within (2 ^ 60)

/-- **A new projectile** is well formed. -/
theorem wellFormed_firedFrom {player : Player} (h : player.WellFormed) :
    (firedFrom player.muzzle Tuning.standard.projectileSpeed).WellFormed := by
  have hhalf : (20 / 2 : Single).Within 10 := by decide +kernel
  have hwidth : (projectileWidth / 2).Within 3 := by decide +kernel
  have hheight : projectileHeight.Within 12 := by decide +kernel
  have hmiddle : player.muzzle.x.Within 490 := by
    rw [Player.muzzle, h.width_eq]
    exact h.left_within.add hhalf
  exact ⟨rfl, rfl, rfl, hmiddle.sub hwidth, h.top_within.sub hheight⟩

/-- **The flight of a frame** keeps a projectile well formed. -/
theorem WellFormed.advance {p : Projectile} (h : p.WellFormed) {dt : Single} (ht : FrameTime dt) :
    (p.advance dt).WellFormed := by
  have hvelocity : p.velocity.Within 10 := by
    rw [h.velocity_eq]
    decide +kernel
  have hway : (p.velocity * dt).Within 63 := hvelocity.mul ht.within
  exact ⟨h.width_eq, h.height_eq, h.velocity_eq, h.left_within, h.top_within.add hway⟩

end Projectile

end Platformer
