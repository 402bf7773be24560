import Platformer.Proofs.Occupancy
import Platformer.Proofs.Spread

/-! # What a generation covers

The platforms of a generation go into whatever slots are free, so that the store does not show that
they form a stair. But the cursor always stands one gap above the highest platform, however that lies
in the store, and a gap of an ordinary run is at most 134. So no step of the stair is higher than
that, and it leads to within one step of the ceiling, unless the store fills up first. All of this
holds at every height, also where rounding swallows the gaps and the cursor no longer moves.

* **`freeSlots_eq_zero_iff`** — a store that takes no platform.
* **`InReach`**, **`inReach_randomGap`** — heights that are one gap apart, as it is rounded there.
* **`Peak`**, **`Peak.place`**, **`Peak.exists_isHighest`** — the height of the highest platform.
* **`Covers`**, **`covers_of_rounds`** — the stair from a store to a ceiling; every generation whose
  cursor stands one gap above its store makes one.
* **`fill_covers`** — the same for what a camera asks for. -/

namespace Platformer

variable {platforms : List Platform}

/-- A store takes no platform if it is as long as it may grow and all its platforms are active. -/
theorem freeSlots_eq_zero_iff : freeSlots platforms = 0 ↔
    maxPlatforms ≤ platforms.length ∧ ∀ p ∈ platforms, p.active = true := by
  rw [freeSlots, Nat.add_eq_zero_iff, Nat.sub_eq_zero_iff_le, List.countP_eq_zero, and_comm]
  simp

/-! ### One gap -/

/-- **A height that one gap of an ordinary run leads to**: it is 80 to 134 units above another, as
these are subtracted there. -/
structure InReach (below above : Single) : Prop where
  sub_le : below - 134 ≤ above
  le_sub : above ≤ below - 80

namespace InReach

variable {x y z : Single}

/-- A gap leads upward, or nowhere where it is swallowed. -/
theorem le (h : InReach y z) : z ≤ y := by
  have hnumber : y.isNaN = false := (Single.isNaN_of_add (Single.isNaN_right_of_le h.le_sub)).1
  refine Single.le_trans h.le_sub (Single.sub_le_self hnumber (Single.isFinite_literal 80) ?_)
  rw [Single.value_literal 80]
  norm_num

/-- Only the place of the lower height matters, not which of the two zeros it is. -/
theorem congr (h : InReach y z) (hxy : x ≤ y) (hyx : y ≤ x) : InReach x z where
  sub_le := Single.le_trans (Single.sub_le_sub_right hxy (Single.isFinite_literal 134)) h.sub_le
  le_sub := Single.le_trans h.le_sub (Single.sub_le_sub_right hyx (Single.isFinite_literal 80))

end InReach

/-- A finite gap from 80 to 134 leads to a height in reach. -/
theorem inReach_sub {y gap : Single} (hy : y.isNaN = false) (hleast : 80 ≤ gap.value)
    (hgap : gap.Within 134) : InReach y (y - gap) where
  sub_le := by
    refine Single.sub_le_sub_left hy hgap.isFinite (Single.isFinite_literal 134) ?_
    rw [Single.value_literal 134]
    exact (abs_le.mp hgap.abs_value_le).2
  le_sub := by
    refine Single.sub_le_sub_left hy (Single.isFinite_literal 80) hgap.isFinite ?_
    rwa [Single.value_literal 80]

/-- **Every gap of an ordinary run** leads to a height in reach. -/
theorem inReach_randomGap {y : Single} (hy : y.isNaN = false) (g : Pcg32) :
    InReach y (y - (randomGap y .standard g).1) :=
  inReach_sub hy (Tuning.randomGap_mem y g).1 (Tuning.randomGap_mem y g).2

/-! ### The highest platform -/

/-- **The height of the highest platform of a store**, up to which of the two zeros it is. -/
structure Peak (platforms : List Platform) (y : Single) : Prop where
  reached : ∃ x ∈ activeTops platforms, x ≤ y
  le : ∀ x ∈ activeTops platforms, y ≤ x

/-- A store has its peak at its highest platform. -/
theorem IsHighest.peak {highest : Platform} (h : IsHighest platforms highest)
    (hnumber : highest.body.top.isNaN = false) : Peak platforms highest.body.top := by
  constructor
  · exact ⟨_, mem_activeTops.mpr ⟨highest, h.mem, h.active, rfl⟩, Single.le_refl hnumber⟩
  · intro x hx
    obtain ⟨p, hp, hactive, rfl⟩ := mem_activeTops.mp hx
    exact h.le p hp hactive

namespace Peak

variable {y z : Single}

/-- There is a highest platform at a peak. -/
theorem exists_isHighest (h : Peak platforms y) :
    ∃ highest, IsHighest platforms highest ∧ highest.body.top ≤ y ∧ y ≤ highest.body.top := by
  obtain ⟨x, hx, hle⟩ := h.reached
  obtain ⟨highest, hmem, hactive, rfl⟩ := mem_activeTops.mp hx
  refine ⟨highest, ⟨hmem, hactive, ?_⟩, hle, h.le _ hx⟩
  intro p hp hpactive
  exact Single.le_trans hle (h.le _ (mem_activeTops.mpr ⟨p, hp, hpactive, rfl⟩))

/-- What is in reach of a peak is in reach of the highest platform. -/
theorem exists_inReach (h : Peak platforms y) (hreach : InReach y z) :
    ∃ highest, IsHighest platforms highest ∧ InReach highest.body.top z := by
  obtain ⟨highest, hhighest, hle, hge⟩ := h.exists_isHighest
  exact ⟨highest, hhighest, hreach.congr hle hge⟩

/-- A platform that is put above all others is the highest one, whatever slot it takes. -/
theorem place (h : Peak platforms y) {new : Platform} (hnew : new.active = true)
    (hle : new.body.top ≤ y) : Peak (place new platforms) new.body.top := by
  have hperm := activeTops_place hnew platforms
  have hself := Single.le_refl (Single.isNaN_left_of_le hle)
  constructor
  · exact ⟨_, hperm.mem_iff.mpr List.mem_cons_self, hself⟩
  · intro x hx
    rcases List.mem_cons.mp (hperm.mem_iff.mp hx) with rfl | hold
    · exact hself
    · exact Single.le_trans hle (h.le x hold)

end Peak

/-! ### The stair of a generation -/

/-- **A generation covers the way from a store to a ceiling.** -/
structure Covers (ceiling : Single) (platforms : List Platform) (f : Filling) : Prop where
  /-- The store is full, or its highest platform is within one gap of the ceiling. -/
  complete : freeSlots f.platforms = 0 ∨
    ∃ highest, IsHighest f.platforms highest ∧ highest.body.top - 134 ≤ ceiling
  /-- No platform is made above the ceiling. -/
  ceiling_lt : ∀ new ∈ f.created, ceiling < new.body.top
  /-- Each platform is one gap above the one that was the highest before it. -/
  inReach : ∀ before new after, f.created = before ++ new :: after →
    ∃ highest, IsHighest (before.foldl (fun store p => place p store) platforms) highest ∧
      InReach highest.body.top new.body.top

/-- **The loop of a generation** makes a stair, if its cursor stands one gap above the store. -/
theorem covers_of_rounds {score rounds : Nat} {ceiling y cursor : Single} {g : Pcg32} {f : Filling}
    (hceiling : ceiling.isNaN = false) (hpeak : Peak platforms y) (hcursor : InReach y cursor)
    (h : Rounds .standard score ceiling rounds cursor platforms g f) :
    Covers ceiling platforms f := by
  -- each round puts the new platform at the cursor, and the cursor one gap above it
  induction h generalizing y with
  | @done cursor platforms g habove =>
    obtain ⟨highest, hhighest, hreach⟩ := hpeak.exists_inReach hcursor
    have hreached : cursor ≤ ceiling :=
      Single.le_of_not_lt hceiling (Single.isNaN_left_of_le hcursor.le_sub) habove
    exact ⟨Or.inr ⟨highest, hhighest, Single.le_trans hreach.sub_le hreached⟩, by simp, by simp⟩
  | @full cursor platforms g g₁ new habove hnew hplace =>
    exact ⟨Or.inl (freeSlots_of_place?_eq_none hplace), by simp, by simp⟩
  | @next cursor platforms store g g₁ new rounds f habove hnew hplace hrest ih =>
    have hactive := (random_eq_ok hnew).active
    have htop := (random_eq_ok hnew).top_eq
    obtain ⟨rfl, -⟩ := freeSlots_of_place? hactive hplace
    have hplaced := hpeak.place hactive (htop ▸ hcursor.le)
    have hnumber : new.body.top.isNaN = false := htop ▸ Single.isNaN_left_of_le hcursor.le_sub
    have hlater := ih hplaced (htop ▸ inReach_randomGap hnumber g₁)
    refine ⟨hlater.complete, List.forall_mem_cons.mpr ⟨htop.symm ▸ habove, hlater.ceiling_lt⟩, ?_⟩
    intro before other after hcreated
    cases before with
    | nil =>
      obtain ⟨rfl, -⟩ := List.cons.inj hcreated
      exact hpeak.exists_inReach (htop.symm ▸ hcursor)
    | cons first before =>
      obtain ⟨rfl, hlast⟩ := List.cons.inj hcreated
      exact hlater.inReach before other after hlast

/-- **The stair to the ceiling of a camera.** In a store with a platform, with heights that are numbers,
an ordinary generation makes platforms below the ceiling only. Each of them is one gap above what was
the highest platform before it, and at the end the highest one is within one gap of the ceiling, unless
the store is full and holds no free slot. -/
theorem fill_covers (hactive : ∃ p ∈ platforms, p.active = true)
    (hnumbers : ∀ p ∈ platforms, p.active = true → p.body.top.isNaN = false) {camera : Single}
    (hcamera : camera.isNaN = false) (score : Nat) (g : Pcg32) :
    ∃ f, fill platforms camera score .standard g = .ok f ∧
      f.platforms = f.created.foldl (fun store new => place new store) platforms ∧
      ((maxPlatforms ≤ f.platforms.length ∧ ∀ p ∈ f.platforms, p.active = true) ∨
        ∃ highest, IsHighest f.platforms highest ∧
          highest.body.top - 134 ≤ generationCeiling camera .standard) ∧
      (∀ new ∈ f.created, generationCeiling camera .standard < new.body.top) ∧
      ∀ before new after, f.created = before ++ new :: after →
        ∃ highest, IsHighest (before.foldl (fun store p => place p store) platforms) highest ∧
          highest.body.top - 134 ≤ new.body.top ∧ new.body.top ≤ highest.body.top - 80 := by
  have hedges : viewportHeight.isFinite = true ∧
      Tuning.standard.generationMargin.isFinite = true := by decide +kernel
  have hleast : (80 : ℚ) ≤ Tuning.standard.spacingMin.value ∧
      Tuning.standard.spacingMin.Within 134 := by decide +kernel
  have hceiling : (generationCeiling camera .standard).isNaN = false :=
    Single.isNaN_sub (Single.isNaN_sub hcamera hedges.1) hedges.2
  obtain ⟨highest, hhighest, htop⟩ := exists_highest hactive hnumbers
  have hnumber := hnumbers highest hhighest.mem hhighest.active
  obtain ⟨f, hfill⟩ := exists_fill Tuning.playable_standard platforms camera score g
  have hfrom := hfill
  simp only [fill, htop, Option.getD_some] at hfrom
  have hcovers := covers_of_rounds hceiling (hhighest.peak hnumber)
    (inReach_sub hnumber hleast.1 hleast.2) (rounds_of_fillFrom hfrom)
  refine ⟨f, hfill, platforms_fillFrom hfrom, ?_, hcovers.ceiling_lt, ?_⟩
  · exact hcovers.complete.imp_left freeSlots_eq_zero_iff.mp
  · intro before new after hcreated
    obtain ⟨below, hbelow, hreach⟩ := hcovers.inReach before new after hcreated
    exact ⟨below, hbelow, hreach.sub_le, hreach.le_sub⟩

/-- A store with a free slot, whose highest platform is not in the last slot. -/
def gappy : List Platform := [.free .anchor, .still 100 (-500) .normal, .anchor]

/-- Three platforms lead from there to the ceiling of the first picture, the first of them in the free
slot, and they leave room to spare. -/
theorem fill_covers_gappy :
    ∃ f first second third, fill gappy 0 12 .standard (.ofSeed 3) = .ok f ∧
      f.created = [first, second, third] ∧ f.platforms.length = 5 ∧
      (∃ below, IsHighest (place first gappy) below ∧
        below.body.top - 134 ≤ second.body.top ∧ second.body.top ≤ below.body.top - 80) ∧
      ∃ highest, IsHighest f.platforms highest ∧
        highest.body.top - 134 ≤ generationCeiling 0 .standard := by
  have hnumbers : ∀ p ∈ gappy, p.active = true → p.body.top.isNaN = false := by decide +kernel
  have hground : (0 : Single).isNaN = false := by decide +kernel
  obtain ⟨f, hfill, -, hcomplete, -, hreach⟩ :=
    fill_covers ⟨.anchor, by simp [gappy], rfl⟩ hnumbers hground 12 (.ofSeed 3)
  obtain ⟨f', hfill', hcheck⟩ := Game.exists_eq_ok_of_any
    (fun f : Filling => f.platforms.length == 5 && f.created.length == 3)
    (show (fill gappy 0 12 .standard (.ofSeed 3)).toOption.any _ = true by decide +kernel)
  obtain rfl : f' = f := Except.ok.inj (hfill'.symm.trans hfill)
  obtain ⟨hlength, hthree⟩ : f'.platforms.length = 5 ∧ f'.created.length = 3 := by
    simpa using hcheck
  obtain ⟨first, second, third, hcreated⟩ := List.length_eq_three.mp hthree
  refine ⟨f', first, second, third, hfill, hcreated, hlength, ?_, ?_⟩
  · exact hreach [first] second [third] hcreated
  · refine hcomplete.resolve_left ?_
    rintro ⟨hfull, -⟩
    rw [hlength] at hfull
    exact absurd hfull (by decide)

end Platformer
