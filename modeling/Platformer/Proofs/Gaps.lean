import Platformer.Proofs.Difficulty
import Platformer.Proofs.Generation
import Platformer.Proofs.Playable

/-! # The gaps of a climb

Gaps are meant to widen with height. Inside one generation they do: the cursor climbs by a gap that
is drawn for the height it stands at. But the cursor does not outlive a generation. The next one
begins at the least gap above the highest platform, at whatever height that is, so that the first
platform of a generation never has the widening.

* **`Tuning.dueGap`**, **`KeepsGap`** — the gap that is due at a height, and a platform that keeps
  it.
* **`Tuning.value_spacingBonus_mem`** — the widening of an ordinary run.
* **`Tuning.Spaced`**, **`isChain_fillFrom`** — a tuning that never draws less than what is due, and
  the gaps of one generation under it; **`Tuning.randomGap_mem`** — the range of all gaps of an
  ordinary run.
* **`IsHighest`**, **`exists_highest`** — the platform that a generation starts from.
* **`gaps_of_fill`** — all gaps of a generation, with the first one. -/

namespace Platformer

/-- The gap that is due above a height: the least gap and the widening earned there. -/
def Tuning.dueGap (t : Tuning) (y : Single) : Single := t.spacingMin + t.spacingBonus (-y)

/-- Whether a platform keeps at least the gap that is due above the one below it. -/
def KeepsGap (t : Tuning) (below above : Platform) : Prop :=
  above.body.top ≤ below.body.top - t.dueGap below.body.top

instance (t : Tuning) (below above : Platform) : Decidable (KeepsGap t below above) :=
  inferInstanceAs (Decidable (_ ≤ _))

/-! ### The widening of an ordinary run -/

namespace Tuning

/-- The widening is finite. -/
theorem isFinite_spacingBonus (height : Single) : (standard.spacingBonus height).isFinite = true :=
  Single.isFinite_of_le_of_le (rising_standard.bonus_nonneg height) (rising_standard.bonus_le height)
    Single.isFinite_zero (Single.isFinite_literal 15)

/-- The range of the widening. -/
theorem value_spacingBonus_mem (height : Single) :
    0 ≤ (standard.spacingBonus height).value ∧ (standard.spacingBonus height).value ≤ 15 := by
  have hcap : standard.spacingBonusMax = 15 := rfl
  have hhigh := (Single.le_iff_value.mp (rising_standard.bonus_le height)).2.2
  rw [hcap, Single.value_literal 15] at hhigh
  exact ⟨Single.value_nonneg (rising_standard.bonus_nonneg height), hhigh⟩

/-- There is no widening up to the height of reference. -/
theorem value_spacingBonus_of_low {height : Single} (h : height ≤ 1000) :
    (standard.spacingBonus height).value = 0 := by
  have hreference : standard.spacingBonus 1000 = 0 := by decide +kernel
  have hle := (Single.le_iff_value.mp (rising_standard.bonus_le_bonus h)).2.2
  rw [hreference, Single.value_zero] at hle
  exact le_antisymm hle (value_spacingBonus_mem height).1

/-- The gap that is due is finite. -/
theorem isFinite_dueGap (y : Single) : (standard.dueGap y).isFinite = true := by
  have hmin : standard.spacingMin = 80 := rfl
  obtain ⟨hlow, hhigh⟩ := value_spacingBonus_mem (-y)
  refine Single.isFinite_add (n := 95) (Single.isFinite_literal 80) (isFinite_spacingBonus _)
    (by decide) ?_
  rw [hmin, Single.value_literal 80, abs_of_nonneg (by linarith)]
  push_cast
  linarith

/-- The gap that is due, in units. -/
theorem value_dueGap (y : Single) :
    (standard.dueGap y).value = rounded (80 + (standard.spacingBonus (-y)).value) := by
  have hmin : standard.spacingMin = 80 := rfl
  rw [dueGap, hmin, Single.value_add (Single.isFinite_literal 80) (isFinite_spacingBonus _),
    Single.value_literal 80]

/-! ### The gaps of one generation -/

/-- **A tuning that draws no gap below what is due.** -/
structure Spaced (t : Tuning) : Prop where
  isFinite_dueGap : ∀ y, (t.dueGap y).isFinite = true
  isFinite_randomGap : ∀ y g, (randomGap y t g).1.isFinite = true
  dueGap_le : ∀ y g, (t.dueGap y).value ≤ (randomGap y t g).1.value

/-- A gap of an ordinary run is the least gap, a natural below forty and the widening. -/
theorem exists_randomGap_eq (y : Single) (g : Pcg32) :
    ∃ extra : ℕ, extra < 40 ∧
      (randomGap y standard g).1 =
        standard.spacingMin + .ofNat extra + standard.spacingBonus (-y) := by
  have hrange : gapRange standard = 40 := by decide +kernel
  have hextra := Pcg32.below_lt g (gapRange_pos standard) (by rw [hrange]; decide)
  refine ⟨_, hextra.trans_eq hrange, ?_⟩
  simp only [randomGap]

/-- A gap of an ordinary run is at most 134. -/
theorem within_randomGap (y : Single) (g : Pcg32) : (randomGap y standard g).1.Within 134 := by
  obtain ⟨extra, hextra, hgap⟩ := exists_randomGap_eq y g
  have hunits : (Single.ofNat extra).Within 39 := by
    refine ⟨Single.isFinite_ofNat (hextra.le.trans (by decide)), ?_⟩
    rw [Single.value_ofNat (hextra.le.trans (by decide)), Nat.abs_cast]
    exact_mod_cast Nat.le_of_lt_succ hextra
  have hbonus : (standard.spacingBonus (-y)).Within 15 := by
    obtain ⟨hlow, hhigh⟩ := value_spacingBonus_mem (-y)
    exact ⟨isFinite_spacingBonus _, abs_le.mpr ⟨by linarith, hhigh⟩⟩
  have hmin : standard.spacingMin.Within 80 := by decide +kernel
  have hsum : (standard.spacingMin + Single.ofNat extra).Within 119 := hmin.add hunits
  rw [hgap]
  exact hsum.add hbonus

/-- **The gaps of an ordinary run** are at least what is due. -/
theorem spaced_standard : standard.Spaced where
  isFinite_dueGap := isFinite_dueGap
  isFinite_randomGap := fun y g => (within_randomGap y g).isFinite
  dueGap_le := by
    intro y g
    obtain ⟨extra, hextra, hgap⟩ := exists_randomGap_eq y g
    have hmin : standard.spacingMin.isNaN = false := by decide +kernel
    have hwider : standard.spacingMin ≤ standard.spacingMin + .ofNat extra :=
      Single.le_add_right hmin (Single.isFinite_ofNat (hextra.le.trans (by decide)))
        (Single.value_nonneg (Single.ofNat_nonneg extra))
    rw [hgap]
    exact (Single.le_iff_value.mp (Single.add_le_add_right hwider (isFinite_spacingBonus _))).2.2

/-- **The range of the gaps** of an ordinary run. -/
theorem randomGap_mem (y : Single) (g : Pcg32) :
    80 ≤ (randomGap y standard g).1.value ∧ (randomGap y standard g).1.Within 134 := by
  have hleast : (80 : ℚ) ≤ (standard.dueGap y).value := by
    rw [value_dueGap]
    calc (80 : ℚ) = rounded (80 : ℕ) := (Single.rounded_natCast (n := 80) (by decide)).symm
      _ ≤ _ := rounded_le_rounded (by push_cast; linarith [(value_spacingBonus_mem (-y)).1])
  exact ⟨hleast.trans (spaced_standard.dueGap_le y g), within_randomGap y g⟩

end Tuning

/-- **Inside one generation every gap is kept**, and the first platform is made at the cursor. -/
theorem isChain_fillFrom {t : Tuning} (ht : t.Spaced) {score : Nat} {ceiling cursor : Single}
    {free : Nat} {platforms : List Platform} {g : Pcg32} {f : Filling}
    (h : fillFrom t score ceiling free cursor platforms g = .ok f) :
    f.created.IsChain (KeepsGap t) ∧ ∀ first ∈ f.created.head?, first.body.top = cursor := by
  -- the next platform is made where the gap above the last one ends
  replace h := fills_of_fillFrom h
  induction h with
  | done | full => exact ⟨List.IsChain.nil, fun first hfirst => nomatch hfirst⟩
  | @next rest cursor platforms g g₁ new later habove hnew hlater ih =>
    have htop := (random_eq_ok hnew).top_eq
    obtain ⟨hchain, hfirst⟩ := ih
    refine ⟨List.isChain_cons.mpr ⟨?_, hchain⟩, by simpa using htop⟩
    intro next hnext
    have hcursor : cursor.isNaN = false := (Single.lt_iff_value.mp habove).2.1
    rw [KeepsGap, hfirst next hnext, htop]
    exact Single.sub_le_sub_left hcursor (ht.isFinite_dueGap cursor)
      (ht.isFinite_randomGap cursor g₁) (ht.dueGap_le cursor g₁)

/-! ### The first gap of a generation -/

/-- The highest of the active platforms. -/
structure IsHighest (platforms : List Platform) (highest : Platform) : Prop where
  mem : highest ∈ platforms
  active : highest.active = true
  le : ∀ p ∈ platforms, p.active = true → highest.body.top ≤ p.body.top

/-- **The height that a generation starts from** is that of the highest active platform. -/
theorem exists_highest {platforms : List Platform} (hactive : ∃ p ∈ platforms, p.active = true)
    (hnumbers : ∀ p ∈ platforms, p.active = true → p.body.top.isNaN = false) :
    ∃ highest, IsHighest platforms highest ∧ highestTop? platforms = some highest.body.top := by
  have hmem {p : Platform} (hp : p ∈ platforms) (hactive : p.active = true) :
      p.body.top ∈ (platforms.filter (·.active)).map (·.body.top) :=
    List.mem_map_of_mem (List.mem_filter.mpr ⟨hp, hactive⟩)
  obtain ⟨p, hp, hpactive⟩ := hactive
  obtain ⟨top, htop⟩ : ∃ top, highestTop? platforms = some top :=
    Option.isSome_iff_exists.mp (List.isSome_minOn?_of_mem (hmem hp hpactive))
  obtain ⟨highest, hhighest, rfl⟩ := List.mem_map.mp (List.minOn?_mem htop)
  obtain ⟨hin, hhactive⟩ := List.mem_filter.mp hhighest
  refine ⟨highest, ⟨hin, hhactive, ?_⟩, htop⟩
  intro q hq hqactive
  refine Single.le_of_totalRank_le (hnumbers _ hin hhactive) (hnumbers q hq hqactive) ?_
  have hle := List.apply_get_minOn?_le_of_mem (f := Single.totalRank) (hmem hq hqactive)
  rw [highestTop?] at htop
  simpa only [htop, Option.get_some] using hle

variable {below above : Platform}

/-- Up to the height of reference the least gap is what is due. -/
theorem keepsGap_of_low (habove : above.body.top = below.body.top - Tuning.standard.spacingMin)
    (hnumber : below.body.top.isNaN = false) (hlow : -below.body.top ≤ 1000) :
    KeepsGap .standard below above := by
  have hmin : Tuning.standard.spacingMin = 80 := rfl
  have hgap : (Tuning.standard.dueGap below.body.top).value = 80 := by
    rw [Tuning.value_dueGap, Tuning.value_spacingBonus_of_low hlow, add_zero]
    exact Single.rounded_natCast (n := 80) (by decide)
  rw [KeepsGap, habove, hmin]
  exact Single.sub_le_sub_left hnumber (Tuning.isFinite_dueGap _) (Single.isFinite_literal 80)
    (by rw [hgap, Single.value_literal 80])

/-- **Above it the least gap is too small.** From a height of 1200 the widening is at least two
units, and up to `2 ^ 22` no rounding hides them. -/
theorem not_keepsGap_of_high
    (habove : above.body.top = below.body.top - Tuning.standard.spacingMin)
    (hlow : 1200 ≤ -below.body.top) (hhigh : -below.body.top ≤ 4194304) :
    ¬ KeepsGap .standard below above := by
  have hmin : Tuning.standard.spacingMin = 80 := rfl
  have hfinite : below.body.top.isFinite = true := by
    rw [← Single.isFinite_neg]
    exact Single.isFinite_of_le_of_le hlow hhigh (Single.isFinite_literal 1200)
      (Single.isFinite_literal 4194304)
  have hlowValue := (Single.le_iff_value.mp hlow).2.2
  have hhighValue := (Single.le_iff_value.mp hhigh).2.2
  rw [Single.value_neg, Single.value_literal 1200] at hlowValue
  rw [Single.value_neg, Single.value_literal 4194304] at hhighValue
  have hgap : 82 ≤ (Tuning.standard.dueGap below.body.top).value := by
    have htwo : (2 : Single) ≤ Tuning.standard.spacingBonus 1200 := by decide +kernel
    have hbonus := (Single.le_iff_value.mp
      (Single.le_trans htwo (Tuning.rising_standard.bonus_le_bonus hlow))).2.2
    rw [Single.value_literal 2] at hbonus
    rw [Tuning.value_dueGap]
    calc (82 : ℚ) = rounded (82 : ℕ) := (Single.rounded_natCast (n := 82) (by decide)).symm
      _ ≤ _ := rounded_le_rounded (by push_cast; linarith)
  intro hkeeps
  rw [KeepsGap, habove, hmin] at hkeeps
  have hle := (Single.le_iff_value.mp hkeeps).2.2
  rw [Single.value_sub hfinite (Single.isFinite_literal 80),
    Single.value_sub hfinite (Tuning.isFinite_dueGap _), Single.value_literal 80] at hle
  -- both roundings move by at most a quarter
  have hfirst := abs_rounded_sub_self_le (k := 1) (q := below.body.top.value - 80) (by decide)
    (by rw [abs_of_nonpos (by linarith)]; norm_num; linarith)
  have hdue : rounded (below.body.top.value - (Tuning.standard.dueGap below.body.top).value) ≤
      rounded (below.body.top.value - 82) := rounded_le_rounded (by linarith)
  have hsecond := abs_rounded_sub_self_le (k := 1) (q := below.body.top.value - 82) (by decide)
    (by rw [abs_of_nonpos (by linarith)]; norm_num; linarith)
  norm_num at hfirst hsecond
  linarith [(abs_le.mp hfirst).1, (abs_le.mp hsecond).2]

/-- **The gaps of a generation.** All but the first are at least what is due at their height. The
first one, above the highest platform of the generations before, is always the least gap; this is
what is due up to the height of reference, and less than that from a height of 1200 on. -/
theorem gaps_of_fill {platforms : List Platform} (hactive : ∃ p ∈ platforms, p.active = true)
    (hnumbers : ∀ p ∈ platforms, p.active = true → p.body.top.isNaN = false) (camera : Single)
    (score : Nat) (g : Pcg32) :
    ∃ f highest, fill platforms camera score .standard g = .ok f ∧
      f.platforms = f.created.foldl (fun store new => place new store) platforms ∧
      IsHighest platforms highest ∧
      f.created.IsChain (KeepsGap .standard) ∧
      (-highest.body.top ≤ 1000 → (highest :: f.created).IsChain (KeepsGap .standard)) ∧
      ∀ first ∈ f.created.head?,
        first.body.top = highest.body.top - Tuning.standard.spacingMin ∧
        (1200 ≤ -highest.body.top → -highest.body.top ≤ 4194304 →
          ¬ KeepsGap .standard highest first) := by
  obtain ⟨highest, hhighest, htop⟩ := exists_highest hactive hnumbers
  obtain ⟨f, hfill⟩ := exists_fill Tuning.playable_standard platforms camera score g
  have hfrom := hfill
  simp only [fill, htop, Option.getD_some] at hfrom
  obtain ⟨hchain, hfirst⟩ := isChain_fillFrom Tuning.spaced_standard hfrom
  refine ⟨f, highest, hfill, platforms_fillFrom hfrom, hhighest, hchain, ?_, ?_⟩
  · intro hlow
    refine List.isChain_cons.mpr ⟨?_, hchain⟩
    intro first hhead
    have hnumber := hnumbers highest hhighest.mem hhighest.active
    exact keepsGap_of_low (hfirst first hhead) hnumber hlow
  · intro first hhead
    exact ⟨hfirst first hhead, not_keepsGap_of_high (hfirst first hhead)⟩

/-- A platform at a height of 2000. -/
def perch : Platform := .still 200 (-2000) .normal

/-- Above a platform at a height of 2000 a gap of 90 is due, and the next generation makes one
of 80. -/
theorem gap_above_perch :
    ∃ f first, fill [perch] (-1310) 131 .standard (.ofSeed 1) = .ok f ∧ f.created = [first] ∧
      first.body.top = -2080 ∧ Tuning.standard.dueGap perch.body.top = 90 ∧
      ¬ KeepsGap .standard perch first := by
  have hnumbers : ∀ p ∈ [perch], p.active = true → p.body.top.isNaN = false := by
    intro p hp _
    rw [List.mem_singleton.mp hp]
    decide +kernel
  obtain ⟨f, highest, hfill, -, hhighest, -, -, hfirst⟩ :=
    gaps_of_fill ⟨perch, List.mem_singleton_self _, rfl⟩ hnumbers (-1310) 131 (.ofSeed 1)
  obtain rfl : highest = perch := List.mem_singleton.mp hhighest.mem
  obtain ⟨made, hmade, hcheck⟩ := Game.exists_eq_ok_of_any
    (fun made : Filling => made.created.map (·.body.top) = [-2080])
    (show (fill [perch] (-1310) 131 .standard (.ofSeed 1)).toOption.any _ = true by decide +kernel)
  obtain rfl : f = made := Except.ok.inj (hfill.symm.trans hmade)
  obtain ⟨first, hcreated, htop⟩ := List.map_eq_singleton_iff.mp (of_decide_eq_true hcheck)
  obtain ⟨-, hshort⟩ := hfirst first (by rw [hcreated]; rfl)
  refine ⟨f, first, hfill, hcreated, htop, by decide +kernel, hshort ?_ ?_⟩
  · decide +kernel
  · decide +kernel

end Platformer
