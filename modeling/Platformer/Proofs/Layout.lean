import Platformer.Proofs.Occupancy
import Platformer.Proofs.Parts
import Platformer.Proofs.Restart
import Platformer.Proofs.Spread

/-! # The layout of a fresh run

A fresh run begins in a world of whole numbers. Below the height of reference no gap is widened, and
whole numbers of this size are added without rounding, so that the first platforms are a stair of
whole steps from the first platform to just under the ceiling. How many there are depends on the
draws alone, and the bounds of a step bound their number.

* **`Single.IsWhole`**, **`Single.IsWhole.add`**, **`Single.IsWhole.sub`** — whole numbers, exactly.
* **`isWhole_randomGap`** — the gaps of a layout.
* **`Stair`**, **`stair_of_rounds`** — platforms a whole step apart up to the ceiling of a layout;
  **`Stair.length_le`**, **`Stair.le_length`** — how many there are.
* **`foldl_place`** — a store of active platforms only grows at its end.
* **`WellLaid`**, **`wellLaid_layOut`** — the layout from every generator. -/

namespace Platformer

/-! ### Whole numbers -/

/-- A number that is exactly an integer. -/
structure Single.IsWhole (x : Single) (n : ℤ) : Prop where
  isFinite : x.isFinite = true
  value_eq : x.value = n

namespace Single

variable {x y : Single} {m n : ℤ}

/-- A whole number is a count of ones. -/
theorem isWhole_iff_isParts : x.IsWhole n ↔ x.IsParts 0 n := by
  have hones : (n : ℚ) / 2 ^ 0 = n := by rw [pow_zero, div_one]
  exact ⟨fun h => ⟨h.isFinite, h.value_eq.trans hones.symm⟩,
    fun h => ⟨h.isFinite, h.value_eq.trans hones⟩⟩

/-- Naturals of at most 24 bits are whole. -/
theorem isWhole_ofNat {n : ℕ} (hn : n ≤ 2 ^ 24) : (ofNat n).IsWhole n :=
  isWhole_iff_isParts.mpr (isParts_ofNat hn)

/-- **A sum of whole numbers** of at most 24 bits is exact. -/
theorem IsWhole.add (hx : x.IsWhole m) (hy : y.IsWhole n) (h : |m + n| ≤ 2 ^ 24) :
    (x + y).IsWhole (m + n) :=
  isWhole_iff_isParts.mpr
    ((isWhole_iff_isParts.mp hx).add (isWhole_iff_isParts.mp hy) h (Nat.zero_le 149))

/-- The opposite of a whole number. -/
theorem IsWhole.neg (hx : x.IsWhole m) : (-x).IsWhole (-m) :=
  ⟨by rw [isFinite_neg, hx.isFinite], by rw [value_neg, hx.value_eq, Int.cast_neg]⟩

/-- **A difference of whole numbers** of at most 24 bits is exact. -/
theorem IsWhole.sub (hx : x.IsWhole m) (hy : y.IsWhole n) (h : |m - n| ≤ 2 ^ 24) :
    (x - y).IsWhole (m - n) :=
  hx.add hy.neg h

/-- Whole numbers are in the order of their integers. -/
theorem IsWhole.lt_iff (hx : x.IsWhole m) (hy : y.IsWhole n) : x < y ↔ m < n := by
  rw [lt_iff_of_isFinite hx.isFinite hy.isFinite, hx.value_eq, hy.value_eq, Int.cast_lt]

end Single

/-! ### Whole gaps -/

/-- **Up to the height of reference a gap is whole**, from 80 to 119. -/
theorem isWhole_randomGap {y : Single} {n : ℤ} (hy : y.IsWhole n) (hn : -1000 ≤ n) (g : Pcg32) :
    ∃ gap : ℕ, 80 ≤ gap ∧ gap ≤ 119 ∧ (randomGap y .standard g).1.IsWhole gap := by
  obtain ⟨extra, hextra, hgap⟩ := Tuning.exists_randomGap_eq y g
  have hmin : Tuning.standard.spacingMin = 80 := rfl
  rw [hgap, hmin]
  have hleast : (80 : Single).IsWhole 80 := Single.isWhole_ofNat (n := 80) (by decide)
  have hunits := Single.isWhole_ofNat (n := extra) (by omega)
  have hlow : -y ≤ 1000 := by
    have hcast : (-1000 : ℚ) ≤ n := by exact_mod_cast hn
    rw [Single.le_iff_of_isFinite hy.neg.isFinite (Single.isFinite_literal 1000), Single.value_neg,
      hy.value_eq, Single.value_literal 1000]
    linarith
  have hbonus : (Tuning.standard.spacingBonus (-y)).IsWhole 0 :=
    ⟨Tuning.isFinite_spacingBonus _, by rw [Tuning.value_spacingBonus_of_low hlow, Int.cast_zero]⟩
  have hsum := (hleast.add hunits (abs_le.mpr ⟨by omega, by omega⟩)).add hbonus
    (abs_le.mpr ⟨by omega, by omega⟩)
  refine ⟨80 + extra, by omega, by omega, ?_⟩
  rwa [add_zero] at hsum

/-! ### The stair -/

/-- **A stair of platforms up to a ceiling**: each is drawn at a whole height below the ceiling, which
is 80 to 119 units above the one before, and the height after the last has come to the ceiling. -/
inductive Stair (ceiling : ℤ) (score : ℕ) : ℤ → List Platform → Prop
  /-- The height has come to the ceiling. -/
  | done {n : ℤ} (hreached : n ≤ ceiling) : Stair ceiling score n []
  /-- A platform at a height, and the stair from the next one. -/
  | step {n : ℤ} {gap : ℕ} {y : Single} {new : Platform} {rest : List Platform}
      (hbelow : ceiling < n) (hy : y.IsWhole n) (hnew : new.IsDrawn y score .standard)
      (hgap : 80 ≤ gap ∧ gap ≤ 119)
      (hrest : Stair ceiling score (n - gap) rest) : Stair ceiling score n (new :: rest)

/-- **The loop of a generation** makes a stair where all heights are whole, unless it runs out of
places. -/
theorem stair_of_rounds {score rounds : Nat} {ceiling cursor : Single} {top n : ℤ}
    {platforms : List Platform} {g : Pcg32} {f : Filling} (hceiling : ceiling.IsWhole top)
    (hlow : -1000 ≤ top) (hcursor : cursor.IsWhole n) (hn : n ≤ 1000)
    (h : Rounds .standard score ceiling rounds cursor platforms g f) (hfull : f.isFull = false) :
    Stair top score n f.created := by
  induction h generalizing n with
  | done habove => exact .done (not_lt.mp (mt (hceiling.lt_iff hcursor).mpr habove))
  | full => cases hfull
  | @next cursor platforms store g g₁ new rounds f habove hnew hplace hrest ih =>
    have hbelow : top < n := (hceiling.lt_iff hcursor).mp habove
    obtain ⟨gap, hleast, hmost, hgap⟩ := isWhole_randomGap hcursor (by omega) g₁
    have hnext := hcursor.sub hgap (abs_le.mpr ⟨by omega, by omega⟩)
    exact .step hbelow hcursor (random_eq_ok hnew) ⟨hleast, hmost⟩
      (ih hnext (by omega) hfull)

/-- **One step of the stair**: from a whole height up by a whole number from 80 to 119. -/
def IsStep (below above : Platform) : Prop :=
  ∃ (n : ℤ) (gap : ℕ), below.body.top.IsWhole n ∧ above.body.top.IsWhole (n - gap) ∧
    80 ≤ gap ∧ gap ≤ 119

/-- A step leads upward. -/
theorem IsStep.lt {below above : Platform} (h : IsStep below above) :
    above.body.top < below.body.top := by
  obtain ⟨n, gap, hbelow, habove, hleast, -⟩ := h
  exact (habove.lt_iff hbelow).mpr (by omega)

namespace Stair

variable {ceiling n : ℤ} {score : ℕ} {created : List Platform}

/-- All platforms are drawn, at whole heights below the ceiling. -/
theorem mem (h : Stair ceiling score n created) : ∀ p ∈ created, p.IsDrawn p.body.top score .standard ∧
    ∃ m : ℤ, p.body.top.IsWhole m ∧ ceiling < m := by
  induction h with
  | done => simp
  | step hbelow hy hnew hgap hrest ih =>
    obtain rfl := hnew.top_eq
    exact List.forall_mem_cons.mpr ⟨⟨hnew, _, hy, hbelow⟩, ih⟩

/-- The first platform is at the height that the stair begins at. -/
theorem head (h : Stair ceiling score n created) : ∀ p ∈ created.head?, p.body.top.IsWhole n := by
  cases h with
  | done => simp
  | step hbelow hy hnew =>
    rintro p ⟨⟩
    rwa [hnew.top_eq]

/-- The platforms are steps apart. -/
theorem isChain (h : Stair ceiling score n created) : created.IsChain IsStep := by
  induction h with
  | done => exact List.IsChain.nil
  | step hbelow hy hnew hgap hrest ih =>
    refine List.isChain_cons.mpr ⟨?_, ih⟩
    intro next hnext
    exact ⟨_, _, hnew.top_eq ▸ hy, hrest.head next hnext, hgap⟩

/-- The last platform is within one step of the ceiling. -/
theorem getLast (h : Stair ceiling score n created) :
    ∀ p ∈ created.getLast?, ∃ m : ℤ, p.body.top.IsWhole m ∧ m - 119 ≤ ceiling := by
  induction h with
  | done => simp
  | @step n gap y new rest hbelow hy hnew hgap hrest ih =>
    intro p hp
    cases hrest with
    | done hreached =>
      obtain rfl : new = p := by simpa using hp
      exact ⟨n, hnew.top_eq ▸ hy, by omega⟩
    | step => exact ih p (by simpa using hp)

/-- **There are enough platforms** to bridge the way by the greatest steps. -/
theorem le_length (h : Stair ceiling score n created) : n - ceiling ≤ 119 * created.length := by
  induction h with
  | done hreached => simpa using hreached
  | step hbelow hy hnew hgap hrest ih =>
    rw [List.length_cons]
    omega

/-- **There are no more platforms** than the least steps leave room for. -/
theorem length_le (h : Stair ceiling score n created) :
    80 * (created.length : ℤ) ≤ max 0 (n - ceiling + 79) := by
  induction h with
  | done hreached => simp
  | step hbelow hy hnew hgap hrest ih =>
    rw [List.length_cons]
    omega

end Stair

/-! ### The store of a fresh run -/

/-- Without a free slot a platform goes to the end. -/
theorem place_of_active {platforms : List Platform} (h : ∀ p ∈ platforms, p.active = true)
    (new : Platform) : place new platforms = platforms ++ [new] := by
  induction platforms with
  | nil => rfl
  | cons p ps ih =>
    obtain ⟨hp, hps⟩ := List.forall_mem_cons.mp h
    rw [place, if_pos hp, ih hps, List.cons_append]

/-- **A store of active platforms** only grows at its end. -/
theorem foldl_place {platforms created : List Platform} (h : ∀ p ∈ platforms, p.active = true)
    (hcreated : ∀ p ∈ created, p.active = true) :
    created.foldl (fun store new => place new store) platforms = platforms ++ created := by
  induction created generalizing platforms with
  | nil => simp
  | cons new created ih =>
    obtain ⟨hnew, hrest⟩ := List.forall_mem_cons.mp hcreated
    rw [List.foldl_cons, place_of_active h, ih ?_ hrest, List.append_assoc, List.singleton_append]
    simpa [or_imp, forall_and] using ⟨h, hnew⟩

/-- **The layout of a fresh run.** -/
structure WellLaid (platforms : List Platform) : Prop where
  length_mem : 13 ≤ platforms.length ∧ platforms.length ≤ 18
  active : ∀ p ∈ platforms, p.active = true
  /-- The first slot holds the platform that the run starts over. -/
  anchor : platforms[0]? = some .anchor
  second : ∃ p, platforms[1]? = some p ∧ p.body.top = 510
  /-- Each slot is above the one before. -/
  rising : platforms.IsChain fun below above => above.body.top < below.body.top
  /-- From the second slot on the gaps are whole, from 80 to 119. -/
  steps : platforms.tail.IsChain IsStep
  /-- All heights are whole, and below the ceiling. -/
  tops : ∀ p ∈ platforms, ∃ n : ℤ, p.body.top.IsWhole n ∧ -840 < n
  /-- The last slot is within one step of the ceiling. -/
  last : ∃ p n, platforms.getLast? = some p ∧ p.body.top.IsWhole n ∧ n - 119 ≤ -840
  /-- All places are whole. -/
  lefts : ∀ p ∈ platforms, ∃ n : ℕ, n ≤ 399 ∧ p.body.left.IsWhole n
  /-- Only a moving platform has a direction or a speed. -/
  still : ∀ p ∈ platforms, p.kind ≠ .moving → p.direction = 0 ∧ p.speed = 0

/-- **A stair over the first platform** is a well laid store. -/
theorem wellLaid_of_stair {score : ℕ} {created : List Platform} (h : Stair (-840) score 510 created)
    (hfirst : ∀ p ∈ created.head?, p.body.top = 510) : WellLaid (.anchor :: created) := by
  have hanchor : Platform.anchor.body.top.IsWhole 590 ∧ Platform.anchor.body.left.IsWhole 200 :=
    ⟨⟨by decide +kernel, by decide +kernel⟩, ⟨by decide +kernel, by decide +kernel⟩⟩
  have hmost := h.length_le
  have hleast := h.le_length
  obtain ⟨second, rest, rfl⟩ : ∃ second rest, created = second :: rest := by
    refine List.exists_cons_of_length_pos ?_
    omega
  constructor
  · rw [List.length_cons]
    omega
  · exact List.forall_mem_cons.mpr ⟨rfl, fun p hp => (h.mem p hp).1.active⟩
  · rfl
  · exact ⟨second, rfl, hfirst second rfl⟩
  · refine List.isChain_cons.mpr ⟨?_, h.isChain.imp fun _ _ => IsStep.lt⟩
    rintro p ⟨⟩
    exact ((h.head second rfl).lt_iff hanchor.1).mpr (by decide)
  · exact h.isChain
  · exact List.forall_mem_cons.mpr ⟨⟨590, hanchor.1, by decide⟩, fun p hp => (h.mem p hp).2⟩
  · have hlast := List.getLast?_eq_some_getLast (List.cons_ne_nil second rest)
    obtain ⟨n, hn, hle⟩ := h.getLast _ hlast
    exact ⟨_, n, hlast, hn, hle⟩
  · refine List.forall_mem_cons.mpr ⟨⟨200, by decide, hanchor.2⟩, ?_⟩
    intro p hp
    obtain ⟨column, hlt, hleft⟩ := (h.mem p hp).1.left
    rw [hleft]
    exact ⟨column, Nat.le_of_lt_succ hlt, Single.isWhole_ofNat (hlt.le.trans (by decide))⟩
  · exact List.forall_mem_cons.mpr ⟨fun _ => ⟨rfl, rfl⟩, fun p hp => (h.mem p hp).1.still⟩

/-- **The layout from every generator** is well laid, and a restart lays it whatever its store held. -/
theorem wellLaid_layOut (g : Pcg32) :
    ∃ layout, layOut .standard g = .ok layout ∧ WellLaid layout.platforms ∧
      Platform.anchor.body.left = 200 ∧
      ∀ game : Game, game.tuning = .standard → game.generator = g →
        ∃ next notices, game.restart = .ok (next, notices) ∧
          next.platforms = layout.platforms := by
  have hceiling : (generationCeiling 0 .standard).IsWhole (-840) :=
    ⟨by decide +kernel, by decide +kernel⟩
  have hcursor : (510 : Single).IsWhole 510 := Single.isWhole_ofNat (n := 510) (by decide)
  have hstart : (highestTop? [.anchor]).getD 0 - Tuning.standard.spacingMin = 510 := by
    decide +kernel
  obtain ⟨layout, hlayout⟩ := exists_fill Tuning.playable_standard [.anchor] 0 0 g
  have hfrom := hlayout
  rw [fill, hstart] at hfrom
  have hfull := (Game.spread_layOut hlayout).1
  have hstair := stair_of_rounds hceiling (by decide) hcursor (by decide)
    (rounds_of_fillFrom hfrom) hfull
  have hplatforms : layout.platforms = .anchor :: layout.created := by
    rw [platforms_fillFrom hfrom]
    refine foldl_place ?_ fun p hp => (hstair.mem p hp).1.active
    simp [Platform.anchor, Platform.still]
  refine ⟨layout, hlayout, ?_, by decide +kernel, ?_⟩
  · rw [hplatforms]
    exact wellLaid_of_stair hstair (isChain_fillFrom Tuning.spaced_standard hfrom).2
  · rintro game htuning rfl
    rw [← htuning] at hlayout
    exact ⟨_, _, ok_bind hlayout _, rfl⟩

/-- A restart lays a run well whose store had lost all but two platforms. -/
theorem wellLaid_after_loss :
    ∃ game next notices, Game.start 3 = .ok game ∧
      Game.restart { game.1 with platforms := perforated, camera := -500, score := 50 } =
        .ok (next, notices) ∧ WellLaid next.platforms := by
  obtain ⟨game, notices, hgame, htuning⟩ := Game.exists_start Tuning.playable_standard 3
  obtain ⟨layout, -, hlaid, -, hrestart⟩ := wellLaid_layOut game.generator
  obtain ⟨next, reports, hnext, hsame⟩ := hrestart
    { game with platforms := perforated, camera := -500, score := 50 } htuning rfl
  exact ⟨(game, notices), next, reports, hgame, hnext, hsame ▸ hlaid⟩

end Platformer
