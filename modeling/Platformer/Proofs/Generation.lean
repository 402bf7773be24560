import Platformer.Generation

/-! # The platform store under generation

A new platform takes a free slot before the store grows, so that generation never takes a store past
its capacity, or past its length where that was already greater. The slots that are taken stay as they
are.

* **`freeSlots_place`**, **`length_place_le`** — one platform takes one of the free places.
* **`Fills`**, **`fills_of_fillFrom`** — the steps of a generation; **`platforms_fillFrom`** — the store
  after all of them.
* **`Platform.IsDrawn`**, **`random_eq_ok`** — what all draws of a platform have in common;
  **`exists_random_of_mem_created`** — the heights at which they are made.
* **`length_fill`** — the bounds on the store after a generation.
* **`Vacant`**, **`getElem?_fill`** — a slot after a generation: as it was, or newly taken. -/

namespace Platformer

/-! ### One platform -/

/-- A platform is put into a slot or behind the last one. -/
theorem length_place (new : Platform) (platforms : List Platform) :
    (place new platforms).length =
      if platforms.countP (!·.active) = 0 then platforms.length + 1 else platforms.length := by
  -- the recursion of `place` passes over the active slots and ends at the first free one
  induction platforms with
  | nil => rfl
  | cons p ps ih =>
    rw [place]
    by_cases hactive : p.active = true
    · rw [if_pos hactive, List.length_cons, ih, List.countP_cons_of_neg (by simp [hactive])]
      split <;> rfl
    · rw [if_neg hactive, List.countP_cons_of_pos (by simpa using hactive), if_neg (by omega)]
      rfl

/-- An active platform takes an inactive slot away, if there is one. -/
theorem countP_place {new : Platform} (hnew : new.active = true) (platforms : List Platform) :
    (place new platforms).countP (!·.active) = platforms.countP (!·.active) - 1 := by
  induction platforms with
  | nil => simp [place, hnew]
  | cons p ps ih =>
    rw [place]
    by_cases hactive : p.active = true
    · rw [if_pos hactive, List.countP_cons_of_neg (by simp [hactive]), ih,
        List.countP_cons_of_neg (by simp [hactive])]
    · rw [if_neg hactive, List.countP_cons_of_neg (by simp [hnew]),
        List.countP_cons_of_pos (by simpa using hactive), Nat.add_sub_cancel]

/-- **An active platform takes one of the free places.** -/
theorem freeSlots_place {new : Platform} (hnew : new.active = true) {platforms : List Platform}
    (hfree : 0 < freeSlots platforms) :
    freeSlots (place new platforms) + 1 = freeSlots platforms := by
  unfold freeSlots at hfree ⊢
  rw [countP_place hnew, length_place]
  split <;> omega

/-- Where there is a free place, a platform does not take the store past its capacity. -/
theorem length_place_le (new : Platform) {platforms : List Platform}
    (hfree : 0 < freeSlots platforms) :
    (place new platforms).length ≤ max platforms.length maxPlatforms := by
  unfold freeSlots at hfree
  rw [length_place]
  split <;> omega

/-! ### A whole generation -/

/-- **What is drawn** as a platform at a height: an active platform at a whole place, which stands still
unless it is a moving one; the speed of that is drawn, grows with the score and is capped. -/
structure Platform.IsDrawn (y : Single) (score : Nat) (t : Tuning) (p : Platform) : Prop where
  active : p.active = true
  top_eq : p.body.top = y
  width_eq : p.body.width = platformWidth
  height_eq : p.body.height = platformHeight
  left : ∃ column, column < platformPositions ∧ p.body.left = .ofNat column
  still : p.kind ≠ .moving → p.direction = 0 ∧ p.speed = 0
  moving : p.kind = .moving → (p.direction = 1 ∨ p.direction = -1) ∧
    ∃ base g g', randomSpeed t g = .ok (base, g') ∧
      p.speed = (base * speedGrowth t score).min t.movingSpeedCap

/-- **Every new platform** is drawn so. -/
theorem random_eq_ok {y : Single} {score : Nat} {t : Tuning} {g g' : Pcg32} {p : Platform}
    (h : Platform.random y score t g = .ok (p, g')) : p.IsDrawn y score t := by
  have hcolumn := Pcg32.below_lt g (n := platformPositions) (by decide) (by decide)
  simp only [Platform.random] at h
  split at h
  · obtain ⟨⟨base, g₂⟩, hspeed, hmoving⟩ := bind_eq_ok h
    cases hmoving
    refine ⟨rfl, rfl, rfl, rfl, ⟨_, hcolumn, rfl⟩, fun hstill => absurd rfl hstill,
      fun _ => ⟨?_, base, _, _, hspeed, rfl⟩⟩
    simp only [Platform.moving]
    split
    · exact Or.inl rfl
    · exact Or.inr rfl
  · next hstill =>
    cases h
    exact ⟨rfl, rfl, rfl, rfl, ⟨_, hcolumn, rfl⟩, fun _ => ⟨rfl, rfl⟩,
      fun hmoves => absurd hmoves hstill⟩

section

variable {t : Tuning} {score free : Nat} {ceiling cursor : Single} {platforms : List Platform}
  {g : Pcg32} {f : Filling}

/-- A generation that has come to its ceiling makes nothing. -/
theorem fillFrom_of_not_lt (h : ¬ ceiling < cursor) :
    fillFrom t score ceiling free cursor platforms g = .ok ⟨platforms, [], cursor, false, g⟩ := by
  cases free <;> rw [fillFrom, if_neg h]

/-- **The steps of a generation**, with the number of free places: it ends at the ceiling or for want of
a place, or it takes a place for a platform at the cursor and goes on a gap further up. -/
inductive Fills (t : Tuning) (score : Nat) (ceiling : Single) :
    Nat → Single → List Platform → Pcg32 → Filling → Prop
  /-- The cursor is not above the ceiling. -/
  | done {free : Nat} {cursor : Single} {platforms : List Platform} {g : Pcg32}
      (habove : ¬ ceiling < cursor) :
      Fills t score ceiling free cursor platforms g ⟨platforms, [], cursor, false, g⟩
  /-- A platform is drawn, and no place is left for it. -/
  | full {cursor : Single} {platforms : List Platform} {g g₁ : Pcg32} {new : Platform}
      (habove : ceiling < cursor) (hnew : Platform.random cursor score t g = .ok (new, g₁)) :
      Fills t score ceiling 0 cursor platforms g ⟨platforms, [], cursor, true, g₁⟩
  /-- A platform takes a place, and the others are made above it. -/
  | next {rest : Nat} {cursor : Single} {platforms : List Platform} {g g₁ : Pcg32} {new : Platform}
      {later : Filling} (habove : ceiling < cursor)
      (hnew : Platform.random cursor score t g = .ok (new, g₁))
      (hlater : Fills t score ceiling rest (cursor - (randomGap cursor t g₁).1)
        (place new platforms) (randomGap cursor t g₁).2 later) :
      Fills t score ceiling (rest + 1) cursor platforms g
        { later with created := new :: later.created }

/-- A generation goes through these steps. -/
theorem fills_of_fillFrom (h : fillFrom t score ceiling free cursor platforms g = .ok f) :
    Fills t score ceiling free cursor platforms g f := by
  induction free generalizing cursor platforms g f with
  | zero =>
    rw [fillFrom] at h
    split at h
    · next habove =>
      obtain ⟨⟨new, g₁⟩, hnew, hstop⟩ := bind_eq_ok h
      cases hstop
      exact .full habove hnew
    · next habove =>
      cases h
      exact .done habove
  | succ rest ih =>
    rw [fillFrom] at h
    split at h
    · next habove =>
      obtain ⟨⟨new, g₁⟩, hnew, hgap⟩ := bind_eq_ok h
      obtain ⟨later, hlater, hf⟩ := bind_eq_ok hgap
      cases hf
      exact .next habove hnew (ih hlater)
    · next habove =>
      cases h
      exact .done habove

/-- **Generation keeps every slot and stays within the capacity.** -/
theorem length_fillFrom (hfree : free = freeSlots platforms)
    (h : fillFrom t score ceiling free cursor platforms g = .ok f) :
    platforms.length ≤ f.platforms.length ∧
      f.platforms.length ≤ max platforms.length maxPlatforms := by
  replace h := fills_of_fillFrom h
  induction h with
  | done | full => exact ⟨Nat.le_refl _, Nat.le_max_left _ _⟩
  | @next rest cursor platforms g g₁ new later habove hnew hlater ih =>
    have hpos : 0 < freeSlots platforms := by omega
    have hplace := freeSlots_place (random_eq_ok hnew).active hpos
    obtain ⟨hge, hle⟩ := ih (by omega)
    have hbound := length_place_le new hpos
    have hgrow : platforms.length ≤ (place new platforms).length := by
      rw [length_place]
      split <;> omega
    exact ⟨Nat.le_trans hgrow hge,
      Nat.le_trans hle (Nat.max_le.mpr ⟨hbound, Nat.le_max_right _ _⟩)⟩

/-- **A generation that stops for want of a place** leaves none. -/
theorem freeSlots_of_isFull (hfree : free = freeSlots platforms)
    (h : fillFrom t score ceiling free cursor platforms g = .ok f) (hfull : f.isFull = true) :
    freeSlots f.platforms = 0 := by
  replace h := fills_of_fillFrom h
  induction h with
  | done => cases hfull
  | full => exact hfree.symm
  | @next rest cursor platforms g g₁ new later habove hnew hlater ih =>
    have hplace := freeSlots_place (random_eq_ok hnew).active (by omega : 0 < freeSlots platforms)
    exact ih (by omega) hfull

/-- **Every new platform** is drawn at a height above the ceiling that the cursor comes to, so that
it has what the first height has and every gap keeps. -/
theorem exists_random_of_mem_created {P : Single → Prop}
    (hgap : ∀ y g, P y → P (y - (randomGap y t g).1)) (hcursor : P cursor)
    (h : fillFrom t score ceiling free cursor platforms g = .ok f) :
    ∀ new ∈ f.created, ∃ y g₁ g₂, P y ∧ ceiling < y ∧
      Platform.random y score t g₁ = .ok (new, g₂) := by
  -- the next platform is made where the gap above the last one ends
  replace h := fills_of_fillFrom h
  induction h with
  | done | full => exact fun new hnew => nomatch hnew
  | @next rest cursor platforms g g₁ new later habove hnew hlater ih =>
    intro other hother
    rcases List.mem_cons.mp hother with rfl | hlast
    · exact ⟨cursor, g, g₁, hcursor, habove, hnew⟩
    · exact ih (hgap cursor g₁ hcursor) other hlast

/-- The platforms of a generation are put into the store one after the other. -/
theorem platforms_fillFrom (h : fillFrom t score ceiling free cursor platforms g = .ok f) :
    f.platforms = f.created.foldl (fun store new => place new store) platforms := by
  replace h := fills_of_fillFrom h
  induction h with
  | done | full => rfl
  | next habove hnew hlater ih => rw [List.foldl_cons, ih]

end

/-- The bounds on the store after the platforms above a camera have been made. -/
theorem length_fill {platforms : List Platform} {camera : Single} {score : Nat} {t : Tuning}
    {g : Pcg32} {f : Filling} (h : fill platforms camera score t g = .ok f) :
    platforms.length ≤ f.platforms.length ∧
      f.platforms.length ≤ max platforms.length maxPlatforms :=
  length_fillFrom rfl h

/-! ### A single slot -/

/-- No platform stands in a slot: it is free, or the store does not reach it. -/
def Vacant (platforms : List Platform) (slot : Nat) : Prop :=
  ∀ p ∈ platforms[slot]?, p.active = false

/-- **One platform goes into a vacant slot** and leaves all others alone. -/
theorem getElem?_place (new : Platform) (platforms : List Platform) (slot : Nat) :
    (place new platforms)[slot]? = platforms[slot]? ∨
      Vacant platforms slot ∧ (place new platforms)[slot]? = some new := by
  induction platforms generalizing slot with
  | nil =>
    cases slot with
    | zero => exact Or.inr ⟨fun p hp => (nomatch hp), rfl⟩
    | succ slot => exact Or.inl rfl
  | cons p ps ih =>
    rw [place]
    by_cases hactive : p.active = true
    · rw [if_pos hactive]
      cases slot with
      | zero => exact Or.inl rfl
      | succ slot => exact ih slot
    · rw [if_neg hactive]
      cases slot with
      | zero =>
        refine Or.inr ⟨?_, rfl⟩
        rintro q ⟨⟩
        simpa using hactive
      | succ slot => exact Or.inl rfl

/-- **Generation leaves a slot as it was, or puts a new platform into a vacant one.** -/
theorem getElem?_fillFrom {t : Tuning} {score : Nat} {ceiling cursor : Single} {free : Nat}
    {platforms : List Platform} {g : Pcg32} {f : Filling}
    (h : fillFrom t score ceiling free cursor platforms g = .ok f) (slot : Nat) :
    f.platforms[slot]? = platforms[slot]? ∨
      Vacant platforms slot ∧ ∃ new ∈ f.created, f.platforms[slot]? = some new := by
  replace h := fills_of_fillFrom h
  induction h with
  | done | full => exact Or.inl rfl
  | @next rest cursor platforms g g₁ new later habove hnew hlater ih =>
    rcases getElem?_place new platforms slot with hkeep | ⟨hvacant, hplaced⟩
    · rcases ih with hslot | ⟨hvacant, other, hmem, hslot⟩
      · exact Or.inl (hslot.trans hkeep)
      · refine Or.inr ⟨?_, other, List.mem_cons_of_mem _ hmem, hslot⟩
        rwa [Vacant, hkeep] at hvacant
    -- the new platform is active, so that no later one takes its slot
    · rcases ih with hslot | ⟨hfree, -⟩
      · exact Or.inr ⟨hvacant, new, List.mem_cons_self, hslot.trans hplaced⟩
      · have hactive := (random_eq_ok hnew).active
        rw [hfree new hplaced] at hactive
        cases hactive

/-- The slots after the platforms above a camera have been made. -/
theorem getElem?_fill {platforms : List Platform} {camera : Single} {score : Nat} {t : Tuning}
    {g : Pcg32} {f : Filling} (h : fill platforms camera score t g = .ok f) (slot : Nat) :
    f.platforms[slot]? = platforms[slot]? ∨
      Vacant platforms slot ∧ ∃ new ∈ f.created, f.platforms[slot]? = some new :=
  getElem?_fillFrom h slot

/-- A platform after a generation was there before, or is a new one. -/
theorem mem_or_mem_created_of_fill {platforms : List Platform} {camera : Single} {score : Nat}
    {t : Tuning} {g : Pcg32} {f : Filling} (h : fill platforms camera score t g = .ok f)
    {p : Platform} (hp : p ∈ f.platforms) : p ∈ platforms ∨ p ∈ f.created := by
  obtain ⟨slot, hslot⟩ := List.mem_iff_getElem?.mp hp
  rcases getElem?_fill h slot with hsame | ⟨-, new, hmem, hnew⟩
  · exact Or.inl (List.mem_of_getElem? (hsame.symm.trans hslot))
  · obtain rfl : new = p := Option.some.inj (hnew.symm.trans hslot)
    exact Or.inr hmem

/-- The height of the highest active platform is that of an active one. -/
theorem exists_of_highestTop? {platforms : List Platform} {top : Single}
    (h : highestTop? platforms = some top) :
    ∃ p ∈ platforms, p.active = true ∧ p.body.top = top := by
  obtain ⟨p, hp, htop⟩ := List.mem_map.mp (List.minOn?_mem h)
  obtain ⟨hmem, hactive⟩ := List.mem_filter.mp hp
  exact ⟨p, hmem, hactive, htop⟩

end Platformer
