import Platformer.Proofs.Playable

/-! # The places that a generation takes

A generation is a loop without a measure of its own: the gaps between its heights may be zero,
negative or no numbers at all, and at great heights rounding swallows them. It ends because every
platform that it makes takes one of the free places of the store. The places are taken in a fixed
order, the free slots from the lowest one upward and then those that the store grows by, so that the
alternation of making a platform and looking for the first free slot amounts to one merge.

* **`place?`** — a platform put into the store, unless the store is full; **`place?_eq`**.
* **`Rounds`** — the loop that stops at the ceiling or when no place is found, with the number of
  its rounds; **`rounds_iff`** — it is the recursion on the free places.
* **`freePlaces`** — the places of a store in the order in which they are taken;
  **`freePlaces_place`** — a platform takes the first of them.
* **`Occupies`** — the new platforms stand in the first free places and nothing else has changed;
  **`occupies_fillFrom`** — a generation leaves a store so.
* **`fill_occupies`** — the loop ends, within a bound, and the store is occupied so. -/

namespace Platformer

/-! ### One platform, or none -/

/-- Puts a platform into the first free slot, or behind the last one as long as the store may grow.
A full store takes none. -/
def place? (new : Platform) (platforms : List Platform) : Option (List Platform) :=
  match platforms.findIdx? (!·.active) with
  | some slot => some (platforms.set slot new)
  | none => if platforms.length < maxPlatforms then some (platforms ++ [new]) else none

/-- A platform finds a place exactly if there is a free one. -/
theorem place?_eq (new : Platform) (platforms : List Platform) :
    place? new platforms =
      if 0 < freeSlots platforms then some (place new platforms) else none := by
  rw [place?, place_eq]
  cases hslot : platforms.findIdx? (!·.active) with
  | some slot =>
    obtain ⟨hlt, hfree, -⟩ := List.findIdx?_eq_some_iff_getElem.mp hslot
    have hcount : 0 < platforms.countP (!·.active) :=
      List.countP_pos_iff.mpr ⟨_, List.getElem_mem hlt, hfree⟩
    have hroom : 0 < freeSlots platforms := Nat.lt_of_lt_of_le hcount (Nat.le_add_right _ _)
    rw [if_pos hroom]
  | none =>
    have hcount : platforms.countP (!·.active) = 0 :=
      List.countP_eq_zero.mpr fun p hp => by simpa using List.findIdx?_eq_none_iff.mp hslot p hp
    have hroom : 0 < freeSlots platforms ↔ platforms.length < maxPlatforms := by
      unfold freeSlots
      omega
    simp only [hroom]

/-! ### The loop -/

section

variable (t : Tuning) (score : Nat) (ceiling : Single)

/-- **The loop of a generation**, with the number of its rounds. A round makes a platform and looks
for its place; the loop ends when the cursor is no longer above the ceiling or when no place is
found. -/
inductive Rounds : Nat → Single → List Platform → Pcg32 → Filling → Prop
  /-- The cursor is not above the ceiling. -/
  | done {cursor : Single} {platforms : List Platform} {g : Pcg32} (habove : ¬ ceiling < cursor) :
      Rounds 0 cursor platforms g ⟨platforms, [], cursor, false, g⟩
  /-- The new platform finds no place. -/
  | full {cursor : Single} {platforms : List Platform} {g g₁ : Pcg32} {new : Platform}
      (habove : ceiling < cursor) (hnew : Platform.random cursor score t g = .ok (new, g₁))
      (hplace : place? new platforms = none) :
      Rounds 1 cursor platforms g ⟨platforms, [], cursor, true, g₁⟩
  /-- The new platform finds a place, and the cursor climbs by a gap. -/
  | next {cursor : Single} {platforms store : List Platform} {g g₁ : Pcg32} {new : Platform}
      {rounds : Nat} {f : Filling} (habove : ceiling < cursor)
      (hnew : Platform.random cursor score t g = .ok (new, g₁))
      (hplace : place? new platforms = some store)
      (hrest : Rounds rounds (cursor - (randomGap cursor t g₁).1) store (randomGap cursor t g₁).2
        f) :
      Rounds (rounds + 1) cursor platforms g { f with created := new :: f.created }

end

variable {t : Tuning} {score free rounds : Nat} {ceiling cursor : Single}
  {platforms store : List Platform} {new : Platform} {g : Pcg32} {f : Filling}

/-- A platform that is placed takes one of the free places. -/
theorem freeSlots_of_place? (hnew : new.active = true) (h : place? new platforms = some store) :
    store = place new platforms ∧ freeSlots store + 1 = freeSlots platforms := by
  rw [place?_eq] at h
  split at h
  · next hfree =>
    obtain rfl := Option.some.inj h
    exact ⟨rfl, freeSlots_place hnew hfree⟩
  · cases h

/-- A platform that finds no place finds none free. -/
theorem freeSlots_of_place?_eq_none (h : place? new platforms = none) : freeSlots platforms = 0 := by
  rw [place?_eq] at h
  split at h
  · cases h
  · omega

/-- Each round of the loop is a step of the recursion, on as many places as are free. -/
theorem fillFrom_of_rounds (h : Rounds t score ceiling rounds cursor platforms g f) :
    fillFrom t score ceiling (freeSlots platforms) cursor platforms g = .ok f ∧
      rounds = f.created.length + f.isFull.toNat := by
  induction h with
  | done habove =>
    exact ⟨fillFrom_of_not_lt habove, rfl⟩
  | @full cursor platforms g g₁ new habove hnew hplace =>
    refine ⟨?_, rfl⟩
    rw [freeSlots_of_place?_eq_none hplace, fillFrom, if_pos habove]
    exact ok_bind hnew _
  | @next cursor platforms store g g₁ new rounds f habove hnew hplace hrest ih =>
    obtain ⟨rfl, hfree⟩ := freeSlots_of_place? (random_eq_ok hnew).active hplace
    obtain ⟨hfill, hrounds⟩ := ih
    constructor
    · rw [← hfree, fillFrom, if_pos habove]
      exact (ok_bind hnew _).trans (ok_bind hfill _)
    · rw [hrounds, List.length_cons, Nat.add_right_comm]

/-- Each step of the recursion on the free places is a round of the loop. -/
theorem rounds_of_fillFrom
    (h : fillFrom t score ceiling (freeSlots platforms) cursor platforms g = .ok f) :
    Rounds t score ceiling (f.created.length + f.isFull.toNat) cursor platforms g f := by
  replace h := fills_of_fillFrom h
  generalize hfree : freeSlots platforms = free at h
  induction h with
  | done habove => exact .done habove
  | full habove hnew => exact .full habove hnew (by rw [place?_eq, hfree]; rfl)
  | @next rest cursor platforms g g₁ new later habove hnew hlater ih =>
    have hplace : place? new platforms = some (place new platforms) := by
      rw [place?_eq, if_pos (by omega)]
    have hcount := freeSlots_place (random_eq_ok hnew).active (by omega : 0 < freeSlots platforms)
    have hrest := Rounds.next habove hnew hplace (ih (by omega))
    rwa [Nat.add_right_comm] at hrest

/-- **The loop is the recursion on the free places.** Its rounds are one for each new platform, and
one for the platform that finds no place. -/
theorem rounds_iff : Rounds t score ceiling rounds cursor platforms g f ↔
    fillFrom t score ceiling (freeSlots platforms) cursor platforms g = .ok f ∧
      rounds = f.created.length + f.isFull.toNat := by
  refine ⟨fillFrom_of_rounds, ?_⟩
  rintro ⟨h, rfl⟩
  exact rounds_of_fillFrom h

/-! ### The order of the places -/

/-- **The free places of a store** in the order in which they are taken: its free slots from the
lowest one upward, then the slots that it can still grow by. -/
def freePlaces (platforms : List Platform) : List Nat :=
  platforms.findIdxs (!·.active) ++
    List.range' platforms.length (maxPlatforms - platforms.length)

/-- The free places are counted by `freeSlots`. -/
@[simp] theorem length_freePlaces (platforms : List Platform) :
    (freePlaces platforms).length = freeSlots platforms := by
  simp [freePlaces, freeSlots]

/-- The free places are taken upward. -/
theorem pairwise_freePlaces (platforms : List Platform) :
    (freePlaces platforms).Pairwise (· < ·) := by
  refine List.pairwise_append.mpr ⟨List.pairwise_findIdxs, List.pairwise_lt_range', ?_⟩
  intro slot hslot grown hgrown
  have hinside := List.lt_add_of_mem_findIdxs slot hslot
  have hbehind := (List.mem_range'_1.mp hgrown).1
  omega

/-- A place is free if its slot is, or if the store does not reach it yet and can grow by it. -/
theorem mem_freePlaces {slot : Nat} : slot ∈ freePlaces platforms ↔
    Vacant platforms slot ∧ slot < max platforms.length maxPlatforms := by
  rw [freePlaces, List.mem_append, List.mem_findIdxs_iff_exists_getElem_pos, List.mem_range'_1]
  by_cases hslot : slot < platforms.length
  · have hvacant : Vacant platforms slot ↔ platforms[slot].active = false := by
      simp [Vacant, List.getElem?_eq_getElem hslot]
    simp [hvacant, hslot]
  · have hvacant : Vacant platforms slot := by
      simp [Vacant, List.getElem?_eq_none (Nat.le_of_not_lt hslot)]
    simp [hslot, hvacant]
    omega

/-- An active platform in the first free slot leaves the others free. -/
theorem findIdxs_set {slot : Nat} (hnew : new.active = true)
    (h : platforms.findIdx? (!·.active) = some slot) (start : Nat) :
    platforms.findIdxs (!·.active) start =
      (start + slot) :: (platforms.set slot new).findIdxs (!·.active) start := by
  induction platforms generalizing slot start with
  | nil => cases h
  | cons p ps ih =>
    rw [List.findIdx?_cons] at h
    by_cases hactive : p.active = true
    · obtain ⟨later, hlater, rfl⟩ : ∃ later, ps.findIdx? (!·.active) = some later ∧
          later + 1 = slot := by
        simpa [hactive] using h
      rw [List.findIdxs_cons, if_neg (by simp [hactive]), ih hlater, List.set_cons_succ,
        List.findIdxs_cons, if_neg (by simp [hactive]), Nat.add_right_comm, Nat.add_assoc]
    · obtain rfl : slot = 0 := by simpa [hactive] using h.symm
      rw [List.findIdxs_cons, if_pos (by simpa using hactive), List.set_cons_zero,
        List.findIdxs_cons, if_neg (by simp [hnew])]
      rfl

/-- **A platform takes the first of the free places** and leaves everything else as it is. -/
theorem freePlaces_place (hnew : new.active = true) (hfree : 0 < freeSlots platforms) :
    ∃ slot, freePlaces platforms = slot :: freePlaces (place new platforms) ∧
      (place new platforms)[slot]? = some new ∧
      ∀ other ≠ slot, (place new platforms)[other]? = platforms[other]? := by
  rw [place_eq]
  cases hslot : platforms.findIdx? (!·.active) with
  | some slot =>
    have hlt := (List.findIdx?_eq_some_iff_getElem.mp hslot).1
    refine ⟨slot, ?_, List.getElem?_set_self hlt, ?_⟩
    · rw [freePlaces, findIdxs_set hnew hslot, freePlaces, List.length_set, Nat.zero_add,
        List.cons_append]
    · intro other hother
      exact List.getElem?_set_ne hother.symm
  | none =>
    have hnone : platforms.findIdxs (!·.active) = [] :=
      List.findIdxs_eq_nil_iff.mpr (List.findIdx?_eq_none_iff.mp hslot)
    obtain ⟨room, hroom⟩ : ∃ room, maxPlatforms - platforms.length = room + 1 := by
      rw [← length_freePlaces, freePlaces, hnone] at hfree
      simp only [List.nil_append, List.length_range'] at hfree
      exact ⟨_, (Nat.succ_pred_eq_of_pos hfree).symm⟩
    refine ⟨platforms.length, ?_, List.getElem?_concat_length, ?_⟩
    · have hgrown : maxPlatforms - (platforms ++ [new]).length = room := by
        rw [List.length_append, List.length_singleton]
        omega
      rw [freePlaces, hnone, hroom, freePlaces, List.findIdxs_append, hnone, hgrown]
      simp [hnew, List.range'_succ]
    · intro other hother
      rcases Nat.lt_or_gt_of_ne hother with hinside | hbehind
      · exact List.getElem?_append_left hinside
      · rw [List.getElem?_eq_none (by simpa using Nat.succ_le_of_lt hbehind),
          List.getElem?_eq_none (Nat.le_of_lt hbehind)]

/-! ### The store after a generation -/

/-- **The new platforms stand in the first free places**, in the order in which they were made, and
nothing else of the store has changed. -/
structure Occupies (platforms : List Platform) (f : Filling) : Prop where
  /-- Each new platform stands in the next free place. -/
  taken : ((freePlaces platforms).take f.created.length).map (f.platforms[·]?) =
    f.created.map some
  /-- All other slots are what they were. -/
  kept : ∀ slot, slot ∉ (freePlaces platforms).take f.created.length →
    f.platforms[slot]? = platforms[slot]?
  /-- The places behind those are still free. -/
  free_eq : freePlaces f.platforms = (freePlaces platforms).drop f.created.length
  /-- Each new platform is active. -/
  activeCount_eq : activeCount f.platforms = activeCount platforms + f.created.length

namespace Occupies

/-- There is a place for each new platform. -/
theorem length_created_le (h : Occupies platforms f) : f.created.length ≤ freeSlots platforms := by
  have hlength := congrArg List.length h.taken
  rw [List.length_map, List.length_map, List.length_take, length_freePlaces] at hlength
  omega

/-- A platform that was active stays what and where it was. -/
theorem kept_active (h : Occupies platforms f) {slot : Nat} {p : Platform}
    (hslot : platforms[slot]? = some p) (hactive : p.active = true) :
    f.platforms[slot]? = some p := by
  rw [h.kept slot, hslot]
  intro htaken
  have hvacant := (mem_freePlaces.mp (List.mem_of_mem_take htaken)).1
  rw [hvacant p hslot] at hactive
  cases hactive

end Occupies

/-- **A generation takes the first free places.** -/
theorem occupies_fillFrom (hfree : free = freeSlots platforms)
    (h : fillFrom t score ceiling free cursor platforms g = .ok f) : Occupies platforms f := by
  -- each step takes the first of the places that are free then
  replace h := fills_of_fillFrom h
  induction h with
  | done | full => constructor <;> simp
  | @next rest cursor platforms g g₁ new later habove hnew hlater ih =>
    have hactive := (random_eq_ok hnew).active
    have hpos : 0 < freeSlots platforms := by omega
    have hcount := freeSlots_place hactive hpos
    obtain ⟨slot, hplaces, hplaced, hothers⟩ := freePlaces_place hactive hpos
    have hrest := ih (by omega)
    -- the place that is taken now is none of the later ones
    have hlast : slot ∉ (freePlaces (place new platforms)).take later.created.length := by
      intro hmem
      have hnodup := (pairwise_freePlaces platforms).nodup
      rw [hplaces] at hnodup
      exact (List.nodup_cons.mp hnodup).1 (List.mem_of_mem_take hmem)
    constructor
    · rw [hplaces, List.length_cons, List.take_succ_cons, List.map_cons, List.map_cons,
        hrest.taken, hrest.kept slot hlast, hplaced]
    · intro other hother
      rw [hplaces, List.length_cons, List.take_succ_cons, List.mem_cons, not_or] at hother
      rw [hrest.kept other hother.2, hothers other hother.1]
    · rw [hplaces, List.length_cons, List.drop_succ_cons, hrest.free_eq]
    · rw [hrest.activeCount_eq, activeCount_place hactive, List.length_cons]
      omega

/-- Where there is a place left, the cursor is not above the ceiling. -/
theorem not_lt_cursor_of_rounds (h : Rounds t score ceiling rounds cursor platforms g f)
    (hfree : 0 < freeSlots f.platforms) : ¬ ceiling < f.cursor := by
  induction h with
  | done habove => exact habove
  | full _ _ hplace =>
    rw [place?_eq, if_pos hfree] at hplace
    cases hplace
  | next _ _ _ _ ih => exact ih hfree

/-- **A generation ends and takes the first free places**, whatever the store, the camera, the score
and the gaps are, if speeds can be drawn. The loop has one outcome, which the recursion computes,
after at most one round more than there are free places; the new platforms stand in the first of
these, in the order in which they were made; the active platforms are where they were and their
number has grown by that of the new ones; the store does not outgrow its capacity; and it has a
place left only if the cursor came to the ceiling. -/
theorem fill_occupies {t : Tuning} (hspeed : ∀ g, ∃ base g', randomSpeed t g = .ok (base, g'))
    (platforms : List Platform) (camera : Single) (score : Nat) (g : Pcg32) :
    ∃ rounds f, fill platforms camera score t g = .ok f ∧
      (∀ rounds' f', Rounds t score (generationCeiling camera t) rounds'
        ((highestTop? platforms).getD camera - t.spacingMin) platforms g f' ↔
          rounds' = rounds ∧ f' = f) ∧
      rounds ≤ freeSlots platforms + 1 ∧ f.created.length ≤ freeSlots platforms ∧
      Occupies platforms f ∧
      (∀ (slot : Nat) (p : Platform), platforms[slot]? = some p → p.active = true →
        f.platforms[slot]? = some p) ∧
      f.platforms.length ≤ max platforms.length maxPlatforms ∧
      (0 < freeSlots f.platforms → ¬ generationCeiling camera t < f.cursor) := by
  obtain ⟨f, hfill⟩ := exists_fillFrom hspeed score (generationCeiling camera t)
    (freeSlots platforms) ((highestTop? platforms).getD camera - t.spacingMin) platforms g
  have hoccupies := occupies_fillFrom rfl hfill
  have hcreated := hoccupies.length_created_le
  have hstop := Bool.toNat_le f.isFull
  refine ⟨f.created.length + f.isFull.toNat, f, hfill, ?_, by omega, hcreated, hoccupies,
    fun slot p => hoccupies.kept_active, (length_fill hfill).2,
    not_lt_cursor_of_rounds (rounds_of_fillFrom hfill)⟩
  intro rounds' f'
  rw [rounds_iff, hfill]
  constructor
  · rintro ⟨hf, hrounds⟩
    obtain rfl := Except.ok.inj hf
    exact ⟨hrounds, rfl⟩
  · rintro ⟨rfl, rfl⟩
    exact ⟨rfl, rfl⟩

/-- An ordinary tuning without any gaps. -/
def gapless : Tuning := { Tuning.standard with spacingMin := 0, spacingMax := 0 }

/-- A store with free slots between its platforms. -/
def perforated : List Platform := [.anchor, .free .anchor, .anchor, .free .anchor]

/-- Without gaps the cursor stays where it is, and a generation ends with a full store: in one with
two free slots between others it takes these and all that the store grows by, and the loop has one
round more for the platform that finds no place. -/
theorem fill_occupies_gapless :
    (∀ g, ∃ base g', randomSpeed gapless g = .ok (base, g')) ∧
    ∃ f, fill perforated 0 0 gapless (.ofSeed 7) = .ok f ∧
      Occupies perforated f ∧ f.created.length = 98 ∧
      Rounds gapless 0 (generationCeiling 0 gapless) 99 Platform.anchor.body.top perforated
        (.ofSeed 7) f ∧
      f.platforms[1]? = f.created[0]? ∧ f.platforms[3]? = f.created[1]? := by
  have hspeed : ∀ g, ∃ base g', randomSpeed gapless g = .ok (base, g') :=
    exists_randomSpeed ⟨by decide +kernel, by decide +kernel⟩
  obtain ⟨rounds, f, hfill, hrounds, -, -, hoccupies, -⟩ :=
    fill_occupies hspeed perforated 0 0 (.ofSeed 7)
  obtain ⟨f', hfill', hcheck⟩ := Game.exists_eq_ok_of_any
    (fun f : Filling => decide (f.created.length = 98) && f.isFull &&
      decide (f.platforms[1]? = f.created[0]?) && decide (f.platforms[3]? = f.created[1]?))
    (show (fill perforated 0 0 gapless (.ofSeed 7)).toOption.any _ = true by decide +kernel)
  obtain rfl : f' = f := Except.ok.inj (hfill'.symm.trans hfill)
  obtain ⟨⟨⟨hcount, hfull⟩, hfirst⟩, hsecond⟩ : ((f'.created.length = 98 ∧ f'.isFull = true) ∧
      f'.platforms[1]? = f'.created[0]?) ∧ f'.platforms[3]? = f'.created[1]? := by
    simpa using hcheck
  have hloop := (hrounds _ _).mpr ⟨rfl, rfl⟩
  have hlast := (fillFrom_of_rounds hloop).2
  rw [hcount, hfull] at hlast
  have htop : (highestTop? perforated).getD 0 - gapless.spacingMin = Platform.anchor.body.top := by
    decide +kernel
  rw [htop, hlast] at hloop
  exact ⟨hspeed, f', hfill, hoccupies, hcount, hloop, hfirst, hsecond⟩

end Platformer
