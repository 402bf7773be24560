import Platformer.Proofs.Climb
import Platformer.Proofs.Gaps
import Platformer.Proofs.Notices
import Platformer.Proofs.Slots
import Platformer.Proofs.Stores

/-! # The spread of the platforms

Platforms take slots in any order, so that the store does not show how they lie in the world. But
any two of them keep a distance, wherever they are in the store: a generation begins above the highest
one and climbs by a least gap. And all lie in a window, above which none is made and below which all
are dropped. So there are never many, and the store never fills up.

* **`Spread`**, **`Spread.length_le`** — heights that keep their distance, and how many of them fit
  into a window.
* **`activeTops`** — the heights of the active platforms; **`activeTops_place`**,
  **`activeTops_cleared`**, **`activeTops_outcome`** — what the steps of a frame make of them.
* **`Climbing.spread_fillFrom`**, **`spread_fill`** — a generation keeps the distance, and never fills
  the store.
* **`Game.Spacious`**, **`Game.spacious_of_play`** — the same for every game of an ordinary run. -/

namespace Platformer

/-! ### Heights that keep their distance -/

/-- The distance, in units, that platforms keep from each other: the least gap, less what is lost by
rounding. -/
def clearance : ℚ := 80 - 1 / 4

/-- **Heights below a ceiling that keep their distance**, in any order. -/
structure Spread (ceiling : ℚ) (tops : List Single) : Prop where
  isFinite : ∀ x ∈ tops, x.isFinite = true
  ceiling_lt : ∀ x ∈ tops, ceiling < x.value
  apart : tops.Pairwise fun x y => clearance ≤ |x.value - y.value|

namespace Spread

variable {ceiling ceiling' : ℚ} {tops tops' : List Single} {top : Single}

/-- No heights keep their distance. -/
theorem nil : Spread ceiling [] where
  isFinite := fun _ hx => nomatch hx
  ceiling_lt := fun _ hx => nomatch hx
  apart := List.Pairwise.nil

/-- Some of the heights keep their distance if all do. -/
theorem sublist (h : Spread ceiling tops) (hsub : tops'.Sublist tops) : Spread ceiling tops' where
  isFinite := fun x hx => h.isFinite x (hsub.subset hx)
  ceiling_lt := fun x hx => h.ceiling_lt x (hsub.subset hx)
  apart := h.apart.sublist hsub

/-- The order of the heights makes no difference. -/
theorem perm (h : Spread ceiling tops) (hperm : tops'.Perm tops) : Spread ceiling tops' where
  isFinite := fun x hx => h.isFinite x (hperm.mem_iff.mp hx)
  ceiling_lt := fun x hx => h.ceiling_lt x (hperm.mem_iff.mp hx)
  apart := by
    refine (hperm.pairwise_iff ?_).mpr h.apart
    intro x y hxy
    rwa [abs_sub_comm]

/-- The ceiling may move up. -/
theorem raise (h : Spread ceiling tops) (hle : ceiling' ≤ ceiling) : Spread ceiling' tops :=
  { h with ceiling_lt := fun x hx => hle.trans_lt (h.ceiling_lt x hx) }

/-- A height above all others at a distance. -/
theorem cons (h : Spread ceiling tops) (htop : top.isFinite = true) (hceiling : ceiling < top.value)
    (habove : ∀ x ∈ tops, top.value + clearance ≤ x.value) : Spread ceiling (top :: tops) where
  isFinite := List.forall_mem_cons.mpr ⟨htop, h.isFinite⟩
  ceiling_lt := List.forall_mem_cons.mpr ⟨hceiling, h.ceiling_lt⟩
  apart := by
    refine List.pairwise_cons.mpr ⟨?_, h.apart⟩
    intro x hx
    rw [abs_sub_comm]
    exact (by linarith [habove x hx] : clearance ≤ x.value - top.value).trans (le_abs_self _)

/-- **Not many fit into a window.** Cut into pieces as high as the distance, it holds at most one in
each of them. -/
theorem length_le (h : Spread ceiling tops) {floor : ℚ} (hfloor : ∀ x ∈ tops, x.value ≤ floor)
    {n : ℕ} (hwindow : floor - ceiling < n * clearance) : tops.length ≤ n := by
  have hpos : 0 < clearance := by norm_num [clearance]
  have hnodup : (tops.map fun x => ⌊(x.value - ceiling) / clearance⌋₊).Nodup := by
    rw [List.Nodup, List.pairwise_map]
    refine h.apart.imp_of_mem ?_
    intro x y hx hy hapart hsame
    have hpiece {z : Single} (hz : z ∈ tops) : 0 ≤ (z.value - ceiling) / clearance :=
      div_nonneg (sub_nonneg.mpr (h.ceiling_lt z hz).le) hpos.le
    have hfloors : ⌊(x.value - ceiling) / clearance⌋ = ⌊(y.value - ceiling) / clearance⌋ := by
      rw [← Int.natCast_floor_eq_floor (hpiece hx), ← Int.natCast_floor_eq_floor (hpiece hy), hsame]
    have hclose := Int.abs_sub_lt_one_of_floor_eq_floor hfloors
    rw [← sub_div, sub_sub_sub_cancel_right, abs_div, abs_of_pos hpos, div_lt_one hpos] at hclose
    exact absurd hapart (not_le.mpr hclose)
  have hrange : (tops.map fun x => ⌊(x.value - ceiling) / clearance⌋₊) ⊆ List.range n := by
    intro k hk
    obtain ⟨x, hx, rfl⟩ := List.mem_map.mp hk
    have hbelow := hfloor x hx
    have habove := h.ceiling_lt x hx
    rw [List.mem_range, Nat.floor_lt (div_nonneg (by linarith) hpos.le), div_lt_iff₀ hpos]
    linarith
  simpa using (hnodup.subperm hrange).length_le

end Spread

/-! ### The heights of a store -/

/-- The heights of the active platforms, in the order of their slots. -/
def activeTops (platforms : List Platform) : List Single :=
  (platforms.filter (·.active)).map (·.body.top)

/-- The heights of a store with one more slot in front. -/
theorem activeTops_cons (p : Platform) (platforms : List Platform) :
    activeTops (p :: platforms) =
      if p.active then p.body.top :: activeTops platforms else activeTops platforms := by
  by_cases hactive : p.active = true <;> simp [activeTops, hactive]

/-- The height of an active platform is one of the heights. -/
theorem mem_activeTops {platforms : List Platform} {x : Single} :
    x ∈ activeTops platforms ↔ ∃ p ∈ platforms, p.active = true ∧ p.body.top = x := by
  simp [activeTops, and_assoc]

/-- **A new platform adds its height**, wherever its slot is. -/
theorem activeTops_place {new : Platform} (hnew : new.active = true) (platforms : List Platform) :
    (activeTops (place new platforms)).Perm (new.body.top :: activeTops platforms) := by
  induction platforms with
  | nil => simp [place, activeTops, hnew]
  | cons p ps ih =>
    rw [place]
    by_cases hactive : p.active = true
    · rw [if_pos hactive, activeTops_cons, activeTops_cons, if_pos hactive, if_pos hactive]
      exact (ih.cons _).trans (List.Perm.swap _ _ _)
    · rw [if_neg hactive, activeTops_cons, activeTops_cons, if_pos hnew, if_neg hactive]

/-- A store without inactive slots has as many heights as slots. -/
theorem length_activeTops_of_countP {platforms : List Platform}
    (h : platforms.countP (!·.active) = 0) : (activeTops platforms).length = platforms.length := by
  rw [activeTops, List.length_map, ← List.countP_eq_length_filter, List.countP_eq_length]
  simpa [List.countP_eq_zero] using h

/-- **A store grows only while all its platforms are active.** -/
theorem length_place_le_of_activeTops {new : Platform} (hnew : new.active = true)
    {platforms : List Platform} {n : ℕ} (hplatforms : platforms.length ≤ n)
    (htops : (activeTops (place new platforms)).length ≤ n) : (place new platforms).length ≤ n := by
  rw [(activeTops_place hnew platforms).length_eq, List.length_cons] at htops
  rw [length_place]
  split
  · next hfull => rwa [length_activeTops_of_countP hfull] at htops
  · exact hplatforms

/-- A slot that is freed takes its height away. -/
theorem activeTops_set_free (platforms : List Platform) (slot : ℕ) (p : Platform) :
    (activeTops (platforms.set slot p.free)).Sublist (activeTops platforms) := by
  induction platforms generalizing slot with
  | nil => exact List.Sublist.refl _
  | cons q ps ih =>
    cases slot with
    | zero =>
      have hfree : ¬ p.free.active = true := Bool.false_ne_true
      rw [List.set_cons_zero, activeTops_cons, activeTops_cons, if_neg hfree]
      split
      · exact List.sublist_cons_self _ _
      · exact List.Sublist.refl _
    | succ slot =>
      rw [List.set_cons_succ, activeTops_cons, activeTops_cons]
      split
      · exact (ih slot).cons_cons _
      · exact ih slot

/-! ### The window of a camera -/

/-- **The window of a camera** up to a height of `2 ^ 20`: platforms are made up to the ceiling above
it, and dropped below the limit. Its ends are off by less than a unit. -/
theorem window_of_camera {camera : Single} (hcamera : camera.Within (2 ^ 20)) :
    (generationCeiling camera .standard).Within (2 ^ 21) ∧
      (cullLimit camera .standard).isFinite = true ∧
      camera.value - 841 ≤ (generationCeiling camera .standard).value ∧
      (cullLimit camera .standard).value ≤ camera.value + 741 := by
  have hheight : viewportHeight.Within 640 ∧ viewportHeight.value = 640 := by decide +kernel
  have habove : Tuning.standard.generationMargin.Within 200 ∧
      Tuning.standard.generationMargin.value = 200 := by decide +kernel
  have hbelow : Tuning.standard.cullMargin.Within 100 ∧
      Tuning.standard.cullMargin.value = 100 := by decide +kernel
  have htop : (camera - viewportHeight).Within (2 ^ 20 + 640) := hcamera.sub hheight.1
  have hbottom : (camera + viewportHeight).Within (2 ^ 20 + 640) := hcamera.add hheight.1
  have hceiling : (generationCeiling camera .standard).Within (2 ^ 21) := htop.sub habove.1
  have hlimit : (cullLimit camera .standard).Within (2 ^ 21) := hbottom.add hbelow.1
  have htopError := hcamera.abs_sub_error_le hheight.1 (k := 1) (by decide) (by norm_num)
  have hbottomError := hcamera.abs_add_error_le hheight.1 (k := 1) (by decide) (by norm_num)
  have hceilingError := htop.abs_sub_error_le habove.1 (k := 1) (by decide) (by norm_num)
  have hlimitError := hbottom.abs_add_error_le hbelow.1 (k := 1) (by decide) (by norm_num)
  rw [hheight.2] at htopError hbottomError
  rw [habove.2] at hceilingError
  rw [hbelow.2] at hlimitError
  norm_num at htopError hbottomError hceilingError hlimitError
  refine ⟨hceiling, hlimit.isFinite, ?_, ?_⟩
  · rw [generationCeiling]
    linarith [(abs_le.mp htopError).1, (abs_le.mp hceilingError).1]
  · rw [cullLimit]
    linarith [(abs_le.mp hbottomError).2, (abs_le.mp hlimitError).2]

/-! ### A generation -/

/-- A step of at least the least gap leads up by the distance that platforms keep. -/
theorem value_sub_add_clearance_le {y gap : Single} (hy : y.Within (2 ^ 21))
    (hgap : gap.isFinite = true) (hleast : 80 ≤ gap.value) :
    (y - gap).value + clearance ≤ y.value := by
  have heighty : (80 : Single).Within 80 ∧ (80 : Single).value = 80 := by decide +kernel
  have herror := hy.abs_sub_error_le heighty.1 (k := 1) (by decide) (by norm_num)
  have hstep : (y - gap).value ≤ (y - 80).value := by
    rw [Single.value_sub hy.isFinite hgap, Single.value_sub hy.isFinite heighty.1.isFinite,
      heighty.2]
    exact rounded_le_rounded (by linarith)
  rw [heighty.2] at herror
  norm_num at herror
  rw [clearance]
  linarith [(abs_le.mp herror).2]

/-- **The height that a generation starts from**, that of the highest platform or else the camera's,
lies above all platforms that are there. -/
theorem highestTop?_getD_mem {platforms : List Platform} {camera : Single} {ceiling floor : ℚ}
    (hcamera : camera.Within (2 ^ 21)) (hceiling : -2 ^ 21 ≤ ceiling) (hfloor : floor ≤ 2 ^ 21)
    (hle : camera.value ≤ floor) (hspread : Spread ceiling (activeTops platforms))
    (hbelow : ∀ x ∈ activeTops platforms, x.value ≤ floor) :
    ((highestTop? platforms).getD camera).Within (2 ^ 21) ∧
      ((highestTop? platforms).getD camera).value ≤ floor ∧
      ∀ x ∈ activeTops platforms, ((highestTop? platforms).getD camera).value ≤ x.value := by
  by_cases hany : ∃ p ∈ platforms, p.active = true
  · have hnumbers : ∀ p ∈ platforms, p.active = true → p.body.top.isNaN = false :=
      fun p hp hactive => Single.isNaN_of_isFinite
        (hspread.isFinite _ (mem_activeTops.mpr ⟨p, hp, hactive, rfl⟩))
    obtain ⟨highest, hhighest, htop⟩ := exists_highest hany hnumbers
    have hmem : highest.body.top ∈ activeTops platforms :=
      mem_activeTops.mpr ⟨highest, hhighest.mem, hhighest.active, rfl⟩
    have hover := hspread.ceiling_lt _ hmem
    have hunder := hbelow _ hmem
    rw [htop, Option.getD_some]
    refine ⟨⟨hspread.isFinite _ hmem, abs_le.mpr ⟨?_, ?_⟩⟩, hunder, ?_⟩
    · exact hceiling.trans hover.le
    · exact hunder.trans hfloor
    · intro x hx
      obtain ⟨p, hp, hactive, rfl⟩ := mem_activeTops.mp hx
      exact (Single.le_iff_value.mp (hhighest.le p hp hactive)).2.2
  -- in a store without active platforms the camera stands for the highest one
  · have hnone : activeTops platforms = [] := by
      refine List.eq_nil_iff_forall_not_mem.mpr fun x hx => ?_
      obtain ⟨p, hp, hactive, -⟩ := mem_activeTops.mp hx
      exact hany ⟨p, hp, hactive⟩
    have htop : highestTop? platforms = none := by
      show (activeTops platforms).minOn? Single.totalRank = none
      rw [hnone]
      rfl
    rw [htop, Option.getD_none, hnone]
    exact ⟨hcamera, hle, fun x hx => nomatch hx⟩

/-- What a generation under a ceiling finds and keeps: few slots, platforms that keep their distance
from each other, and a cursor at a distance above all of them. -/
structure Climbing (ceiling : Single) (floor : ℚ) (platforms : List Platform) (cursor : Single) :
    Prop where
  length_le : platforms.length ≤ 20
  spread : Spread ceiling.value (activeTops platforms)
  le_floor : ∀ x ∈ activeTops platforms, x.value ≤ floor
  isFinite : cursor.isFinite = true
  cursor_le : cursor.value ≤ floor
  clear : ∀ x ∈ activeTops platforms, cursor.value + clearance ≤ x.value

/-- **A step of a generation** keeps the distance and the number of slots. -/
theorem Climbing.with_new {ceiling cursor : Single} {floor : ℚ} {platforms : List Platform}
    (h : Climbing ceiling floor platforms cursor) (hceiling : ceiling.Within (2 ^ 21))
    (hfloor : floor ≤ 2 ^ 21) (hwindow : floor - ceiling.value < 20 * clearance)
    (habove : ceiling < cursor) {score : Nat} {g g' : Pcg32} {new : Platform}
    (hnew : Platform.random cursor score .standard g = .ok (new, g')) :
    Climbing ceiling floor (place new platforms)
      (cursor - (randomGap cursor .standard g').1) := by
  have hactive := (random_eq_ok hnew).active
  have htop := (random_eq_ok hnew).top_eq
  obtain ⟨-, -, hlt⟩ := Single.lt_iff_value.mp habove
  obtain ⟨hleast, hgap⟩ := Tuning.randomGap_mem cursor g'
  have hcursor : cursor.Within (2 ^ 21) := ⟨h.isFinite, abs_le.mpr
    ⟨(abs_le.mp hceiling.abs_value_le).1.trans hlt.le, h.cursor_le.trans hfloor⟩⟩
  have hnext : (cursor - (randomGap cursor .standard g').1).Within (2 ^ 21 + 135) :=
    hcursor.sub hgap
  have hstep := value_sub_add_clearance_le hcursor hgap.isFinite hleast
  have hpos : 0 < clearance := by norm_num [clearance]
  have hperm := activeTops_place hactive platforms
  rw [htop] at hperm
  have hspread : Spread ceiling.value (activeTops (place new platforms)) :=
    (h.spread.cons h.isFinite hlt h.clear).perm hperm
  have hbelow : ∀ x ∈ activeTops (place new platforms), x.value ≤ floor := by
    intro x hx
    rcases List.mem_cons.mp (hperm.mem_iff.mp hx) with rfl | hold
    · exact h.cursor_le
    · exact h.le_floor x hold
  refine ⟨?_, hspread, hbelow, hnext.isFinite, by linarith [h.cursor_le], ?_⟩
  · exact length_place_le_of_activeTops hactive h.length_le (hspread.length_le hbelow hwindow)
  · intro x hx
    rcases List.mem_cons.mp (hperm.mem_iff.mp hx) with rfl | hold
    · exact hstep
    · linarith [h.clear x hold]

/-- **A generation keeps the distance** and the number of slots, so that it always finds a slot. -/
theorem Climbing.spread_fillFrom {ceiling cursor : Single} {floor : ℚ} {platforms : List Platform}
    (h : Climbing ceiling floor platforms cursor) (hceiling : ceiling.Within (2 ^ 21))
    (hfloor : floor ≤ 2 ^ 21) (hwindow : floor - ceiling.value < 20 * clearance) {score free : Nat}
    {g : Pcg32} {f : Filling}
    (hfill : fillFrom .standard score ceiling free cursor platforms g = .ok f) :
    f.platforms.length ≤ 20 ∧ Spread ceiling.value (activeTops f.platforms) := by
  replace hfill := fills_of_fillFrom hfill
  induction hfill with
  | done | full => exact ⟨h.length_le, h.spread⟩
  | next habove hnew hlater ih => exact ih (h.with_new hceiling hfloor hwindow habove hnew)

/-- **The platforms above a camera** up to a height of `2 ^ 20` keep their distance from each other and
from those that are there, in no more than twenty slots, and there is a slot for each of them. -/
theorem spread_fill {platforms : List Platform} {camera : Single} (hcamera : camera.Within (2 ^ 20))
    (hle : camera ≤ 0) (hlength : platforms.length ≤ 20)
    (hspread : Spread (generationCeiling camera .standard).value (activeTops platforms))
    (hlimit : ∀ x ∈ activeTops platforms, x ≤ cullLimit camera .standard) {score : Nat}
    {g : Pcg32} {f : Filling} (hfill : fill platforms camera score .standard g = .ok f) :
    f.isFull = false ∧ f.platforms.length ≤ 20 ∧
      Spread (generationCeiling camera .standard).value (activeTops f.platforms) := by
  obtain ⟨hceiling, -, hhigh, hlow⟩ := window_of_camera hcamera
  have hground : camera.value ≤ 0 := by simpa using (Single.le_iff_value.mp hle).2.2
  have hmin : Tuning.standard.spacingMin.Within 80 ∧ Tuning.standard.spacingMin.value = 80 := by
    decide +kernel
  have hbelow : ∀ x ∈ activeTops platforms, x.value ≤ camera.value + 741 := fun x hx =>
    (Single.le_iff_value.mp (hlimit x hx)).2.2.trans hlow
  have hwindow : camera.value + 741 - (generationCeiling camera .standard).value <
      20 * clearance := by
    rw [clearance]
    linarith
  have hwider : (2 : ℚ) ^ 20 ≤ 2 ^ 21 := by norm_num
  obtain ⟨hfrom, hfromLe, hfirst⟩ := highestTop?_getD_mem (hcamera.mono hwider)
    (abs_le.mp hceiling.abs_value_le).1 (by linarith) (by linarith) hspread hbelow
  have hstep := value_sub_add_clearance_le hfrom hmin.1.isFinite hmin.2.ge
  have hcursor : ((highestTop? platforms).getD camera - Tuning.standard.spacingMin).Within
      (2 ^ 21 + 80) := hfrom.sub hmin.1
  have hpos : 0 < clearance := by norm_num [clearance]
  have hclimbing : Climbing (generationCeiling camera .standard) (camera.value + 741) platforms
      ((highestTop? platforms).getD camera - Tuning.standard.spacingMin) :=
    ⟨hlength, hspread, hbelow, hcursor.isFinite, by linarith,
      fun x hx => by linarith [hfirst x hx]⟩
  obtain ⟨hfew, hkept⟩ := hclimbing.spread_fillFrom hceiling (by linarith) hwindow hfill
  refine ⟨?_, hfew, hkept⟩
  by_contra hfull
  have hnone := freeSlots_of_isFull rfl hfill (by simpa using hfull)
  rw [freeSlots, maxPlatforms] at hnone
  omega

namespace Game

/-- **The motion of a frame keeps the heights** of the platforms that are not dropped. -/
theorem activeTops_cleared (game : Game) (time : Single) :
    activeTops (game.cleared time) =
      (activeTops game.platforms).filter
        fun x => !decide (cullLimit game.camera game.tuning < x) := by
  rw [cleared, cull, List.map_map]
  induction game.platforms with
  | nil => rfl
  | cons p ps ih =>
    -- the motion changes neither whether a platform is there nor how high it is
    have hslides := p.slides_advance time (game.tuning.speedMultiplier game.score)
    rw [List.map_cons, activeTops_cons, activeTops_cons, ih, Function.comp_apply, Platform.isBelow,
      hslides.active, hslides.top]
    by_cases hactive : p.active = true
    · by_cases hlow : cullLimit game.camera game.tuning < p.body.top
      · simp [hactive, hlow, Platform.free]
      · simp [hactive, hlow, hslides.active, hslides.top]
    · simp [hactive, hslides.active]

/-- The contacts of a frame keep the heights of the platforms that do not break. -/
theorem activeTops_outcome (game : Game) (s : Setup) (time : Single) :
    (activeTops (game.outcome s time).platforms).Sublist (activeTops s.filling.platforms) := by
  rw [outcome, conclude_eq, collide_eq]
  cases hlanding : firstLanding? { (game.setUp s).player with onGround := false }
      (game.setUp s).platforms with
  | none =>
    rw [land_of_none hlanding]
    exact List.Sublist.refl _
  | some landing =>
    rw [land_of_some hlanding]
    dsimp only
    split
    · exact activeTops_set_free _ _ _
    · exact List.Sublist.refl _

/-! ### A store with room to spare -/

/-- **A store with room to spare**: few slots, and platforms that keep their distance below the ceiling
of the camera. -/
structure Spacious (game : Game) : Prop where
  length_le : game.platforms.length ≤ 20
  spread : Spread (generationCeiling game.camera .standard).value (activeTops game.platforms)

variable {game next : Game} {s : Setup} {time : Single}

/-- Any two active platforms lie more than 79 units apart. -/
theorem Spacious.apart (h : game.Spacious) :
    game.platforms.Pairwise (fun p q => p.active = true → q.active = true →
      79 < |p.body.top.value - q.body.top.value|) := by
  have hapart := h.spread.apart
  rw [activeTops, List.pairwise_map, List.pairwise_filter] at hapart
  refine hapart.imp ?_
  intro p q hpq hp hq
  have hdistance := hpq hp hq
  rw [clearance] at hdistance
  linarith

/-- The platforms of a fresh run find a slot each and leave room to spare. -/
theorem spread_layOut {g : Pcg32} {layout : Filling} (h : layOut .standard g = .ok layout) :
    layout.isFull = false ∧ layout.platforms.length ≤ 20 ∧
      Spread (generationCeiling 0 .standard).value (activeTops layout.platforms) := by
  have hground : (0 : Single).Within (2 ^ 20) ∧ (0 : Single) ≤ 0 := by decide +kernel
  have hanchor : activeTops [.anchor] = [Platform.anchor.body.top] := rfl
  have htop : Platform.anchor.body.top.isFinite = true ∧
      (generationCeiling 0 .standard).value < Platform.anchor.body.top.value ∧
      Platform.anchor.body.top ≤ cullLimit 0 .standard := by decide +kernel
  refine spread_fill hground.1 hground.2 (by decide) ?_ ?_ h
  · rw [hanchor]
    exact Spread.nil.cons htop.1 htop.2.1 fun x hx => nomatch hx
  · rw [hanchor]
    intro x hx
    rw [List.mem_singleton.mp hx]
    exact htop.2.2

/-- A camera at or above the start, up to a height of `2 ^ 20`. -/
theorem camera_within (hle : game.camera ≤ 0) (hge : -2 ^ 20 ≤ game.camera.value) :
    game.camera.Within (2 ^ 20) := by
  have hground : game.camera.value ≤ 0 := by simpa using (Single.le_iff_value.mp hle).2.2
  exact Single.within_of_abs_value_le (Single.isNaN_left_of_le hle)
    (abs_le.mpr ⟨hge, by linarith⟩) (by norm_num)

/-- **The platforms of a frame** find a slot each and leave room to spare. -/
theorem Spacious.refill (h : game.Spacious) (htuning : game.tuning = .standard)
    (hle : game.camera ≤ 0) (hge : -2 ^ 20 ≤ game.camera.value) {filling : Filling}
    (hrefill : game.refill time = .ok filling) :
    filling.isFull = false ∧ filling.platforms.length ≤ 20 ∧
      Spread (generationCeiling game.camera .standard).value (activeTops filling.platforms) := by
  have hcamera := camera_within hle hge
  have hlimit := (window_of_camera hcamera).2.1
  have hcleared := activeTops_cleared game time
  rw [htuning] at hcleared
  rw [Game.refill, htuning] at hrefill
  refine spread_fill hcamera hle ?_ ?_ ?_ hrefill
  · rw [length_cleared]
    exact h.length_le
  · rw [hcleared]
    exact h.spread.sublist List.filter_sublist
  · intro x hx
    rw [hcleared] at hx
    obtain ⟨hold, hkept⟩ := List.mem_filter.mp hx
    exact Single.le_of_not_lt (Single.isNaN_of_isFinite hlimit)
      (Single.isNaN_of_isFinite (h.spread.isFinite x hold)) (by simpa using hkept)

/-- **A frame leaves room to spare**, whatever the player breaks and however far the camera climbs. -/
theorem Spacious.outcome (h : game.Spacious) (htuning : game.tuning = .standard)
    (hle : game.camera ≤ 0) (hge : -2 ^ 20 ≤ game.camera.value) (hsetup : game.IsSetup time s) :
    (game.outcome s time).Spacious := by
  obtain ⟨-, hfew, hkept⟩ := h.refill htuning hle hge hsetup.refill_eq
  have hedge : viewportHeight.isFinite = true ∧
      Tuning.standard.generationMargin.isFinite = true := by decide +kernel
  constructor
  · have hsame : (game.outcome s time).platforms.length = s.filling.platforms.length := by
      rw [Game.outcome, conclude_eq]
      exact length_platforms_collide _ _
    rwa [hsame]
  · refine (hkept.sublist (activeTops_outcome game s time)).raise ?_
    have hclimbed : (game.outcome s time).camera ≤ game.camera := by
      rw [camera_outcome]
      exact nextCamera_le (Single.isNaN_left_of_le hle)
    exact (Single.le_iff_value.mp (Single.sub_le_sub_right (Single.sub_le_sub_right hclimbed
      hedge.1) hedge.2)).2.2

/-- A camera at or above the start, and room to spare as long as it is not too high up. -/
structure Roomy (game : Game) : Prop where
  camera_le : game.camera ≤ 0
  spacious : -2 ^ 20 ≤ game.camera.value → game.Spacious

/-- A run begins with room to spare. -/
theorem roomy_of_fresh (htuning : game.tuning = .standard) (h : game.Fresh) : game.Roomy := by
  obtain ⟨generator, layout, hlayout, hplatforms⟩ := h.platforms
  rw [htuning] at hlayout
  obtain ⟨-, hfew, hspread⟩ := spread_layOut hlayout
  constructor
  · rw [h.camera]
    decide +kernel
  · intro _
    constructor
    · rwa [hplatforms]
    · rwa [hplatforms, h.camera]

/-- **A call leaves room to spare.** The camera of a run only climbs, so that it was not higher before
the call. -/
theorem Roomy.effect (h : game.Roomy) (htuning : game.tuning = .standard)
    (hnext : next.tuning = .standard) {call : Call} (heffect : Effect game call next) :
    next.Roomy := by
  cases heffect with
  | frame hrunning hstep =>
    obtain ⟨time, s, -, hsetup, hnext⟩ := step_eq_setUp hstep
    obtain rfl : next = game.outcome s time := hnext
    have hclimbed : (game.outcome s time).camera ≤ game.camera := by
      rw [camera_outcome]
      exact nextCamera_le (Single.isNaN_left_of_le h.camera_le)
    refine ⟨Single.le_trans hclimbed h.camera_le, ?_⟩
    intro hlow
    have hbefore := hlow.trans (Single.le_iff_value.mp hclimbed).2.2
    exact (h.spacious hbefore).outcome htuning h.camera_le hbefore hsetup
  | frozen hover hkeep => exact ⟨h.camera_le, fun hlow => { h.spacious hlow with }⟩
  | newRun hbegins hfresh => exact roomy_of_fresh hnext hfresh
  | clock => exact ⟨h.camera_le, fun hlow => { h.spacious hlow with }⟩
  | shot hshot =>
    obtain ⟨shot, timer, -, rfl⟩ := shoot?_eq_some hshot
    exact ⟨h.camera_le, fun hlow => { h.spacious hlow with }⟩
  | refused => exact h
  | compacted => exact ⟨h.camera_le, fun hlow => { h.spacious hlow with }⟩

/-- The calls of an ordinary run leave room to spare. -/
theorem roomy_of_play (seed : UInt64) (calls : List Call) :
    ∃ game, play seed .standard calls = .ok game ∧ game.tuning = .standard ∧ game.Roomy :=
  @exists_play .standard (fun game => game.tuning = .standard ∧ game.Roomy) (fun _ => True)
    Tuning.playable_standard (fun htuning hfresh => ⟨htuning, roomy_of_fresh htuning hfresh⟩)
    (fun htuning hnext _ h heffect => ⟨hnext, h.2.effect htuning hnext heffect⟩) seed calls
    (fun _ _ => trivial)

/-! ### What is reported -/

/-- Whether no platform was reported to have found no slot. -/
def NoneDeferred (notices : List Notice) : Prop := ∀ top, .storeFull top ∉ notices

/-- A generation that finds its slots reports none missing. -/
theorem noneDeferred_of_reports {f : Filling} {notices : List Notice} (h : f.Reports notices)
    (hfull : f.isFull = false) : NoneDeferred notices := by
  obtain ⟨routine, rfl, hroutine⟩ := h
  intro top hmem
  rcases List.mem_append.mp hmem with hfilling | hrest
  · simp [Filling.notices, hfull] at hfilling
  · cases hroutine _ hrest

/-- A start reports what its layout does. -/
theorem noneDeferred_of_start {seed : UInt64} {t : Tuning} {notices : List Notice}
    (hlayout : ∀ g layout, layOut t g = .ok layout → layout.isFull = false)
    (h : start seed t = .ok (next, notices)) : NoneDeferred notices := by
  obtain ⟨layout, hlay, hreports⟩ := reports_of_start h
  exact noneDeferred_of_reports hreports (hlayout _ layout hlay)

/-- A restart reports what its layout does. -/
theorem noneDeferred_of_restart {notices : List Notice}
    (hlayout : ∀ g layout, layOut game.tuning g = .ok layout → layout.isFull = false)
    (h : game.restart = .ok (next, notices)) : NoneDeferred notices := by
  obtain ⟨layout, hlay, hreports⟩ := reports_of_restart h
  exact noneDeferred_of_reports hreports (hlayout _ layout hlay)

/-- **A frame reports no platform without a slot** if its generation finds one for each, and so does
that of a restart. -/
theorem noneDeferred_of_tick {c : Controls} {dt : Single} {notices : List Notice}
    (hrefill : ∀ time filling, game.refill time = .ok filling → filling.isFull = false)
    (hlayout : ∀ g layout, layOut game.tuning g = .ok layout → layout.isFull = false)
    (h : game.tick c dt = .ok (next, notices)) : NoneDeferred notices := by
  rcases reports_of_tick h with rfl | ⟨filling, hreports, ⟨time, hfill⟩ | ⟨g, hlay⟩⟩
  · exact fun top hfull => nomatch hfull
  · exact noneDeferred_of_reports hreports (hrefill time filling hfill)
  · exact noneDeferred_of_reports hreports (hlayout g filling hlay)

/-- **The store of an ordinary run has room to spare.** The first layout and that of every restart find
a slot for each platform. Calls from every seed lead to a game, and as long as its camera is not above
`2 ^ 20`, its store has at most twenty slots, any two active platforms lie more than 79 units apart,
and no frame reports that a platform has found no slot, whatever its time and its controls are. -/
theorem spacious_of_play (seed : UInt64) (calls : List Call) :
    (∀ first notices, start seed .standard = .ok (first, notices) → NoneDeferred notices) ∧
    ∃ game, play seed .standard calls = .ok game ∧
      (∀ next notices, game.restart = .ok (next, notices) → NoneDeferred notices) ∧
      (-1048576 ≤ game.camera →
        game.platforms.length ≤ 20 ∧
        (∀ p ∈ game.platforms, p.active = true → p.body.top.isFinite = true) ∧
        game.platforms.Pairwise (fun p q => p.active = true → q.active = true →
          79 < |p.body.top.value - q.body.top.value|) ∧
        ∀ c dt next notices, game.tick c dt = .ok (next, notices) → NoneDeferred notices) := by
  have hslots : ∀ g layout, layOut .standard g = .ok layout → layout.isFull = false :=
    fun g layout hlay => (spread_layOut hlay).1
  constructor
  · exact fun first notices => noneDeferred_of_start hslots
  · obtain ⟨game, hplay, htuning, hroomy⟩ := roomy_of_play seed calls
    have hlayout : ∀ g layout, layOut game.tuning g = .ok layout → layout.isFull = false :=
      htuning.symm ▸ hslots
    refine ⟨game, hplay, fun next notices => noneDeferred_of_restart hlayout, ?_⟩
    intro hhigh
    have hge : -2 ^ 20 ≤ game.camera.value := by
      have hvalue := (Single.le_iff_value.mp hhigh).2.2
      rw [Single.value_neg, Single.value_literal 1048576] at hvalue
      linarith
    have hspacious := hroomy.spacious hge
    refine ⟨hspacious.length_le, ?_, hspacious.apart, ?_⟩
    · intro p hp hactive
      exact hspacious.spread.isFinite _ (mem_activeTops.mpr ⟨p, hp, hactive, rfl⟩)
    · intro c dt next notices htick
      refine noneDeferred_of_tick ?_ hlayout htick
      exact fun time filling hrefill =>
        (hspacious.refill htuning hroomy.camera_le hge hrefill).1

/-- The store after a frame whose time is not a number, a restart and a climb, and the reports of one
frame more. -/
theorem spacious_after_climb :
    ∃ game next notices,
      play 7 .standard ([.tick {} (.nan false), .restart] ++ List.replicate 30 (.tick {} 1)) =
          .ok game ∧
      -1048576 ≤ game.camera ∧ game.tick { shoot := true } 2 = .ok (next, notices) ∧
      game.platforms.length ≤ 20 ∧
      game.platforms.Pairwise (fun p q => p.active = true → q.active = true →
        79 < |p.body.top.value - q.body.top.value|) ∧
      NoneDeferred notices := by
  obtain ⟨game, hgame, hcheck⟩ := exists_of_play 7 .standard
    ([.tick {} (.nan false), .restart] ++ List.replicate 30 (.tick {} 1))
    (fun game => decide (-1048576 ≤ game.camera) &&
      (game.tick { shoot := true } 2).toOption.any fun _ => true) (by decide +kernel)
  obtain ⟨hcamera, hticked⟩ := Bool.and_eq_true_iff.mp hcheck
  obtain ⟨⟨next, notices⟩, hnext, -⟩ := exists_eq_ok_of_any _ hticked
  obtain ⟨-, last, hlast, -, hspacious⟩ := spacious_of_play 7
    ([.tick {} (.nan false), .restart] ++ List.replicate 30 (.tick {} 1))
  obtain rfl : game = last := Except.ok.inj (hgame.symm.trans hlast)
  obtain ⟨hlength, -, hapart, hreports⟩ := hspacious (of_decide_eq_true hcamera)
  exact ⟨game, next, notices, hgame, of_decide_eq_true hcamera, hnext, hlength, hapart,
    hreports _ _ _ _ hnext⟩

end Game

end Platformer
