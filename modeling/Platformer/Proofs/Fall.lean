import Platformer.Proofs.Playable
import Platformer.Proofs.Slots

/-! # Falling onto a platform

A landing is looked for at the end of a frame, where the player is by then. Whatever lies between the
old place and the new one is not looked at; and a player whose top has reached the platform's counts
as coming from below. So a fall onto a platform ends in a landing only while it is shorter than the
player is high, and neither the fall speed nor the bound on the frame time keeps it that short.

* **`Game.top_moved`** — how far a frame falls.
* **`Game.Crosses`**, **`Game.Crosses.landsOn_iff`** — a fall whose feet cross the top of a platform,
  and what the landing test says of it.
* **`Game.getElem?_filling`** — a platform that stands still is there when contacts are looked for.
* **`Game.Crosses.top_lt_of_short`** — how short a fall has to be.
* **`Game.landing_of_fall`** — when a frame ends in a landing, and when it falls through. -/

namespace Platformer

namespace Game

variable {game : Game} {c : Controls} {dt time : Single} {slot : Nat} {p : Platform}

/-! ### The motion of a fall -/

/-- **A frame falls** by the new velocity for the time of the frame, whether or not a shot is
fired. -/
theorem top_moved (game : Game) (c : Controls) (time : Single) :
    (game.moved c time).body.top =
      game.player.body.top + (game.moved c time).velocity.y * time := by
  obtain ⟨ready, hready, hmoved⟩ := moved_eq game c time
  rw [hmoved]
  rcases hready with rfl | rfl <;> simp [Player.integrate, body_coolDown_steer]

/-! ### Crossing the top of a platform -/

/-- **A fall across the top of a platform.** A normal platform stands in a slot and is not about to
leave the picture; the player's feet are at or above its top before the motion and below it after
the motion; and the player is falling and shares a part of its width with the platform then. -/
structure Crosses (game : Game) (moved : Player) (slot : Nat) (p : Platform) : Prop where
  slot_eq : game.platforms[slot]? = some p
  active : p.active = true
  normal : p.kind = .normal
  kept : game.drops p = false
  solid : p.body.top ≤ p.body.bottom
  above : game.player.body.bottom ≤ p.body.top
  falling : 0 < moved.velocity.y
  below : p.body.top < moved.body.bottom
  left_lt : moved.body.left < p.body.right
  lt_right : p.body.left < moved.body.right

instance (game : Game) (moved : Player) (slot : Nat) (p : Platform) :
    Decidable (game.Crosses moved slot p) :=
  decidable_of_iff (game.platforms[slot]? = some p ∧ p.active = true ∧ p.kind = .normal ∧
      game.drops p = false ∧ p.body.top ≤ p.body.bottom ∧ game.player.body.bottom ≤ p.body.top ∧
      0 < moved.velocity.y ∧ p.body.top < moved.body.bottom ∧ moved.body.left < p.body.right ∧
      p.body.left < moved.body.right)
    ⟨fun ⟨h₁, h₂, h₃, h₄, h₅, h₆, h₇, h₈, h₉, h₁₀⟩ => ⟨h₁, h₂, h₃, h₄, h₅, h₆, h₇, h₈, h₉, h₁₀⟩,
      fun h => ⟨h.1, h.2, h.3, h.4, h.5, h.6, h.7, h.8, h.9, h.10⟩⟩

/-- **The landing test of a fall across a top** comes down to the player's own top. -/
theorem Crosses.landsOn_iff {moved : Player} (h : game.Crosses moved slot p) :
    moved.landsOn p = true ↔ moved.body.top < p.body.top := by
  have hrising : ¬ moved.velocity.y ≤ 0 := by
    rw [Single.le_iff_value]
    rintro ⟨-, -, hle⟩
    exact absurd (Single.lt_iff_value.mp h.falling).2.2 (not_lt.mpr hle)
  constructor
  · intro hlands
    simp only [Player.landsOn, Bool.and_eq_true, decide_eq_true_eq] at hlands
    exact hlands.2
  · intro htop
    have hwithin : moved.body.top < p.body.bottom := by
      obtain ⟨hnumber, -, hlt⟩ := Single.lt_iff_value.mp htop
      obtain ⟨-, hbottom, hle⟩ := Single.le_iff_value.mp h.solid
      exact Single.lt_iff_value.mpr ⟨hnumber, hbottom, hlt.trans_le hle⟩
    simp [Player.landsOn, Box.overlaps, h.active, hrising, h.left_lt, h.lt_right, hwithin, h.below,
      htop]

/-- **A platform that stands still is there for the contacts**, unless the picture leaves it behind:
nothing else takes its slot. -/
theorem getElem?_filling {s : Setup} (hsetup : game.IsSetup time s)
    (hslot : game.platforms[slot]? = some p) (hactive : p.active = true)
    (hstill : p.kind ≠ .moving) (hkept : game.drops p = false) :
    s.filling.platforms[slot]? = some p := by
  have hsame : game.slid time p = p := (p.slides_advance time _).still hstill
  have hcleared : (game.cleared time)[slot]? = some p := by
    rw [getElem?_cleared, hslot, Option.map_some, hactive, hkept, hsame]
    rfl
  rcases getElem?_fill hsetup.refill_eq slot with hkeep | ⟨hvacant, -⟩
  · rw [hkeep, hcleared]
  · have hfree := hvacant p hcleared
    rw [hactive] at hfree
    cases hfree

/-- **A fall shorter than the player is high** leaves its top above the platform's. At places up to
`2 ^ 18` the two roundings on the way take away no more than a sixteenth of a unit. -/
theorem Crosses.top_lt_of_short (h : game.Crosses (game.moved c time) slot p)
    (hheight : game.player.body.height = playerHeight)
    (hplace : |game.player.body.top.value| ≤ 2 ^ 18)
    (hshort : ((game.moved c time).velocity.y * time).value ≤ 20 - 1 / 16) :
    (game.moved c time).body.top < p.body.top := by
  have htwenty : playerHeight = 20 := rfl
  have htopMoved := top_moved game c time
  generalize (game.moved c time).velocity.y * time = fall at hshort htopMoved
  have hfeet : (game.player.body.top + 20).isNaN = false := by
    have hnumber := Single.isNaN_left_of_le h.above
    rwa [Box.bottom, hheight, htwenty] at hnumber
  have hhead : (game.player.body.top + fall).isNaN = false := by
    have hnumber := (Single.isNaN_of_add (Single.lt_iff_value.mp h.below).2.1).1
    rwa [htopMoved] at hnumber
  have htop : game.player.body.top.isFinite = true :=
    Single.isFinite_of_abs_value_le (Single.isNaN_of_add hfeet).1 (by decide)
      (show |_| ≤ ((2 ^ 18 : ℕ) : ℚ) by push_cast; exact hplace)
  obtain ⟨hlow, hhigh⟩ := abs_le.mp hplace
  -- the feet are one rounding below the top, and the platform is not above them
  have hplatform : game.player.body.top.value + 20 - 1 / 64 ≤ p.body.top.value := by
    have hle := (Single.le_iff_value.mp h.above).2.2
    rw [Box.bottom, hheight, htwenty, Single.value_add htop (Single.isFinite_literal 20),
      Single.value_literal 20] at hle
    have herror := abs_rounded_sub_self_le (k := 5) (q := game.player.body.top.value + 20)
      (by decide) (by rw [abs_le]; constructor <;> norm_num <;> linarith)
    norm_num at herror
    linarith [(abs_le.mp herror).1]
  rw [htopMoved, Single.lt_iff_value]
  refine ⟨hhead, Single.isNaN_right_of_le h.above, ?_⟩
  rcases Single.finite_or_infinite (Single.isNaN_of_add hhead).2 with hfall | rfl | rfl
  -- a shorter fall ends no lower than the longest one that is allowed
  · have hmono : rounded (game.player.body.top.value + fall.value) ≤
        rounded (game.player.body.top.value + (20 - 1 / 16)) := rounded_le_rounded (by linarith)
    have herror := abs_rounded_sub_self_le (k := 5)
      (q := game.player.body.top.value + (20 - 1 / 16)) (by decide)
      (by rw [abs_le]; constructor <;> norm_num <;> linarith)
    rw [Single.value_add htop hfall]
    norm_num at herror hmono
    linarith [(abs_le.mp herror).2]
  · rw [Single.add_infinite true htop, Single.value_infinite_true]
    linarith [Single.two_pow_lt_range]
  · rw [Single.value_infinite_false] at hshort
    linarith [Single.two_pow_lt_range]

/-! ### The end of the frame -/

/-- **A fall across the top of a platform** in an ordinary run ends in a landing, there or on another
platform, if it leaves the player's top above the platform's; otherwise the player falls through the
platform. A fall shorter than the player is high leaves the top above, and no other bound is kept:
the frame time goes up to 6.25 frames, and the fall speed has no limit. -/
theorem landing_of_fall (hrunning : game.running = true) (htuning : game.tuning = .standard)
    (htime : clampTime dt game.tuning.frameTimeMax = .ok time)
    (h : game.Crosses (game.moved (game.controls c) time) slot p) :
    ∃ next notices, game.tick c dt = .ok (next, notices) ∧
      ((game.moved (game.controls c) time).body.top < p.body.top →
        next.player.onGround = true ∧ ∃ place kind, .landed place kind ∈ next.events) ∧
      (¬ (game.moved (game.controls c) time).body.top < p.body.top →
        ∀ kind, .landed slot kind ∉ next.events) ∧
      (game.player.body.height = playerHeight → |game.player.body.top.value| ≤ 2 ^ 18 →
        ((game.moved (game.controls c) time).velocity.y * time).value ≤ 20 - 1 / 16 →
        (game.moved (game.controls c) time).body.top < p.body.top) := by
  obtain ⟨next, notices, htick, -⟩ := exists_tick (htuning ▸ Tuning.playable_standard) c dt
  have hstep := htick
  rw [tick_eq, if_pos hrunning] at hstep
  obtain ⟨clamped, s, hclamped, hsetup, hplayer, houtcome⟩ := step_eq_setUp_moved hstep
  obtain rfl : time = clamped := Except.ok.inj (htime.symm.trans hclamped)
  have hnext : next = game.outcome s time := houtcome
  have hslot : s.filling.platforms[slot]? = some p :=
    getElem?_filling hsetup h.slot_eq h.active (by rw [h.normal]; decide) h.kept
  refine ⟨next, notices, htick, ?_, ?_, h.top_lt_of_short⟩
  · intro htop
    have hlands : { s.player with onGround := false }.landsOn p = true := by
      rw [hplayer]
      exact h.landsOn_iff.mpr htop
    have hlanding : (game.setUp s).landing?.isSome = true := by
      rw [landing?, Option.isSome_map]
      exact isSome_firstLanding? hslot hlands
    obtain ⟨⟨place, kind⟩, hplace⟩ := Option.isSome_iff_exists.mp hlanding
    rw [hnext, onGround_outcome, events_outcome]
    exact ⟨hlanding, place, kind, (Report.landed_mem_events _).mpr hplace⟩
  · intro htop kind hlanded
    rw [hnext, events_outcome, Report.landed_mem_events] at hlanded
    obtain ⟨⟨q, place⟩, hfirst, hplace⟩ := Option.map_eq_some_iff.mp hlanded
    cases hplace
    obtain ⟨hget, hlands⟩ := firstLanding?_eq_some hfirst
    obtain rfl : p = q := Option.some.inj (hslot.symm.trans hget)
    rw [show (game.setUp s).player = game.moved (game.controls c) time from hplayer] at hlands
    exact htop (h.landsOn_iff.mp hlands)

/-- A new player falls through the first platform in the eighth frame when that frame is a long one,
although its feet were above it and have crossed it; and lands on it in the eleventh when all are of
the nominal length. -/
theorem through_and_onto_anchor :
    (∃ game next notices, play 7 .standard (List.replicate 7 (.tick {} 1)) = .ok game ∧
      game.running = true ∧ clampTime 1000 game.tuning.frameTimeMax = .ok 6.25 ∧
      game.Crosses (game.moved (game.controls {}) 6.25) 0 .anchor ∧
      (game.player.body.left < Platform.anchor.body.right ∧
        Platform.anchor.body.left < game.player.body.right) ∧
      game.tick {} 1000 = .ok (next, notices) ∧ (∀ kind, .landed 0 kind ∉ next.events) ∧
      next.player.onGround = false) ∧
    ∃ game next notices, play 7 .standard (List.replicate 10 (.tick {} 1)) = .ok game ∧
      game.tick {} 1 = .ok (next, notices) ∧ next.player.onGround = true := by
  constructor
  · obtain ⟨game, hgame, hcheck⟩ := exists_of_play 7 .standard (List.replicate 7 (.tick {} 1))
      (fun game => decide (game.running = true ∧ game.tuning = .standard ∧
        game.Crosses (game.moved (game.controls {}) 6.25) 0 .anchor ∧
        (game.player.body.left < Platform.anchor.body.right ∧
          Platform.anchor.body.left < game.player.body.right) ∧
        ¬ (game.moved (game.controls {}) 6.25).body.top < Platform.anchor.body.top) &&
        (game.tick {} 1000).toOption.any fun r => !r.1.player.onGround) (by decide +kernel)
    rw [Bool.and_eq_true, decide_eq_true_eq] at hcheck
    obtain ⟨⟨hrunning, htuning, hcrosses, hwidths, hunder⟩, hair⟩ := hcheck
    have htime : clampTime 1000 game.tuning.frameTimeMax = .ok 6.25 := by
      rw [htuning]
      decide +kernel
    obtain ⟨next, notices, htick, -, hthrough, -⟩ :=
      landing_of_fall hrunning htuning htime hcrosses
    rw [htick] at hair
    have hair : (!next.player.onGround) = true := hair
    exact ⟨game, next, notices, hgame, hrunning, htime, hcrosses, hwidths, htick, hthrough hunder,
      by simpa using hair⟩
  · obtain ⟨game, hgame, hcheck⟩ := exists_of_play 7 .standard (List.replicate 10 (.tick {} 1))
      (fun game => decide (game.running = true ∧ game.tuning = .standard ∧
        game.Crosses (game.moved (game.controls {}) 1) 0 .anchor ∧
        (game.moved (game.controls {}) 1).body.top < Platform.anchor.body.top)) (by decide +kernel)
    obtain ⟨hrunning, htuning, hcrosses, habove⟩ := of_decide_eq_true hcheck
    have htime : clampTime 1 game.tuning.frameTimeMax = .ok 1 := by
      rw [htuning]
      decide +kernel
    obtain ⟨next, notices, htick, honto, -, -⟩ := landing_of_fall hrunning htuning htime hcrosses
    exact ⟨game, next, notices, hgame, htick, (honto habove).1⟩

end Game

end Platformer
