import Platformer.Proofs.Frame
import Platformer.Proofs.Monotone
import Platformer.Proofs.Run

/-! # Tunings that never stop a run

A tuning is any collection of numbers, and nearly all of them may be as strange as they like: a run
goes on with gaps that are not numbers, with chances above one and with margins that point the wrong
way. Only two things stop it, a frame time with no valid upper bound and a speed drawn from a range
whose width is not finite.

* **`Tuning.Playable`** — neither of the two can happen.
* **`exists_fill`**, **`Game.exists_tick`**, **`Game.exists_perform`** — under a playable tuning
  every stage of a game has a result, and so has every call.
* **`Game.clampTime_mem`** — the frame times that a bound leaves.
* **`Game.exists_play`** — invariants of the runs under a playable tuning, whose calls may be
  restricted.
* **`Tuning.Operable`** — the steps that make sense only for some arguments, and that they are never
  taken with others.
* **`Game.no_fault_of_playable`** — every sequence of calls has a result under a playable tuning, and
  no frame has one without an upper bound on its time. -/

namespace Platformer

namespace Tuning

/-- **The tunings that never stop a run.** The greatest frame time is a number that is not negative;
and speeds of moving platforms that are drawn from a range, which they are if the greatest is above
the least, are drawn from a finite one. -/
structure Playable (t : Tuning) : Prop where
  frameTimeMax_nonneg : 0 ≤ t.frameTimeMax
  speeds_finite : t.movingSpeedMin < t.movingSpeedMax →
    t.movingSpeedMin.isFinite = true ∧ t.movingSpeedMax.isFinite = true ∧
      (t.movingSpeedMax - t.movingSpeedMin).isFinite = true

/-- An ordinary run is playable. -/
theorem playable_standard : standard.Playable := by
  constructor
  · decide +kernel
  · decide +kernel

end Tuning

variable {t : Tuning}

/-! ### Generation -/

/-- A speed can be drawn. -/
theorem exists_randomSpeed (h : t.Playable) (g : Pcg32) :
    ∃ base g', randomSpeed t g = .ok (base, g') := by
  rw [randomSpeed]
  by_cases hrange : t.movingSpeedMin < t.movingSpeedMax
  · rw [if_pos hrange, Pcg32.between]
    dsimp only
    rw [if_pos (h.speeds_finite hrange).2.2]
    exact ⟨_, _, rfl⟩
  · rw [if_neg hrange]
    exact ⟨_, _, rfl⟩

section

variable (hspeed : ∀ g, ∃ base g', randomSpeed t g = .ok (base, g'))

include hspeed

/-- Where a speed can be drawn, a platform can be made at every height. -/
theorem exists_random (y : Single) (score : Nat) (g : Pcg32) :
    ∃ p g', Platform.random y score t g = .ok (p, g') := by
  simp only [Platform.random]
  -- only a moving platform draws a speed
  split
  · obtain ⟨base, g', hbase⟩ := hspeed (((g.below platformPositions).2.below 100).2.coin).2
    exact ⟨_, _, ok_bind hbase _⟩
  · exact ⟨_, _, rfl⟩

/-- Where a speed can be drawn, platforms can be made up to every ceiling. -/
theorem exists_fillFrom (score : Nat) (ceiling : Single) (free : Nat) (cursor : Single)
    (platforms : List Platform) (g : Pcg32) :
    ∃ f, fillFrom t score ceiling free cursor platforms g = .ok f := by
  -- each platform takes one of the free places
  induction free generalizing cursor platforms g with
  | zero =>
    rw [fillFrom]
    split
    · obtain ⟨p, g₁, hnew⟩ := exists_random hspeed cursor score g
      exact ⟨_, ok_bind hnew _⟩
    · exact ⟨_, rfl⟩
  | succ free ih =>
    rw [fillFrom]
    split
    · obtain ⟨p, g₁, hnew⟩ := exists_random hspeed cursor score g
      obtain ⟨rest, hrest⟩ := ih (cursor - (randomGap cursor t g₁).1) (place p platforms)
        (randomGap cursor t g₁).2
      exact ⟨_, (ok_bind hnew _).trans (ok_bind hrest _)⟩
    · exact ⟨_, rfl⟩

end

/-- **Generation has a result** for every store, camera, score and generator. -/
theorem exists_fill (h : t.Playable) (platforms : List Platform) (camera : Single) (score : Nat)
    (g : Pcg32) : ∃ f, fill platforms camera score t g = .ok f :=
  exists_fillFrom (exists_randomSpeed h) score _ _ _ platforms g

/-! ### Partial steps -/

/-- A new platform goes into the first free slot, or behind the last one if none is free. -/
theorem place_eq (new : Platform) (platforms : List Platform) :
    place new platforms = match platforms.findIdx? (!·.active) with
      | some slot => platforms.set slot new
      | none => platforms ++ [new] := by
  induction platforms with
  | nil => rfl
  | cons p ps ih =>
    rw [place, List.findIdx?_cons]
    by_cases hactive : p.active = true
    · rw [if_pos hactive, ih]
      cases hslot : ps.findIdx? (!·.active) <;> simp [hactive]
    · simp [hactive]

/-- **The steps that make sense only for some arguments** are not taken with others. Most draws of
naturals are from a fixed range; the one below depends on the tuning. -/
structure Tuning.Operable (t : Tuning) : Prop where
  /-- The random part of a gap is drawn from a range that is not empty and fits a word. -/
  gapRange_mem : 0 < gapRange t ∧ gapRange t < UInt32.size
  /-- The least score is only taken away from a score that reaches it. -/
  spawnScoreMin_le : ∀ score, t.spawnChance score ≠ 0 → t.spawnScoreMin ≤ score
  /-- A platform that takes a free slot takes one of the store. -/
  vacant_lt : ∀ new platforms slot, platforms.findIdx? (!·.active) = some slot →
    slot < platforms.length ∧ place new platforms = platforms.set slot new
  /-- A landing is on the platform of one of the slots. -/
  landing_lt : ∀ player platforms p slot, firstLanding? player platforms = some (p, slot) →
    slot < platforms.length ∧ platforms[slot]? = some p

/-- **Every tuning is operable.** -/
theorem Tuning.operable (t : Tuning) : t.Operable where
  gapRange_mem := by
    refine ⟨gapRange_pos t, Nat.lt_of_le_of_lt ?_ (show UInt32.size - 1 < UInt32.size by decide)⟩
    exact Nat.max_le.mpr ⟨by decide, Single.toNat_le_limit _ _⟩
  spawnScoreMin_le := by
    intro score hchance
    by_contra hlow
    exact hchance (if_pos (Nat.lt_of_not_le hlow))
  vacant_lt := by
    intro new platforms slot hslot
    rw [place_eq, hslot]
    exact ⟨(List.findIdx?_eq_some_iff_getElem.mp hslot).1, rfl⟩
  landing_lt := by
    intro player platforms p slot hlanding
    exact ⟨firstLanding?_lt hlanding, (firstLanding?_eq_some hlanding).1⟩

namespace Game

variable {game : Game}

/-! ### Calls -/

/-- A frame time can be kept below every bound that is a number and not negative. -/
theorem exists_clampTime {upper : Single} (h : 0 ≤ upper) (time : Single) :
    ∃ dt, clampTime time upper = .ok dt := by
  have hclamp : (time.clamp? upper).isSome = true := by
    rw [Single.clamp?, if_pos h]
    rfl
  obtain ⟨dt, hdt⟩ := Option.isSome_iff_exists.mp hclamp
  refine ⟨dt, ?_⟩
  unfold clampTime
  rw [hdt]

/-- A frame time that is a number is kept between zero and the bound. -/
theorem clampTime_mem {upper dt time : Single} (hdt : dt.isNaN = false)
    (h : clampTime dt upper = .ok time) : 0 ≤ time ∧ time ≤ upper := by
  unfold clampTime Single.clamp? at h
  by_cases hbound : 0 ≤ upper
  · have hupper := Single.isNaN_right_of_le hbound
    rw [if_pos hbound] at h
    have htime := Except.ok.inj h
    -- the time is raised to zero first, which leaves a number that is not negative
    have hraised : 0 ≤ (if dt < 0 then 0 else dt) := by
      split
      · exact Single.le_refl Single.isNaN_zero
      · next hup => exact Single.le_of_not_lt hdt Single.isNaN_zero hup
    generalize (if dt < 0 then 0 else dt) = raised at htime hraised
    by_cases hover : upper < raised
    · rw [if_pos hover] at htime
      exact htime ▸ ⟨hbound, Single.le_refl hupper⟩
    · rw [if_neg hover] at htime
      exact htime ▸ ⟨hraised,
        Single.le_of_not_lt hupper (Single.isNaN_right_of_le hraised) hover⟩
  · rw [if_neg hbound] at h
    cases h

/-- A game can start from every seed. -/
theorem exists_start (h : t.Playable) (seed : UInt64) :
    ∃ first notices, start seed t = .ok (first, notices) ∧ first.tuning = t := by
  obtain ⟨layout, hlayout⟩ := exists_fill h [.anchor] 0 0 (.ofSeed seed)
  exact ⟨_, _, ok_bind hlayout _, rfl⟩

/-- A run can begin after every other one. -/
theorem exists_restart (h : game.tuning.Playable) :
    ∃ next notices, game.restart = .ok (next, notices) ∧ next.tuning = game.tuning := by
  obtain ⟨layout, hlayout⟩ := exists_fill h [.anchor] 0 0 game.generator
  exact ⟨_, _, ok_bind hlayout _, rfl⟩

/-- The world's stage has a result. -/
theorem exists_scroll (h : game.tuning.Playable) (dt : Single) :
    ∃ next notices, game.scroll dt = .ok (next, notices) := by
  obtain ⟨filling, hfill⟩ := exists_fill h (game.cleared dt) game.camera game.score game.generator
  have hscroll : game.scroll dt = _ := ok_bind hfill _
  rw [hscroll]
  cases hspawn : spawnMonster? game.monsters game.camera game.score game.tuning
      filling.generator with
  | mk spawned generator =>
    cases spawned with
    | none => exact ⟨_, _, rfl⟩
    | some m => exact ⟨_, _, rfl⟩

/-- **A frame of a running game has a result**, which keeps the tuning. -/
theorem exists_step (h : game.tuning.Playable) (c : Controls) (dt : Single) :
    ∃ next notices, game.step c dt = .ok (next, notices) ∧ next.tuning = game.tuning := by
  obtain ⟨time, htime⟩ := exists_clampTime h.frameTimeMax_nonneg dt
  have hacted : ({ game with ticks := game.ticks + 1 }.act c time).tuning = game.tuning := by
    obtain ⟨player, shot, -, hact⟩ := act_eq { game with ticks := game.ticks + 1 } c time
    rw [hact]
  obtain ⟨scrolled, reports, hscroll⟩ := exists_scroll (hacted ▸ h) time
  refine ⟨(scrolled.collide time).conclude, _, (ok_bind htime _).trans (ok_bind hscroll _), ?_⟩
  rw [conclude_eq]
  exact (sameView_of_scroll hscroll).tuning

/-- **A frame has a result**, which keeps the tuning. -/
theorem exists_tick (h : game.tuning.Playable) (c : Controls) (dt : Single) :
    ∃ next notices, game.tick c dt = .ok (next, notices) ∧ next.tuning = game.tuning := by
  rw [tick_eq]
  by_cases hrunning : game.running = true
  · rw [if_pos hrunning]
    exact @exists_step { game with events := [] } h _ dt
  · rw [if_neg hrunning]
    by_cases hrestart : (game.controls c).restart = true
    · rw [if_pos hrestart]
      exact @exists_restart { game with events := [] } h
    · rw [if_neg hrestart]
      exact ⟨_, _, rfl, rfl⟩

/-- **A call has a result**, which keeps the tuning. -/
theorem exists_perform (h : game.tuning.Playable) (call : Call) :
    ∃ next, game.perform call = .ok next ∧ next.tuning = game.tuning := by
  cases call with
  | tick c dt =>
    obtain ⟨next, notices, htick, htuning⟩ := exists_tick h c dt
    refine ⟨next, ?_, htuning⟩
    exact ok_bind htick _
  | advanceClock now =>
    obtain ⟨time, htime⟩ := exists_clampTime h.frameTimeMax_nonneg
      ((match game.lastTime with
        | some last => .ofNat (now - last)
        | none => nominalFrame) / nominalFrame)
    refine ⟨{ game with lastTime := some now }, ?_, rfl⟩
    have hclock : game.advanceClock now = .ok (time, { game with lastTime := some now }) :=
      ok_bind htime _
    exact ok_bind hclock _
  | shoot =>
    refine ⟨_, rfl, ?_⟩
    cases hshot : game.shoot? with
    | none => rfl
    | some next =>
      obtain ⟨shot, timer, -, rfl⟩ := shoot?_eq_some hshot
      rfl
  | restart =>
    obtain ⟨next, notices, hrestart, htuning⟩ := exists_restart h
    refine ⟨next, ?_, htuning⟩
    exact ok_bind hrestart _
  | compact => exact ⟨_, rfl, rfl⟩

/-- **A sequence of calls has a result.** -/
theorem exists_run (h : game.tuning.Playable) (calls : List Call) :
    ∃ last, game.run calls = .ok last := by
  induction calls generalizing game with
  | nil => exact ⟨game, rfl⟩
  | cons call calls ih =>
    obtain ⟨next, hperform, htuning⟩ := exists_perform h call
    obtain ⟨last, hlast⟩ := ih (htuning ▸ h)
    refine ⟨last, ?_⟩
    exact (ok_bind hperform _).trans hlast

/-- **What holds at the beginning of runs under a playable tuning and is kept by its calls** holds of
the game that a start and calls lead to. The calls may be restricted. -/
theorem exists_play {P : Game → Prop} {allowed : Call → Prop} (h : t.Playable)
    (hfresh : ∀ {game}, game.tuning = t → Fresh game → P game)
    (hcall : ∀ {game call next}, game.tuning = t → next.tuning = t → allowed call → P game →
      Effect game call next → P next)
    (seed : UInt64) {calls : List Call} (hcalls : ∀ call ∈ calls, allowed call) :
    ∃ last, play seed t calls = .ok last ∧ P last := by
  -- the invariant moves to the game after the first call, and the rest is a shorter run
  have hrun : ∀ {calls : List Call} {game : Game}, (∀ call ∈ calls, allowed call) →
      game.tuning = t → P game → ∃ last, game.run calls = .ok last ∧ P last := by
    intro calls
    induction calls with
    | nil =>
      intro game _ _ hgame
      exact ⟨game, rfl, hgame⟩
    | cons call calls ih =>
      intro game hcalls htuning hgame
      obtain ⟨next, hperform, hnext⟩ := exists_perform (htuning ▸ h) call
      have hkept := hcall htuning (hnext.trans htuning) (hcalls call List.mem_cons_self) hgame
        (effect_of_perform hperform)
      obtain ⟨last, hlast, hlastP⟩ := ih (fun c hc => hcalls c (List.mem_cons_of_mem _ hc))
        (hnext.trans htuning) hkept
      exact ⟨last, (ok_bind hperform _).trans hlast, hlastP⟩
  obtain ⟨first, notices, hstart, htuning⟩ := exists_start h seed
  obtain ⟨last, hlast, hlastP⟩ := hrun hcalls htuning (hfresh htuning (fresh_of_start hstart))
  exact ⟨last, (ok_bind hstart _).trans hlast, hlastP⟩

/-- Without a valid upper bound no time has a result. -/
theorem clampTime_eq_error {upper : Single} (h : upper.isNaN = true ∨ upper < 0) (time : Single) :
    clampTime time upper = .error (.clampBound upper) := by
  have hnot : ¬ (0 : Single) ≤ upper := by
    rw [Single.le_iff_value]
    rintro ⟨-, hnumber, hle⟩
    rcases h with hnan | hneg
    · rw [hnumber] at hnan
      cases hnan
    · exact absurd (Single.lt_iff_value.mp hneg).2.2 (not_lt.mpr hle)
  have hclamp : time.clamp? upper = none := by
    rw [Single.clamp?, if_neg hnot]
  unfold clampTime
  rw [hclamp]

/-- **Playable tunings never stop a run.** Under a playable tuning every sequence of calls from every
seed has a result, however strange the rest of the tuning is; and under no tuning does a step leave
the arguments that it makes sense for. But without a valid bound on the frame time no frame of a
running game has a result, and no reading of the clock. -/
theorem no_fault_of_playable :
    (∀ {t : Tuning}, t.Playable → ∀ (seed : UInt64) (calls : List Call),
      ∃ last, play seed t calls = .ok last) ∧
    (∀ t : Tuning, t.Operable) ∧
    ∀ {game : Game}, game.tuning.frameTimeMax.isNaN = true ∨ game.tuning.frameTimeMax < 0 →
      (game.running = true → ∀ (c : Controls) (dt : Single),
        game.tick c dt = .error (.clampBound game.tuning.frameTimeMax)) ∧
      ∀ now, game.advanceClock now = .error (.clampBound game.tuning.frameTimeMax) := by
  refine ⟨?_, Tuning.operable, ?_⟩
  · intro t h seed calls
    obtain ⟨first, notices, hstart, htuning⟩ := exists_start h seed
    obtain ⟨last, hlast⟩ := exists_run (htuning ▸ h) calls
    exact ⟨last, (ok_bind hstart _).trans hlast⟩
  · intro game h
    constructor
    · intro hrunning c dt
      rw [tick_eq, if_pos hrunning, step]
      rw [clampTime_eq_error h]
      rfl
    · intro now
      rw [advanceClock, frameTime]
      rw [clampTime_eq_error h]
      rfl

/-- A tuning in which hardly any number makes sense: gaps shrink to nothing, chances are not numbers,
speeds come from an inverted range, and platforms are made without end. -/
def senseless : Tuning :=
  { Tuning.standard with
    gravity := .infinite true
    spacingMin := 0
    spacingMax := .infinite true
    referenceHeight := .nan false
    generationMargin := .infinite false
    cullMargin := -1000
    movingSpeedMin := 3
    movingSpeedMax := 1
    spawnScoreMin := 18446744073709551615
    spawnScoreMax := 0
    spawnChanceMin := .nan true
    frameTimeMax := 0 }

/-- An ordinary tuning, apart from the bound on the frame time. -/
def unbounded : Tuning := { Tuning.standard with frameTimeMax := -1 }

/-- A senseless tuning is playable, and an ordinary one with a negative bound on the frame time stops
with the first frame. -/
theorem no_fault_when_senseless :
    senseless.Playable ∧
    (∃ last, play 7 senseless [.tick {} (.nan false), .shoot, .advanceClock 5, .restart,
      .tick { idle := true } (.infinite false), .compact] = .ok last) ∧
    ∃ game notices, start 7 unbounded = .ok (game, notices) ∧
      game.tick {} 1 = .error (.clampBound (-1)) ∧
      game.advanceClock 5 = .error (.clampBound (-1)) := by
  have hplayable : senseless.Playable := by
    constructor
    · decide +kernel
    · decide +kernel
  refine ⟨hplayable, no_fault_of_playable.1 hplayable 7 _, ?_⟩
  obtain ⟨⟨game, notices⟩, hstart, hcheck⟩ := exists_eq_ok_of_any
    (fun r : Game × List Notice => r.1.running && decide (r.1.tuning.frameTimeMax = -1))
    (show (start 7 unbounded).toOption.any _ = true by decide +kernel)
  obtain ⟨hrunning, hbound⟩ : game.running = true ∧ game.tuning.frameTimeMax = -1 := by
    simpa using hcheck
  have hnegative : game.tuning.frameTimeMax < 0 := by
    rw [hbound]
    decide +kernel
  obtain ⟨hframes, hclock⟩ := no_fault_of_playable.2.2 (Or.inr hnegative)
  rw [hbound] at hframes hclock
  exact ⟨game, notices, hstart, hframes hrunning {} 1, hclock 5⟩

end Game

end Platformer
