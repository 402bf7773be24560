import Platformer.Proofs.Climb
import Platformer.Proofs.Stores

/-! # One wave of monsters at a time

Monsters walk sideways and never change their height, and the camera never goes back down. So the
monsters of a game are known by their heights, and a monster that the lower edge of the band around
the picture has passed stays passed. A new one appears only when all others are passed.

* **`Game.tops`** — the heights of the monsters; **`Game.tops_of_step`** — what a frame does to them.
* **`Game.OneWave`** — no monster above the band and at most one in it.
* **`Game.Succeeds`** — the monsters of a later game: those that are left, and those that have
  appeared above since.
* **`Game.oneWave_of_play`** — there is one wave in every game, and what has left the band never
  comes back to it. -/

namespace Platformer

/-- A patrol keeps to its height. -/
@[simp] theorem Monster.top_advance (m : Monster) (dt : Single) :
    (m.advance dt).body.top = m.body.top := by
  rw [Monster.advance]
  split <;> rfl

namespace Game

/-- The heights of the monsters. -/
def tops (game : Game) : List Single := game.monsters.map (·.body.top)

variable {game next : Game}

/-! ### Heights over a frame -/

/-- The contacts of a frame only take monsters away. -/
theorem tops_collide (game : Game) (dt : Single) :
    (game.collide dt).tops.Sublist game.tops := by
  -- the monsters below the picture are dropped, the rest move at their heights
  have hmoved : (game.moveMonsters dt).tops.Sublist game.tops := by
    have hswept : (game.moveMonsters dt).tops.Sublist
        (((game.monsters.filter (·.active)).map (·.advance dt)).map (·.body.top)) :=
      List.filter_sublist.map _
    rw [List.map_map, show ((·.body.top) ∘ (·.advance dt) : Monster → Single) = (·.body.top) from
      funext fun m => m.top_advance dt] at hswept
    exact hswept.trans (List.filter_sublist.map _)
  -- shots kill monsters in their places, and the dead are cleared away
  have hstruck : (game.volley dt).monsters.map (·.body.top) = (game.moveMonsters dt).tops := by
    have hbodies := congrArg (List.map Box.top)
      (map_body_strike (game.moveProjectiles dt).projectiles (game.moveMonsters dt).monsters)
    rw [List.map_map, List.map_map] at hbodies
    exact hbodies
  rw [collide_eq]
  have hcleared : (((game.volley dt).monsters.filter (·.active)).map (·.body.top)).Sublist
      ((game.volley dt).monsters.map (·.body.top)) := List.filter_sublist.map _
  rw [hstruck] at hcleared
  exact hcleared.trans hmoved

/-- A monster may appear at a height: no monster is near the picture, and the height lies between the
upper edge and a picture's height above it. -/
structure Admits (game : Game) (y : Single) : Prop where
  empty : ∀ m ∈ game.monsters, m.isNearPicture game.camera = false
  low : game.camera - viewportHeight ≤ y
  high : y ≤ game.camera

/-- **A frame** takes monsters away and adds at most one, where it may appear. -/
theorem tops_of_step {c : Controls} {dt : Single} {notices : List Notice}
    (hstep : game.step c dt = .ok (next, notices)) (hcamera : game.camera.isNaN = false) :
    ∃ new : Option Single, next.tops.Sublist (game.tops ++ new.toList) ∧
      ∀ y ∈ new, game.Admits y := by
  obtain ⟨time, scrolled, reports, -, hscroll, rfl⟩ := step_eq_ok hstep
  obtain ⟨player, shot, -, hact⟩ := act_eq { game with ticks := game.ticks + 1 } c time
  have hkept := tops_collide scrolled time
  rw [hact] at hscroll
  rw [conclude_eq]
  obtain ⟨filling, spawned, generator, -, hspawn, rfl⟩ := scroll_eq_ok hscroll
  have hadded : (game.monsters ++ spawned.toList).map (·.body.top) =
      game.tops ++ (spawned.map (·.body.top)).toList := by
    rw [List.map_append]
    cases spawned <;> rfl
  refine ⟨spawned.map (·.body.top), ?_, ?_⟩
  · rw [← hadded]
    exact hkept
  · intro y hy
    obtain ⟨m, rfl, rfl⟩ := Option.mem_map.mp hy
    obtain ⟨-, hnone, column, lift, direction, -, hlift, -, rfl⟩ :=
      spawnMonster?_eq_some hspawn
    exact ⟨hnone, le_spawnHeight hcamera hlift, spawnHeight_le hcamera hlift⟩

/-! ### The wave -/

/-- No monster is above the band around the picture, and at most one is in it. -/
structure OneWave (game : Game) : Prop where
  above : ∀ y ∈ game.tops, game.camera - viewportHeight ≤ y
  single : game.tops.countP (fun y => decide (y ≤ game.camera + viewportHeight)) ≤ 1

/-- Taking monsters away and moving the camera up keep the wave. -/
theorem OneWave.of_sublist {heights : List Single} {camera : Single}
    (habove : ∀ y ∈ heights, camera - viewportHeight ≤ y)
    (hsingle : heights.countP (fun y => decide (y ≤ camera + viewportHeight)) ≤ 1)
    (htops : next.tops.Sublist heights) (hcamera : next.camera ≤ camera) : next.OneWave := by
  have hupper : next.camera - viewportHeight ≤ camera - viewportHeight :=
    Single.sub_le_sub_right hcamera isFinite_viewportHeight
  have hlower : next.camera + viewportHeight ≤ camera + viewportHeight :=
    Single.add_le_add_right hcamera isFinite_viewportHeight
  constructor
  · intro y hy
    exact Single.le_trans hupper (habove y (htops.subset hy))
  · calc next.tops.countP (fun y => decide (y ≤ next.camera + viewportHeight))
        ≤ next.tops.countP (fun y => decide (y ≤ camera + viewportHeight)) :=
          List.countP_mono_left fun y _ hy => by
            simpa using Single.le_trans (of_decide_eq_true hy) hlower
      _ ≤ heights.countP (fun y => decide (y ≤ camera + viewportHeight)) := htops.countP_le
      _ ≤ 1 := hsingle

/-- **A new monster finds the band empty**, so that the wave is still single with it. -/
theorem OneWave.with_new (h : game.OneWave) (htidy : game.Tidy) {new : Option Single}
    (hnew : ∀ y ∈ new, game.Admits y) :
    (∀ y ∈ game.tops ++ new.toList, game.camera - viewportHeight ≤ y) ∧
      (game.tops ++ new.toList).countP (fun y => decide (y ≤ game.camera + viewportHeight)) ≤ 1 := by
  cases new with
  | none =>
    rw [Option.toList_none, List.append_nil]
    exact ⟨h.above, h.single⟩
  | some y =>
    have hadmits := hnew y rfl
    -- no monster is above the band, so one that is not near the picture has passed it
    have hempty : game.tops.countP (fun y => decide (y ≤ game.camera + viewportHeight)) = 0 := by
      rw [List.countP_eq_zero, tops]
      intro z hz
      obtain ⟨m, hm, rfl⟩ := List.mem_map.mp hz
      have hlow := h.above _ (List.mem_map_of_mem hm)
      have hfar := hadmits.empty m hm
      simpa [Monster.isNearPicture, htidy.monsters_active m hm, hlow] using hfar
    constructor
    · intro z hz
      rcases List.mem_append.mp hz with hold | hz
      · exact h.above z hold
      · rw [List.mem_singleton.mp hz]
        exact hadmits.low
    · rw [List.countP_append, hempty, Nat.zero_add]
      exact List.countP_le_length

/-! ### Calls -/

/-- **A call of the same run** takes monsters away and adds at most one, under the conditions of a
frame. -/
theorem tops_of_effect {call : Call} (hcamera : game.camera.isNaN = false)
    (hkeeps : game.begins call = false) (heffect : Effect game call next) :
    ∃ new : Option Single, next.tops.Sublist (game.tops ++ new.toList) ∧
      ∀ y ∈ new, game.Admits y := by
  have hrest : ∀ {other : Game}, other.tops.Sublist game.tops →
      ∃ new : Option Single, other.tops.Sublist (game.tops ++ new.toList) ∧
        ∀ y ∈ new, game.Admits y :=
    fun hsub => ⟨none, hsub.trans (List.sublist_append_left _ _), fun y hy => nomatch hy⟩
  cases heffect with
  | frame hrunning hstep =>
    obtain ⟨new, htops, hnew⟩ := tops_of_step hstep hcamera
    exact ⟨new, htops, fun y hy => ⟨(hnew y hy).empty, (hnew y hy).low, (hnew y hy).high⟩⟩
  | newRun hbegins hfresh =>
    rw [hkeeps] at hbegins
    cases hbegins
  | shot hshot =>
    obtain ⟨shot, timer, -, rfl⟩ := shoot?_eq_some hshot
    exact hrest (List.Sublist.refl _)
  | compacted => exact hrest (List.filter_sublist.map _)
  | _ => exact hrest (List.Sublist.refl _)

/-- A run begins without monsters. -/
theorem oneWave_of_fresh (h : game.Fresh) : game.OneWave := by
  have htops : game.tops = [] := by
    rw [tops, h.monsters]
    rfl
  constructor
  · intro y hy
    rw [htops] at hy
    exact absurd hy List.not_mem_nil
  · rw [htops]
    exact Nat.zero_le _

/-- **A call keeps the wave single.** -/
theorem OneWave.effect {call : Call} (h : game.OneWave) (htidy : game.Tidy) (hlevel : game.Level)
    (heffect : Effect game call next) : next.OneWave := by
  rcases heffect.fresh_or_keeps with hfresh | hkeeps
  · exact oneWave_of_fresh hfresh
  · obtain ⟨new, htops, hnew⟩ :=
      tops_of_effect (Single.isNaN_left_of_le hlevel.camera_le) hkeeps heffect
    obtain ⟨habove, hsingle⟩ := h.with_new htidy hnew
    exact .of_sublist habove hsingle htops (camera_le_of_effect hlevel hkeeps heffect)

/-! ### Later games of the run -/

/-- The camera of a later game is no lower, and its monsters are some of the earlier ones at their
heights, followed by those that have appeared above since. -/
structure Succeeds (game last : Game) : Prop where
  camera_le : last.camera ≤ game.camera
  tops_eq : ∃ kept new, last.tops = kept ++ new ∧ kept.Sublist game.tops ∧
    ∀ y ∈ new, y ≤ game.camera

/-- A game with a camera succeeds itself. -/
theorem Succeeds.refl (h : game.Level) : Succeeds game game := by
  refine ⟨Single.le_refl (Single.isNaN_left_of_le h.camera_le), game.tops, [], ?_,
    List.Sublist.refl _, fun y hy => absurd hy List.not_mem_nil⟩
  rw [List.append_nil]

/-- Later than later is later. -/
theorem Succeeds.trans {a b c : Game} (hab : Succeeds a b) (hbc : Succeeds b c) :
    Succeeds a c := by
  obtain ⟨kept, new, hb, hkept, hnew⟩ := hab.tops_eq
  obtain ⟨kept', new', hc, hkept', hnew'⟩ := hbc.tops_eq
  -- of the monsters kept in the second stretch some were there at first, the others had appeared
  rw [hb] at hkept'
  obtain ⟨old, appeared, rfl, hold, happeared⟩ := List.sublist_append_iff.mp hkept'
  refine ⟨Single.le_trans hbc.camera_le hab.camera_le, old, appeared ++ new', ?_,
    hold.trans hkept, ?_⟩
  · rw [hc, List.append_assoc]
  · intro y hy
    rcases List.mem_append.mp hy with hy | hy
    · exact hnew y (happeared.subset hy)
    · exact Single.le_trans (hnew' y hy) hab.camera_le

/-- **A call of the same run** leads to a later game. -/
theorem succeeds_of_effect {call : Call} (hlevel : game.Level) (hkeeps : game.begins call = false)
    (heffect : Effect game call next) : Succeeds game next := by
  refine ⟨camera_le_of_effect hlevel hkeeps heffect, ?_⟩
  obtain ⟨new, htops, hnew⟩ :=
    tops_of_effect (Single.isNaN_left_of_le hlevel.camera_le) hkeeps heffect
  obtain ⟨kept, appeared, heq, hkept, happeared⟩ := List.sublist_append_iff.mp htops
  refine ⟨kept, appeared, heq, hkept, fun y hy => ?_⟩
  exact (hnew y (Option.mem_toList.mp (happeared.subset hy))).high

/-- **One wave at a time.** After any calls no monster is more than a picture's height above the
camera, and at most one is within a picture's height of it. The monsters of any later game of the run
are those that are left, at their heights, and those that have appeared above the earlier camera; of
the former, none that was below the band has come back to it. -/
theorem oneWave_of_play {seed : UInt64} {t : Tuning} {calls : List Call}
    (hplay : play seed t calls = .ok game) :
    (∀ m ∈ game.monsters, game.camera - viewportHeight ≤ m.body.top) ∧
    game.monsters.countP (fun m => decide (game.camera - viewportHeight ≤ m.body.top ∧
      m.body.top ≤ game.camera + viewportHeight)) ≤ 1 ∧
    ∀ later last, game.keepsRun later = true → game.run later = .ok last →
      ∃ kept survivors appeared : List Monster, kept.Sublist game.monsters ∧
        last.monsters = survivors ++ appeared ∧
        survivors.map (·.body.top) = kept.map (·.body.top) ∧
        (∀ m ∈ appeared, m.body.top ≤ game.camera) ∧
        ∀ m ∈ survivors, game.camera + viewportHeight < m.body.top →
          last.camera + viewportHeight < m.body.top := by
  obtain ⟨-, hlevel, hwave⟩ :=
    play_preserves (P := fun game => game.Tidy ∧ game.Level ∧ game.OneWave)
      (fun hfresh => ⟨tidy_of_fresh hfresh, level_of_fresh hfresh, oneWave_of_fresh hfresh⟩)
      (fun h heffect => ⟨h.1.effect heffect, h.2.1.effect heffect, h.2.2.effect h.1 h.2.1 heffect⟩)
      hplay
  refine ⟨?_, ?_, ?_⟩
  · intro m hm
    exact hwave.above _ (List.mem_map_of_mem hm)
  · have hsingle := hwave.single
    rw [tops, List.countP_map] at hsingle
    refine Nat.le_trans (List.countP_mono_left fun m _ hm => ?_) hsingle
    simpa using (of_decide_eq_true hm).2
  · intro later last hkeeps hlater
    have hlater : Succeeds game last :=
      run_relates (P := Level) (R := Succeeds) Succeeds.refl Succeeds.trans Level.effect
        succeeds_of_effect hlevel hkeeps hlater
    obtain ⟨heights, new, htops, hheights, hnew⟩ := hlater.tops_eq
    obtain ⟨survivors, appeared, hmonsters, hsurvivors, happeared⟩ := List.map_eq_append_iff.mp htops
    obtain ⟨kept, hkept, hsame⟩ := List.sublist_map_iff.mp hheights
    refine ⟨kept, survivors, appeared, hkept, hmonsters, hsurvivors.trans hsame, ?_, ?_⟩
    · intro m hm
      exact hnew _ (happeared ▸ List.mem_map_of_mem hm)
    · intro m hm hleft
      exact Single.lt_of_le_of_lt
        (Single.add_le_add_right hlater.camera_le isFinite_viewportHeight) hleft

/-- A tuning under which the player is pulled upward and a monster appears whenever one may. -/
def crowded : Tuning :=
  { Tuning.standard with
    gravity := -500
    spawnScoreMin := 0
    spawnChanceMin := 1
    spawnChanceMax := 1
    cullMargin := 10000 }

/-- Three frames under such a tuning leave two waves behind each other. -/
theorem oneWave_of_crowded :
    ∃ game last, play 7 crowded [.tick {} 1, .tick {} 1, .tick {} 1] = .ok game ∧
      game.monsters.length = 2 ∧
      game.monsters.countP (fun m => decide (game.camera - viewportHeight ≤ m.body.top ∧
        m.body.top ≤ game.camera + viewportHeight)) ≤ 1 ∧
      game.run [.tick {} 1, .shoot, .tick {} 1] = .ok last ∧
      ∃ survivors appeared : List Monster, last.monsters = survivors ++ appeared ∧
        ∀ m ∈ survivors, game.camera + viewportHeight < m.body.top →
          last.camera + viewportHeight < m.body.top := by
  obtain ⟨game, hplay, hcheck⟩ := exists_of_play 7 crowded
    [.tick {} 1, .tick {} 1, .tick {} 1]
    (fun game => game.monsters.length == 2 && game.keepsRun [.tick {} 1, .shoot, .tick {} 1])
    (by decide +kernel)
  obtain ⟨hlength, hkeeps⟩ : game.monsters.length = 2 ∧
      game.keepsRun [.tick {} 1, .shoot, .tick {} 1] = true := by simpa using hcheck
  obtain ⟨last, hlast⟩ := exists_run_of_keepsRun hkeeps
  obtain ⟨-, hsingle, hlater⟩ := oneWave_of_play hplay
  obtain ⟨kept, survivors, appeared, -, hmonsters, -, -, hgone⟩ := hlater _ _ hkeeps hlast
  exact ⟨game, last, hplay, hlength, hsingle, hlast, survivors, appeared, hmonsters, hgone⟩

end Game

end Platformer
