import Platformer.Proofs.History

/-! # The census of monsters and projectiles

Monsters and projectiles come by appearing and by being fired, and they go by leaving the picture or
in pairs, when a projectile hits a monster. Nothing else adds to the two stores or takes from them,
and what stays keeps its order.

* **`Game.walkers`**, **`Game.flyers`** — what has moved in a frame and is still in the picture.
* **`Game.Accounts`** — the two stores after a frame, and the events that tell of the changes.
* **`Game.accounts_outcome`** — every frame of a game with live stores is accounted for.
* **`Game.Balanced`** — who is there and who was killed, against who has come since the run began.
* **`Game.census`** — both, for single frames and for whole histories. -/

namespace Platformer

/-- A patrol neither kills nor revives. -/
@[simp] theorem Monster.active_advance (m : Monster) (dt : Single) :
    (m.advance dt).active = m.active := by
  rw [Monster.advance]
  split <;> rfl

namespace Game

section

variable (game : Game) (s : Setup) (time : Single)

/-- The monsters of a frame, the new one last, that have moved and are not below the limit. -/
def walkers : List Monster :=
  ((game.monsters ++ s.spawned.toList).map (·.advance time)).filter
    fun m => !decide (cullLimit game.camera game.tuning < m.body.top)

/-- The projectiles of a frame, the new one last, that have moved and are not above the limit. -/
def flyers : List Projectile :=
  ((game.projectiles ++ s.shot.toList).map (·.advance time)).filter
    fun p => !decide (p.body.top < game.camera - game.tuning.projectileMargin)

/-- The changes of the two stores in a frame with given hits. What has come and has not left the
picture stays, less the monsters and the projectiles of the hits; the events tell how many have
appeared, how many shots were fired and how many hits there were; and of what is left no projectile
overlaps a monster. -/
structure Accounts (next : Game) (hits : List (Nat × Nat)) : Prop where
  paired : Hits (game.flyers s time) (game.walkers s time) hits
  monsters_eq : next.monsters = without (hits.map Prod.snd) (game.walkers s time)
  projectiles_eq : next.projectiles = without (hits.map Prod.fst) (game.flyers s time)
  spawned_count : next.events.count .monsterSpawned = s.spawned.toList.length
  shot_count : next.events.count .shotFired = s.shot.toList.length
  killed_count : next.events.count .monsterKilled = hits.length
  monsters_length : next.monsters.length + hits.length = (game.walkers s time).length
  projectiles_length : next.projectiles.length + hits.length = (game.flyers s time).length
  apart : ∀ p ∈ next.projectiles, ∀ m ∈ next.monsters, p.body.overlaps m.body = false

end

/-! ### A single frame -/

variable {game : Game} {s : Setup} {time : Single}

/-- What holds of all entries of a list and of one more that may come holds of all of them. -/
theorem forall_mem_append_toList {α : Type} {P : α → Prop} {l : List α} {o : Option α}
    (hl : ∀ a ∈ l, P a) (ho : ∀ a ∈ o, P a) : ∀ a ∈ l ++ o.toList, P a := by
  intro a ha
  rcases List.mem_append.mp ha with hold | hnew
  · exact hl a hold
  · exact ho a (Option.mem_toList.mp hnew)

/-- The monsters of a frame are alive if they were before it: one that appears is. -/
theorem IsSetup.active_monsters (h : game.IsSetup time s)
    (hmonsters : ∀ m ∈ game.monsters, m.active = true) :
    ∀ m ∈ game.monsters ++ s.spawned.toList, m.active = true := by
  refine forall_mem_append_toList hmonsters fun m hm => ?_
  have hspawn := h.spawn_eq
  rw [Option.mem_def.mp hm] at hspawn
  obtain ⟨-, -, column, lift, direction, -, -, -, rfl⟩ := spawnMonster?_eq_some hspawn
  rfl

/-- The projectiles of a frame are unspent if they were before it: one that is fired is. -/
theorem IsSetup.active_projectiles (h : game.IsSetup time s)
    (hprojectiles : ∀ p ∈ game.projectiles, p.active = true) :
    ∀ p ∈ game.projectiles ++ s.shot.toList, p.active = true := by
  refine forall_mem_append_toList hprojectiles fun p hp => ?_
  rw [(h.fires p hp).1]
  rfl

/-- All monsters of a frame are alive until they are hit. -/
theorem active_walkers (h : ∀ m ∈ game.monsters ++ s.spawned.toList, m.active = true) :
    ∀ m ∈ game.walkers s time, m.active = true := by
  intro m hm
  obtain ⟨m', hm', rfl⟩ := List.mem_map.mp (List.mem_filter.mp hm).1
  rw [Monster.active_advance]
  exact h m' hm'

/-- All projectiles of a frame are unspent until they hit. -/
theorem active_flyers (h : ∀ p ∈ game.projectiles ++ s.shot.toList, p.active = true) :
    ∀ p ∈ game.flyers s time, p.active = true := by
  intro p hp
  obtain ⟨p', hp', rfl⟩ := List.mem_map.mp (List.mem_filter.mp hp).1
  exact h p' hp'

/-- What moves in a frame is all that is there, if it is live. -/
theorem volley_setUp (hmonsters : ∀ m ∈ game.monsters ++ s.spawned.toList, m.active = true)
    (hprojectiles : ∀ p ∈ game.projectiles ++ s.shot.toList, p.active = true) :
    (game.setUp s).volley time = strike (game.flyers s time) (game.walkers s time) := by
  simp only [volley, moveProjectiles, moveMonsters, setUp, List.filter_eq_self.mpr hmonsters,
    List.filter_eq_self.mpr hprojectiles]
  rfl

/-- **A frame accounts for every monster and every projectile.** -/
theorem accounts_outcome (hmonsters : ∀ m ∈ game.monsters, m.active = true)
    (hprojectiles : ∀ p ∈ game.projectiles, p.active = true) (hsetup : game.IsSetup time s) :
    ∃ hits, game.Accounts s time (game.outcome s time) hits := by
  have hthere := hsetup.active_monsters hmonsters
  have hfired := hsetup.active_projectiles hprojectiles
  have hwalkers : ∀ m ∈ game.walkers s time, m.active = true := active_walkers hthere
  have hflyers : ∀ p ∈ game.flyers s time, p.active = true := active_flyers hfired
  have hvolley : (game.setUp s).volley time = strike (game.flyers s time) (game.walkers s time) :=
    volley_setUp hthere hfired
  -- all that moves is live, so that what is missing afterwards is what the hits have taken
  obtain ⟨hits, hhits, hkills, hspent, hdead⟩ :=
    exists_hits (game.flyers s time) (game.walkers s time)
  have hkilled : (game.report s time).kills = hits.length := by
    rw [← hkills, ← hvolley]
    rfl
  have hleft : (game.outcome s time).monsters =
      without (hits.map Prod.snd) (game.walkers s time) := by
    rw [monsters_outcome, hvolley]
    exact filter_eq_without _ Monster.kill (fun _ => rfl) hwalkers hdead
  have hflying : (game.outcome s time).projectiles =
      without (hits.map Prod.fst) (game.flyers s time) := by
    rw [projectiles_outcome, hvolley]
    exact filter_eq_without _ Projectile.spend (fun _ => rfl) hflyers hspent
  refine ⟨hits, hhits, hleft, hflying, ?_, ?_, ?_, ?_, ?_, ?_⟩
  · rw [events_outcome, Report.count_monsterSpawned_events, report]
    cases s.spawned <;> rfl
  · rw [events_outcome, Report.count_shotFired_events, report]
    cases s.shot <;> rfl
  · rw [events_outcome, Report.count_monsterKilled_events, hkilled]
  · rw [monsters_outcome, hvolley, ← List.countP_eq_length_filter, ← hkills,
      countP_monsters_strike, List.countP_eq_length.mpr hwalkers]
  · rw [projectiles_outcome, hvolley, ← List.countP_eq_length_filter, ← hkills,
      countP_projectiles_strike, List.countP_eq_length.mpr hflyers]
  · intro p hp m hm
    rw [hflying] at hp
    rw [hleft] at hm
    obtain ⟨i, hi, hspared⟩ := mem_without.mp hp
    obtain ⟨j, hj, hmissed⟩ := mem_without.mp hm
    exact hhits.maximal i j p m hi hj (hflyers p (List.mem_of_getElem? hi))
      (hwalkers m (List.mem_of_getElem? hj)) hspared hmissed

/-! ### Runs -/

/-- Who is there and who was killed have come since the run began, and every kill took a shot. -/
structure Balanced (frames : List Frame) (game : Game) : Prop where
  monsters_le : game.monsters.length + (log frames).count .monsterKilled ≤
    (log frames).count .monsterSpawned
  projectiles_le : game.projectiles.length + (log frames).count .monsterKilled ≤
    (log frames).count .shotFired

/-- A frame leaves and kills no more monsters than there were and have appeared. -/
theorem length_monsters_outcome_le (game : Game) (s : Setup) (time : Single) :
    (game.outcome s time).monsters.length + (game.report s time).kills ≤
      game.monsters.length + (game.report s time).spawned.toNat := by
  have hspawned : (game.monsters ++ s.spawned.toList).length =
      game.monsters.length + (game.report s time).spawned.toNat := by
    rw [List.length_append, report]
    cases s.spawned <;> rfl
  rw [monsters_outcome, ← List.countP_eq_length_filter, report, volley, countP_monsters_strike]
  calc ((game.setUp s).moveMonsters time).monsters.countP (·.active)
      ≤ ((game.setUp s).moveMonsters time).monsters.length := List.countP_le_length
    _ ≤ (game.monsters ++ s.spawned.toList).length := length_sweep_le _ _ _ _
    _ = game.monsters.length + (game.report s time).spawned.toNat := hspawned

/-- A frame leaves and spends no more projectiles than there were and were fired. -/
theorem length_projectiles_outcome_le (game : Game) (s : Setup) (time : Single) :
    (game.outcome s time).projectiles.length + (game.report s time).kills ≤
      game.projectiles.length + (game.report s time).shot.toNat := by
  have hshot : (game.projectiles ++ s.shot.toList).length =
      game.projectiles.length + (game.report s time).shot.toNat := by
    rw [List.length_append, report]
    cases s.shot <;> rfl
  rw [projectiles_outcome, ← List.countP_eq_length_filter, report, volley,
    countP_projectiles_strike]
  calc ((game.setUp s).moveProjectiles time).projectiles.countP (·.active)
      ≤ ((game.setUp s).moveProjectiles time).projectiles.length := List.countP_le_length
    _ ≤ (game.projectiles ++ s.shot.toList).length := length_sweep_le _ _ _ _
    _ = game.projectiles.length + (game.report s time).shot.toNat := hshot

/-- **A frame keeps the balance.** -/
theorem Balanced.outcome {frames : List Frame} (h : Balanced frames game) (s : Setup)
    (time : Single) :
    Balanced (frames ++ [⟨game, game.outcome s time⟩]) (game.outcome s time) := by
  have hmonsters := length_monsters_outcome_le game s time
  have hprojectiles := length_projectiles_outcome_le game s time
  have hbefore := h.monsters_le
  have hbefore' := h.projectiles_le
  constructor
  · rw [log_concat, List.count_append, List.count_append, events_outcome,
      Report.count_monsterKilled_events, Report.count_monsterSpawned_events]
    omega
  · rw [log_concat, List.count_append, List.count_append, events_outcome,
      Report.count_monsterKilled_events, Report.count_shotFired_events]
    omega

/-- **The census.** In a frame of a running game whose monsters and projectiles are all live, the
stores afterwards are those before, with the new monster and the new shot last, moved, less what has
left the picture and less the pairs of hits, in order; the events tell the numbers, and no projectile
is left over a monster. In every history from the start of a game, those who are there and those who
were killed since the run began are no more than those who have come since. -/
theorem census :
    (∀ {game next : Game} {c : Controls} {dt : Single} {notices : List Notice},
      game.running = true → (∀ m ∈ game.monsters, m.active = true) →
      (∀ p ∈ game.projectiles, p.active = true) → game.tick c dt = .ok (next, notices) →
      ∃ time s hits, clampTime dt game.tuning.frameTimeMax = .ok time ∧ game.IsSetup time s ∧
        game.Accounts s time next hits) ∧
    ∀ {seed : UInt64} {t : Tuning} {inputs : List (Controls × Single)} {last : Game}
      {frames : List Frame}, filmFrom seed t inputs = .ok (last, frames) →
      last.monsters.length + (log (currentRun frames)).count .monsterKilled ≤
        (log (currentRun frames)).count .monsterSpawned ∧
      last.projectiles.length + (log (currentRun frames)).count .monsterKilled ≤
        (log (currentRun frames)).count .shotFired := by
  constructor
  · intro game next c dt notices hrunning hmonsters hprojectiles htick
    obtain ⟨time, s, htime, hsetup, rfl⟩ := (frameEffect_of_tick htick).exists_setup hrunning
    obtain ⟨hits, haccounts⟩ := accounts_outcome hmonsters hprojectiles hsetup
    exact ⟨time, s, hits, htime, hsetup, haccounts⟩
  · intro seed t inputs last frames hfilm
    have hbalanced : Balanced (currentRun frames) last := by
      refine currentRun_preserves (P := Balanced) ?_ ?_ ?_ hfilm
      · intro game hfresh
        constructor
        · rw [hfresh.monsters]
          exact Nat.le_refl 0
        · rw [hfresh.projectiles]
          exact Nat.le_refl 0
      · intro frames game time s h hrunning hsetup
        exact h.outcome s time
      · intro frames game h hover
        have hlog := log_concat frames ⟨game, { game with events := [] }⟩
        rw [List.append_nil] at hlog
        exact ⟨hlog ▸ h.monsters_le, hlog ▸ h.projectiles_le⟩
    exact ⟨hbalanced.monsters_le, hbalanced.projectiles_le⟩

/-- A tuning without gravity, under which a shot can be fired in every frame and a monster appears
whenever one may. -/
def armed : Tuning :=
  { Tuning.standard with
    gravity := 0
    spawnScoreMin := 0
    spawnChanceMin := 1
    projectileSpeed := -140
    projectileMargin := 1000
    shootCooldown := 1
    generationMargin := -900 }

/-- With a shot in every frame the fifth frame kills a monster, and after it another one appears. -/
theorem census_of_armed :
    (∃ (game next : Game) (notices : List Notice) (time : Single) (s : Setup)
      (hits : List (Nat × Nat)), game.running = true ∧ (∀ m ∈ game.monsters, m.active = true) ∧
      (∀ p ∈ game.projectiles, p.active = true) ∧
      game.tick { shoot := true } 1 = .ok (next, notices) ∧ game.Accounts s time next hits ∧
      hits.length = 1) ∧
    ∃ last frames, filmFrom 51 armed (List.replicate 6 ({ shoot := true }, 1)) = .ok (last, frames) ∧
      (log (currentRun frames)).count .monsterKilled = 1 ∧ last.monsters.length = 1 ∧
      2 ≤ (log (currentRun frames)).count .monsterSpawned ∧
      last.projectiles.length + 1 ≤ (log (currentRun frames)).count .shotFired := by
  constructor
  · obtain ⟨⟨game, frames⟩, -, hcheck⟩ := exists_eq_ok_of_any
      (x := filmFrom 51 armed (List.replicate 4 ({ shoot := true }, 1)))
      (fun r => r.1.running && r.1.monsters.all (·.active) && r.1.projectiles.all (·.active) &&
        (r.1.tick { shoot := true } 1).toOption.any
          fun r => r.1.events.count .monsterKilled == 1) (by decide +kernel)
    obtain ⟨⟨⟨hrunning, hmonsters⟩, hprojectiles⟩, htick⟩ :
        ((game.running = true ∧ ∀ m ∈ game.monsters, m.active = true) ∧
          ∀ p ∈ game.projectiles, p.active = true) ∧
          (game.tick { shoot := true } 1).toOption.any
            (fun r => r.1.events.count .monsterKilled == 1) = true := by
      simpa using hcheck
    obtain ⟨⟨next, notices⟩, htick, hkilled⟩ := exists_eq_ok_of_any _ htick
    obtain ⟨time, s, hits, -, -, haccounts⟩ := census.1 hrunning hmonsters hprojectiles htick
    have hlength : hits.length = 1 := by
      rw [← haccounts.killed_count]
      simpa using hkilled
    exact ⟨game, next, notices, time, s, hits, hrunning, hmonsters, hprojectiles, htick, haccounts,
      hlength⟩
  · obtain ⟨⟨last, frames⟩, hfilm, hcheck⟩ := exists_eq_ok_of_any
      (x := filmFrom 51 armed (List.replicate 6 ({ shoot := true }, 1)))
      (fun r => (log (currentRun r.2)).count .monsterKilled == 1 && r.1.monsters.length == 1)
      (by decide +kernel)
    obtain ⟨hkilled, hleft⟩ : (log (currentRun frames)).count .monsterKilled = 1 ∧
        last.monsters.length = 1 := by simpa using hcheck
    obtain ⟨hmonsters, hprojectiles⟩ := census.2 hfilm
    rw [hkilled] at hmonsters hprojectiles
    rw [hleft] at hmonsters
    exact ⟨last, frames, hfilm, hkilled, hleft, hmonsters, hprojectiles⟩

end Game

end Platformer
