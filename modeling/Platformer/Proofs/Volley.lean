import Mathlib.Data.List.Nodup
import Mathlib.Data.Nat.Find
import Mathlib.Order.Bounds.Basic
import Platformer.Proofs.Contact

/-! # What a volley hits

A shot takes the first live monster that it overlaps, and both are gone for the shots after it. So a
volley pairs shots with monsters, no shot and no monster twice, and leaves no live shot over a live
monster.

* **`IsTarget`**, **`killFirst?_eq_some`**, **`killFirst?_eq_none`** — what a single shot does.
* **`Greedy`**, **`exists_greedy`** — the pairs of a volley, by the places of shot and monster: each
  shot in turn takes the first monster that it may.
* **`Hits`**, **`Greedy.hits`** — what follows for the pairs as a whole: they are one to one, and no
  further pair could be added.
* **`without`** — a list without the entries at given places, which is what a volley leaves.
* **`countP_projectiles_strike`**, **`countP_monsters_strike`** — each kill costs one live shot and
  one live monster. -/

namespace Platformer

/-! ### A single shot -/

/-- A shot may hit the monster at a place: it is live, and the two overlap. -/
def IsTarget (shot : Box) (ms : List Monster) (place : Nat) : Prop :=
  ∃ m, ms[place]? = some m ∧ m.active = true ∧ shot.overlaps m.body = true

/-- The monster in front is a target if it is live and overlaps the shot. -/
theorem isTarget_zero {shot : Box} {m : Monster} {ms : List Monster} :
    IsTarget shot (m :: ms) 0 ↔ (m.active && shot.overlaps m.body) = true := by
  simp [IsTarget]

/-- **A shot that hits** kills the first of its targets, in its place. -/
theorem killFirst?_eq_some {shot : Box} {ms ms' : List Monster} (h : killFirst? shot ms = some ms') :
    ∃ place m, IsLeast {j | IsTarget shot ms j} place ∧ ms[place]? = some m ∧
      ms' = ms.set place m.kill := by
  induction ms generalizing ms' with
  | nil => simp [killFirst?] at h
  | cons m ms ih =>
    rw [killFirst?] at h
    by_cases hhit : (m.active && shot.overlaps m.body) = true
    · rw [if_pos hhit] at h
      cases h
      exact ⟨0, m, ⟨isTarget_zero.mpr hhit, fun _ _ => Nat.zero_le _⟩, rfl, rfl⟩
    · rw [if_neg hhit] at h
      obtain ⟨rest, hrest, rfl⟩ := Option.map_eq_some_iff.mp h
      obtain ⟨place, m', ⟨htarget, hfirst⟩, hget, rfl⟩ := ih hrest
      refine ⟨place + 1, m', ⟨htarget, ?_⟩, hget, rfl⟩
      intro earlier hearlier
      cases earlier with
      | zero => exact absurd (isTarget_zero.mp hearlier) hhit
      | succ earlier => exact Nat.succ_le_succ (hfirst hearlier)

/-- **A shot that misses** has no target. -/
theorem killFirst?_eq_none {shot : Box} {ms : List Monster} (h : killFirst? shot ms = none)
    (place : Nat) : ¬ IsTarget shot ms place := by
  induction ms generalizing place with
  | nil => simp [IsTarget]
  | cons m ms ih =>
    rw [killFirst?] at h
    by_cases hhit : (m.active && shot.overlaps m.body) = true
    · rw [if_pos hhit] at h
      cases h
    · rw [if_neg hhit, Option.map_eq_none_iff] at h
      cases place with
      | zero => exact mt isTarget_zero.mp hhit
      | succ place => exact ih h place

/-- A shot that hits leaves all targets but the one that it kills. -/
theorem isTarget_set_kill {shot : Box} {ms : List Monster} {m : Monster} {place j : Nat}
    (hget : ms[place]? = some m) :
    IsTarget shot (ms.set place m.kill) j ↔ IsTarget shot ms j ∧ j ≠ place := by
  by_cases hj : j = place
  · subst hj
    rw [IsTarget, List.getElem?_set_self (List.getElem?_eq_some_iff.mp hget).1]
    simp [Monster.kill]
  · rw [IsTarget, List.getElem?_set_ne (Ne.symm hj)]
    exact (and_iff_left hj).symm

/-! ### The pairs of a volley -/

/-- A shot may take a monster: the shot is live, the monster is one of its targets, and none of the
shots before it has taken that monster. -/
def MayTake (ps : List Projectile) (ms : List Monster) (hits : List (Nat × Nat)) (i j : Nat) : Prop :=
  ∃ p, ps[i]? = some p ∧ p.active = true ∧ IsTarget p.body ms j ∧ ∀ before < i, (before, j) ∉ hits

/-- **The greedy choice**: the shots come in order, and each takes the first monster that it may
take. -/
structure Greedy (ps : List Projectile) (ms : List Monster) (hits : List (Nat × Nat)) : Prop where
  ordered : (hits.map Prod.fst).Pairwise (· < ·)
  mem_iff : ∀ i j, (i, j) ∈ hits ↔ IsLeast {j | MayTake ps ms hits i j} j

/-- A volley without shots has no hits. -/
theorem Greedy.nil (ms : List Monster) : Greedy [] ms [] where
  ordered := List.Pairwise.nil
  mem_iff := by simp [MayTake, IsLeast]

/-- The hits of a volley with one more shot in front: what that shot takes, if anything, and then the
hits of the later ones. -/
def withFront (front : Option Nat) (hits : List (Nat × Nat)) : List (Nat × Nat) :=
  (front.map fun j => (0, j)).toList ++ hits.map fun (i, j) => (i + 1, j)

section

variable {front : Option Nat} {hits : List (Nat × Nat)} {i j : Nat}

/-- The hit of the shot in front. -/
@[simp] theorem zero_mem_withFront : (0, j) ∈ withFront front hits ↔ front = some j := by
  simp [withFront]

/-- The hits of the later shots. -/
@[simp] theorem succ_mem_withFront : (i + 1, j) ∈ withFront front hits ↔ (i, j) ∈ hits := by
  simp [withFront]

/-- The shots that hit, in order. -/
theorem map_fst_withFront : (withFront front hits).map Prod.fst =
    (front.map fun _ => 0).toList ++ (hits.map Prod.fst).map (· + 1) := by
  cases front <;> simp [withFront, Function.comp_def]

/-- The monsters that are hit, in the order of the shots. -/
theorem map_snd_withFront :
    (withFront front hits).map Prod.snd = front.toList ++ hits.map Prod.snd := by
  cases front <;> simp [withFront, Function.comp_def]

/-- A later shot hits exactly when it did without the one in front. -/
@[simp] theorem succ_mem_map_fst_withFront :
    i + 1 ∈ (withFront front hits).map Prod.fst ↔ i ∈ hits.map Prod.fst := by
  rw [map_fst_withFront, List.mem_append]
  cases front <;> simp

/-- The shot in front hits exactly when it takes a monster. -/
@[simp] theorem zero_mem_map_fst_withFront :
    0 ∈ (withFront front hits).map Prod.fst ↔ front.isSome = true := by
  rw [map_fst_withFront]
  cases front <;> simp

/-- **One more shot in front** takes the first of its targets, and the later shots make their choice
among the monsters that it has left. -/
theorem Greedy.cons {p : Projectile} {ps : List Projectile} {ms left : List Monster}
    (h : Greedy ps left hits)
    (hfront : ∀ j, front = some j ↔ IsLeast {j | p.active = true ∧ IsTarget p.body ms j} j)
    (hleft : ∀ shot j, IsTarget shot left j ↔ IsTarget shot ms j ∧ front ≠ some j) :
    Greedy (p :: ps) ms (withFront front hits) where
  ordered := by
    have hlater : ((hits.map Prod.fst).map (· + 1)).Pairwise (· < ·) :=
      h.ordered.map _ fun _ _ => Nat.succ_lt_succ
    rw [map_fst_withFront]
    cases front with
    | none => exact hlater
    | some place =>
      refine List.pairwise_cons.mpr ⟨fun later hmem => ?_, hlater⟩
      obtain ⟨i, -, rfl⟩ := List.mem_map.mp hmem
      exact Nat.succ_pos i
  mem_iff := by
    intro i j
    cases i with
    | zero =>
      rw [zero_mem_withFront, hfront]
      simp [MayTake]
    | succ i =>
      -- a monster that the shot in front has taken is none of those that are left
      have hsame : ∀ j, MayTake (p :: ps) ms (withFront front hits) (i + 1) j ↔
          MayTake ps left hits i j := by
        intro j
        simp only [MayTake, List.getElem?_cons_succ, hleft, Nat.forall_lt_succ_left',
          zero_mem_withFront, succ_mem_withFront, and_assoc]
      simp only [succ_mem_withFront, h.mem_iff, hsame]

end

/-- **A volley makes the greedy choice**: the shots that hit are spent, the monsters that were hit are
dead, all else is as it was, and there are as many kills as pairs. -/
theorem exists_greedy (ps : List Projectile) (ms : List Monster) :
    ∃ hits, Greedy ps ms hits ∧ (strike ps ms).kills = hits.length ∧
      (∀ i, (strike ps ms).projectiles[i]? =
        ps[i]?.map fun p => if i ∈ hits.map Prod.fst then p.spend else p) ∧
      ∀ j, (strike ps ms).monsters[j]? =
        ms[j]?.map fun m => if j ∈ hits.map Prod.snd then m.kill else m := by
  -- each shot acts on the monsters that the shots before it have left
  induction ps generalizing ms with
  | nil => exact ⟨[], Greedy.nil ms, rfl, by simp [strike], by simp [strike]⟩
  | cons p ps ih =>
    rw [strike]
    split
    · next left hhit =>
      by_cases hp : p.active = true
      · rw [if_pos hp] at hhit
        obtain ⟨place, m, hplace, hget, rfl⟩ := killFirst?_eq_some hhit
        obtain ⟨hits, hgreedy, hkills, hprojectiles, hmonsters⟩ := ih (ms.set place m.kill)
        refine ⟨withFront (some place) hits, hgreedy.cons ?_ ?_, ?_, ?_, ?_⟩
        · intro j
          simp only [hp, true_and, Option.some.injEq]
          exact ⟨fun hj => hj ▸ hplace, fun hj => hplace.unique hj⟩
        · intro shot j
          rw [isTarget_set_kill hget, Ne, Ne, Option.some.injEq, eq_comm]
        · simp [withFront, hkills]
        · intro i
          cases i with
          | zero => simp
          | succ i => simp only [List.getElem?_cons_succ, hprojectiles, succ_mem_map_fst_withFront]
        · intro j
          rw [hmonsters, map_snd_withFront]
          by_cases hj : j = place
          · subst hj
            rw [List.getElem?_set_self (List.getElem?_eq_some_iff.mp hget).1, hget]
            simp [Monster.kill]
          · rw [List.getElem?_set_ne (Ne.symm hj)]
            simp only [Option.toList_some, List.singleton_append, List.mem_cons, hj, false_or]
      · rw [if_neg hp] at hhit
        cases hhit
    · next hmiss =>
      obtain ⟨hits, hgreedy, hkills, hprojectiles, hmonsters⟩ := ih ms
      refine ⟨withFront none hits, hgreedy.cons ?_ ?_, ?_, ?_, ?_⟩
      · intro j
        refine iff_of_false (Option.some_ne_none j).symm ?_
        rintro ⟨⟨hp, htarget⟩, -⟩
        rw [if_pos hp] at hmiss
        exact killFirst?_eq_none hmiss j htarget
      · simp
      · simp [withFront, hkills]
      · intro i
        cases i with
        | zero => simp
        | succ i => simp only [List.getElem?_cons_succ, hprojectiles, succ_mem_map_fst_withFront]
      · intro j
        rw [hmonsters, map_snd_withFront]
        rfl

/-- Pairs of places of a shot and of a monster that a volley may consist of: no shot hits twice, no
monster is hit twice, a live shot hits a live monster that it overlaps, and of what is left no live
shot overlaps a live monster. -/
structure Hits (ps : List Projectile) (ms : List Monster) (hits : List (Nat × Nat)) : Prop where
  shots_nodup : (hits.map Prod.fst).Nodup
  monsters_nodup : (hits.map Prod.snd).Nodup
  overlaps : ∀ i j, (i, j) ∈ hits → ∃ p m, ps[i]? = some p ∧ ms[j]? = some m ∧
    p.active = true ∧ m.active = true ∧ p.body.overlaps m.body = true
  maximal : ∀ i j p m, ps[i]? = some p → ms[j]? = some m → p.active = true → m.active = true →
    i ∉ hits.map Prod.fst → j ∉ hits.map Prod.snd → p.body.overlaps m.body = false

/-- **The greedy choice is one to one and cannot be added to.** -/
theorem Greedy.hits {ps : List Projectile} {ms : List Monster} {hits : List (Nat × Nat)}
    (h : Greedy ps ms hits) : Hits ps ms hits where
  shots_nodup := h.ordered.imp Nat.ne_of_lt
  monsters_nodup := by
    refine List.pairwise_map.mpr ((List.pairwise_map.mp h.ordered).imp_of_mem ?_)
    rintro ⟨i, j⟩ ⟨i', j'⟩ hearlier hlater hlt rfl
    -- the later shot may not take what the earlier one has taken
    obtain ⟨⟨p, -, -, -, hfree⟩, -⟩ := (h.mem_iff i' j).mp hlater
    exact hfree i hlt hearlier
  overlaps := by
    intro i j hmem
    obtain ⟨⟨p, hp, hlive, ⟨m, hm, halive, hover⟩, -⟩, -⟩ := (h.mem_iff i j).mp hmem
    exact ⟨p, m, hp, hm, hlive, halive, hover⟩
  maximal := by
    intro i j p m hp hm hlive halive hi hj
    by_contra hover
    rw [Bool.not_eq_false] at hover
    -- a shot that may take a monster takes the first such one
    have hmay : ∃ j, MayTake ps ms hits i j := ⟨j, p, hp, hlive, ⟨m, hm, halive, hover⟩,
      fun before _ htaken => hj (List.mem_map_of_mem htaken)⟩
    classical
    have htaken : (i, Nat.find hmay) ∈ hits :=
      (h.mem_iff _ _).mpr ⟨Nat.find_spec hmay, fun _ hother => Nat.find_min' hmay hother⟩
    exact hi (List.mem_map_of_mem htaken)

/-- **A volley consists of hits**: the shots that hit are spent, the monsters that were hit are dead,
all else is as it was, and there are as many kills as pairs. -/
theorem exists_hits (ps : List Projectile) (ms : List Monster) :
    ∃ hits, Hits ps ms hits ∧ (strike ps ms).kills = hits.length ∧
      (∀ i, (strike ps ms).projectiles[i]? =
        ps[i]?.map fun p => if i ∈ hits.map Prod.fst then p.spend else p) ∧
      ∀ j, (strike ps ms).monsters[j]? =
        ms[j]?.map fun m => if j ∈ hits.map Prod.snd then m.kill else m := by
  obtain ⟨hits, hgreedy, hrest⟩ := exists_greedy ps ms
  exact ⟨hits, hgreedy.hits, hrest⟩

/-- A monster that is alive after a volley is as it was before. -/
theorem mem_of_mem_strike_monsters {ps : List Projectile} {ms : List Monster} {m : Monster}
    (hm : m ∈ (strike ps ms).monsters) (hactive : m.active = true) : m ∈ ms := by
  obtain ⟨hits, -, -, -, hdead⟩ := exists_hits ps ms
  obtain ⟨place, hplace⟩ := List.mem_iff_getElem?.mp hm
  rw [hdead] at hplace
  obtain ⟨m₀, hm₀, rfl⟩ := Option.map_eq_some_iff.mp hplace
  split at hactive
  · cases hactive
  · next hspared =>
    rw [if_neg hspared]
    exact List.mem_of_getElem? hm₀

/-- A projectile that is live after a volley is as it was before. -/
theorem mem_of_mem_strike_projectiles {ps : List Projectile} {ms : List Monster} {p : Projectile}
    (hp : p ∈ (strike ps ms).projectiles) (hactive : p.active = true) : p ∈ ps := by
  obtain ⟨hits, -, -, hspent, -⟩ := exists_hits ps ms
  obtain ⟨place, hplace⟩ := List.mem_iff_getElem?.mp hp
  rw [hspent] at hplace
  obtain ⟨p₀, hp₀, rfl⟩ := Option.map_eq_some_iff.mp hplace
  split at hactive
  · cases hactive
  · next hmissed =>
    rw [if_neg hmissed]
    exact List.mem_of_getElem? hp₀

/-! ### What is left -/

/-- A list without its entries at given places. -/
def without {α : Type} (places : List Nat) (l : List α) : List α :=
  (l.zipIdx.filter fun x => !places.contains x.2).map Prod.fst

/-- What is left is what stood at the other places. -/
theorem mem_without {α : Type} {places : List Nat} {l : List α} {a : α} :
    a ∈ without places l ↔ ∃ i, l[i]? = some a ∧ i ∉ places := by
  simp only [without, List.mem_map, List.mem_filter, Prod.exists, List.mem_zipIdx_iff_getElem?,
    Bool.not_eq_true', List.contains_eq_mem, decide_eq_false_iff_not]
  constructor
  · rintro ⟨b, i, ⟨hget, hi⟩, rfl⟩
    exact ⟨i, hget, hi⟩
  · rintro ⟨i, hget, hi⟩
    exact ⟨a, i, ⟨hget, hi⟩, rfl⟩

/-- **Clearing the dead** of a list in which the entries at given places have died leaves the list
without them. -/
theorem filter_eq_without {α : Type} {places : List Nat} {l l' : List α} (live : α → Bool)
    (die : α → α) (hdie : ∀ a, live (die a) = false) (hlive : ∀ a ∈ l, live a = true)
    (hget : ∀ i, l'[i]? = l[i]?.map fun a => if i ∈ places then die a else a) :
    l'.filter live = without places l := by
  have hall : l' = l.zipIdx.map fun x => if x.2 ∈ places then die x.1 else x.1 := by
    refine List.ext_getElem? fun i => ?_
    rw [hget, List.getElem?_map, List.getElem?_zipIdx, Option.map_map, Nat.zero_add]
    rfl
  have hkept : l.zipIdx.filter (live ∘ fun x => if x.2 ∈ places then die x.1 else x.1) =
      l.zipIdx.filter fun x => !places.contains x.2 := by
    refine List.filter_congr fun x hx => ?_
    have hmem : x.1 ∈ l := List.fst_mem_of_mem_zipIdx hx
    by_cases hplace : x.2 ∈ places
    · simp [hplace, hdie]
    · simp [hplace, hlive _ hmem]
  rw [hall, List.filter_map, hkept, without]
  refine List.map_congr_left fun x hx => ?_
  have hplace := (List.mem_filter.mp hx).2
  simp only [Bool.not_eq_true', List.contains_eq_mem, decide_eq_false_iff_not] at hplace
  rw [if_neg hplace]

/-! ### The number of kills -/

/-- A shot that hits costs one live monster. -/
theorem countP_killFirst? {shot : Box} {ms ms' : List Monster} (h : killFirst? shot ms = some ms') :
    ms'.countP (·.active) + 1 = ms.countP (·.active) := by
  induction ms generalizing ms' with
  | nil => simp [killFirst?] at h
  | cons m ms ih =>
    rw [killFirst?] at h
    by_cases hhit : (m.active && shot.overlaps m.body) = true
    · rw [if_pos hhit] at h
      cases h
      rw [Bool.and_eq_true] at hhit
      rw [List.countP_cons_of_pos hhit.1, List.countP_cons_of_neg (by simp [Monster.kill])]
    · rw [if_neg hhit] at h
      obtain ⟨rest, hrest, rfl⟩ := Option.map_eq_some_iff.mp h
      rw [List.countP_cons, List.countP_cons, ← ih hrest, Nat.add_right_comm]

/-- **Every kill costs a live monster.** -/
theorem countP_monsters_strike (ps : List Projectile) (ms : List Monster) :
    (strike ps ms).monsters.countP (·.active) + (strike ps ms).kills = ms.countP (·.active) := by
  induction ps generalizing ms with
  | nil => rfl
  | cons p ps ih =>
    rw [strike]
    split
    · next ms' hhit =>
      by_cases hp : p.active = true
      · rw [if_pos hp] at hhit
        rw [← countP_killFirst? hhit, ← ih ms', Nat.add_assoc]
      · rw [if_neg hp] at hhit
        cases hhit
    · exact ih ms

/-- **Every kill costs a live shot.** -/
theorem countP_projectiles_strike (ps : List Projectile) (ms : List Monster) :
    (strike ps ms).projectiles.countP (·.active) + (strike ps ms).kills =
      ps.countP (·.active) := by
  induction ps generalizing ms with
  | nil => rfl
  | cons p ps ih =>
    rw [strike]
    split
    · next ms' hhit =>
      by_cases hp : p.active = true
      · rw [List.countP_cons_of_pos hp, List.countP_cons_of_neg (by simp [Projectile.spend]),
          ← ih ms', Nat.add_assoc]
      · rw [if_neg hp] at hhit
        cases hhit
    · rw [List.countP_cons, List.countP_cons, ← ih ms, Nat.add_right_comm]

end Platformer
