import Mathlib.Data.List.Forall2
import Platformer.Proofs.Volley

/-! # A volley as a matching

The pairs of a volley are not handed over by it; all that one sees is which shots and which monsters
were live before and are not any more. These are matched with each other, and the order of the shots
settles how: the greedy choice leaves nothing open.

* **`lost`** — the places where something was live before and is not any more; **`perm_lost`** — they
  are the places at which something died.
* **`Greedy.unique`** — the order of the shots and of the monsters settles the pairs.
* **`Hits.apart`** — no live shot is left over a live monster.
* **`strike_matches_greedily`** — the shots and the monsters that a volley costs, matched. -/

namespace Platformer

/-! ### What was live and is not any more -/

/-- The places where something was live before and is not any more. -/
def lost {α : Type} (live : α → Bool) (before after : List α) : List Nat :=
  (before.zip after).findIdxs fun (a, b) => live a && !live b

section

variable {α : Type} {live : α → Bool} {die : α → α} {before after : List α} {places : List Nat}

/-- A place is lost if what stands there was live and is not. -/
theorem mem_lost {place : Nat} : place ∈ lost live before after ↔
    ∃ a b, before[place]? = some a ∧ after[place]? = some b ∧ live a = true ∧ live b = false := by
  rw [lost, List.mem_findIdxs_iff_exists_getElem_pos]
  constructor
  · rintro ⟨hplace, hlost⟩
    rw [List.length_zip, Nat.lt_min] at hplace
    exact ⟨before[place], after[place], List.getElem?_eq_getElem hplace.1,
      List.getElem?_eq_getElem hplace.2, by simpa using hlost⟩
  · rintro ⟨a, b, ha, hb, hlive, hdead⟩
    obtain ⟨hbefore, rfl⟩ := List.getElem?_eq_some_iff.mp ha
    obtain ⟨hafter, rfl⟩ := List.getElem?_eq_some_iff.mp hb
    exact ⟨by simpa using And.intro hbefore hafter, by simp [hlive, hdead]⟩

/-- **What is lost is what died**, if only the living die and nothing else changes. -/
theorem perm_lost (hdie : ∀ a, live (die a) = false) (hnodup : places.Nodup)
    (hlive : ∀ place ∈ places, ∃ a, before[place]? = some a ∧ live a = true)
    (hget : ∀ i, after[i]? = before[i]?.map fun a => if i ∈ places then die a else a) :
    (lost live before after).Perm places := by
  refine (List.perm_ext_iff_of_nodup ?_ hnodup).mpr fun place => ?_
  · exact List.pairwise_findIdxs.imp Nat.ne_of_lt
  · rw [mem_lost]
    constructor
    · rintro ⟨a, b, ha, hb, hwas, hdead⟩
      by_contra hspared
      -- elsewhere everything is as it was
      rw [hget, ha, Option.map_some, if_neg hspared] at hb
      cases hb
      rw [hwas] at hdead
      cases hdead
    · intro hplace
      obtain ⟨a, ha, hwas⟩ := hlive place hplace
      exact ⟨a, die a, ha, by rw [hget, ha, Option.map_some, if_pos hplace], hwas, hdie a⟩

/-- **Everything stays in its place** and as it was, unless it was live and died. -/
theorem forall₂_of_getElem? (hlength : before.length = after.length)
    (hlive : ∀ place ∈ places, ∃ a, before[place]? = some a ∧ live a = true)
    (hget : ∀ i, after[i]? = before[i]?.map fun a => if i ∈ places then die a else a) :
    List.Forall₂ (fun a b => b = a ∨ live a = true ∧ b = die a) before after := by
  refine List.forall₂_iff_get.mpr ⟨hlength, fun i hbefore hafter => ?_⟩
  have hentry := hget i
  rw [List.getElem?_eq_getElem hafter, List.getElem?_eq_getElem hbefore, Option.map_some,
    Option.some.injEq] at hentry
  rw [List.get_eq_getElem, List.get_eq_getElem, hentry]
  split
  · next hplace =>
    obtain ⟨a, ha, hwas⟩ := hlive i hplace
    rw [List.getElem?_eq_getElem hbefore, Option.some.injEq] at ha
    exact Or.inr ⟨ha ▸ hwas, rfl⟩
  · exact Or.inl rfl

end

/-! ### The pairs -/

variable {ps : List Projectile} {ms : List Monster} {hits other : List (Nat × Nat)}

/-- Two greedy choices make the same pairs: what a shot may take depends on the shots before it
only. -/
theorem Greedy.mem_iff_mem (h : Greedy ps ms hits) (h' : Greedy ps ms other) (i j : Nat) :
    (i, j) ∈ hits ↔ (i, j) ∈ other := by
  induction i using Nat.strongRecOn generalizing j with
  | _ i ih =>
    have hsame : ∀ j, MayTake ps ms hits i j ↔ MayTake ps ms other i j := by
      intro j
      have hfree : (∀ before < i, (before, j) ∉ hits) ↔ ∀ before < i, (before, j) ∉ other :=
        forall₂_congr fun before hbefore => not_congr (ih before hbefore j)
      simp only [MayTake, hfree]
    rw [h.mem_iff, h'.mem_iff]
    simp only [hsame]

/-- **The greedy choice is one only.** -/
theorem Greedy.unique (h : Greedy ps ms hits) (h' : Greedy ps ms other) : other = hits := by
  have hordered := List.pairwise_map.mp h.ordered
  have hordered' := List.pairwise_map.mp h'.ordered
  have hne : ∀ {a b : Nat × Nat}, a.1 < b.1 → a ≠ b := by
    rintro a b hlt rfl
    exact Nat.lt_irrefl _ hlt
  have hperm : other.Perm hits :=
    (List.perm_ext_iff_of_nodup (hordered'.imp hne) (hordered.imp hne)).mpr
      fun (i, j) => h'.mem_iff_mem h i j
  exact hperm.eq_of_pairwise (fun _ _ _ _ hab hba => absurd hab (Nat.lt_asymm hba)) hordered'
    hordered

/-- Each shot of a pair was live. -/
theorem Hits.shot_live (h : Hits ps ms hits) {i : Nat} (hi : i ∈ hits.map Prod.fst) :
    ∃ p, ps[i]? = some p ∧ p.active = true := by
  obtain ⟨⟨i, j⟩, hpair, rfl⟩ := List.mem_map.mp hi
  obtain ⟨p, -, hp, -, hlive, -⟩ := h.overlaps i j hpair
  exact ⟨p, hp, hlive⟩

/-- Each monster of a pair was alive. -/
theorem Hits.monster_live (h : Hits ps ms hits) {j : Nat} (hj : j ∈ hits.map Prod.snd) :
    ∃ m, ms[j]? = some m ∧ m.active = true := by
  obtain ⟨⟨i, j⟩, hpair, rfl⟩ := List.mem_map.mp hj
  obtain ⟨-, m, -, hm, -, halive, -⟩ := h.overlaps i j hpair
  exact ⟨m, hm, halive⟩

/-- **Nothing is left to hit** where just the shots and the monsters of the pairs are gone: what is
live afterwards is in none of the pairs. -/
theorem Hits.apart (h : Hits ps ms hits) {ps' : List Projectile} {ms' : List Monster}
    (hspent : ∀ i, ps'[i]? = ps[i]?.map fun p => if i ∈ hits.map Prod.fst then p.spend else p)
    (hdead : ∀ j, ms'[j]? = ms[j]?.map fun m => if j ∈ hits.map Prod.snd then m.kill else m) :
    ∀ p ∈ ps', ∀ m ∈ ms', p.active = true → m.active = true →
      p.body.overlaps m.body = false := by
  intro p hp m hm hlive halive
  obtain ⟨i, hi⟩ := List.mem_iff_getElem?.mp hp
  obtain ⟨j, hj⟩ := List.mem_iff_getElem?.mp hm
  rw [hspent] at hi
  rw [hdead] at hj
  obtain ⟨p₀, hp₀, rfl⟩ := Option.map_eq_some_iff.mp hi
  obtain ⟨m₀, hm₀, rfl⟩ := Option.map_eq_some_iff.mp hj
  split at hlive
  · cases hlive
  · next hmissed =>
    split at halive
    · cases halive
    · next hspared =>
      rw [if_neg hmissed, if_neg hspared]
      exact h.maximal i j p₀ m₀ hp₀ hm₀ hlive halive hmissed hspared

/-- **A volley matches shots with monsters greedily.** It counts as many kills as there are shots that
were live and are spent, and as there are monsters that were alive and are dead. These are matched one
to one by pairs that overlap, namely by the one greedy choice, in which each live shot in turn takes
the first monster that it overlaps and that is still alive. Afterwards no live shot overlaps a live
monster. Every entry stays in its place, and is as it was unless it was live and is not any more. -/
theorem strike_matches_greedily (ps : List Projectile) (ms : List Monster) :
    (strike ps ms).kills = (lost (·.active) ps (strike ps ms).projectiles).length ∧
    (strike ps ms).kills = (lost (·.active) ms (strike ps ms).monsters).length ∧
    (∃ hits, Greedy ps ms hits ∧ (∀ other, Greedy ps ms other → other = hits) ∧
      Hits ps ms hits ∧
      (lost (·.active) ps (strike ps ms).projectiles).Perm (hits.map Prod.fst) ∧
      (lost (·.active) ms (strike ps ms).monsters).Perm (hits.map Prod.snd)) ∧
    (∀ p ∈ (strike ps ms).projectiles, ∀ m ∈ (strike ps ms).monsters, p.active = true →
      m.active = true → p.body.overlaps m.body = false) ∧
    List.Forall₂ (fun p q => q = p ∨ p.active = true ∧ q = p.spend) ps
      (strike ps ms).projectiles ∧
    List.Forall₂ (fun m n => n = m ∨ m.active = true ∧ n = m.kill) ms (strike ps ms).monsters := by
  obtain ⟨hits, hgreedy, hkills, hspent, hdead⟩ := exists_greedy ps ms
  have hhits := hgreedy.hits
  have hshots : ∀ i ∈ hits.map Prod.fst, ∃ p, ps[i]? = some p ∧ p.active = true :=
    fun _ => hhits.shot_live
  have htargets : ∀ j ∈ hits.map Prod.snd, ∃ m, ms[j]? = some m ∧ m.active = true :=
    fun _ => hhits.monster_live
  have hshotsLost : (lost (·.active) ps (strike ps ms).projectiles).Perm (hits.map Prod.fst) :=
    perm_lost (by intro p; rfl) hhits.shots_nodup hshots hspent
  have htargetsLost : (lost (·.active) ms (strike ps ms).monsters).Perm (hits.map Prod.snd) :=
    perm_lost (by intro m; rfl) hhits.monsters_nodup htargets hdead
  refine ⟨?_, ?_, ⟨hits, hgreedy, fun other h => hgreedy.unique h, hhits, hshotsLost,
    htargetsLost⟩, hhits.apart hspent hdead, ?_, ?_⟩
  · rw [hkills, hshotsLost.length_eq, List.length_map]
  · rw [hkills, htargetsLost.length_eq, List.length_map]
  · exact forall₂_of_getElem? (length_projectiles_strike ps ms).symm hshots hspent
  · exact forall₂_of_getElem? (length_monsters_strike ps ms).symm htargets hdead

/-- Two shots over the same two monsters kill both: the second shot takes the one that is left. -/
example :
    let shot : Projectile := .firedFrom ⟨120, 125⟩ (-10)
    let monster : Monster := .spawn 100 100 1 1.5
    strike [shot, shot, shot] [monster, monster] =
      ⟨[shot.spend, shot.spend, shot], [monster.kill, monster.kill], 2⟩ := by
  decide +kernel

end Platformer
