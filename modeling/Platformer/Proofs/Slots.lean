import Platformer.Proofs.Outcome

/-! # The life of a platform slot

A frame writes the slots of the platforms four times: the platforms move, those below the picture
leave their slots, new ones take vacant slots, and a breakable platform leaves its slot when the
player lands on it. This file follows one slot through a frame, and through any run of calls.

* **`Platform.Slides`** — what the motion of a frame leaves alone in a platform.
* **`Game.Remains`** — the platform of a slot after the contacts of a frame.
* **`Game.Lifecycle`**, **`Game.lifecycle_outcome`** — what a frame makes of a slot.
* **`Game.Writes`**, **`Game.vacant_or_writes`** — the calls that put a new platform into a slot; a
  vacant slot stays vacant until one of them.
* **`Game.Rewritten`**, **`Game.slot_lifecycle`** — a platform that broke never comes back. -/

namespace Platformer

/-! ### The motion of a platform -/

namespace Platform

/-- A platform that has slid: it has changed nothing but its place from left to right and its
direction, and neither of them unless it is a moving one. -/
structure Slides (p q : Platform) : Prop where
  kind : q.kind = p.kind
  active : q.active = p.active
  speed : q.speed = p.speed
  top : q.body.top = p.body.top
  width : q.body.width = p.body.width
  height : q.body.height = p.body.height
  still : p.kind ≠ .moving → q = p

/-- The motion of a frame slides a platform. -/
theorem slides_advance (p : Platform) (dt multiplier : Single) :
    p.Slides (p.advance dt multiplier) := by
  rw [advance]
  split
  · next hmoves =>
    have hkind : p.kind = .moving := by
      simp only [Bool.and_eq_true, beq_iff_eq] at hmoves
      exact hmoves.2
    exact ⟨rfl, rfl, rfl, rfl, rfl, rfl, fun hstill => absurd hkind hstill⟩
  · exact ⟨rfl, rfl, rfl, rfl, rfl, rfl, fun _ => rfl⟩

/-- A free slot does not move. -/
theorem advance_of_inactive {p : Platform} (h : p.active = false) (dt multiplier : Single) :
    p.advance dt multiplier = p := by
  simp [advance, h]

/-- A slot that is free already stays as it is when it is freed. -/
theorem free_of_inactive {p : Platform} (h : p.active = false) : p.free = p := by
  rw [free, ← h]

end Platform

namespace Game

/-- A platform after the motion of a frame. -/
def slid (game : Game) (time : Single) (p : Platform) : Platform :=
  p.advance time (game.tuning.speedMultiplier game.score)

/-- Whether a platform is below the height at which platforms leave their slots. -/
def drops (game : Game) (p : Platform) : Bool := cullLimit game.camera game.tuning < p.body.top

/-- **A slot before platforms are made**: its platform has moved, and has left if it is below the
limit. -/
theorem getElem?_cleared (game : Game) (time : Single) (slot : Nat) :
    (game.cleared time)[slot]? = game.platforms[slot]?.map fun p =>
      if p.active && game.drops p then (game.slid time p).free else game.slid time p := by
  -- the motion changes neither whether a platform is there nor how high it is
  have hbelow (p : Platform) : (game.slid time p).isBelow (cullLimit game.camera game.tuning) =
      (p.active && game.drops p) := by
    have hslides := p.slides_advance time (game.tuning.speedMultiplier game.score)
    rw [Platform.isBelow, slid, hslides.active, hslides.top, drops]
  rw [cleared, cull, List.map_map, List.getElem?_map]
  congr 1
  funext p
  simp only [Function.comp_apply, ← hbelow]
  rfl

/-- A vacant slot is vacant until platforms are made. -/
theorem vacant_cleared {game : Game} {slot : Nat} (h : Vacant game.platforms slot)
    (time : Single) : Vacant (game.cleared time) slot := by
  intro q hq
  rw [getElem?_cleared] at hq
  obtain ⟨p, hp, rfl⟩ := Option.map_eq_some_iff.mp hq
  have hfree := h p hp
  simp [hfree, slid, Platform.advance_of_inactive hfree]

/-! ### A slot in a frame -/

/-- What becomes of the platform of a slot in the contacts of a frame: it stays as it is, unless it is
breakable and the player lands on it, which is reported. -/
inductive Remains (next : Game) (slot : Nat) (p : Platform) : Prop
  | stays (hslot : next.platforms[slot]? = some p)
      (hwhole : .platformBroken slot ∉ next.events)
  | breaks (hslot : next.platforms[slot]? = some p.free) (hkind : p.kind = .breakable)
      (hbroken : .platformBroken slot ∈ next.events)
      (hlanded : .landed slot .breakable ∈ next.events)

/-- One of the new platforms of a frame is in a slot, as the contacts of the frame leave it. -/
def Refilled (next : Game) (created : List Platform) (slot : Nat) : Prop :=
  ∃ new ∈ created, next.Remains slot new

/-- **What a frame makes of a slot.** A free slot stays as it is or gets a new platform; a platform
that is not below the limit is still there, where its motion takes it; one below the limit leaves the
slot, which may get a new platform at once; and what the store grows by is new. -/
structure Lifecycle (game next : Game) (time : Single) (created : List Platform) (slot : Nat) :
    Prop where
  free : ∀ p ∈ game.platforms[slot]?, p.active = false →
    next.platforms[slot]? = some p ∨ next.Refilled created slot
  kept : ∀ p ∈ game.platforms[slot]?, p.active = true → game.drops p = false →
    p.Slides (game.slid time p) ∧ next.Remains slot (game.slid time p)
  dropped : ∀ p ∈ game.platforms[slot]?, p.active = true → game.drops p = true →
    next.platforms[slot]? = some (game.slid time p).free ∨ next.Refilled created slot
  appended : game.platforms.length ≤ slot →
    ∀ q ∈ next.platforms[slot]?, next.Refilled created slot

/-- A slot that is free before the contacts of a frame is as it was after them. -/
theorem Remains.getElem?_of_inactive {next : Game} {slot : Nat} {p : Platform}
    (h : next.Remains slot p) (hfree : p.active = false) : next.platforms[slot]? = some p := by
  cases h with
  | stays hslot hwhole => exact hslot
  | breaks hslot hkind hbroken hlanded => rwa [Platform.free_of_inactive hfree] at hslot

/-- **A frame keeps the platform of a slot**, unless the player breaks it. -/
theorem remains_outcome (game : Game) {s : Setup} (time : Single) {slot : Nat} {p : Platform}
    (hslot : s.filling.platforms[slot]? = some p) : (game.outcome s time).Remains slot p := by
  have hafter := getElem?_platforms_outcome game s time slot
  rw [hslot] at hafter
  by_cases hlanding : (game.setUp s).landing? = some (slot, .breakable)
  · rw [if_pos hlanding] at hafter
    -- the platform that the player lands on is the one in the slot
    obtain ⟨⟨q, place⟩, hfirst, heq⟩ := Option.map_eq_some_iff.mp hlanding
    obtain ⟨rfl, hkind⟩ := Prod.mk.inj heq
    have hsame : some q = some p := (firstLanding?_eq_some hfirst).1.symm.trans hslot
    cases hsame
    refine .breaks hafter hkind ?_ ?_
    · rw [events_outcome]
      exact (game.report s time).platformBroken_mem_events.mpr hlanding
    · rw [events_outcome]
      exact (game.report s time).landed_mem_events.mpr hlanding
  · rw [if_neg hlanding] at hafter
    refine .stays hafter ?_
    rw [events_outcome, Report.platformBroken_mem_events]
    exact hlanding

/-- **A slot after a frame**: what was in it before platforms were made, or a new platform if nothing
was. -/
theorem remains_or_refilled {game : Game} {s : Setup} {time : Single}
    (hsetup : game.IsSetup time s) {slot : Nat} {p : Platform}
    (hslot : (game.cleared time)[slot]? = some p) :
    (game.outcome s time).Remains slot p ∨
      p.active = false ∧ (game.outcome s time).Refilled s.filling.created slot := by
  rcases getElem?_fill hsetup.refill_eq slot with hsame | ⟨hvacant, new, hmem, hnew⟩
  · exact Or.inl (remains_outcome game time (hsame.trans hslot))
  · exact Or.inr ⟨hvacant p hslot, new, hmem, remains_outcome game time hnew⟩

/-- **Every slot lives on in a frame.** -/
theorem lifecycle_outcome {game : Game} {s : Setup} {time : Single} (hsetup : game.IsSetup time s)
    (slot : Nat) : game.Lifecycle (game.outcome s time) time s.filling.created slot where
  free := by
    intro p hp hfree
    have hcleared : (game.cleared time)[slot]? = some p := by
      rw [getElem?_cleared, Option.mem_def.mp hp]
      simp [hfree, slid, Platform.advance_of_inactive hfree]
    rcases remains_or_refilled hsetup hcleared with hremains | ⟨-, hnew⟩
    · exact Or.inl (hremains.getElem?_of_inactive hfree)
    · exact Or.inr hnew
  kept := by
    intro p hp hactive hstays
    have hslides : p.Slides (game.slid time p) := p.slides_advance _ _
    have hcleared : (game.cleared time)[slot]? = some (game.slid time p) := by
      rw [getElem?_cleared, Option.mem_def.mp hp]
      simp [hstays]
    refine ⟨hslides, ?_⟩
    -- a platform that is there keeps new ones out of its slot
    rcases remains_or_refilled hsetup hcleared with hremains | ⟨hfree, -⟩
    · exact hremains
    · rw [hslides.active, hactive] at hfree
      cases hfree
  dropped := by
    intro p hp hactive hdrops
    have hcleared : (game.cleared time)[slot]? = some (game.slid time p).free := by
      rw [getElem?_cleared, Option.mem_def.mp hp]
      simp [hactive, hdrops]
    rcases remains_or_refilled hsetup hcleared with hremains | ⟨-, hnew⟩
    · exact Or.inl (hremains.getElem?_of_inactive rfl)
    · exact Or.inr hnew
  appended := by
    intro hbeyond q hq
    have hcleared : (game.cleared time)[slot]? = none := by
      rw [List.getElem?_eq_none_iff, length_cleared]
      exact hbeyond
    rcases getElem?_fill hsetup.refill_eq slot with hsame | ⟨-, new, hmem, hnew⟩
    · have hafter := getElem?_platforms_outcome game s time slot
      rw [hsame, hcleared, Option.map_none, ite_self] at hafter
      rw [hafter] at hq
      cases hq
    · exact ⟨new, hmem, remains_outcome game time hnew⟩

/-! ### A vacant slot -/

/-- **The calls that put a new platform into a slot**: one that begins a new run, whose platforms are
all new, and a frame that makes a platform for the vacant slot. -/
inductive Writes (game next : Game) (slot : Nat) : Call → Prop
  | restart {call : Call} (hbegins : game.begins call = true) (hfresh : next.Fresh)
      (hslot : slot < next.platforms.length) : Writes game next slot call
  | fill {c : Controls} {dt time : Single} {filling : Filling} {new : Platform}
      (hrunning : game.running = true) (htime : clampTime dt game.tuning.frameTimeMax = .ok time)
      (hfill : game.refill time = .ok filling) (hvacant : Vacant (game.cleared time) slot)
      (hnew : new ∈ filling.created) (hslot : filling.platforms[slot]? = some new) :
      Writes game next slot (.tick c dt)

/-- A slot that is vacant before a frame is vacant until its contacts, unless the frame writes it. -/
theorem vacant_or_writes_setUp {game next : Game} {s : Setup} {time : Single} {slot : Nat}
    (hvacant : Vacant game.platforms slot) (hrunning : game.running = true) (c : Controls)
    {dt : Single} (htime : clampTime dt game.tuning.frameTimeMax = .ok time)
    (hsetup : game.IsSetup time s) :
    Vacant s.filling.platforms slot ∨ game.Writes next slot (.tick c dt) := by
  rcases getElem?_fill hsetup.refill_eq slot with hsame | ⟨hfree, new, hmem, hnew⟩
  · refine Or.inl ?_
    rw [Vacant, hsame]
    exact vacant_cleared hvacant time
  · exact Or.inr (.fill hrunning htime hsetup.refill_eq hfree hmem hnew)

/-- The contacts of a frame leave a vacant slot vacant. -/
theorem vacant_outcome (game : Game) {s : Setup} (time : Single) {slot : Nat}
    (h : Vacant s.filling.platforms slot) : Vacant (game.outcome s time).platforms slot := by
  intro q hq
  rw [getElem?_platforms_outcome] at hq
  split at hq
  · obtain ⟨p, hp, rfl⟩ := Option.map_eq_some_iff.mp hq
    rfl
  · exact h q hq

/-- **A vacant slot stays vacant** until a call writes it. -/
theorem vacant_or_writes {game next : Game} {call : Call} {slot : Nat}
    (hvacant : Vacant game.platforms slot) (heffect : Effect game call next) :
    Vacant next.platforms slot ∨ game.Writes next slot call := by
  cases heffect with
  | @frame c dt next notices hrunning hstep =>
    obtain ⟨time, s, htime, hsetup, rfl⟩ := step_eq_setUp hstep
    exact (vacant_or_writes_setUp hvacant hrunning c htime hsetup).imp_left (vacant_outcome game time)
  | newRun hbegins hfresh =>
    by_cases hslot : slot < next.platforms.length
    · exact Or.inr (.restart hbegins hfresh hslot)
    · refine Or.inl fun p hp => ?_
      rw [List.getElem?_eq_none (Nat.le_of_not_lt hslot)] at hp
      cases hp
  | shot hshot =>
    obtain ⟨shot, timer, -, rfl⟩ := shoot?_eq_some hshot
    exact Or.inl hvacant
  | _ => exact Or.inl hvacant

/-! ### Landings on a slot -/

/-- **A landing on a breakable platform** leaves its slot vacant. -/
theorem vacant_of_landed {game next : Game} {c : Controls} {dt : Single} {slot : Nat}
    (heffect : FrameEffect game c dt next) (hlanded : .landed slot .breakable ∈ next.events) :
    Vacant next.platforms slot := by
  obtain ⟨time, s, -, -, -, rfl, hlanding⟩ := heffect.exists_landing hlanded
  intro q hq
  rw [getElem?_platforms_outcome, if_pos hlanding] at hq
  obtain ⟨p, hp, rfl⟩ := Option.map_eq_some_iff.mp hq
  rfl

/-- **A landing on a slot that was vacant** is on a platform that the frame has put there. -/
theorem writes_of_landed {game next : Game} {c : Controls} {dt : Single} {slot : Nat}
    {kind : PlatformKind} (hvacant : Vacant game.platforms slot)
    (heffect : FrameEffect game c dt next) (hlanded : .landed slot kind ∈ next.events) :
    game.Writes next slot (.tick c dt) := by
  obtain ⟨time, s, hrunning, htime, hsetup, rfl, hlanding⟩ := heffect.exists_landing hlanded
  rcases vacant_or_writes_setUp hvacant hrunning c htime hsetup with hfree | hwrites
  -- nobody lands on a free slot
  · obtain ⟨⟨p, place⟩, hfirst, heq⟩ := Option.map_eq_some_iff.mp hlanding
    obtain ⟨rfl, -⟩ := Prod.mk.inj heq
    obtain ⟨hslot, hlands⟩ := firstLanding?_eq_some hfirst
    have hinactive : p.active = false := hfree p hslot
    rw [Player.landsOn, hinactive] at hlands
    cases hlands
  · exact hwrites

/-- A frame that is performed is one that was played. -/
theorem frameEffect_of_perform {game next : Game} {c : Controls} {dt : Single}
    (h : game.perform (.tick c dt) = .ok next) : FrameEffect game c dt next := by
  obtain ⟨⟨played, notices⟩, htick, hnext⟩ := bind_eq_ok h
  cases hnext
  exact frameEffect_of_tick htick

/-! ### Runs -/

/-- One of a sequence of calls on a game puts a new platform into a slot. -/
def Rewritten (game : Game) (calls : List Call) (slot : Nat) : Prop :=
  ∃ earlier call later before after, calls = earlier ++ call :: later ∧
    game.run earlier = .ok before ∧ before.perform call = .ok after ∧
    before.Writes after slot call

/-- The first call may be the one. -/
theorem Rewritten.head {game next : Game} {call : Call} {slot : Nat}
    (hperform : game.perform call = .ok next) (h : game.Writes next slot call)
    (calls : List Call) : game.Rewritten (call :: calls) slot :=
  ⟨[], call, calls, game, next, rfl, rfl, hperform, h⟩

/-- One of the later calls may be the one. -/
theorem Rewritten.tail {game next : Game} {call : Call} {calls : List Call} {slot : Nat}
    (hperform : game.perform call = .ok next) (h : next.Rewritten calls slot) :
    game.Rewritten (call :: calls) slot := by
  obtain ⟨earlier, call', later, before, after, rfl, hearlier, hperform', hwrites⟩ := h
  refine ⟨call :: earlier, call', later, before, after, rfl, ?_, hperform', hwrites⟩
  rw [run, hperform]
  exact hearlier

/-- **A run that ends with a landing on a slot** that was vacant at first has put a new platform
there. -/
theorem rewritten_of_landed {game last : Game} {calls : List Call} {c : Controls} {dt : Single}
    {slot : Nat} {kind : PlatformKind} (hvacant : Vacant game.platforms slot)
    (hrun : game.run (calls ++ [.tick c dt]) = .ok last)
    (hlanded : .landed slot kind ∈ last.events) :
    game.Rewritten (calls ++ [.tick c dt]) slot := by
  -- the slot is vacant until a call writes it, and the last frame needs a platform there
  induction calls generalizing game with
  | nil =>
    obtain ⟨next, hperform, hnext⟩ := bind_eq_ok hrun
    cases hnext
    exact .head hperform (writes_of_landed hvacant (frameEffect_of_perform hperform) hlanded) []
  | cons call calls ih =>
    obtain ⟨next, hperform, hrest⟩ := bind_eq_ok hrun
    rcases vacant_or_writes hvacant (effect_of_perform hperform) with hstill | hwrites
    · exact .tail hperform (ih hstill hrest)
    · exact .head hperform hwrites _

/-- **The life of a slot.** Every frame of a running game deals with every slot as `Lifecycle` says,
for the platforms that the frame makes. In every run of calls, between a landing on a slot that held
a breakable platform and a later landing on the same slot, a new platform has been put there: a
platform that broke never comes back. -/
theorem slot_lifecycle :
    (∀ {game next : Game} {c : Controls} {dt : Single} {notices : List Notice},
      game.running = true → game.tick c dt = .ok (next, notices) →
      ∃ time filling, clampTime dt game.tuning.frameTimeMax = .ok time ∧
        game.refill time = .ok filling ∧
        ∀ slot, game.Lifecycle next time filling.created slot) ∧
    ∀ {game broken last : Game} {c c' : Controls} {dt dt' : Single} {calls : List Call} {slot : Nat}
      {kind : PlatformKind}, game.perform (.tick c dt) = .ok broken →
      .landed slot .breakable ∈ broken.events →
      broken.run (calls ++ [.tick c' dt']) = .ok last → .landed slot kind ∈ last.events →
      broken.Rewritten (calls ++ [.tick c' dt']) slot := by
  constructor
  · intro game next c dt notices hrunning htick
    obtain ⟨time, s, htime, hsetup, rfl⟩ := (frameEffect_of_tick htick).exists_setup hrunning
    exact ⟨time, s.filling, htime, hsetup.refill_eq, lifecycle_outcome hsetup⟩
  · intro game broken last c c' dt dt' calls slot kind hfirst hbroken hrun hlanded
    have hvacant := vacant_of_landed (frameEffect_of_perform hfirst) hbroken
    exact rewritten_of_landed hvacant hrun hlanded

/-- A tuning with low jumps, under which a single platform is made close above the first one, and made
again when it is gone. -/
def lone : Tuning :=
  { Tuning.standard with
    gravity := 4
    jumpForce := -12
    spacingMin := 10
    spacingMax := 11
    generationMargin := -1210 }

/-- The third frame breaks the platform in slot 1, and ten frames later the player lands on that slot
again. -/
theorem slot_lifecycle_on_lone :
    ∃ game broken last notices time filling,
      play 61 lone (List.replicate 2 (.tick {} 1)) = .ok game ∧ game.running = true ∧
      game.tick {} 1 = .ok (broken, notices) ∧ game.refill time = .ok filling ∧
      game.Lifecycle broken time filling.created 1 ∧
      .landed 1 .breakable ∈ broken.events ∧
      broken.run (List.replicate 9 (.tick {} 1) ++ [.tick {} 1]) = .ok last ∧
      .landed 1 .normal ∈ last.events ∧
      broken.Rewritten (List.replicate 9 (.tick {} 1) ++ [.tick {} 1]) 1 := by
  obtain ⟨game, hplay, hcheck⟩ := exists_of_play 61 lone (List.replicate 2 (.tick {} 1))
    (fun game => game.running && (game.tick {} 1).toOption.any fun r =>
      r.1.events.contains (.landed 1 .breakable) &&
        (r.1.run (List.replicate 9 (.tick {} 1) ++ [.tick {} 1])).toOption.any
          fun last => last.events.contains (.landed 1 .normal)) (by decide +kernel)
  rw [Bool.and_eq_true] at hcheck
  obtain ⟨hrunning, hcheck⟩ := hcheck
  obtain ⟨⟨broken, notices⟩, htick, hcheck⟩ := exists_eq_ok_of_any _ hcheck
  rw [Bool.and_eq_true, List.contains_iff_mem] at hcheck
  obtain ⟨hbroken, hcheck⟩ := hcheck
  obtain ⟨last, hrun, hlanded⟩ := exists_eq_ok_of_any _ hcheck
  rw [List.contains_iff_mem] at hlanded
  have hperform : game.perform (.tick {} 1) = .ok broken := by rw [perform, htick]; rfl
  obtain ⟨time, filling, -, hfill, hlife⟩ := slot_lifecycle.1 hrunning htick
  exact ⟨game, broken, last, notices, time, filling, hplay, hrunning, htick, hfill, hlife 1, hbroken,
    hrun, hlanded, slot_lifecycle.2 hperform hbroken hrun hlanded⟩

end Game

end Platformer
