import Platformer.Monster
import Platformer.Platform
import Platformer.Player
import Platformer.Projectile

/-! # Contact

The three contacts of a frame, each on the boxes alone: the player landing on a platform, shots
hitting monsters, and a monster touching the player.

* **`Player.landsOn`**, **`firstLanding?`** — whether a falling player lands, and on which slot.
* **`Volley`**, **`strike`** — what the shots hit: each takes the first live monster that it
  overlaps, and both are gone.
* **`Player.isCaught`** — whether a live monster touches the player. -/

namespace Platformer

/-! ### Landing -/

/-- Whether the player lands on a platform: it is there, the player is not rising, their boxes
overlap, and the player's top is still above the platform's. -/
def Player.landsOn (player : Player) (p : Platform) : Bool :=
  p.active && !decide (player.velocity.y ≤ 0) && player.body.overlaps p.body &&
    player.body.top < p.body.top

/-- The first slot whose platform the player lands on, with that platform. -/
def firstLanding? (player : Player) (platforms : List Platform) : Option (Platform × Nat) :=
  platforms.zipIdx.find? fun (p, _) => player.landsOn p

/-! ### Shots -/

/-- The monsters after a shot: the first live one that it overlaps is killed, if there is one. -/
def killFirst? (shot : Box) : List Monster → Option (List Monster)
  | [] => none
  | m :: ms =>
    if m.active && shot.overlaps m.body then some (m.kill :: ms)
    else (killFirst? shot ms).map (m :: ·)

/-- The outcome of a round of shots. -/
structure Volley where
  projectiles : List Projectile
  monsters : List Monster
  kills : Nat
deriving DecidableEq

/-- Lets every projectile hit at most one monster, in order. -/
def strike : List Projectile → List Monster → Volley
  | [], monsters => ⟨[], monsters, 0⟩
  | p :: ps, monsters =>
    match if p.active then killFirst? p.body monsters else none with
    | some monsters =>
      let rest := strike ps monsters
      { rest with projectiles := p.spend :: rest.projectiles, kills := rest.kills + 1 }
    | none =>
      let rest := strike ps monsters
      { rest with projectiles := p :: rest.projectiles }

/-- A volley keeps every projectile in its place. -/
@[simp] theorem length_projectiles_strike (ps : List Projectile) (ms : List Monster) :
    (strike ps ms).projectiles.length = ps.length := by
  induction ps generalizing ms with
  | nil => rfl
  | cons p ps ih => rw [strike]; split <;> simp [ih]

/-! ### Being caught -/

/-- Whether a live monster touches the player. -/
def Player.isCaught (player : Player) (monsters : List Monster) : Bool :=
  monsters.any fun m => m.active && player.body.overlaps m.body

end Platformer
