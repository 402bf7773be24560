import Platformer.Platform
import Platformer.Tuning

/-! # The platform store

Platforms live in numbered slots. A slot keeps its number for the whole run: what leaves the picture
only frees its slot, and a new platform takes the first free one before the store grows.

* **`freeSlots`** — how many platforms the store can still take.
* **`place`** — puts a platform into the first free slot, or at the end.
* **`highestTop?`** — the top of the highest active platform.
* **`cull`** — frees the slots of the platforms that scrolled out of the picture, which are those for
  which `Platform.isBelow` holds of the limit of `cullLimit`. -/

namespace Platformer

/-- The number of active platforms. -/
def activeCount (platforms : List Platform) : Nat := platforms.countP (·.active)

/-- The number of platforms that the store can still take: its free slots and those that it can
still grow by. -/
def freeSlots (platforms : List Platform) : Nat :=
  platforms.countP (!·.active) + (maxPlatforms - platforms.length)

/-- Puts a platform into the first free slot, or into a new one at the end. -/
def place (new : Platform) : List Platform → List Platform
  | [] => [new]
  | p :: ps => if p.active then p :: place new ps else new :: ps

/-- The top edge of the highest active platform. -/
def highestTop? (platforms : List Platform) : Option Single :=
  ((platforms.filter (·.active)).map (·.body.top)).minOn? Single.totalRank

/-- The height below which platforms are dropped, for a camera. -/
def cullLimit (camera : Single) (t : Tuning) : Single := camera + viewportHeight + t.cullMargin

/-- Whether a slot holds a platform that scrolled out below a limit. -/
def Platform.isBelow (p : Platform) (limit : Single) : Bool := p.active && limit < p.body.top

/-- Frees the slots of the platforms below a limit. -/
def cull (platforms : List Platform) (limit : Single) : List Platform :=
  platforms.map fun p => if p.isBelow limit then p.free else p

/-- How many platforms a cull drops. -/
def culledCount (platforms : List Platform) (limit : Single) : Nat :=
  platforms.countP (·.isBelow limit)

/-- A cull keeps every slot in its place. -/
@[simp] theorem length_cull (platforms : List Platform) (limit : Single) :
    (cull platforms limit).length = platforms.length := by simp [cull]

/-- Placing an active platform makes one more active. -/
theorem activeCount_place {new : Platform} (hnew : new.active) (platforms : List Platform) :
    activeCount (place new platforms) = activeCount platforms + 1 := by
  simp only [activeCount]
  induction platforms with
  | nil => simp [place, hnew]
  | cons p ps ih =>
    rw [place]
    split
    · next h => simp [h, ih]
    · next h => simp [h, hnew]

end Platformer
