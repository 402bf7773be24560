import Platformer.Pcg32
import Platformer.PlatformStore

/-! # Generation of platforms

Platforms are laid from the highest one upward, at the heights of a cursor that climbs by a random
gap after each of them, until the cursor is past a ceiling above the picture or the store is full.
Gaps widen with height, which is what makes the climb harder.

* **`Platform.random`** — a platform at a height, at a random place and of a random kind.
* **`randomGap`** — the distance to the next platform.
* **`Filling`** — the outcome of a generation; **`fillFrom`** runs it, **`fill`** starts it.
* **`layOut`** — the platforms of a fresh run. -/

namespace Platformer

/-- The number of whole horizontal positions of a new platform. -/
def platformPositions : Nat := 400

/-- The factor on the speed of new moving platforms at a score. -/
def speedGrowth (t : Tuning) (score : Nat) : Single :=
  1 + .ofNat score / 1000 * t.movingSpeedGrowth

/-- A speed from the range of new moving platforms; a range without extent gives its lower end. -/
def randomSpeed (t : Tuning) (g : Pcg32) : Except Fault (Single × Pcg32) :=
  if t.movingSpeedMin < t.movingSpeedMax then g.between t.movingSpeedMin t.movingSpeedMax
  else .ok (t.movingSpeedMin, g)

/-- A platform at a height. -/
def Platform.random (y : Single) (score : Nat) (t : Tuning) (g : Pcg32) :
    Except Fault (Platform × Pcg32) := do
  let (column, g) := g.below platformPositions
  let (roll, g) := g.below 100
  let x := Single.ofNat column
  match PlatformKind.ofRoll roll with
  | .moving =>
    let (toRight, g) := g.coin
    let (base, g) ← randomSpeed t g
    let speed := (base * speedGrowth t score).min t.movingSpeedCap
    return (.moving x y (if toRight then 1 else -1) speed, g)
  | kind => return (.still x y kind, g)

/-- The number of values of the random part of a gap: the whole units between the least gap and
the bound, at least one. -/
def gapRange (t : Tuning) : Nat :=
  Nat.max 1 ((t.spacingMax - t.spacingMin).toNat (UInt32.size - 1))

/-- There is always a gap to draw. -/
theorem gapRange_pos (t : Tuning) : 0 < gapRange t := Nat.le_max_left ..

/-- The distance from a platform at height `y` to the next one: the least gap, a random number of
units, and the widening earned at that height. -/
def randomGap (y : Single) (t : Tuning) (g : Pcg32) : Single × Pcg32 :=
  let (extra, g) := g.below (gapRange t) (gapRange_pos t)
  (t.spacingMin + .ofNat extra + t.spacingBonus (-y), g)

/-- The outcome of a generation. -/
structure Filling where
  platforms : List Platform
  /-- The new platforms, in the order in which they were made. -/
  created : List Platform
  /-- The height of the first platform that was not made. -/
  cursor : Single
  /-- Whether the generation stopped for want of a slot. -/
  isFull : Bool
  generator : Pcg32
deriving DecidableEq

/-- Makes platforms from a height upward, given the number of platforms that the store can still
take. The platform that finds no slot is drawn all the same. -/
def fillFrom (t : Tuning) (score : Nat) (ceiling : Single) :
    (free : Nat) → (cursor : Single) → List Platform → Pcg32 → Except Fault Filling
  | free, cursor, platforms, g =>
    if ceiling < cursor then do
      let (new, g) ← Platform.random cursor score t g
      match free with
      | 0 => return ⟨platforms, [], cursor, true, g⟩
      | free + 1 =>
        let (gap, g) := randomGap cursor t g
        let rest ← fillFrom t score ceiling free (cursor - gap) (place new platforms) g
        return { rest with created := new :: rest.created }
    else .ok ⟨platforms, [], cursor, false, g⟩

/-- The height up to which platforms are made, for a camera. -/
def generationCeiling (camera : Single) (t : Tuning) : Single :=
  camera - viewportHeight - t.generationMargin

/-- Makes the platforms that are wanted above a camera, from the least gap above the highest
active one; in an empty store the camera stands for it. -/
def fill (platforms : List Platform) (camera : Single) (score : Nat) (t : Tuning) (g : Pcg32) :
    Except Fault Filling :=
  let highest := (highestTop? platforms).getD camera
  fillFrom t score (generationCeiling camera t) (freeSlots platforms) (highest - t.spacingMin)
    platforms g

/-- The platforms of a fresh run: the first one and all above it. -/
def layOut (t : Tuning) (g : Pcg32) : Except Fault Filling := fill [.anchor] 0 0 t g

end Platformer
