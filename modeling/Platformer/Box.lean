import Platformer.Single.Arithmetic

/-! # Boxes

Everything in the world is an upright box. The horizontal axis points right and the vertical axis
points down, so a box is held by its top left corner and its size, and "above" means smaller.

* **`Point`** — a pair of coordinates; **`Point.distance`** between two of them.
* **`Box`** — a box; its right and bottom edges and its centre are rounded sums.
* **`Box.overlaps`** — whether two boxes share more than an edge. -/

namespace Platformer

/-- A pair of coordinates. -/
structure Point where
  x : Single
  y : Single
deriving DecidableEq, Inhabited

/-- The rounded distance between two points. -/
def Point.distance (p q : Point) : Single :=
  let dx := p.x - q.x
  let dy := p.y - q.y
  (dx * dx + dy * dy).sqrt

/-- An upright box: its top left corner and its size. -/
structure Box where
  left : Single
  top : Single
  width : Single
  height : Single
deriving DecidableEq, Inhabited

namespace Box

/-- The right edge. -/
def right (b : Box) : Single := b.left + b.width

/-- The bottom edge. -/
def bottom (b : Box) : Single := b.top + b.height

/-- The middle of the box. -/
def centre (b : Box) : Point := ⟨b.left + b.width / 2, b.top + b.height / 2⟩

/-- Whether two boxes overlap; boxes that only share an edge do not. -/
def overlaps (a b : Box) : Bool :=
  a.left < b.right && b.left < a.right && a.top < b.bottom && b.top < a.bottom

/-- Overlapping does not depend on the order of the boxes. -/
theorem overlaps_comm (a b : Box) : a.overlaps b = b.overlaps a := by
  simp only [overlaps]
  cases decide (a.left < b.right) <;> cases decide (b.left < a.right) <;>
    cases decide (a.top < b.bottom) <;> cases decide (b.top < a.bottom) <;> rfl

end Box

end Platformer
