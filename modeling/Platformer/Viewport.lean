import Platformer.Box

/-! # The viewport and what happens at its edges

The world is as wide as the viewport and endless upward. The player passes through the side edges
and comes back on the other side; platforms and monsters turn around at them.

* **`viewportWidth`**, **`viewportHeight`**, **`nominalFrame`** — the measures of the picture, in
  world units, and of one frame, in milliseconds.
* **`wrapX`** — the horizontal position after passing through an edge.
* **`turnAtEdges`** — position and direction after meeting an edge, without overshoot. -/

namespace Platformer

/-- The width of the viewport and of the world. -/
def viewportWidth : Single := 480

/-- The height of the viewport. -/
def viewportHeight : Single := 640

/-- The duration of a nominal frame in milliseconds; a frame time of one lasts this long. -/
def nominalFrame : Single := 16

/-- The left edge of something `width` wide after wrapping around. What has wholly left through the
left side comes back at the right side, what has passed the right side comes back just outside the
left one. -/
def wrapX (x width : Single) : Single :=
  if x + width < 0 then viewportWidth
  else if viewportWidth < x then -width
  else x

/-- The left edge and the direction of something `width` wide after meeting an edge of the world:
it stops flush with the edge and turns away from it. -/
def turnAtEdges (x width direction : Single) : Single × Single :=
  if x ≤ 0 then (0, 1)
  else if viewportWidth ≤ x + width then (viewportWidth - width, -1)
  else (x, direction)

end Platformer
