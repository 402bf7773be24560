import Platformer.Atlas
import Platformer.Box

/-! # Vertices

A picture is a list of triangles, given by their corners.

* **`Vertex`** — a corner with its colour and its place in the image sheet.
* **`VertexLayout`** — how vertices lie in memory, as a drawing device is told.
* **`quad`**, **`texturedQuad`** — the two triangles that fill a box. -/

namespace Platformer

-- an empty sum is the zero of core, whatever else is imported
attribute [local instance (high)] Zero.ofOfNat0

/-- A colour: red, green, blue and opacity, each from zero to one. -/
structure Colour where
  red : Single
  green : Single
  blue : Single
  alpha : Single
deriving DecidableEq

/-! ### Colours -/

namespace Colour

def sky : Colour := ⟨0.53, 0.81, 0.92, 1⟩
def player : Colour := ⟨1, 0.39, 0.39, 1⟩
def playerShooting : Colour := ⟨1, 0.6, 0.2, 1⟩
def platformNormal : Colour := ⟨0.13, 0.55, 0.13, 1⟩
def platformMoving : Colour := ⟨0.2, 0.4, 0.9, 1⟩
def platformBreakable : Colour := ⟨0.55, 0.35, 0.17, 1⟩
def platformSpring : Colour := ⟨0.95, 0.85, 0.2, 1⟩
def monster : Colour := ⟨0.5, 0.1, 0.6, 1⟩
def projectile : Colour := ⟨0.1, 0.1, 0.1, 1⟩
def score : Colour := ⟨1, 1, 1, 1⟩
def gameOver : Colour := ⟨1, 0, 0, 0.5⟩

/-- The colour that leaves an image as it is. -/
def white : Colour := ⟨1, 1, 1, 1⟩

/-- The colours of a picture, the background first and the veil over a finished run last. -/
def palette : List Colour :=
  [sky, player, playerShooting, platformNormal, platformMoving, platformBreakable, platformSpring,
    monster, projectile, score, gameOver]

end Colour

/-! ### Vertices -/

/-- A corner of a triangle. -/
structure Vertex where
  x : Single
  y : Single
  colour : Colour
  u : Single
  v : Single
  /-- One when the image sheet is sampled and zero when the colour is drawn flat. -/
  textured : Single
deriving DecidableEq

/-- A corner in a flat colour. -/
def Vertex.flat (x y : Single) (colour : Colour) : Vertex := ⟨x, y, colour, 0, 0, 0⟩

/-- A corner that shows a point of the image sheet. -/
def Vertex.sampled (x y u v : Single) : Vertex := ⟨x, y, .white, u, v, 1⟩

/-- The format of an attribute: how many single precision numbers it has. -/
inductive AttributeFormat where
  | one
  | two
  | four
deriving DecidableEq, Repr

/-- The number of single precision numbers of a format. -/
def AttributeFormat.count : AttributeFormat → Nat
  | .one => 1
  | .two => 2
  | .four => 4

/-- The name of a format. -/
def AttributeFormat.name : AttributeFormat → String
  | .one => "Float32"
  | .two => "Float32x2"
  | .four => "Float32x4"

/-- An attribute of a vertex: where it starts, in bytes, and its number for the device. -/
structure Attribute where
  offset : Nat
  location : Nat
  format : AttributeFormat
deriving DecidableEq, Repr

/-- How vertices lie in memory. -/
structure VertexLayout where
  /-- The bytes from one vertex to the next. -/
  stride : Nat
  attributes : List Attribute
deriving DecidableEq, Repr

/-- The layout of attributes that follow one another without gaps. -/
def VertexLayout.packed (formats : List AttributeFormat) : VertexLayout :=
  let bytes (fs : List AttributeFormat) : Nat := 4 * (fs.map AttributeFormat.count).sum
  { stride := bytes formats
    attributes := formats.zipIdx.map fun (format, location) =>
      ⟨bytes (formats.take location), location, format⟩ }

/-- The layout of a vertex: position, colour, place in the sheet, and whether it is sampled. -/
def Vertex.layout : VertexLayout := .packed [.two, .four, .two, .one]

/-! ### Filled boxes -/

/-- Two triangles that fill a box, given what to put at a corner: the upper left one first, each
triangle using the diagonal from the lower left to the upper right. -/
def triangles (corner : (atRight atBottom : Bool) → Vertex) : List Vertex :=
  [corner false false, corner true false, corner false true,
    corner false true, corner true false, corner true true]

/-- A box in a flat colour. -/
def quad (b : Box) (colour : Colour) : List Vertex :=
  triangles fun atRight atBottom =>
    .flat (if atRight then b.right else b.left) (if atBottom then b.bottom else b.top) colour

/-- A box that shows a region of the image sheet. -/
def texturedQuad (b : Box) (r : Region) : List Vertex :=
  triangles fun atRight atBottom =>
    .sampled (if atRight then b.right else b.left) (if atBottom then b.bottom else b.top)
      (if atRight then r.u1 else r.u0) (if atBottom then r.v1 else r.v0)

/-- A flat box has six corners. -/
@[simp] theorem length_quad (b : Box) (colour : Colour) : (quad b colour).length = 6 := rfl

/-- A box with an image has six corners. -/
@[simp] theorem length_texturedQuad (b : Box) (r : Region) : (texturedQuad b r).length = 6 := rfl

end Platformer
