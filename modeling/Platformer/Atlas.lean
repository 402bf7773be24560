import Platformer.Notice
import Platformer.Single.Arithmetic

/-! # Sprite atlases

An image sheet holds the images of some sprites; a sprite without one is drawn in a flat colour.

* **`Region`** — a rectangle of a sheet, in shares of its width and height.
* **`Atlas`** — which region, if any, shows a sprite; **`Atlas.insert`** sets one.
* **`Atlas.ofGrid`** — the atlas of a sheet cut into equal cells. -/

namespace Platformer

/-- A rectangle of a sheet, from its left and upper to its right and lower edge. -/
structure Region where
  u0 : Single
  v0 : Single
  u1 : Single
  v1 : Single
deriving DecidableEq

/-- The region read from right to left, which mirrors its image. -/
def Region.mirrored (r : Region) : Region := { r with u0 := r.u1, u1 := r.u0 }

/-- Mirroring twice gives the region back. -/
@[simp] theorem Region.mirrored_mirrored (r : Region) : r.mirrored.mirrored = r := rfl

/-- The regions of the sprites that a sheet holds. -/
structure Atlas where
  region? : Sprite → Option Region

/-- A cell of a sheet that shows a sprite. -/
structure Cell where
  sprite : Sprite
  column : Nat
  row : Nat
deriving DecidableEq

namespace Atlas

/-- The atlas without any image. -/
def empty : Atlas := ⟨fun _ => none⟩

/-- The atlas with a region for a sprite, in place of an earlier one. -/
def insert (a : Atlas) (s : Sprite) (r : Region) : Atlas :=
  ⟨fun s' => if s' = s then some r else a.region? s'⟩

/-- The region of a sprite after an insertion. -/
@[simp] theorem region?_insert (a : Atlas) (s s' : Sprite) (r : Region) :
    (a.insert s r).region? s' = if s' = s then some r else a.region? s' := rfl

/-- The number of sprites with a region. -/
def size (a : Atlas) : Nat := Sprite.all.countP fun s => (a.region? s).isSome

/-- Whether no sprite has a region. -/
def isEmpty (a : Atlas) : Bool := a.size == 0

/-- The region of a cell in a sheet of equal cells, each edge being a rounded multiple of the share
of one cell. -/
def cellRegion (columns rows : Nat) (c : Cell) : Region :=
  let width : Single := 1 / .ofNat columns
  let height : Single := 1 / .ofNat rows
  { u0 := .ofNat c.column * width
    v0 := .ofNat c.row * height
    u1 := .ofNat (c.column + 1) * width
    v1 := .ofNat (c.row + 1) * height }

/-- Whether a cell lies within a sheet. -/
def Cell.isInside (columns rows : Nat) (c : Cell) : Bool := c.column < columns && c.row < rows

/-- The atlas of a sheet of equal cells. A later cell for a sprite replaces an earlier one, and cells
outside of the sheet are reported and left out. -/
def ofGrid (columns rows : Nat) (cells : List Cell) : Atlas × List Notice :=
  if columns = 0 ∨ rows = 0 then (empty, [.emptySheet])
  else
    let (inside, outside) := cells.partition (Cell.isInside columns rows)
    (inside.foldl (fun a c => a.insert c.sprite (cellRegion columns rows c)) empty,
      outside.map fun c => .cellOutside c.sprite c.column c.row)

end Atlas

end Platformer
