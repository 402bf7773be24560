import Platformer.Game
import Platformer.Vertex

/-! # Pictures

A picture shows a game: the sky, then everything in the world that touches the viewport, then the
score and the veil over a finished run. The world is shown by a vertical shift by the camera.

* **`Box.onScreen`**, **`isVisible`** — the shift, and whether a box on the screen can be seen.
* **`Figure`** — something of the world to draw; **`Game.figures`** lists them in drawing order.
* **`Picture`** — the vertices of a picture and the counts of what was drawn and left out.
* **`Game.picture`** — the picture of a game. -/

namespace Platformer

/-- The height on the screen of a height in the world. -/
def screenY (y camera : Single) : Single := y - camera

/-- A box of the world on the screen. -/
def Box.onScreen (b : Box) (camera : Single) : Box := { b with top := screenY b.top camera }

/-- Whether something at a height on the screen can touch the viewport. -/
def isVisible (y height : Single) : Bool := -height < y && y < viewportHeight + height

/-! ### Figures -/

/-- Something of the world to draw: where it is, its sprite, the colour to draw it in without one,
and whether it looks to the left. -/
structure Figure where
  body : Box
  sprite : Sprite
  colour : Colour
  isMirrored : Bool
deriving DecidableEq

/-- The sprite of a kind of platform. -/
def PlatformKind.sprite : PlatformKind → Sprite
  | .normal => .platformNormal
  | .moving => .platformMoving
  | .breakable => .platformBreakable
  | .spring => .platformSpring

/-- The colour of a kind of platform. -/
def PlatformKind.colour : PlatformKind → Colour
  | .normal => .platformNormal
  | .moving => .platformMoving
  | .breakable => .platformBreakable
  | .spring => .platformSpring

/-- How a platform is drawn. -/
def Platform.figure (p : Platform) : Figure := ⟨p.body, p.kind.sprite, p.kind.colour, false⟩

/-- How a monster is drawn. -/
def Monster.figure (m : Monster) : Figure := ⟨m.body, .monster, .monster, m.direction < 0⟩

/-- How a projectile is drawn. -/
def Projectile.figure (p : Projectile) : Figure := ⟨p.body, .projectile, .projectile, false⟩

/-- How the player is drawn. -/
def Player.figure (p : Player) : Figure :=
  if p.shooting then ⟨p.body, .playerShooting, .playerShooting, p.facing < 0⟩
  else ⟨p.body, .player, .player, p.facing < 0⟩

/-- Everything in the world, in drawing order: the active platforms, the monsters, the projectiles
and the player. -/
def Game.figures (game : Game) : List Figure :=
  (game.platforms.filter (·.active)).map Platform.figure ++ game.monsters.map Monster.figure ++
    game.projectiles.map Projectile.figure ++ [game.player.figure]

/-- Whether a figure can touch the viewport of a camera. -/
def Figure.isVisible (f : Figure) (camera : Single) : Bool :=
  Platformer.isVisible (f.body.onScreen camera).top f.body.height

/-- The vertices of a figure: its image if the atlas has one, otherwise its colour. -/
def Figure.vertices (f : Figure) (atlas : Option Atlas) (camera : Single) : List Vertex :=
  let body := f.body.onScreen camera
  match atlas.bind (·.region? f.sprite) with
  | some region => texturedQuad body (if f.isMirrored then region.mirrored else region)
  | none => quad body f.colour

/-! ### Overlays -/

/-- The number of score ticks: one for every ten points, at most fifty. -/
def scoreTicks (score : Nat) : Nat := Nat.min (score / 10) 50

/-- The box of a score tick. -/
def scoreTick (index : Nat) : Box := ⟨10 + .ofNat index * 2, 10, 1, 10⟩

/-- The whole viewport. -/
def viewportBox : Box := ⟨0, 0, viewportWidth, viewportHeight⟩

/-- The box of the veil over a finished run. -/
def veilBox : Box :=
  ⟨viewportWidth / 4, viewportHeight / 2 - 50, viewportWidth / 2, 100⟩

/-! ### The picture -/

/-- A picture: its vertices in drawing order, and how many figures were drawn and left out. -/
structure Picture where
  vertices : List Vertex
  drawn : Nat
  skipped : Nat
deriving DecidableEq

/-- The picture of a game, with an atlas if there is one. -/
def Game.picture (game : Game) (atlas : Option Atlas) : Picture :=
  let (visible, hidden) := game.figures.partition (·.isVisible game.camera)
  { vertices :=
      quad viewportBox .sky ++
        visible.flatMap (·.vertices atlas game.camera) ++
        (List.range (scoreTicks game.score)).flatMap (fun i => quad (scoreTick i) .score) ++
        (if game.running then [] else quad veilBox .gameOver)
    drawn := visible.length
    skipped := hidden.length }

end Platformer
