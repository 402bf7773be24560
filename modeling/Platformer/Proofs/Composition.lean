import Platformer.Proofs.Curve
import Platformer.Proofs.Picture

/-! # What a picture is made of

A picture is complete and in order: the sky, a quad for each active platform, monster, projectile and
the player as far as they can be seen, the score, and the veil over a finished run. Every figure is
either drawn or counted as left out, so that the counts add up to the length of the picture. What is
left out cannot be seen: the test for it is made on rounded heights, but a sum above zero has no
summand that reaches below the opposite of the other one, however it is rounded.

* **`Box.corners`**, **`Game.boxes`** — where the triangles of a box are, and the boxes of a picture.
* **`Figure.paint`** — what a figure adds to a picture; **`Game.flatMap_shown`** — the figures by what
  they are.
* **`isVisible_of_overlap`** — what overlaps the viewport can be seen.
* **`Game.picture_complete`** — the vertices of a picture, its counts, and what it never leaves out. -/

namespace Platformer

/-! ### Boxes -/

/-- The corners of the two triangles that fill a box, in drawing order. -/
def Box.corners (b : Box) : List (Single × Single) :=
  [(b.left, b.top), (b.right, b.top), (b.left, b.bottom),
    (b.left, b.bottom), (b.right, b.top), (b.right, b.bottom)]

/-- The vertices of a flat box are at its corners. -/
theorem map_position_quad (b : Box) (colour : Colour) :
    (quad b colour).map Vertex.position = b.corners := by
  simp [quad, triangles, Vertex.position, Vertex.flat, Box.corners]

/-! ### Visibility -/

/-- **What overlaps the viewport can be seen**, whatever its height. -/
theorem isVisible_of_overlap {y height : Single} (hheight : 0 ≤ height) (hbottom : 0 < y + height)
    (htop : y < viewportHeight) : isVisible y height = true := by
  have hview : viewportHeight.isFinite = true := Single.isFinite_literal 640 (by decide)
  have hpast : y < viewportHeight + height :=
    Single.lt_of_lt_of_le htop (Single.le_add_of_nonneg hview hheight)
  rw [isVisible, Bool.and_eq_true, decide_eq_true_eq, decide_eq_true_eq]
  exact ⟨Single.neg_lt_of_add_pos hheight hbottom, hpast⟩

/-! ### Figures -/

/-- What a figure adds to a picture: its vertices if it can be seen. -/
def Figure.paint (f : Figure) (atlas : Option Atlas) (camera : Single) : List Vertex :=
  if f.isVisible camera then f.vertices atlas camera else []

/-- To leave something out of a row is to put nothing in its place. -/
theorem flatMap_filter {α β : Type} (p : α → Bool) (f : α → List β) (as : List α) :
    (as.filter p).flatMap f = as.flatMap fun a => if p a then f a else [] := by
  induction as with
  | nil => rfl
  | cons a as ih =>
    rw [List.filter_cons, List.flatMap_cons]
    split
    · rw [List.flatMap_cons, ih]
    · rw [ih, List.nil_append]

namespace Game

variable {game : Game} {atlas : Option Atlas}

/-- **The figures of a picture** by what they are. -/
theorem flatMap_shown (game : Game) (atlas : Option Atlas) :
    game.shown.flatMap (·.vertices atlas game.camera) =
      (game.platforms.filter (·.active)).flatMap (·.figure.paint atlas game.camera) ++
        game.monsters.flatMap (·.figure.paint atlas game.camera) ++
        game.projectiles.flatMap (·.figure.paint atlas game.camera) ++
        game.player.figure.paint atlas game.camera := by
  have hpaint : (fun f : Figure => if f.isVisible game.camera then f.vertices atlas game.camera
      else []) = fun f => f.paint atlas game.camera := rfl
  rw [shown, flatMap_filter, hpaint, figures]
  simp only [List.flatMap_append, List.flatMap_map, List.flatMap_singleton]

/-- As many figures as there are active platforms, monsters and projectiles, and the player. -/
theorem length_figures (game : Game) :
    game.figures.length = (game.platforms.filter (·.active)).length + game.monsters.length +
      game.projectiles.length + 1 := by
  simp only [figures, List.length_append, List.length_map, List.length_singleton]

/-- The overlay is as long as it has quads. -/
theorem length_overlay (game : Game) :
    game.overlay.length = 6 * (scoreTicks game.score + if game.running then 0 else 1) := by
  have hticks : ((List.range (scoreTicks game.score)).flatMap
      fun i => quad (scoreTick i) .score).length = 6 * scoreTicks game.score := by
    rw [length_flatMap_of_length (fun i => length_quad (scoreTick i) .score), List.length_range]
  rw [overlay, List.length_append, hticks]
  split
  · rfl
  · rw [length_quad, Nat.mul_succ]

/-- The boxes of a picture in drawing order: that of the sky, those of the figures on the screen, and
those of the overlay. -/
def boxes (game : Game) : List Box :=
  viewportBox ::
    (game.shown.map (·.body.onScreen game.camera) ++
      ((List.range (scoreTicks game.score)).map scoreTick ++
        if game.running then [] else [veilBox]))

/-- The vertices of the overlay are at the corners of its boxes. -/
theorem map_position_overlay (game : Game) :
    game.overlay.map Vertex.position =
      ((List.range (scoreTicks game.score)).map scoreTick ++
        if game.running then [] else [veilBox]).flatMap Box.corners := by
  have hveil : (if game.running then [] else quad veilBox .gameOver).map Vertex.position =
      (if game.running then [] else [veilBox]).flatMap Box.corners := by
    split
    · rfl
    · rw [map_position_quad, List.flatMap_singleton]
  rw [overlay, List.map_append, List.map_flatMap, List.flatMap_append, List.flatMap_map, hveil]
  simp only [map_position_quad]

/-- **The vertices of a picture** are at the corners of its boxes. -/
theorem map_position_picture_eq (game : Game) (atlas : Option Atlas) :
    (game.picture atlas).vertices.map Vertex.position = game.boxes.flatMap Box.corners := by
  rw [picture_eq, boxes, List.map_append, List.map_append, List.flatMap_cons, List.flatMap_append,
    map_position_overlay, List.map_flatMap, List.flatMap_map, map_position_quad]
  simp only [Figure.map_position_vertices, map_position_quad]

/-- Every figure is drawn or left out. -/
theorem drawn_add_skipped (game : Game) (atlas : Option Atlas) :
    (game.picture atlas).drawn + (game.picture atlas).skipped = game.figures.length := by
  rw [picture_eq, shown, ← List.countP_eq_length_filter,
    List.length_eq_countP_add_countP (·.isVisible game.camera)]
  simp only [Bool.not_eq_true, Bool.decide_eq_false]

/-- **A figure that overlaps the viewport is shown**, at whatever height the camera is. -/
theorem mem_shown_of_overlap {f : Figure} (hf : f ∈ game.figures) (hheight : 0 ≤ f.body.height)
    (hbottom : 0 < (f.body.onScreen game.camera).bottom)
    (htop : (f.body.onScreen game.camera).top < viewportHeight) : f ∈ game.shown :=
  List.mem_filter.mpr ⟨hf, isVisible_of_overlap hheight hbottom htop⟩

/-- **A picture is complete and in order.** For every game and every atlas: the vertices are those of
the sky; then of each active platform in the order of the slots, each monster, each projectile and the
player, each of which adds its quad exactly if it can be seen; then of the score ticks; and at last of
the veil, exactly if the run is over. They are at the corners of the boxes on the screen. What is drawn
and what is left out add up to all figures, and the length of the picture follows from the counts. No
figure whose height is not negative is left out if its box on the screen overlaps the viewport. -/
theorem picture_complete (game : Game) (atlas : Option Atlas) :
    (game.picture atlas).vertices =
      quad viewportBox .sky ++
        ((game.platforms.filter (·.active)).flatMap (·.figure.paint atlas game.camera) ++
          game.monsters.flatMap (·.figure.paint atlas game.camera) ++
          game.projectiles.flatMap (·.figure.paint atlas game.camera) ++
          game.player.figure.paint atlas game.camera ++
          ((List.range (min (game.score / 10) 50)).flatMap (fun i => quad (scoreTick i) .score) ++
            if game.running then [] else quad veilBox .gameOver)) ∧
    (game.picture atlas).vertices.map Vertex.position = game.boxes.flatMap Box.corners ∧
    (game.picture atlas).drawn = game.figures.countP (·.isVisible game.camera) ∧
    (game.picture atlas).drawn + (game.picture atlas).skipped =
      (game.platforms.filter (·.active)).length + game.monsters.length +
        game.projectiles.length + 1 ∧
    (game.picture atlas).vertices.length =
      6 * (1 + (game.picture atlas).drawn + min (game.score / 10) 50 +
        if game.running then 0 else 1) ∧
    ∀ f ∈ game.figures, 0 ≤ f.body.height → 0 < (f.body.onScreen game.camera).bottom →
      (f.body.onScreen game.camera).top < viewportHeight →
      f.isVisible game.camera = true ∧ f ∈ game.shown := by
  refine ⟨?_, map_position_picture_eq game atlas, ?_, ?_, ?_, ?_⟩
  · rw [picture_eq, flatMap_shown]
    rfl
  · rw [List.countP_eq_length_filter, picture_eq, shown]
  · rw [drawn_add_skipped, length_figures]
  · rw [picture_eq, List.length_append, List.length_append, length_quad, length_flatMap_vertices,
      length_overlay]
    dsimp only
    rw [show scoreTicks game.score = min (game.score / 10) 50 from rfl]
    omega
  · intro f hf hheight hbottom htop
    have hshown := mem_shown_of_overlap hf hheight hbottom htop
    exact ⟨(List.mem_filter.mp hshown).2, hshown⟩

/-- A finished run far up: the player is below the picture, a projectile above it, and of two platforms
at the upper edge one just reaches into the picture. -/
def fallen : Game where
  seed := 0
  generator := .ofSeed 0
  tuning := .standard
  player := { Player.spawn with body := ⟨230, -4390, 20, 20⟩ }
  platforms := [.free .anchor, .still 20 (-5069) .spring, .still 100 (-5068.999) .normal]
  monsters := [.spawn 220 (-4500) 1 0]
  projectiles := [.firedFrom ⟨240, -5100⟩ (-10)]
  camera := -5054
  score := 505
  landings := 1
  lastLanded := some 1
  running := false
  lastTime := none
  ticks := 9
  events := []

/-- The platform that reaches into the picture and the monster are drawn, the three others are left
out; with the sky, fifty score ticks and the veil these are 54 quads. -/
theorem picture_complete_fallen :
    (fallen.picture none).drawn = 2 ∧ 2 + (fallen.picture none).skipped = 2 + 1 + 1 + 1 ∧
    (fallen.picture none).vertices.length = 6 * 54 ∧
    (Platform.still 100 (-5068.999) .normal).figure ∈ fallen.shown := by
  obtain ⟨-, -, hcount, hsum, hlength, hshown⟩ := picture_complete fallen none
  have hdrawn : (fallen.picture none).drawn = 2 := hcount.trans (by decide +kernel)
  rw [hdrawn] at hsum hlength
  refine ⟨hdrawn, hsum, hlength, (hshown _ ?_ ?_ ?_ ?_).2⟩ <;> decide +kernel

end Game

end Platformer
