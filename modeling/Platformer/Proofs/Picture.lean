import Mathlib.Data.List.Basic
import Platformer.Picture
import Platformer.Proofs.Run

/-! # Pictures with and without images

An atlas changes the look of a picture and nothing else. Every figure that can be seen fills one box
with six vertices, whether it shows an image or a colour, so that a picture is a row of blocks of
six: the sky, a block for each figure that is shown, and the overlay.

* **`Figure.map_position_vertices`**, **`Figure.textured_of_mem`** — the corners of a figure do not
  depend on the atlas, and whether they are sampled depends on nothing but the atlas and the sprite.
* **`Game.shown`**, **`Game.overlay`**, **`Game.picture_eq`** — the parts of a picture.
* **`Picture.block`**, **`Game.block_picture`** — the block of each figure that is shown;
  **`Game.block_player`** — that of the player is the last one.
* **`Game.picture_atlas`** — two pictures of a game differ only in the look of its figures. -/

namespace Platformer

/-! ### Filled boxes -/

/-- Where a vertex is. -/
def Vertex.position (v : Vertex) : Single × Single := (v.x, v.y)

/-- A box is filled at the same corners with an image and with a colour. -/
theorem map_position_texturedQuad (b : Box) (r : Region) (colour : Colour) :
    (texturedQuad b r).map Vertex.position = (quad b colour).map Vertex.position := by
  simp only [texturedQuad, quad, triangles, List.map_cons, List.map_nil, Vertex.position,
    Vertex.sampled, Vertex.flat]

/-- What holds of all four corners holds of the vertices of both triangles. -/
theorem forall_mem_triangles {P : Vertex → Prop} {corner : Bool → Bool → Vertex}
    (h : ∀ atRight atBottom, P (corner atRight atBottom)) : ∀ v ∈ triangles corner, P v := by
  intro v hv
  simp only [triangles, List.mem_cons, List.not_mem_nil, or_false] at hv
  rcases hv with rfl | rfl | rfl | rfl | rfl | rfl <;> exact h _ _

/-- A box in a flat colour is not sampled. -/
theorem textured_of_mem_quad {b : Box} {colour : Colour} :
    ∀ v ∈ quad b colour, v.textured = 0 :=
  forall_mem_triangles fun _ _ => rfl

/-- A box with an image is sampled. -/
theorem textured_of_mem_texturedQuad {b : Box} {r : Region} :
    ∀ v ∈ texturedQuad b r, v.textured = 1 :=
  forall_mem_triangles fun _ _ => rfl

/-! ### Figures -/

namespace Figure

/-- Whether an atlas, if there is one, has an image of a figure. -/
def hasImage (f : Figure) (atlas : Option Atlas) : Bool := (atlas.bind (·.region? f.sprite)).isSome

/-- A figure has six vertices. -/
@[simp] theorem length_vertices (f : Figure) (atlas : Option Atlas) (camera : Single) :
    (f.vertices atlas camera).length = 6 := by
  unfold vertices
  dsimp only
  split
  · exact length_texturedQuad _ _
  · exact length_quad _ _

/-- **The corners of a figure** are those of its box. -/
theorem map_position_vertices (f : Figure) (atlas : Option Atlas) (camera : Single) :
    (f.vertices atlas camera).map Vertex.position =
      (quad (f.body.onScreen camera) f.colour).map Vertex.position := by
  unfold vertices
  dsimp only
  split
  · exact map_position_texturedQuad _ _ _
  · rfl

/-- **The vertices of a figure are sampled** if the atlas has an image of it, and otherwise flat. -/
theorem textured_of_mem {f : Figure} {atlas : Option Atlas} {camera : Single} {v : Vertex}
    (h : v ∈ f.vertices atlas camera) : v.textured = if f.hasImage atlas then 1 else 0 := by
  unfold vertices at h
  unfold hasImage
  dsimp only at h
  split at h
  · next region hregion =>
    rw [hregion]
    exact textured_of_mem_texturedQuad v h
  · next hregion =>
    rw [hregion]
    exact textured_of_mem_quad v h

end Figure

/-- The figure of a player has the box of the player. -/
theorem Player.body_figure (p : Player) : p.figure.body = p.body := by
  unfold Player.figure
  split <;> rfl

/-! ### The parts of a picture -/

namespace Game

/-- The figures that a picture shows, in drawing order. -/
def shown (game : Game) : List Figure := game.figures.filter (·.isVisible game.camera)

/-- What is drawn over the world: the score and the veil over a finished run. -/
def overlay (game : Game) : List Vertex :=
  (List.range (scoreTicks game.score)).flatMap (fun i => quad (scoreTick i) .score) ++
    if game.running then [] else quad veilBox .gameOver

/-- **A picture** is the sky, the figures that are shown, and the overlay. -/
theorem picture_eq (game : Game) (atlas : Option Atlas) :
    game.picture atlas =
      { vertices := quad viewportBox .sky ++
          (game.shown.flatMap (·.vertices atlas game.camera) ++ game.overlay)
        drawn := game.shown.length
        skipped := game.figures.countP (!·.isVisible game.camera) } := by
  have hhidden : (not ∘ fun f : Figure => f.isVisible game.camera) =
      fun f => !f.isVisible game.camera := rfl
  rw [picture, List.partition_eq_filter_filter, hhidden]
  simp only [shown, overlay, List.append_assoc, List.countP_eq_length_filter]

/-- The overlay is not sampled. -/
theorem textured_of_mem_overlay {game : Game} {v : Vertex} (h : v ∈ game.overlay) :
    v.textured = 0 := by
  rw [overlay, List.mem_append] at h
  rcases h with htick | hveil
  · obtain ⟨i, -, htick⟩ := List.mem_flatMap.mp htick
    exact textured_of_mem_quad v htick
  · split at hveil
    · cases hveil
    · exact textured_of_mem_quad v hveil

end Game

/-! ### Blocks -/

/-- A block of six vertices of a picture. -/
def Picture.block (p : Picture) (index : Nat) : List Vertex := (p.vertices.drop (6 * index)).take 6

section Rows

variable {α β : Type} {f : α → List β} {size : Nat}

/-- A row of blocks of one length is as long as there are blocks. -/
theorem length_flatMap_of_length (hsize : ∀ a, (f a).length = size) (as : List α) :
    (as.flatMap f).length = size * as.length := by
  induction as with
  | nil => rfl
  | cons a as ih =>
    rw [List.flatMap_cons, List.length_append, ih, hsize, List.length_cons, Nat.mul_succ,
      Nat.add_comm]

/-- Blocks of one length that stand in a row can be told apart by it. -/
theorem drop_flatMap (hsize : ∀ a, (f a).length = size) (as : List α) (index : Nat) :
    (as.flatMap f).drop (size * index) = (as.drop index).flatMap f := by
  induction as generalizing index with
  | nil => simp
  | cons a as ih =>
    cases index with
    | zero => rfl
    | succ index =>
      rw [List.flatMap_cons, List.drop_succ_cons, Nat.mul_succ, ← hsize a, Nat.add_comm,
        List.drop_length_add_append, hsize a, ih]

end Rows

namespace Game

variable {game : Game} {atlas : Option Atlas}

/-- All blocks of the figures together are as long as they are many. -/
theorem length_flatMap_vertices (figures : List Figure) (atlas : Option Atlas) (camera : Single) :
    (figures.flatMap (·.vertices atlas camera)).length = 6 * figures.length :=
  length_flatMap_of_length (fun f => f.length_vertices atlas camera) figures

/-- The first block is the sky. -/
theorem block_zero_picture (game : Game) (atlas : Option Atlas) :
    (game.picture atlas).block 0 = quad viewportBox .sky := by
  rw [picture_eq]
  rfl

/-- What stands behind the sky in a picture. -/
theorem drop_vertices_picture (game : Game) (atlas : Option Atlas) (index : Nat) :
    (game.picture atlas).vertices.drop (6 * (index + 1)) =
      (game.shown.flatMap (·.vertices atlas game.camera) ++ game.overlay).drop (6 * index) := by
  rw [picture_eq, Nat.mul_succ, Nat.add_comm, ← length_quad viewportBox .sky,
    List.drop_length_add_append]

/-- **Each figure that is shown** has its block of the picture, in drawing order. -/
theorem block_picture {index : Nat} {f : Figure} (h : game.shown[index]? = some f) :
    (game.picture atlas).block (index + 1) = f.vertices atlas game.camera := by
  obtain ⟨hlt, hf⟩ := List.getElem?_eq_some_iff.mp h
  have hshown : game.shown.drop index = f :: game.shown.drop (index + 1) := by
    rw [List.drop_eq_getElem_cons hlt, hf]
  rw [Picture.block, drop_vertices_picture,
    List.drop_append_of_le_length (by rw [length_flatMap_vertices]; omega),
    drop_flatMap (fun f => Figure.length_vertices f atlas game.camera), hshown,
    List.flatMap_cons, List.append_assoc, ← Figure.length_vertices f atlas game.camera,
    List.take_left]

/-- A visible player is the last figure of a picture. -/
theorem block_player (h : game.player.figure.isVisible game.camera = true) (atlas : Option Atlas) :
    (game.picture atlas).block (game.picture atlas).drawn =
      game.player.figure.vertices atlas game.camera := by
  obtain ⟨others, hshown⟩ : ∃ others, game.shown = others ++ [game.player.figure] :=
    ⟨_, (List.filter_append ..).trans (congrArg _ (List.filter_cons_of_pos h))⟩
  have hlast : game.shown[others.length]? = some game.player.figure := by
    rw [hshown, List.getElem?_concat_length]
  have hdrawn : (game.picture atlas).drawn = others.length + 1 := by
    rw [picture_eq, hshown, List.length_append, List.length_singleton]
  rw [hdrawn]
  exact block_picture hlast

/-- What stands behind the figures is the overlay. -/
theorem drop_drawn_picture (game : Game) (atlas : Option Atlas) :
    (game.picture atlas).vertices.drop (6 * ((game.picture atlas).drawn + 1)) = game.overlay := by
  have hdrawn : (game.picture atlas).drawn = game.shown.length := by rw [picture_eq]
  rw [drop_vertices_picture, hdrawn, ← length_flatMap_vertices _ atlas game.camera,
    List.drop_left]

/-- The positions of a picture do not depend on the atlas. -/
theorem map_position_picture (game : Game) (atlas : Option Atlas) :
    (game.picture atlas).vertices.map Vertex.position =
      (game.picture none).vertices.map Vertex.position := by
  simp only [picture_eq, List.map_append, List.map_flatMap, Figure.map_position_vertices]

/-- Without an atlas nothing is sampled. -/
theorem textured_of_mem_picture_none {v : Vertex} (h : v ∈ (game.picture none).vertices) :
    v.textured = 0 := by
  rw [picture_eq, List.mem_append, List.mem_append] at h
  rcases h with hsky | hfigure | hoverlay
  · exact textured_of_mem_quad v hsky
  · obtain ⟨f, -, hv⟩ := List.mem_flatMap.mp hfigure
    exact Figure.textured_of_mem hv
  · exact textured_of_mem_overlay hoverlay

/-- **An atlas changes only the look.** The pictures of a game with two atlases, either of which may
be missing, have equal counts and as many vertices at the same places; the sky and what stands
behind the figures are the same in both; without an atlas nothing is sampled; and the block of each
figure that is shown has six vertices, which are sampled if the atlas has an image of the figure and
are otherwise flat. -/
theorem picture_atlas (game : Game) (a b : Option Atlas) :
    (game.picture a).drawn = (game.picture b).drawn ∧
    (game.picture a).skipped = (game.picture b).skipped ∧
    (game.picture a).vertices.length = (game.picture b).vertices.length ∧
    (game.picture a).vertices.map Vertex.position =
      (game.picture b).vertices.map Vertex.position ∧
    ((game.picture a).block 0 = quad viewportBox .sky ∧
      (game.picture b).block 0 = quad viewportBox .sky) ∧
    ((game.picture a).vertices.drop (6 * ((game.picture a).drawn + 1)) = game.overlay ∧
      (game.picture b).vertices.drop (6 * ((game.picture b).drawn + 1)) = game.overlay) ∧
    (∀ v ∈ (game.picture none).vertices, v.textured = 0) ∧
    ∀ (index : Nat) (f : Figure), game.shown[index]? = some f →
      (game.picture a).block (index + 1) = f.vertices a game.camera ∧
      ((game.picture a).block (index + 1)).length = 6 ∧
      ∀ v ∈ (game.picture a).block (index + 1),
        (v.textured = 1 ↔ f.hasImage a = true) ∧ (v.textured = 0 ↔ f.hasImage a = false) := by
  have hpositions : (game.picture a).vertices.map Vertex.position =
      (game.picture b).vertices.map Vertex.position := by
    rw [map_position_picture game a, map_position_picture game b]
  have hlength : (game.picture a).vertices.length = (game.picture b).vertices.length := by
    simpa using congrArg List.length hpositions
  refine ⟨by simp only [picture_eq], by simp only [picture_eq], hlength, hpositions,
    ⟨block_zero_picture game a, block_zero_picture game b⟩,
    ⟨drop_drawn_picture game a, drop_drawn_picture game b⟩,
    fun v => textured_of_mem_picture_none, ?_⟩
  intro index f hf
  have hblock : (game.picture a).block (index + 1) = f.vertices a game.camera := block_picture hf
  refine ⟨hblock, by rw [hblock, Figure.length_vertices], ?_⟩
  intro v hv
  have hone : (1 : Single) ≠ 0 := by decide +kernel
  rw [hblock] at hv
  rw [Figure.textured_of_mem hv]
  cases f.hasImage a
  · simp [hone.symm]
  · simp [hone]

/-- An atlas with an image of the player and of nothing else. -/
def portrait : Atlas := Atlas.empty.insert .player ⟨0, 0, 1, 1⟩

/-- With an image of the player alone, eight of the figures of a fresh run are still shown; the last
of them, the player, is sampled, and the first one, a platform, is not. -/
theorem picture_atlas_portrait : ∃ game, play 7 .standard [] = .ok game ∧
    (game.picture (some portrait)).drawn = 8 ∧ (game.picture none).drawn = 8 ∧
    (∀ v ∈ (game.picture (some portrait)).block 8, v.textured = 1) ∧
    ∀ v ∈ (game.picture (some portrait)).block 1, v.textured = 0 := by
  obtain ⟨game, hplay, hcheck⟩ := exists_of_play 7 .standard []
    (fun game => decide ((game.picture none).drawn = 8) &&
      game.shown[7]?.any (fun f => f.hasImage (some portrait)) &&
      game.shown[0]?.any (fun f => !f.hasImage (some portrait)))
    (by decide +kernel)
  simp only [Bool.and_eq_true, decide_eq_true_eq, Option.any_eq_true, Bool.not_eq_true'] at hcheck
  obtain ⟨⟨hdrawn, player, hplayer, himage⟩, platform, hplatform, hnone⟩ := hcheck
  obtain ⟨hsame, -, -, -, -, -, -, hblocks⟩ := picture_atlas game (some portrait) none
  exact ⟨game, hplay, hsame.trans hdrawn, hdrawn,
    fun v hv => ((hblocks 7 player hplayer).2.2 v hv).1.mpr himage,
    fun v hv => ((hblocks 0 platform hplatform).2.2 v hv).2.mpr hnone⟩

end Game

end Platformer
