import Platformer.Proofs.Curve
import Platformer.Proofs.Patrol

/-! # Between the edges of the world

Moving platforms and monsters walk from side to side for ever. A frame displaces them by any way,
forward or back, even an infinite one, and the turn at the edges puts them back between the edges. The
test at the right edge rounds a sum and the place it leaves is a rounded difference, but no place slips
between the two, and neither edge is mistaken for the other.

* **`Turned`**, **`turned_turnAtEdges`** — the place and the direction that a turn leaves.
* **`Platform.slide`**, **`Platform.slide_eq`**, **`Monster.patrol`**, **`Monster.patrol_eq`** — many
  frames of a platform and of a monster, and what they keep.
* **`edges_keep_movers`** — every frame of every such walk. -/

namespace Platformer

/-! ### The turn -/

/-- A number above zero is not a zero. -/
theorem Single.isZero_eq_false_of_pos {x : Single} (h : 0 < x) : x.isZero = false := by
  cases x with
  | finite s n hn =>
    have hpos := (pos_iff_of_isFinite rfl).mp h
    rw [← Bool.not_eq_true, isZero_iff_value rfl]
    exact hpos.ne'
  | _ => rfl

/-- **What a turn at the edges leaves** of a displaced walker: a place between the edges, and the
direction away from an edge that was met. The place is zero exactly if the left edge was met, and
between the edges nothing changes. -/
structure Turned (displaced width direction x turned : Single) : Prop where
  nonneg : 0 ≤ x
  le : x ≤ viewportWidth - width
  isZero_iff : x.isZero = true ↔ displaced ≤ 0
  left : displaced ≤ 0 → x = 0 ∧ turned = 1
  right : 0 < displaced → viewportWidth ≤ displaced + width →
    x = viewportWidth - width ∧ turned = -1
  between : 0 < displaced → displaced + width < viewportWidth → x = displaced ∧ turned = direction

/-- **A turn of something narrower than the world.** -/
theorem turned_turnAtEdges {x width : Single} (direction : Single) (hx : x.isNaN = false)
    (hpos : 0 < width) (hlt : width < viewportWidth) :
    Turned x width direction (turnAtEdges x width direction).1
      (turnAtEdges x width direction).2 := by
  have hfinite : width.isFinite = true :=
    Single.isFinite_of_le_of_le (Single.le_of_lt hpos) (Single.le_of_lt hlt) Single.isFinite_zero
      isFinite_viewportWidth
  have hle : width.value ≤ 480 := by
    have hvalue := (Single.lt_iff_value.mp hlt).2.2
    rw [value_viewportWidth] at hvalue
    exact hvalue.le
  have hmem := turnAtEdges_mem direction hx hfinite hle
  have hroom : 0 < viewportWidth - width := Single.sub_pos isFinite_viewportWidth hlt
  by_cases hleft : x ≤ 0
  -- an infinite way back meets the left edge, and an infinite way forward the right one
  · have hturn : turnAtEdges x width direction = (0, 1) := if_pos hleft
    rw [hturn] at hmem ⊢
    have hzero : (0 : Single).isZero = true := by decide +kernel
    refine ⟨hmem.1, hmem.2, iff_of_true hzero hleft, fun _ => ⟨rfl, rfl⟩, ?_, ?_⟩
    · exact fun hinside => absurd hleft (Single.not_le_of_lt hinside)
    · exact fun hinside => absurd hleft (Single.not_le_of_lt hinside)
  · have hinside : 0 < x := Single.lt_of_not_le hx Single.isNaN_zero hleft
    by_cases hright : viewportWidth ≤ x + width
    · have hturn : turnAtEdges x width direction = (viewportWidth - width, -1) :=
        (if_neg hleft).trans (if_pos hright)
      rw [hturn] at hmem ⊢
      refine ⟨hmem.1, hmem.2, ?_, fun hmet => absurd hmet hleft, fun _ _ => ⟨rfl, rfl⟩, ?_⟩
      -- the place that the right edge leaves is not taken for the left edge
      · rw [Single.isZero_eq_false_of_pos hroom]
        exact iff_of_false Bool.false_ne_true hleft
      · exact fun _ hshort => absurd hright (Single.not_le_of_lt hshort)
    · have hturn : turnAtEdges x width direction = (x, direction) :=
        (if_neg hleft).trans (if_neg hright)
      rw [hturn] at hmem ⊢
      refine ⟨hmem.1, hmem.2, ?_, fun hmet => absurd hmet hleft, fun _ hmet => absurd hmet hright,
        fun _ _ => ⟨rfl, rfl⟩⟩
      rw [Single.isZero_eq_false_of_pos hinside]
      exact iff_of_false Bool.false_ne_true hleft

/-! ### Platforms -/

namespace Platform

/-- Where the way of a frame leads a platform, before it meets an edge. -/
def displaced (p : Platform) (dt multiplier : Single) : Single :=
  p.body.left + p.direction * p.speed * multiplier * dt

/-- The platform at another place and with another direction. -/
def walkedTo (p : Platform) (x direction : Single) : Platform :=
  { p with body := { p.body with left := x }, direction }

/-- The platform after frames of given times and speed multipliers. -/
def slide (p : Platform) (frames : List (Single × Single)) : Platform :=
  frames.foldl (fun p frame => p.advance frame.1 frame.2) p

variable {p : Platform}

/-- The last frame of a slide goes on from where the frames before have led. -/
theorem slide_concat (p : Platform) (frames : List (Single × Single)) (dt multiplier : Single) :
    p.slide (frames ++ [(dt, multiplier)]) = (p.slide frames).advance dt multiplier :=
  List.foldl_concat _ _ _ _

/-- A frame of a moving platform is a turn at the place that it is displaced to. -/
theorem advance_of_moving (hactive : p.active = true) (hkind : p.kind = .moving)
    (dt multiplier : Single) :
    p.advance dt multiplier =
      p.walkedTo (turnAtEdges (p.displaced dt multiplier) p.body.width p.direction).1
        (turnAtEdges (p.displaced dt multiplier) p.body.width p.direction).2 := by
  have hmoves : (p.active && p.kind == .moving) = true := by
    rw [hactive, hkind]
    rfl
  exact if_pos hmoves

/-- **Frames change nothing of a moving platform** but its place and its direction. -/
theorem slide_eq (hactive : p.active = true) (hkind : p.kind = .moving)
    (frames : List (Single × Single)) :
    p.slide frames = p.walkedTo (p.slide frames).body.left (p.slide frames).direction := by
  induction frames using List.reverseRecOn with
  | nil => rfl
  | append_singleton frames frame ih =>
    -- whether a frame moves the platform depends on what the frames before have kept
    have hnext := advance_of_moving
      (p := p.walkedTo (p.slide frames).body.left (p.slide frames).direction) hactive hkind
    rw [slide_concat, ih, hnext]
    rfl

/-- **Every frame of a slide is a turn** at the place that it is displaced to. -/
theorem turned_slide (hactive : p.active = true) (hkind : p.kind = .moving)
    (hpos : 0 < p.body.width) (hlt : p.body.width < viewportWidth) (frames : List (Single × Single))
    {dt multiplier : Single} (hnan : ((p.slide frames).displaced dt multiplier).isNaN = false) :
    Turned ((p.slide frames).displaced dt multiplier) p.body.width (p.slide frames).direction
      (p.slide (frames ++ [(dt, multiplier)])).body.left
      (p.slide (frames ++ [(dt, multiplier)])).direction := by
  have hslide := slide_eq hactive hkind frames
  have hwidth : (p.slide frames).body.width = p.body.width := by rw [hslide]; rfl
  have hnext : (p.slide frames).advance dt multiplier = _ :=
    advance_of_moving (by rw [hslide]; exact hactive) (by rw [hslide]; exact hkind) dt multiplier
  rw [slide_concat, hnext, hwidth]
  exact turned_turnAtEdges _ hnan hpos hlt

end Platform

/-! ### Monsters -/

namespace Monster

/-- Where the way of a frame leads a monster, before it meets an edge. -/
def displaced (m : Monster) (dt : Single) : Single := m.body.left + m.direction * m.speed * dt

/-- The monster at another place and with another direction. -/
def walkedTo (m : Monster) (x direction : Single) : Monster :=
  { m with body := { m.body with left := x }, direction }

/-- The monster after frames of given times. -/
def patrol (m : Monster) (times : List Single) : Monster := times.foldl advance m

variable {m : Monster}

/-- The last frame of a patrol goes on from where the frames before have led. -/
theorem patrol_concat (m : Monster) (times : List Single) (dt : Single) :
    m.patrol (times ++ [dt]) = (m.patrol times).advance dt :=
  List.foldl_concat _ _ _ _

/-- A frame of a live monster is a turn at the place that it is displaced to. -/
theorem advance_of_active (hactive : m.active = true) (dt : Single) :
    m.advance dt =
      m.walkedTo (turnAtEdges (m.displaced dt) m.body.width m.direction).1
        (turnAtEdges (m.displaced dt) m.body.width m.direction).2 :=
  if_pos hactive

/-- **Frames change nothing of a live monster** but its place and its direction. -/
theorem patrol_eq (hactive : m.active = true) (times : List Single) :
    m.patrol times = m.walkedTo (m.patrol times).body.left (m.patrol times).direction := by
  induction times using List.reverseRecOn with
  | nil => rfl
  | append_singleton times dt ih =>
    have hnext := advance_of_active
      (m := m.walkedTo (m.patrol times).body.left (m.patrol times).direction) hactive
    rw [patrol_concat, ih, hnext]
    rfl

/-- **Every frame of a patrol is a turn** at the place that it is displaced to. -/
theorem turned_patrol (hactive : m.active = true) (hpos : 0 < m.body.width)
    (hlt : m.body.width < viewportWidth) (times : List Single) {dt : Single}
    (hnan : ((m.patrol times).displaced dt).isNaN = false) :
    Turned ((m.patrol times).displaced dt) m.body.width (m.patrol times).direction
      (m.patrol (times ++ [dt])).body.left (m.patrol (times ++ [dt])).direction := by
  have hpatrol := patrol_eq hactive times
  have hwidth : (m.patrol times).body.width = m.body.width := by rw [hpatrol]; rfl
  have hnext : (m.patrol times).advance dt = _ :=
    advance_of_active (by rw [hpatrol]; exact hactive) dt
  rw [patrol_concat, hnext, hwidth]
  exact turned_turnAtEdges _ hnan hpos hlt

end Monster

/-! ### Every walk -/

/-- **The edges keep what walks between them.** Whatever frames went before, a frame of a moving
platform or of a live monster that is narrower than the world leaves it between the edges, turned away
from an edge that it met; and its place and its direction are all that changes. -/
theorem edges_keep_movers :
    (∀ p : Platform, p.active = true → p.kind = .moving → 0 < p.body.width →
      p.body.width < viewportWidth → ∀ frames dt multiplier,
        ((p.slide frames).displaced dt multiplier).isNaN = false →
        let next := p.slide (frames ++ [(dt, multiplier)])
        Turned ((p.slide frames).displaced dt multiplier) p.body.width (p.slide frames).direction
            next.body.left next.direction ∧
          next = p.walkedTo next.body.left next.direction) ∧
    (∀ m : Monster, m.active = true → 0 < m.body.width → m.body.width < viewportWidth →
      ∀ times dt, ((m.patrol times).displaced dt).isNaN = false →
        let next := m.patrol (times ++ [dt])
        Turned ((m.patrol times).displaced dt) m.body.width (m.patrol times).direction
            next.body.left next.direction ∧
          next = m.walkedTo next.body.left next.direction) := by
  refine ⟨fun p hactive hkind hpos hlt frames dt multiplier hnan => ⟨?_, ?_⟩,
    fun m hactive hpos hlt times dt hnan => ⟨?_, ?_⟩⟩
  · exact Platform.turned_slide hactive hkind hpos hlt frames hnan
  · exact Platform.slide_eq hactive hkind _
  · exact Monster.turned_patrol hactive hpos hlt times hnan
  · exact Monster.patrol_eq hactive _

/-- A platform that turned at the right edge is put back at the left edge by an infinite way, and a
monster that would leave through the left edge turns there. -/
theorem edges_keep_movers_right_then_left :
    (let p := Platform.moving 399 100 1 3;
      (p.slide [(1, 1)]).direction = -1 ∧ (p.slide [(1, 1), (.infinite false, 1)]).body.left = 0 ∧
        (p.slide [(1, 1), (.infinite false, 1)]).direction = 1) ∧
      (let m := Monster.spawn 1 100 (-1) 2;
        (m.patrol [1]).body.left = 0 ∧ (m.patrol [1]).direction = 1) := by
  have hwidths : (0 < platformWidth ∧ platformWidth < viewportWidth) ∧
      0 < monsterWidth ∧ monsterWidth < viewportWidth := by decide +kernel
  obtain ⟨hplatform, hmonster⟩ := hwidths
  obtain ⟨hfirst, -⟩ := edges_keep_movers.1 (Platform.moving 399 100 1 3) rfl rfl hplatform.1
    hplatform.2 [] 1 1 (by decide +kernel)
  obtain ⟨hsecond, -⟩ := edges_keep_movers.1 (Platform.moving 399 100 1 3) rfl rfl hplatform.1
    hplatform.2 [(1, 1)] (.infinite false) 1 (by decide +kernel)
  obtain ⟨hpatrol, -⟩ := edges_keep_movers.2 (Monster.spawn 1 100 (-1) 2) rfl hmonster.1 hmonster.2
    [] 1 (by decide +kernel)
  have hright := hfirst.right (by decide +kernel) (by decide +kernel)
  have hleft := hsecond.left (by decide +kernel)
  have hturn := hpatrol.left (by decide +kernel)
  rw [List.singleton_append] at hleft
  rw [List.nil_append] at hright hturn
  exact ⟨⟨hright.2, hleft⟩, hturn⟩

end Platformer
