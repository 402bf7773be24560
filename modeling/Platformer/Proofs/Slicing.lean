import Mathlib.Data.List.Dedup
import Platformer.Atlas
import Platformer.Proofs.Coarse
import Platformer.Proofs.Magnitude

/-! # Slicing a sheet

A sheet of equal cells gives an atlas. Of the cells for a sprite the last one inside the sheet decides,
and the cells outside have no part in it. The edges of a cell are multiples of the rounded share of one
cell; neither the rounding of the share nor that of a number of columns past the format leads the last
edge out of the sheet.

* **`rounded_mul_rounded_inv_le`** — as many shares as there are cells are rounded to no more than one.
* **`Atlas.edge`** — the edges between the cells, with **`Atlas.edge_le_edge`** and
  **`Atlas.edge_le_one`**; **`Atlas.inSheet_cellRegion`**, **`Atlas.beside_cellRegion`**,
  **`Atlas.above_cellRegion`** — the region of a cell inside the sheet, and its neighbours.
* **`Atlas.lastCell?`**, **`Atlas.region?_ofGrid`** — the cell that decides for a sprite, and
  **`Atlas.isSome_region?_ofGrid`** — when there is one.
* **`Atlas.size_ofGrid`** — the number of sprites with a region.
* **`Atlas.ofGrid_slices`** — the whole atlas of a sheet. -/

namespace Platformer

/-! ### Shares of one -/

/-- A natural from one power of two to the next is rounded to a number from the one to the other. -/
theorem Single.ofNat_mem_two_pow {k n : ℕ} (hk : k < 103) (hlow : 2 ^ k ≤ n)
    (hhigh : n ≤ 2 ^ (k + 1)) : 2 ^ k ≤ (ofNat n).value ∧ (ofNat n).value ≤ 2 ^ (k + 1) := by
  have hpow {j : ℕ} (hj : j ≤ 103) : rounded (2 ^ j) = 2 ^ j := by
    obtain ⟨x, -, hx⟩ := exists_value_eq_mul_two_pow (n := 1) (by decide) hj
    rw [Int.cast_one, one_mul] at hx
    rw [← hx, rounded_value]
  rw [value_ofNat_eq_rounded, ← hpow hk.le, ← hpow hk]
  exact ⟨rounded_le_rounded (by exact_mod_cast hlow), rounded_le_rounded (by exact_mod_cast hhigh)⟩

/-- **As many rounded shares as there are of them** are rounded to no more than one. -/
theorem rounded_mul_rounded_inv_le {k : ℕ} (hk : k ≤ 125) {n : ℚ} (hlow : 2 ^ k ≤ n)
    (hhigh : n ≤ 2 ^ (k + 1)) : rounded (n * rounded (1 / n)) ≤ 1 := by
  have hpow : (0 : ℚ) < 2 ^ k := by positivity
  have hpos : 0 < n := hpow.trans_le hlow
  -- the share is off by at most half of a unit of its own ...
  have hshare : |1 / n| ≤ 2 ^ 24 * (1 / 2 ^ (k + 24)) := by
    rw [abs_of_pos (one_div_pos.mpr hpos), pow_add, mul_one_div, div_mul_cancel_right₀ (by positivity),
      ← one_div]
    exact one_div_le_one_div_of_le hpow hlow
  have herror : |rounded (1 / n) - 1 / n| ≤ 1 / 2 ^ (k + 24) / 2 := by
    refine abs_rounded_sub_self_le_of_unit (by positivity) (fun m hm => ?_) hshare
    obtain ⟨x, hx, hvalue⟩ := Single.exists_value_eq hm (by omega : k + 24 ≤ 149)
    exact ⟨x, hx, by rw [hvalue, mul_one_div]⟩
  -- ... which makes at most half of a unit past one for all of them
  have hall : n * (1 / 2 ^ (k + 24) / 2) ≤ 1 / 2 ^ 24 := by
    calc n * (1 / 2 ^ (k + 24) / 2) ≤ 2 ^ (k + 1) * (1 / 2 ^ (k + 24) / 2) :=
          mul_le_mul_of_nonneg_right hhigh (by positivity)
      _ = 1 / 2 ^ 24 := by
          field_simp
          ring
  -- and halfway between two numbers the rounding goes to the even one
  have hpast : rounded (1 + 1 / 2 ^ 24) ≤ 1 := by decide +kernel
  refine (rounded_le_rounded ?_).trans hpast
  calc n * rounded (1 / n) ≤ n * (1 / n + 1 / 2 ^ (k + 24) / 2) :=
        mul_le_mul_of_nonneg_left (by linarith [le_abs_self (rounded (1 / n) - 1 / n)]) hpos.le
    _ = 1 + n * (1 / 2 ^ (k + 24) / 2) := by rw [mul_add, mul_one_div_cancel hpos.ne']
    _ ≤ 1 + 1 / 2 ^ 24 := add_le_add_right hall 1

/-- **A region within the sheet**, with its edges in order. -/
structure Region.InSheet (r : Region) : Prop where
  left : 0 ≤ r.u0
  across : r.u0 ≤ r.u1
  right : r.u1 ≤ 1
  upper : 0 ≤ r.v0
  down : r.v0 ≤ r.v1
  lower : r.v1 ≤ 1

/-- A region whose right edge is the left edge of another one. -/
def Region.Beside (r r' : Region) : Prop := r'.u0 = r.u1 ∧ r'.v0 = r.v0 ∧ r'.v1 = r.v1

/-- A region whose lower edge is the upper edge of another one. -/
def Region.Above (r r' : Region) : Prop := r'.v0 = r.v1 ∧ r'.u0 = r.u0 ∧ r'.u1 = r.u1

namespace Atlas

/-! ### Edges -/

/-- The share of one of `n` cells. -/
def share (n : ℕ) : Single := 1 / .ofNat n

/-- The edge before the cell `i` of `n` cells, and after the cell before it. -/
def edge (n i : ℕ) : Single := .ofNat i * share n

/-- A region lies between the edges before and after its cell. -/
theorem cellRegion_eq (columns rows : ℕ) (c : Cell) :
    cellRegion columns rows c = ⟨edge columns c.column, edge rows c.row,
      edge columns (c.column + 1), edge rows (c.row + 1)⟩ := rfl

section Edges

variable {n i j : ℕ}

/-- A number of cells lies between two powers of two, and so does the number that it is rounded to. -/
theorem exists_two_pow_le_value (hpos : 0 < n) (hn : n < UInt32.size) :
    ∃ k < 32, 2 ^ k ≤ (Single.ofNat n).value ∧ (Single.ofNat n).value ≤ 2 ^ (k + 1) := by
  have hk : n.log2 < 32 := (Nat.log2_lt hpos.ne').mpr hn
  exact ⟨n.log2, hk, Single.ofNat_mem_two_pow (by omega) (Nat.log2_self_le hpos.ne')
    Nat.lt_log2_self.le⟩

/-- What a number of cells is rounded to is at least one, and at most just past the last number. -/
theorem value_ofNat_mem (hpos : 0 < n) (hn : n < UInt32.size) :
    1 ≤ (Single.ofNat n).value ∧ (Single.ofNat n).value ≤ 2 ^ 32 := by
  obtain ⟨k, hk, hlow, hhigh⟩ := exists_two_pow_le_value hpos hn
  exact ⟨(one_le_pow₀ one_le_two).trans hlow,
    hhigh.trans (pow_le_pow_right₀ one_le_two (Nat.succ_le_of_lt hk))⟩

/-- A number of cells, and of some of them, is finite. -/
theorem isFinite_ofNat_of_le (hn : n < UInt32.size) (h : i ≤ n) :
    (Single.ofNat i).isFinite = true := by
  rcases i.eq_zero_or_pos with rfl | hpos
  · exact Single.isFinite_zero
  · obtain ⟨hone, hlast⟩ := value_ofNat_mem hpos (h.trans_lt hn)
    have hnumber := Single.isNaN_ofNat i
    refine (Single.within_of_abs_value_le (c := 2 ^ 32) hnumber ?_ (by norm_num)).isFinite
    rwa [abs_of_nonneg (zero_le_one.trans hone)]

/-- **A share** is a finite number above zero, rounded only once. -/
theorem value_share (hpos : 0 < n) (hn : n < UInt32.size) :
    (share n).isFinite = true ∧ 0 < (share n).value ∧
      (share n).value = rounded (1 / (Single.ofNat n).value) := by
  obtain ⟨hone, hlast⟩ := value_ofNat_mem hpos hn
  have hfinite := isFinite_ofNat_of_le hn le_rfl
  have hcount : 0 < (Single.ofNat n).value := zero_lt_one.trans_le hone
  have hvalue := Single.value_div Single.isFinite_one hfinite hcount.ne'
  rw [Single.value_one] at hvalue
  have hnumber := Single.isNaN_div (Single.isNaN_of_isFinite Single.isFinite_one) hfinite hcount
  refine ⟨(Single.within_of_value_eq (b := 1) (c := 1) hnumber hvalue ?_ ?_).isFinite, ?_, hvalue⟩
  · rw [abs_of_pos (one_div_pos.mpr hcount)]
    exact (div_le_one hcount).mpr hone
  · decide +kernel
  · have hleast : 0 < rounded (1 / 2 ^ 32) := by decide +kernel
    rw [share, hvalue]
    exact hleast.trans_le (rounded_le_rounded (one_div_le_one_div_of_le hcount hlast))

/-- **Edges are in order.** -/
theorem edge_le_edge (hpos : 0 < n) (hn : n < UInt32.size) (h : i ≤ j) : edge n i ≤ edge n j := by
  obtain ⟨hfinite, hshare, -⟩ := value_share hpos hn
  exact Single.mul_le_mul_right (Single.ofNat_le_ofNat h) hfinite hshare

/-- No edge lies before the sheet. -/
theorem edge_nonneg (hpos : 0 < n) (hn : n < UInt32.size) (h : i ≤ n) : 0 ≤ edge n i := by
  obtain ⟨hfinite, hshare, -⟩ := value_share hpos hn
  refine Single.mul_nonneg (Single.ofNat_nonneg i) ?_ (isFinite_ofNat_of_le hn h) hfinite
  rw [Single.le_iff_of_isFinite Single.isFinite_zero hfinite, Single.value_zero]
  exact hshare.le

/-- **The last edge does not lie past the sheet**, nor does any edge before it. -/
theorem edge_le_one (hpos : 0 < n) (hn : n < UInt32.size) (h : i ≤ n) : edge n i ≤ 1 := by
  obtain ⟨k, hk, hlow, hhigh⟩ := exists_two_pow_le_value hpos hn
  obtain ⟨hshare, -, hvalue⟩ := value_share hpos hn
  have hcount := isFinite_ofNat_of_le hn le_rfl
  refine Single.le_trans (edge_le_edge hpos hn h) (Single.le_iff_value.mpr ⟨?_, ?_, ?_⟩)
  · exact Single.isNaN_mul hcount hshare
  · exact Single.isNaN_of_isFinite Single.isFinite_one
  · rw [edge, Single.value_mul hcount hshare, hvalue, Single.value_one]
    exact rounded_mul_rounded_inv_le (by omega) hlow hhigh

/-- **The region of a cell inside a sheet** lies within the sheet. -/
theorem inSheet_cellRegion {columns rows : ℕ} {c : Cell} (hcolumns : columns < UInt32.size)
    (hrows : rows < UInt32.size) (hcolumn : c.column < columns) (hrow : c.row < rows) :
    (cellRegion columns rows c).InSheet := by
  have hcolumnPos := c.column.zero_le.trans_lt hcolumn
  have hrowPos := c.row.zero_le.trans_lt hrow
  rw [cellRegion_eq]
  exact {
    left := edge_nonneg hcolumnPos hcolumns hcolumn.le
    across := edge_le_edge hcolumnPos hcolumns c.column.le_succ
    right := edge_le_one hcolumnPos hcolumns hcolumn
    upper := edge_nonneg hrowPos hrows hrow.le
    down := edge_le_edge hrowPos hrows c.row.le_succ
    lower := edge_le_one hrowPos hrows hrow }

end Edges

/-- **Neighbours in a row** share the edge between them. -/
theorem beside_cellRegion {columns rows : ℕ} {c c' : Cell} (hcolumn : c'.column = c.column + 1)
    (hrow : c'.row = c.row) : (cellRegion columns rows c).Beside (cellRegion columns rows c') := by
  rw [cellRegion_eq, cellRegion_eq, hcolumn, hrow]
  exact ⟨rfl, rfl, rfl⟩

/-- **Neighbours in a column** share the edge between them. -/
theorem above_cellRegion {columns rows : ℕ} {c c' : Cell} (hrow : c'.row = c.row + 1)
    (hcolumn : c'.column = c.column) :
    (cellRegion columns rows c).Above (cellRegion columns rows c') := by
  rw [cellRegion_eq, cellRegion_eq, hrow, hcolumn]
  exact ⟨rfl, rfl, rfl⟩

/-! ### The last cell for a sprite -/

/-- The cell that decides for a sprite: the last one for it inside the sheet. -/
def lastCell? (columns rows : ℕ) (cells : List Cell) (s : Sprite) : Option Cell :=
  ((cells.filter (Cell.isInside columns rows)).filter fun c => c.sprite = s).getLast?

section Last

variable {columns rows : ℕ} {cells : List Cell} {c : Cell} {s : Sprite}

/-- Inside a sheet, both places of a cell are within bounds. -/
theorem isInside_iff : Cell.isInside columns rows c = true ↔ c.column < columns ∧ c.row < rows := by
  rw [Cell.isInside, Bool.and_eq_true, decide_eq_true_iff, decide_eq_true_iff]

/-- Nothing is inside a sheet without cells. -/
theorem filter_isInside_eq_nil (h : columns = 0 ∨ rows = 0) :
    cells.filter (Cell.isInside columns rows) = [] := by
  refine List.filter_eq_nil_iff.mpr fun c _ hinside => ?_
  have hbounds := isInside_iff.mp hinside
  omega

/-- **The last insertion wins.** -/
theorem region?_foldl_insert (region : Cell → Region) (cells : List Cell) (s : Sprite) :
    (cells.foldl (fun a c => a.insert c.sprite (region c)) empty).region? s =
      (cells.filter fun c => c.sprite = s).getLast?.map region := by
  -- on the end of the list, where the insertion is that decides
  induction cells using List.reverseRecOn with
  | nil => rfl
  | append_singleton cells c ih =>
    rw [List.foldl_concat, region?_insert, List.filter_append]
    by_cases h : s = c.sprite
    · have hlast : [c].filter (fun c => c.sprite = s) = [c] :=
        List.filter_eq_self.mpr fun d hd => by
          rw [List.mem_singleton.mp hd]
          exact decide_eq_true h.symm
      rw [if_pos h, hlast, List.getLast?_concat, Option.map_some]
    · have hnone : [c].filter (fun c => c.sprite = s) = [] :=
        List.filter_eq_nil_iff.mpr fun d hd hsprite => by
          rw [List.mem_singleton.mp hd] at hsprite
          exact h (of_decide_eq_true hsprite).symm
      rw [if_neg h, hnone, List.append_nil, ih]

/-- The atlas of a sheet is that of the cells inside the sheet, one insertion after another. -/
theorem ofGrid_fst (columns rows : ℕ) (cells : List Cell) :
    (ofGrid columns rows cells).1 = (cells.filter (Cell.isInside columns rows)).foldl
      (fun a c => a.insert c.sprite (cellRegion columns rows c)) empty := by
  unfold ofGrid
  split
  · next hempty =>
    rw [filter_isInside_eq_nil hempty]
    rfl
  · rw [List.partition_eq_filter_filter]

/-- **The region of a sprite** is that of its last cell inside the sheet. -/
theorem region?_ofGrid (columns rows : ℕ) (cells : List Cell) (s : Sprite) :
    (ofGrid columns rows cells).1.region? s =
      (lastCell? columns rows cells s).map (cellRegion columns rows) := by
  rw [ofGrid_fst]
  exact region?_foldl_insert _ _ _

/-- The last cell for a sprite is inside the sheet. -/
theorem isInside_of_lastCell? (h : lastCell? columns rows cells s = some c) :
    c.column < columns ∧ c.row < rows := by
  have hmem := List.mem_of_mem_filter (List.mem_of_getLast? h)
  exact isInside_iff.mp (List.of_mem_filter hmem)

/-- There is a last cell for a sprite if there is any inside the sheet. -/
theorem isSome_lastCell? :
    (lastCell? columns rows cells s).isSome ↔
      ∃ c ∈ cells.filter (Cell.isInside columns rows), c.sprite = s := by
  rw [lastCell?, List.getLast?_isSome, Ne, List.filter_eq_nil_iff]
  simp only [decide_eq_true_iff, not_forall, not_not, exists_prop]

/-- **A sprite has a region** exactly if a sheet that is not empty holds a cell for it. -/
theorem isSome_region?_ofGrid :
    ((ofGrid columns rows cells).1.region? s).isSome ↔ columns ≠ 0 ∧ rows ≠ 0 ∧
      ∃ c ∈ cells, c.sprite = s ∧ c.column < columns ∧ c.row < rows := by
  rw [region?_ofGrid, Option.isSome_map, isSome_lastCell?]
  simp only [List.mem_filter, isInside_iff]
  constructor
  · rintro ⟨c, ⟨hmem, hcolumn, hrow⟩, hsprite⟩
    exact ⟨by omega, by omega, c, hmem, hsprite, hcolumn, hrow⟩
  · rintro ⟨-, -, c, hmem, hsprite, hinside⟩
    exact ⟨c, ⟨hmem, hinside⟩, hsprite⟩

/-- **Every region of the atlas** lies within the sheet. -/
theorem inSheet_of_region? {region : Region} (hcolumns : columns < UInt32.size)
    (hrows : rows < UInt32.size) (h : (ofGrid columns rows cells).1.region? s = some region) :
    region.InSheet := by
  rw [region?_ofGrid] at h
  obtain ⟨c, hc, rfl⟩ := Option.map_eq_some_iff.mp h
  obtain ⟨hcolumn, hrow⟩ := isInside_of_lastCell? hc
  exact inSheet_cellRegion hcolumns hrows hcolumn hrow

/-- **The size of the atlas** is the number of distinct sprites with a cell inside the sheet. -/
theorem size_ofGrid (columns rows : ℕ) (cells : List Cell) :
    (ofGrid columns rows cells).1.size =
      ((cells.filter (Cell.isInside columns rows)).map Cell.sprite).dedup.length := by
  have hall : Sprite.all.Nodup := by decide
  -- both lists name a sprite at most once, and they name the same sprites
  rw [size, List.countP_eq_length_filter]
  refine ((List.perm_ext_iff_of_nodup (hall.filter _) (List.nodup_dedup _)).mpr fun s => ?_).length_eq
  rw [List.mem_filter, and_iff_right (Sprite.mem_all s), region?_ofGrid, Option.isSome_map,
    isSome_lastCell?, List.mem_dedup, List.mem_map]

/-- **The cells outside change nothing** of the atlas. -/
theorem ofGrid_filter_isInside (columns rows : ℕ) (cells : List Cell) :
    (ofGrid columns rows (cells.filter (Cell.isInside columns rows))).1 =
      (ofGrid columns rows cells).1 := by
  simp only [ofGrid_fst, List.filter_filter, Bool.and_self]

end Last

/-! ### The whole atlas -/

/-- **A sheet is sliced into the atlas of its cells.** A sprite has a region exactly if a sheet that is
not empty holds a cell for it, and the region is that of the last such cell; the cells outside change
nothing. Every region lies within the sheet with its edges in order, the regions of neighbours share the
edge between them, and no count of columns or rows up to a cell runs over. -/
theorem ofGrid_slices {columns rows : ℕ} (hcolumns : columns < UInt32.size)
    (hrows : rows < UInt32.size) (cells : List Cell) :
    let atlas := (ofGrid columns rows cells).1
    let last := lastCell? columns rows cells
    (∀ s, (atlas.region? s).isSome ↔ columns ≠ 0 ∧ rows ≠ 0 ∧
        ∃ c ∈ cells, c.sprite = s ∧ c.column < columns ∧ c.row < rows) ∧
      (∀ s, atlas.region? s = (last s).map (cellRegion columns rows)) ∧
      atlas.size = ((cells.filter (Cell.isInside columns rows)).map Cell.sprite).dedup.length ∧
      atlas = (ofGrid columns rows (cells.filter (Cell.isInside columns rows))).1 ∧
      (∀ s region, atlas.region? s = some region → region.InSheet) ∧
      (∀ s s' c c', last s = some c → last s' = some c' →
        ∃ region region', atlas.region? s = some region ∧ atlas.region? s' = some region' ∧
          (c'.column = c.column + 1 → c'.row = c.row → region.Beside region') ∧
          (c'.row = c.row + 1 → c'.column = c.column → region.Above region')) ∧
      (∀ c ∈ cells, c.column < columns → c.row < rows →
        c.column + 1 < UInt32.size ∧ c.row + 1 < UInt32.size) := by
  have hregion := region?_ofGrid columns rows cells
  refine ⟨fun _ => isSome_region?_ofGrid, hregion, size_ofGrid columns rows cells,
    (ofGrid_filter_isInside columns rows cells).symm,
    fun _ _ => inSheet_of_region? hcolumns hrows, fun s s' c c' hc hc' => ?_,
    fun c _ hcolumn hrow => ⟨by omega, by omega⟩⟩
  refine ⟨cellRegion columns rows c, cellRegion columns rows c', ?_, ?_, beside_cellRegion,
    above_cellRegion⟩
  · rw [hregion, hc, Option.map_some]
  · rw [hregion, hc', Option.map_some]

/-- On a sheet of as many columns as there can be, the last column stays within the sheet, for a sprite
that had another cell before; a monster past it has no region. -/
theorem ofGrid_slices_of_widest :
    let cells : List Cell := [⟨.player, 0, 0⟩, ⟨.monster, 4294967295, 2⟩, ⟨.player, 4294967294, 2⟩]
    let atlas := (ofGrid 4294967295 3 cells).1
    atlas.size = 1 ∧ (atlas.region? .monster).isSome = false ∧
      ∃ region, atlas.region? .player = some region ∧ region.InSheet ∧
        region = cellRegion 4294967295 3 ⟨.player, 4294967294, 2⟩ := by
  intro cells atlas
  obtain ⟨hsome, hregion, hsize, -, hsheet, -, -⟩ :=
    ofGrid_slices (show 4294967295 < UInt32.size by decide) (show 3 < UInt32.size by decide) cells
  have hplayer := hregion .player
  refine ⟨hsize, Bool.eq_false_iff.mpr fun hmonster => ?_, _, hplayer, hsheet _ _ hplayer, rfl⟩
  obtain ⟨-, -, c, hmem, hsprite, hcolumn, -⟩ := (hsome .monster).mp hmonster
  simp only [cells, List.mem_cons, List.not_mem_nil, or_false] at hmem
  rcases hmem with rfl | rfl | rfl
  · cases hsprite
  · exact absurd hcolumn (lt_irrefl _)
  · cases hsprite

end Atlas

end Platformer
