import Proscenium.Texture.Atlas
import Proscenium.Proofs.Double.Fractions

/-!
# Cutting an atlas: what each tile gives, and what is reported

`sliceAtlas` takes the tiles in order and stops at the first one whose cut fails. This module
says what one tile's cut gives (`Tile.slice`, the step of `cutTiles`) and what the whole run
gives in terms of it.

* A cut whose word arithmetic stays in range (`Tile.Fits`) refuses a tile that reaches past the
  grid (`Tile.Outside`) and otherwise gives the region of the atlas under the tile's cells
  (`Tile.slice_of_fits`). A cut whose arithmetic leaves the word range aborts with the overflow
  (`Tile.slice_of_not_fits`). The sums are computed before they are compared, so a tile whose
  right edge is past the last word aborts although it lies outside the grid.
* The run answers the cuts of the tiles in order up to the first that fails (`cutTiles_result`,
  a `mapM`), and reports one fraction per tile cut (`cutTiles_progress`). These fractions, as
  doubles, never decrease and end at one (`progress_pairwise`, `progress_getLast?`).
* For tiles whose cells are counted from zero, in an atlas whose offset and size fit in words,
  nothing overflows and each region lies inside the atlas (`Tile.fits_of_nonneg`,
  `Tile.region_inside`).
-/

namespace Proscenium

open Double

/-! ## Word arithmetic in a computation -/

section Words

variable {α : Type} {a b : Int} {f : Int → Outcome α}

theorem wordAdd_bind_of_isWord (h : IsWord (a + b)) : (wordAdd a b >>= f) = f (a + b) := by
  rw [wordAdd, if_pos h]
  rfl

theorem wordAdd_bind_of_not (h : ¬ IsWord (a + b)) : (wordAdd a b >>= f) = .error .addOverflow := by
  rw [wordAdd, if_neg h]
  rfl

theorem wordMul_bind_of_isWord (h : IsWord (a * b)) : (wordMul a b >>= f) = f (a * b) := by
  rw [wordMul, if_pos h]
  rfl

theorem wordMul_bind_of_not (h : ¬ IsWord (a * b)) : (wordMul a b >>= f) = .error .mulOverflow := by
  rw [wordMul, if_neg h]
  rfl

theorem wordMin_le_zero : wordMin ≤ 0 := by decide

end Words

/-! ## One tile -/

namespace Tile

/-- Does the tile reach past the grid: past its last column or past its last row. -/
def Outside (t : Tile) (columns rows : Int) : Prop :=
  columns < t.left + t.width ∨ rows < t.top + t.height

instance (t : Tile) (columns rows : Int) : Decidable (t.Outside columns rows) :=
  inferInstanceAs (Decidable (_ ∨ _))

/-- The region of the atlas under the tile's cells, for cells of `tw × th` pixels. -/
def region (t : Tile) (atlas : Texture) (tw th : Int) : Texture :=
  ⟨atlas.kind, atlas.image, atlas.left + t.left * tw, atlas.top + t.top * th, t.width * tw, t.height * th⟩

/-- The four products and the two offsets of a tile's region are words. -/
def CutFits (t : Tile) (atlas : Texture) (tw th : Int) : Prop :=
  IsWord (t.left * tw) ∧ IsWord (t.top * th) ∧ IsWord (t.width * tw) ∧ IsWord (t.height * th) ∧
    IsWord (atlas.left + t.left * tw) ∧ IsWord (atlas.top + t.top * th)

/-- The word arithmetic of one tile's cut stays in range: the sum that tests the columns; when
the tile passes that test, the sum that tests the rows; when it passes both, its region's. -/
def Fits (t : Tile) (atlas : Texture) (columns rows tw th : Int) : Prop :=
  IsWord (t.left + t.width) ∧ (t.left + t.width ≤ columns →
    IsWord (t.top + t.height) ∧ (t.top + t.height ≤ rows → t.CutFits atlas tw th))

/-- One tile's cut, the step of `cutTiles`. -/
def slice (t : Tile) (atlas : Texture) (columns rows tw th : Int) : Outcome Texture := do
  if ← t.outside columns rows then
    throw (.fault (.geometry ("tile " ++ t.name ++ " falls outside the atlas")))
  t.cut atlas tw th

variable {t : Tile} {atlas : Texture} {columns rows tw th : Int}

/-- With its edge sums in words, the test is whether the tile reaches past the grid. -/
theorem outside_eq (h₁ : IsWord (t.left + t.width))
    (h₂ : t.left + t.width ≤ columns → IsWord (t.top + t.height)) :
    t.outside columns rows = .ok (decide (t.Outside columns rows)) := by
  unfold outside
  rw [wordAdd_bind_of_isWord h₁]
  by_cases hc : columns < t.left + t.width
  · have ho : t.Outside columns rows := .inl hc
    rw [if_pos hc, decide_eq_true ho]
    rfl
  · rw [if_neg hc, wordAdd_bind_of_isWord (h₂ (not_lt.mp hc))]
    have ho : t.Outside columns rows ↔ rows < t.top + t.height := or_iff_right hc
    rw [decide_eq_decide.mpr ho]
    rfl

/-- A cut whose products and offsets are words gives the tile's region. -/
theorem cut_eq (h : t.CutFits atlas tw th) : t.cut atlas tw th = .ok (t.region atlas tw th) := by
  obtain ⟨h₁, h₂, h₃, h₄, h₅, h₆⟩ := h
  unfold cut Texture.region
  rw [wordMul_bind_of_isWord h₁, wordMul_bind_of_isWord h₂, wordMul_bind_of_isWord h₃,
    wordMul_bind_of_isWord h₄, wordAdd_bind_of_isWord h₅, wordAdd_bind_of_isWord h₆]
  rfl

/-- A cut whose products or offsets leave the words aborts with the first overflow. -/
theorem cut_of_not_cutFits (h : ¬ t.CutFits atlas tw th) :
    t.cut atlas tw th = .error .mulOverflow ∨ t.cut atlas tw th = .error .addOverflow := by
  unfold cut Texture.region
  -- the operations in the order the cut makes them: four products, then two offsets
  by_cases h₁ : IsWord (t.left * tw)
  · rw [wordMul_bind_of_isWord h₁]
    by_cases h₂ : IsWord (t.top * th)
    · rw [wordMul_bind_of_isWord h₂]
      by_cases h₃ : IsWord (t.width * tw)
      · rw [wordMul_bind_of_isWord h₃]
        by_cases h₄ : IsWord (t.height * th)
        · rw [wordMul_bind_of_isWord h₄]
          by_cases h₅ : IsWord (atlas.left + t.left * tw)
          · have h₆ : ¬ IsWord (atlas.top + t.top * th) := fun h₆ => h ⟨h₁, h₂, h₃, h₄, h₅, h₆⟩
            rw [wordAdd_bind_of_isWord h₅]
            exact .inr (wordAdd_bind_of_not h₆)
          · exact .inr (wordAdd_bind_of_not h₅)
        · exact .inl (wordMul_bind_of_not h₄)
      · exact .inl (wordMul_bind_of_not h₃)
    · exact .inl (wordMul_bind_of_not h₂)
  · exact .inl (wordMul_bind_of_not h₁)

/-- **A cut that stays in words** refuses a tile reaching past the grid, naming it, and gives
the region under the cells of any other. -/
theorem slice_of_fits (h : t.Fits atlas columns rows tw th) :
    t.slice atlas columns rows tw th =
      if t.Outside columns rows then .error (.fault (.geometry ("tile " ++ t.name ++ " falls outside the atlas")))
      else .ok (t.region atlas tw th) := by
  obtain ⟨h₁, h₂⟩ := h
  unfold slice
  rw [outside_eq h₁ fun hle => (h₂ hle).1]
  by_cases ho : t.Outside columns rows
  · rw [if_pos ho, decide_eq_true ho]
    rfl
  · have hle : t.left + t.width ≤ columns ∧ t.top + t.height ≤ rows := by
      unfold Outside at ho
      omega
    rw [if_neg ho, decide_eq_false ho, ← cut_eq ((h₂ hle.1).2 hle.2)]
    rfl

/-- **A cut that leaves the words aborts** with the overflow, whether or not the tile is
inside the grid. -/
theorem slice_of_not_fits (h : ¬ t.Fits atlas columns rows tw th) :
    t.slice atlas columns rows tw th = .error .addOverflow ∨
      t.slice atlas columns rows tw th = .error .mulOverflow := by
  unfold slice outside
  by_cases h₁ : IsWord (t.left + t.width)
  · rw [wordAdd_bind_of_isWord h₁]
    -- a tile past the last column is refused without more arithmetic, so it fits
    have hc : ¬ columns < t.left + t.width := fun hc =>
      h ⟨h₁, fun hle => absurd hle (not_le.mpr hc)⟩
    rw [if_neg hc]
    by_cases h₂ : IsWord (t.top + t.height)
    · rw [wordAdd_bind_of_isWord h₂]
      have hr : ¬ rows < t.top + t.height := fun hr =>
        h ⟨h₁, fun _ => ⟨h₂, fun hle => absurd hle (not_le.mpr hr)⟩⟩
      have hcut : ¬ t.CutFits atlas tw th := fun hcut => h ⟨h₁, fun _ => ⟨h₂, fun _ => hcut⟩⟩
      rw [decide_eq_false hr]
      rcases cut_of_not_cutFits hcut with hm | ha
      · exact .inr hm
      · exact .inl ha
    · left
      rw [wordAdd_bind_of_not h₂]
      rfl
  · left
    rw [wordAdd_bind_of_not h₁]
    rfl

end Tile

/-! ## The run over the tiles -/

section Run

variable {atlas : Texture} {columns rows tw th : Int} {total : Float} {t : Tile} {ts : List Tile}

/-- A tile whose cut fails ends the run with that failure, reporting nothing more. -/
theorem cutTiles_cons_of_error {e : Failure} (h : t.slice atlas columns rows tw th = .error e) (i : Nat) :
    cutTiles atlas columns rows tw th total i (t :: ts) = ([], .error e) := by
  unfold Tile.slice at h
  simp only [cutTiles, h]

/-- A tile that is cut reports its fraction, and the run goes on with the next. -/
theorem cutTiles_cons_of_ok {r : Texture} (h : t.slice atlas columns rows tw th = .ok r) (i : Nat) :
    cutTiles atlas columns rows tw th total i (t :: ts) =
      (Float.ofNat (i + 1) / total :: (cutTiles atlas columns rows tw th total (i + 1) ts).1,
        (cutTiles atlas columns rows tw th total (i + 1) ts).2.map ((t.name, r) :: ·)) := by
  unfold Tile.slice at h
  simp only [cutTiles, h]

/-- **The run's answer** is the cuts of the tiles, named, in order, up to the first that fails. -/
theorem cutTiles_result (i : Nat) (tiles : List Tile) :
    (cutTiles atlas columns rows tw th total i tiles).2 =
      tiles.mapM fun t => (t.slice atlas columns rows tw th).map ((t.name, ·)) := by
  induction tiles generalizing i with
  | nil => rfl
  | cons t ts ih =>
    cases hs : t.slice atlas columns rows tw th with
    | error e =>
      rw [cutTiles_cons_of_error hs, List.mapM_cons, hs]
      rfl
    | ok r =>
      rw [cutTiles_cons_of_ok hs, List.mapM_cons, hs, ih (i + 1)]
      cases ts.mapM fun t => (t.slice atlas columns rows tw th).map ((t.name, ·)) <;> rfl

/-- **The run's progress** is one fraction for each tile cut before the first that fails. -/
theorem cutTiles_progress (i : Nat) (tiles : List Tile) :
    (cutTiles atlas columns rows tw th total i tiles).1 =
      (List.range (tiles.takeWhile fun t => (t.slice atlas columns rows tw th).toBool).length).map
        fun j => Float.ofNat (i + j + 1) / total := by
  induction tiles generalizing i with
  | nil => rfl
  | cons t ts ih =>
    cases hs : t.slice atlas columns rows tw th with
    | error e =>
      rw [cutTiles_cons_of_error hs, List.takeWhile_cons_of_neg (by rw [hs]; exact Bool.false_ne_true)]
      rfl
    | ok r =>
      rw [cutTiles_cons_of_ok hs, List.takeWhile_cons_of_pos (by rw [hs]; rfl), List.length_cons,
        List.range_succ_eq_map, List.map_cons, List.map_map, ih (i + 1)]
      -- the fraction of the `j+1`-th tile from `i` is that of the `j`-th from `i + 1`
      have hshift : ∀ j : Nat, i + 1 + j + 1 = i + Nat.succ j + 1 := fun j => by omega
      simp only [Function.comp_def, hshift, Nat.add_zero]

/-- When every cut succeeds, every tile was cut. -/
theorem length_takeWhile_of_mapM_ok {tiles : List Tile} {cuts : List (String × Texture)}
    (h : (tiles.mapM fun t => (t.slice atlas columns rows tw th).map ((t.name, ·))) = .ok cuts) :
    (tiles.takeWhile fun t => (t.slice atlas columns rows tw th).toBool).length = tiles.length := by
  induction tiles generalizing cuts with
  | nil => rfl
  | cons t ts ih =>
    rw [List.mapM_cons] at h
    cases hs : t.slice atlas columns rows tw th with
    | error e =>
      rw [hs] at h
      cases h
    | ok r =>
      rw [hs] at h
      cases hts : ts.mapM fun t => (t.slice atlas columns rows tw th).map ((t.name, ·)) with
      | error e =>
        rw [hts] at h
        cases h
      | ok cs =>
        rw [List.takeWhile_cons_of_pos (by rw [hs]; rfl), List.length_cons, List.length_cons, ih hts]

end Run

/-! ## The fractions reported -/

section Progress

variable {k n : Nat}

/-- **The fractions never decrease**: zero, then `(i+1)/n` as a double for each of the first `k`
of `n` tiles. -/
theorem progress_pairwise (hk : k ≤ n) (hn : n < 2 ^ 64) :
    (0 :: (List.range k).map fun i => Float.ofNat (i + 1) / Float.ofNat (max n 1)).Pairwise (· ≤ ·) := by
  have hN : 1 ≤ max n 1 := le_max_right n 1
  have hN' : max n 1 ≤ 2 ^ 64 := max_le hn.le (by norm_num)
  -- every numerator reported is from one to `n`
  have hnum : ∀ i ∈ List.range k, 1 ≤ i + 1 ∧ i + 1 ≤ 2 ^ 64 := fun i hi => by
    have := List.mem_range.mp hi
    omega
  rw [List.pairwise_cons, List.pairwise_map]
  refine ⟨fun x hx => ?_, ?_⟩
  · obtain ⟨i, hi, rfl⟩ := List.mem_map.mp hx
    exact zero_le_ofNat_div_ofNat (hnum i hi).1 (hnum i hi).2 hN hN'
  · refine List.pairwise_lt_range.imp_of_mem fun {i j} hi hj hij => ?_
    exact ofNat_div_ofNat_le (hnum i hi).1 (by omega) (hnum j hj).2 hN hN'

/-- **The last fraction is one** once all `n` tiles are cut; with no tiles, only zero is
reported. -/
theorem progress_getLast? (hn : n < 2 ^ 64) :
    (0 :: (List.range n).map fun i => Float.ofNat (i + 1) / Float.ofNat (max n 1)).getLast? =
      some (if n = 0 then 0 else 1) := by
  rw [List.getLast?_cons, List.getLast?_map, List.getLast?_range]
  by_cases h0 : n = 0
  · rw [if_pos h0, if_pos h0]
    rfl
  · rw [if_neg h0, if_neg h0, Option.map_some, Option.getD_some, Nat.sub_add_cancel (by omega),
      max_eq_left (by omega), ofNat_div_self (by omega) (by omega)]

end Progress

/-! ## Tiles counted from zero -/

/-- An atlas whose offset and size are words, as the fields of a texture are. -/
def Texture.Words (t : Texture) : Prop :=
  IsWord t.left ∧ IsWord t.top ∧ IsWord t.width ∧ IsWord t.height

/-- A tile whose cells are counted from zero. -/
def Tile.Nonneg (t : Tile) : Prop :=
  0 ≤ t.left ∧ 0 ≤ t.top ∧ 0 ≤ t.width ∧ 0 ≤ t.height

section Inside

/-- A size from zero up, cut into `c > 0` cells truncating: a cell size from zero up, and the
`c` cells fit in the size. -/
theorem tdiv_cells {W c : Int} (hW : 0 ≤ W) (hc : 0 < c) : 0 ≤ W.tdiv c ∧ c * W.tdiv c ≤ W := by
  rw [Int.tdiv_eq_ediv_of_nonneg hW]
  exact ⟨Int.ediv_nonneg hW hc.le, Int.mul_ediv_self_le hc.ne'⟩

/-- `x ≤ c` of the `c` cells that fit in `W` span from zero to at most `W`. -/
theorem cells_le {x c W s : Int} (hx : 0 ≤ x) (hxc : x ≤ c) (hs : 0 ≤ s) (hcs : c * s ≤ W) :
    0 ≤ x * s ∧ x * s ≤ W :=
  ⟨Int.mul_nonneg hx hs, le_trans (Int.mul_le_mul_of_nonneg_right hxc hs) hcs⟩

theorem isWord_of_le {x W : Int} (hW : IsWord W) (hx : 0 ≤ x) (hxW : x ≤ W) : IsWord x := by
  have := wordMin_le_zero
  unfold IsWord at *
  omega

/-- An offset `o` moved by `0 ≤ x ≤ W` stays a word when `o` and `o + W` are. -/
theorem isWord_offset {o x W : Int} (ho : IsWord o) (hoW : IsWord (o + W)) (hx : 0 ≤ x) (hxW : x ≤ W) :
    IsWord (o + x) := by
  unfold IsWord at *
  omega

variable {t : Tile} {atlas : Texture} {columns rows : Int}

/-- **Nothing overflows** for a tile counted from zero whose edge sums are words, in an atlas
whose offset, size and far edges are words: what the tile passes, its cells lie in the atlas. -/
theorem Tile.fits_of_nonneg (ha : atlas.Words) (hW : 0 ≤ atlas.width) (hH : 0 ≤ atlas.height)
    (hx : IsWord (atlas.left + atlas.width)) (hy : IsWord (atlas.top + atlas.height))
    (hc : 0 < columns) (hr : 0 < rows) (ht : t.Nonneg) (hlw : IsWord (t.left + t.width))
    (hth : IsWord (t.top + t.height)) :
    t.Fits atlas columns rows (atlas.width.tdiv columns) (atlas.height.tdiv rows) := by
  obtain ⟨hox, hoy, hwW, hwH⟩ := ha
  obtain ⟨hl, htp, hw, hh⟩ := ht
  obtain ⟨htw, hcols⟩ := tdiv_cells hW hc
  obtain ⟨hth', hrows⟩ := tdiv_cells hH hr
  refine ⟨hlw, fun hle => ⟨hth, fun hle' => ?_⟩⟩
  -- each of the tile's counts of cells is at most the grid's
  have hL := cells_le hl (by omega) htw hcols
  have hWd := cells_le hw (by omega) htw hcols
  have hT := cells_le htp (by omega) hth' hrows
  have hHt := cells_le hh (by omega) hth' hrows
  exact ⟨isWord_of_le hwW hL.1 hL.2, isWord_of_le hwH hT.1 hT.2, isWord_of_le hwW hWd.1 hWd.2,
    isWord_of_le hwH hHt.1 hHt.2, isWord_offset hox hx hL.1 hL.2, isWord_offset hoy hy hT.1 hT.2⟩

/-- **Every region lies inside the atlas**: the cells of a tile counted from zero, inside the
grid, span at most the atlas. -/
theorem Tile.region_inside (hW : 0 ≤ atlas.width) (hH : 0 ≤ atlas.height) (hc : 0 < columns)
    (hr : 0 < rows) (ht : t.Nonneg) (hin : ¬ t.Outside columns rows) :
    t.left * atlas.width.tdiv columns + t.width * atlas.width.tdiv columns ≤ atlas.width ∧
      t.top * atlas.height.tdiv rows + t.height * atlas.height.tdiv rows ≤ atlas.height := by
  unfold Outside at hin
  obtain ⟨hl, htp, hw, hh⟩ := ht
  obtain ⟨htw, hcols⟩ := tdiv_cells hW hc
  obtain ⟨hth, hrows⟩ := tdiv_cells hH hr
  rw [← Int.add_mul, ← Int.add_mul]
  exact ⟨(cells_le (by omega) (by omega) htw hcols).2, (cells_le (by omega) (by omega) hth hrows).2⟩

end Inside

/-! ## Slicing an atlas -/

/-- With a grid of cells, the slicing reports zero and then what the run over the tiles
reports, and answers what the run answers. -/
theorem sliceAtlas_of_pos (atlas : Texture) {columns rows : Int} (hc : 0 < columns) (hr : 0 < rows)
    (tiles : List Tile) :
    sliceAtlas atlas columns rows tiles =
      ⟨0 :: (cutTiles atlas columns rows (atlas.width.tdiv columns) (atlas.height.tdiv rows)
          (Float.ofNat (max tiles.length 1)) 0 tiles).1,
        (cutTiles atlas columns rows (atlas.width.tdiv columns) (atlas.height.tdiv rows)
          (Float.ofNat (max tiles.length 1)) 0 tiles).2⟩ := by
  rw [sliceAtlas, if_neg (by omega)]

/-- **Slicing an atlas.** A grid without cells is refused, before any progress is reported.
Otherwise, with cells of `W / columns` by `H / rows` pixels (truncated), the tiles are cut in
order, and the answer is the first cut that fails or all of them. A cut refuses a tile that
reaches past the grid, naming it, and gives the region under the cells of any other, unless its
word arithmetic overflows, which aborts. Progress sees zero, then `(i+1)/n` as a double for each
tile cut before the first that fails: never decreasing, and ending at exactly one when all
`n > 0` tiles are cut. For tiles counted from zero whose edge sums are words, in an atlas whose
offset, size and far edges are words, nothing overflows and every region lies inside the
atlas. -/
theorem slicing_cuts_tiles_in_order_and_reports_fractions (atlas : Texture) (columns rows : Int)
    (tiles : List Tile) (hn : tiles.length < 2 ^ 64) :
    ((columns ≤ 0 ∨ rows ≤ 0) →
      sliceAtlas atlas columns rows tiles =
        ⟨[], .error (.fault (.geometry
          ("atlas grid must be positive, got " ++ toString columns ++ "x" ++ toString rows)))⟩) ∧
    (0 < columns → 0 < rows →
      let tw := atlas.width.tdiv columns
      let th := atlas.height.tdiv rows
      (sliceAtlas atlas columns rows tiles).tiles =
          (tiles.mapM fun t => (t.slice atlas columns rows tw th).map ((t.name, ·))) ∧
        (∀ t ∈ tiles, t.Fits atlas columns rows tw th →
          t.slice atlas columns rows tw th =
            if t.Outside columns rows then
              .error (.fault (.geometry ("tile " ++ t.name ++ " falls outside the atlas")))
            else .ok (t.region atlas tw th)) ∧
        (∀ t ∈ tiles, ¬ t.Fits atlas columns rows tw th →
          t.slice atlas columns rows tw th = .error .addOverflow ∨
            t.slice atlas columns rows tw th = .error .mulOverflow) ∧
        (sliceAtlas atlas columns rows tiles).progress =
          0 :: (List.range (tiles.takeWhile fun t => (t.slice atlas columns rows tw th).toBool).length).map
            (fun i => Float.ofNat (i + 1) / Float.ofNat (max tiles.length 1)) ∧
        (sliceAtlas atlas columns rows tiles).progress.Pairwise (· ≤ ·) ∧
        (∀ cuts, (sliceAtlas atlas columns rows tiles).tiles = .ok cuts →
          (sliceAtlas atlas columns rows tiles).progress.getLast? = some (if tiles = [] then 0 else 1)) ∧
        (atlas.Words → 0 ≤ atlas.width → 0 ≤ atlas.height → IsWord (atlas.left + atlas.width) →
          IsWord (atlas.top + atlas.height) →
          ∀ t ∈ tiles, t.Nonneg → IsWord (t.left + t.width) → IsWord (t.top + t.height) →
            t.Fits atlas columns rows tw th ∧
              (¬ t.Outside columns rows →
                t.left * tw + t.width * tw ≤ atlas.width ∧ t.top * th + t.height * th ≤ atlas.height))) := by
  refine ⟨fun hgrid => by rw [sliceAtlas, if_pos hgrid], fun hc hr => ?_⟩
  dsimp only
  have hslice := sliceAtlas_of_pos atlas hc hr tiles
  set tw := atlas.width.tdiv columns
  set th := atlas.height.tdiv rows
  have hprogress : (sliceAtlas atlas columns rows tiles).progress =
      0 :: (List.range (tiles.takeWhile fun t => (t.slice atlas columns rows tw th).toBool).length).map
        (fun i => Float.ofNat (i + 1) / Float.ofNat (max tiles.length 1)) := by
    rw [hslice, cutTiles_progress]
    simp only [Nat.zero_add]
  have hresult : (sliceAtlas atlas columns rows tiles).tiles =
      (tiles.mapM fun t => (t.slice atlas columns rows tw th).map ((t.name, ·))) := by
    rw [hslice]
    exact cutTiles_result 0 tiles
  refine ⟨hresult, fun t _ => Tile.slice_of_fits, fun t _ => Tile.slice_of_not_fits, hprogress, ?_, ?_, ?_⟩
  · rw [hprogress]
    exact progress_pairwise (List.takeWhile_prefix _).length_le hn
  · -- when every cut succeeds, every tile reported its fraction
    intro cuts hcuts
    rw [hresult] at hcuts
    rw [hprogress, length_takeWhile_of_mapM_ok hcuts, progress_getLast? hn]
    simp only [List.length_eq_zero_iff]
  · intro ha hW hH hx hy t _ ht hlw hth
    exact ⟨Tile.fits_of_nonneg ha hW hH hx hy hc hr ht hlw hth, Tile.region_inside hW hH hc hr ht⟩

/-- The symbols atlas of the card table, 600 pixels square in a 6 × 6 grid, with the tiles
`zero` at `(0, 0)` and `plus` at `(4, 1)`: the fractions it reports never decrease. -/
theorem slicing_two_symbols_reports_rising_fractions :
    let atlas := Texture.whole .stub "symbols" 600 600
    let tiles := [Tile.unit "zero" 0 0, Tile.unit "plus" 4 1]
    tiles.length < 2 ^ 64 ∧ (sliceAtlas atlas 6 6 tiles).progress.Pairwise (· ≤ ·) := by
  intro atlas tiles
  have hn : tiles.length < 2 ^ 64 := by decide
  exact ⟨hn, ((slicing_cuts_tiles_in_order_and_reports_fractions atlas 6 6 tiles hn).2 (by decide)
    (by decide)).2.2.2.2.1⟩

/-- A tile whose right edge is the last word lies past the grid, but the sum that would show it
overflows first: slicing aborts instead of refusing the tile. -/
theorem slicing_aborts_on_a_tile_past_the_last_word :
    let tile : Tile := ⟨"x", wordMax, 0, 1, 1⟩
    tile.Outside 6 6 ∧
      (sliceAtlas (Texture.whole .stub "a" 600 600) 6 6 [tile]).tiles = .error .addOverflow := by
  intro tile
  exact ⟨.inl (by decide), rfl⟩

end Proscenium
