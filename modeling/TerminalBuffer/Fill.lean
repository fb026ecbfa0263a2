/-
`FillRect`, and the loop over a range of rows it shares with `ResetLineRenditionRange`.

`FillRect(rect, fill, attributes)` fills the columns `[left, right)` of the rows
`[top, bottom)`.  It writes copies of `fill` one after another into the scratchpad row with
`ROW::ReplaceText`, from `left` up to `right`, then copies those columns of the scratchpad
into every row of the rectangle with `ROW::CopyTextFrom` and gives them the attributes.
Each copy is written by a call of its own so that, as the code's comment says, the end of
one copy and the start of the next are never read as one glyph.  For a single space the
writing is skipped, since the scratchpad is reset to spaces.

`fillCells` says what the columns are meant to hold: copies of `fill`, each cut into glyphs
by itself, as many whole glyphs as fit, then spaces.  Inside the row the loop ends whatever
`fill` is: every turn takes a column at least, also when a wide glyph does not fit into the
one column left, since `ReplaceText` then reports every column as used.  Past the row it
never ends: `ReplaceText` clamps both columns into the row, so `columnEnd` stops at the width,
below `right` (`fillRect_isSome_iff`).  For a
rectangle inside the buffer every row of it reads as the row with `fillCells` over
`[left, right)` and the attributes there, whether the writing was skipped or not, and no
other row changes (`getRowByOffset_fillRect`): the scratchpad is slot `0`, which no row
number reaches, and `CopyTextFrom` takes the scratchpad's glyphs whole because they end at
`right`.

`til::rect` and `RowCopyTextFromState` are not among the sources.  `!rect` is taken as a
rectangle with a negative edge or without columns or rows, and the copy's
`sourceColumnLimit`, which `FillRect` leaves at its default, as `til::CoordTypeMax`.  The
theorems about the rows are about rectangles with `0 ≤ left < right` and `0 ≤ top < bottom`,
where the sign test decides nothing.
-/
import TerminalBuffer.Host.WriteChars

namespace TerminalBuffer

/-- `til::rect`: the columns `[left, right)` of the rows `[top, bottom)`. -/
structure Rect where
  left : Int
  top : Int
  right : Int
  bottom : Int
deriving DecidableEq, Repr

/-- `!rect`: a negative edge, or no column or no row. -/
def Rect.isEmpty (rect : Rect) : Bool :=
  !decide (0 ≤ rect.left ∧ 0 ≤ rect.top ∧ rect.left < rect.right ∧ rect.top < rect.bottom)

section Fill

variable (isGlyphFullWidth : List UInt16 → Bool)

/-- The glyph units from the front of `us` that fit into `n` columns, whole. -/
def fitPrefix : List (List UInt16) → Nat → List (List UInt16)
  | [], _ => []
  | u :: us, n =>
    if unitColumns isGlyphFullWidth u ≤ n then
      u :: fitPrefix us (n - unitColumns isGlyphFullWidth u)
    else []

/-- The cells a run of units is written as. -/
def unitsCells (us : List (List UInt16)) : List Cell := (us.map (unitCells isGlyphFullWidth)).flatten

/-- What `FillRect` is for, over `n` columns: copies of `fill` one after another, each cut
into glyphs by itself, as many whole glyphs as fit, then spaces. -/
def fillCells (fill : List UInt16) (n : Nat) : List Cell :=
  let glyphs := unitsCells isGlyphFullWidth
    (fitPrefix isGlyphFullWidth (List.replicate n (units fill)).flatten n)
  glyphs ++ List.replicate (n - glyphs.length) Cell.space

/-- A low surrogate then a high one: each copy is two lone surrogates, each one column, where
the text of two copies at once would hold a pair. -/
example : fillCells (fun _ => false) [0xDC00, 0xD800] 4 =
      [⟨[0xDC00], .single⟩, ⟨[0xD800], .single⟩, ⟨[0xDC00], .single⟩, ⟨[0xD800], .single⟩] ∧
    units ([0xDC00, 0xD800] ++ [0xDC00, 0xD800]) = [[0xDC00], [0xD800, 0xDC00], [0xD800]] := by
  decide

/-- The scratchpad loop of `FillRect` from `columnEnd`, at most `fuel` turns: `none` when
the row is not written up to `columnLimit` after them. -/
def fillScratchpad (fill : List UInt16) (columnLimit : Int) : Nat → Row → Int → Option Row
  | 0, scratchpad, columnEnd => if columnEnd < columnLimit then none else some scratchpad
  | fuel + 1, scratchpad, columnEnd =>
    if columnEnd < columnLimit then
      let state : RowWriteState := ⟨fill, columnEnd, columnLimit, columnEnd⟩
      fillScratchpad fill columnLimit fuel (Row.replaceText isGlyphFullWidth state scratchpad)
        (state.replaceText isGlyphFullWidth scratchpad.cells.length).columnEnd
    else some scratchpad

/-! ### Fitting whole glyphs -/

variable {isGlyphFullWidth}

theorem fitPrefix_zero (us : List (List UInt16)) : fitPrefix isGlyphFullWidth us 0 = [] := by
  cases us with
  | nil => rfl
  | cons u us => exact if_neg (by have := one_le_unitColumns isGlyphFullWidth u; omega)

/-- Units that fit together are all taken, and the rest from what is left. -/
theorem fitPrefix_append_of_le {xs : List (List UInt16)} (ys : List (List UInt16)) {n : Nat}
    (h : (xs.map (unitColumns isGlyphFullWidth)).sum ≤ n) :
    fitPrefix isGlyphFullWidth (xs ++ ys) n =
      xs ++ fitPrefix isGlyphFullWidth ys (n - (xs.map (unitColumns isGlyphFullWidth)).sum) := by
  induction xs generalizing n with
  | nil => rfl
  | cons u xs ih =>
    rw [List.map_cons, List.sum_cons] at h
    rw [List.cons_append, fitPrefix, if_pos (by omega), ih (by omega), List.map_cons,
      List.sum_cons, Nat.sub_sub]
    rfl

/-- Units that do not fit together stop the run among them. -/
theorem fitPrefix_append_of_lt {xs : List (List UInt16)} (ys : List (List UInt16)) {n : Nat}
    (h : n < (xs.map (unitColumns isGlyphFullWidth)).sum) :
    fitPrefix isGlyphFullWidth (xs ++ ys) n = fitPrefix isGlyphFullWidth xs n := by
  induction xs generalizing n with
  | nil => simp at h
  | cons u xs ih =>
    rw [List.map_cons, List.sum_cons] at h
    rw [List.cons_append, fitPrefix, fitPrefix]
    split_ifs
    · rw [ih (by omega)]
    · rfl

theorem fits_fitPrefix (us : List (List UInt16)) (n : Nat) :
    Fits (us.map (unitColumns isGlyphFullWidth)) n (fitPrefix isGlyphFullWidth us n).length := by
  induction us generalizing n with
  | nil => exact fits_nil n
  | cons u us ih =>
    rw [List.map_cons, fitPrefix]
    split_ifs with hu
    · exact Fits.cons hu (ih _)
    · exact fits_cons_zero (by omega)

theorem fitPrefix_eq_take (us : List (List UInt16)) (n : Nat) :
    fitPrefix isGlyphFullWidth us n = us.take (fitPrefix isGlyphFullWidth us n).length := by
  induction us generalizing n with
  | nil => rfl
  | cons u us ih =>
    rw [fitPrefix]
    split_ifs
    · rw [List.length_cons, List.take_succ_cons, ← ih]
    · rfl

/-- The run is the longest one that fits, as `FitTextIntoColumns` counts it. -/
theorem fitPrefix_of_fits {us : List (List UInt16)} {n k : Nat}
    (hk : Fits (us.map (unitColumns isGlyphFullWidth)) n k) :
    fitPrefix isGlyphFullWidth us n = us.take k := by
  rw [fitPrefix_eq_take, (fits_fitPrefix us n).unique hk]

theorem sum_fitPrefix_le (us : List (List UInt16)) (n : Nat) :
    ((fitPrefix isGlyphFullWidth us n).map (unitColumns isGlyphFullWidth)).sum ≤ n := by
  have := (@fits_fitPrefix isGlyphFullWidth us n).2.1
  rwa [← List.map_take, ← fitPrefix_eq_take] at this

theorem one_le_textColumns {fill : List UInt16} (hfill : fill ≠ []) :
    1 ≤ textColumns isGlyphFullWidth fill := by
  obtain ⟨u, us, hu⟩ := List.exists_cons_of_ne_nil (units_ne_nil hfill)
  have := one_le_unitColumns isGlyphFullWidth u
  simp only [textColumns, hu, List.map_cons, List.sum_cons]
  omega

/-- Past `n` copies more copies change nothing: a whole copy takes a column at least. -/
theorem fitPrefix_replicate {fill : List UInt16} (hfill : fill ≠ []) (n : Nat) :
    ∀ a, n ≤ a → fitPrefix isGlyphFullWidth (List.replicate a (units fill)).flatten n =
      fitPrefix isGlyphFullWidth (List.replicate n (units fill)).flatten n := by
  have hc := @one_le_textColumns isGlyphFullWidth fill hfill
  induction n using Nat.strong_induction_on with
  | _ n ih =>
    intro a hna
    rcases n with _ | n
    · rw [fitPrefix_zero, fitPrefix_zero]
    obtain ⟨a, rfl⟩ : ∃ a', a = a' + 1 := ⟨a - 1, by omega⟩
    simp only [List.replicate_succ, List.flatten_cons]
    by_cases h : textColumns isGlyphFullWidth fill ≤ n + 1
    · rw [fitPrefix_append_of_le _ h, fitPrefix_append_of_le _ h,
        ih _ (by unfold textColumns at hc; omega) a (by unfold textColumns at hc h; omega),
        ih _ (by unfold textColumns at hc; omega) n (by unfold textColumns at hc h; omega)]
    · rw [fitPrefix_append_of_lt _ (Nat.lt_of_not_le h), fitPrefix_append_of_lt _ (Nat.lt_of_not_le h)]

theorem length_unitCells (u : List UInt16) :
    (unitCells isGlyphFullWidth u).length = unitColumns isGlyphFullWidth u := by
  have := one_le_unitColumns isGlyphFullWidth u
  have := unitColumns_le_two isGlyphFullWidth u
  unfold unitCells
  split_ifs <;> simp only [List.length_cons, List.length_nil] <;> omega

@[simp] theorem unitsCells_append (xs ys : List (List UInt16)) :
    unitsCells isGlyphFullWidth (xs ++ ys) =
      unitsCells isGlyphFullWidth xs ++ unitsCells isGlyphFullWidth ys := by
  simp [unitsCells]

theorem length_unitsCells (us : List (List UInt16)) :
    (unitsCells isGlyphFullWidth us).length = (us.map (unitColumns isGlyphFullWidth)).sum := by
  induction us with
  | nil => rfl
  | cons u us ih =>
    rw [← List.singleton_append, unitsCells_append, List.length_append, ih]
    simp [unitsCells, length_unitCells]

/-- The glyphs `ReplaceText` writes into `L` columns take `L` columns at most. -/
theorem length_written_le (chars : List UInt16) (L : Nat) :
    (((units (chars.take (fitTextIntoColumns isGlyphFullWidth chars L).1)).map
      (unitCells isGlyphFullWidth)).flatten).length ≤ L := by
  obtain ⟨k, hk, h1, -⟩ := fitTextIntoColumns_spec isGlyphFullWidth chars L
  have hw := hk.2.1
  rw [← List.map_take, show (max 0 (L : Int)).toNat = L by omega] at hw
  rw [h1, units_take_sum_take]
  exact (length_unitsCells _).trans_le hw

/-- `ReplaceText` writes no further than the clamped limit, so a row keeps its width. -/
theorem cells_length_replaceText (state : RowWriteState) (r : Row) :
    (Row.replaceText isGlyphFullWidth state r).cells.length = r.cells.length := by
  unfold Row.replaceText
  dsimp only
  split
  · apply Row.cells_length_overwrite
    have hw := @length_written_le isGlyphFullWidth state.text
      (r.clampedColumnInclusive state.columnLimit - r.clampedColumnInclusive state.columnBegin)
    have h2 := fitTextIntoColumns_snd_le isGlyphFullWidth state.text
      ((r.clampedColumnInclusive state.columnLimit - r.clampedColumnInclusive state.columnBegin : Nat) :
        Int)
    have hl : r.clampedColumnInclusive state.columnLimit ≤ r.cells.length := min_le_right _ _
    rw [List.length_append, List.length_replicate]
    omega
  · rfl

/-- `ReplaceText` never reports a column past the row. -/
theorem columnEnd_replaceText_le (n : Nat) (state : RowWriteState) :
    (state.replaceText isGlyphFullWidth n).columnEnd ≤ n := by
  unfold RowWriteState.replaceText
  dsimp only
  split
  · have := fitTextIntoColumns_snd_le isGlyphFullWidth state.text
      ((min state.columnLimit.toNat n - min state.columnBegin.toNat n : Nat) : Int)
    dsimp only
    omega
  · dsimp only
    omega

theorem fillCells_zero (fill : List UInt16) : fillCells isGlyphFullWidth fill 0 = [] := by
  simp [fillCells, fitPrefix_zero, unitsCells]

theorem length_fillCells (fill : List UInt16) (n : Nat) :
    (fillCells isGlyphFullWidth fill n).length = n := by
  have := @sum_fitPrefix_le isGlyphFullWidth (List.replicate n (units fill)).flatten n
  simp only [fillCells, List.length_append, List.length_replicate, length_unitsCells]
  omega

/-- A copy that fits is written whole, and the columns after it are filled afresh. -/
theorem fillCells_of_le {fill : List UInt16} (hfill : fill ≠ []) {n : Nat}
    (h : textColumns isGlyphFullWidth fill ≤ n) :
    fillCells isGlyphFullWidth fill n =
      unitsCells isGlyphFullWidth (units fill) ++
        fillCells isGlyphFullWidth fill (n - textColumns isGlyphFullWidth fill) := by
  have hc := @one_le_textColumns isGlyphFullWidth fill hfill
  obtain ⟨n, rfl⟩ : ∃ n', n = n' + 1 := ⟨n - 1, by omega⟩
  unfold fillCells
  rw [List.replicate_succ, List.flatten_cons, fitPrefix_append_of_le _ h,
    fitPrefix_replicate hfill _ n (by unfold textColumns at hc; omega), unitsCells_append]
  simp only [List.append_assoc, List.length_append, length_unitsCells, textColumns]
  rw [Nat.sub_sub]

/-- A copy that does not fit is cut after the glyphs that fit, and spaces fill the rest. -/
theorem fillCells_of_lt {fill : List UInt16} {n k : Nat} (hn : 0 < n)
    (h : n < textColumns isGlyphFullWidth fill)
    (hk : Fits ((units fill).map (unitColumns isGlyphFullWidth)) n k) :
    fillCells isGlyphFullWidth fill n =
      unitsCells isGlyphFullWidth ((units fill).take k) ++
        List.replicate (n - (unitsCells isGlyphFullWidth ((units fill).take k)).length) Cell.space := by
  obtain ⟨n, rfl⟩ : ∃ n', n = n' + 1 := ⟨n - 1, by omega⟩
  unfold fillCells
  rw [List.replicate_succ, List.flatten_cons, fitPrefix_append_of_lt _ h, fitPrefix_of_fits hk]

/-- A space is one column wide, so copies of it are spaces. -/
theorem fillCells_space (n : Nat) :
    fillCells isGlyphFullWidth [0x20] n = List.replicate n Cell.space := by
  have hs := unitColumns_of_lt isGlyphFullWidth (show (0x20 : UInt16).toNat < 0x80 by decide)
  have h1 : textColumns isGlyphFullWidth [0x20] = 1 := by simp [textColumns, units, hs]
  induction n with
  | zero => exact fillCells_zero _
  | succ n ih =>
    rw [fillCells_of_le (List.cons_ne_nil _ _) (by rw [h1]; omega), h1, Nat.add_sub_cancel, ih]
    simp [unitsCells, units, unitCells, hs]
    rfl

/-! ### The scratchpad loop -/

theorem fillScratchpad_of_le {fill : List UInt16} {columnLimit columnEnd : Int}
    (h : columnLimit ≤ columnEnd) (fuel : Nat) (r : Row) :
    fillScratchpad isGlyphFullWidth fill columnLimit fuel r columnEnd = some r := by
  cases fuel <;> simp only [fillScratchpad, if_neg (not_lt.2 h)]

/-- **The scratchpad loop ends inside the row**: with `columnLimit` inside the row a turn
takes a column at least, so `columnLimit - columnEnd` turns are enough, whatever the row's
cells and the text are. -/
theorem fillScratchpad_isSome {fill : List UInt16} (hfill : fill ≠ []) (columnLimit : Int) :
    ∀ (fuel : Nat) (r : Row) (columnEnd : Int), 0 ≤ columnEnd → columnLimit ≤ r.cells.length →
      (columnLimit - columnEnd).toNat ≤ fuel →
      (fillScratchpad isGlyphFullWidth fill columnLimit fuel r columnEnd).isSome
  | 0, r, e, _, _, h => by rw [fillScratchpad_of_le (by omega)]; rfl
  | fuel + 1, r, e, h0, hlen, h => by
    by_cases he : e < columnLimit
    · have := fitTextIntoColumns_snd_pos isGlyphFullWidth hfill (show 0 < columnLimit - e by omega)
      rw [fillScratchpad, if_pos he]
      dsimp only
      rw [@RowWriteState.replaceText_of_lt isGlyphFullWidth _ ⟨fill, e, columnLimit, e⟩ h0 he hlen]
      exact fillScratchpad_isSome hfill columnLimit fuel _ _ (by dsimp only; omega)
        (by rw [cells_length_replaceText]; exact hlen) (by dsimp only; omega)
    · rw [fillScratchpad_of_le (by omega)]; rfl

/-- **Past the row the scratchpad loop never ends.**  With `columnLimit` past the row's last
column every turn clamps both columns into the row, so `columnEnd` comes back at most the
row's width, below `columnLimit`, and the loop goes on whatever the fuel. -/
theorem fillScratchpad_eq_none (fill : List UInt16) {columnLimit : Int} :
    ∀ (fuel : Nat) (r : Row) (columnEnd : Int), (r.cells.length : Int) < columnLimit →
      columnEnd < columnLimit → fillScratchpad isGlyphFullWidth fill columnLimit fuel r columnEnd = none
  | 0, _, _, _, he => by rw [fillScratchpad, if_pos he]
  | fuel + 1, r, e, hlen, he => by
    rw [fillScratchpad, if_pos he]
    have := @columnEnd_replaceText_le isGlyphFullWidth r.cells.length ⟨fill, e, columnLimit, e⟩
    exact fillScratchpad_eq_none fill fuel _ _ (by rw [cells_length_replaceText]; exact hlen)
      (by omega)

/-- The scratchpad loop keeps the row's width. -/
theorem fillScratchpad_length {fill : List UInt16} {columnLimit : Int} :
    ∀ {fuel : Nat} {r r' : Row} {columnEnd : Int},
      fillScratchpad isGlyphFullWidth fill columnLimit fuel r columnEnd = some r' →
      r'.cells.length = r.cells.length
  | 0, _, _, _, h => by
    rw [fillScratchpad] at h
    split at h
    · cases h
    · cases h; rfl
  | _ + 1, _, _, _, h => by
    rw [fillScratchpad] at h
    split at h
    · dsimp only at h
      rw [fillScratchpad_length h, cells_length_replaceText]
    · cases h; rfl

@[simp] theorem dbcs_space : Cell.space.dbcs = .single := rfl

theorem cellAt_of_cells_eq {r : Row} {pre rest : List Cell} {c : Cell}
    (hr : r.cells = pre ++ c :: rest) : r.cellAt pre.length = c := by
  rw [Row.cellAt, hr, List.getD_append_right _ _ _ _ le_rfl, Nat.sub_self, List.getD_cons_zero]

theorem cellAt_of_blank_from {r : Row} {pre : List Cell} {m i : Nat}
    (hr : r.cells = pre ++ List.replicate m Cell.space) (hi : pre.length ≤ i) :
    r.cellAt i = Cell.space := by
  rw [Row.cellAt, hr, List.getD_append_right _ _ _ _ hi, List.getD_eq_getElem?_getD,
    List.getElem?_getD_replicate_default_eq]

/-- A write over spaces needs no repair at either edge. -/
theorem overwrite_of_blank_from {r : Row} {pre : List Cell} {m : Nat}
    (hr : r.cells = pre ++ List.replicate m Cell.space) (new : List Cell) :
    r.overwrite pre.length new =
      { r with cells := pre ++ new ++ List.replicate (m - new.length) Cell.space } := by
  simp only [Row.overwrite, cellAt_of_blank_from hr le_rfl,
    cellAt_of_blank_from hr (Nat.le_add_right pre.length new.length), dbcs_space, reduceCtorEq,
    and_false, if_false]
  rw [hr, List.take_left, List.drop_append, List.drop_replicate]

/-- **One turn over spaces.**  From column `e` of a row that is spaces from `e` on, a turn
writes a whole copy of `fill` when it fits into `[e, lim)`, and otherwise cuts it as
`fillCells` does and reaches `lim`. -/
theorem replaceText_blank {fill : List UInt16} {n lim : Nat} {r : Row}
    {pre : List Cell} (hr : r.cells = pre ++ List.replicate (n - pre.length) Cell.space)
    (he : pre.length < lim) (hlim : lim ≤ n) :
    (textColumns isGlyphFullWidth fill ≤ lim - pre.length ∧
      Row.replaceText isGlyphFullWidth ⟨fill, pre.length, lim, pre.length⟩ r =
        { r with cells := pre ++ unitsCells isGlyphFullWidth (units fill) ++
          List.replicate (n - pre.length - textColumns isGlyphFullWidth fill) Cell.space } ∧
      (RowWriteState.replaceText isGlyphFullWidth r.cells.length
        ⟨fill, pre.length, lim, pre.length⟩).columnEnd =
        ((pre.length + textColumns isGlyphFullWidth fill : Nat) : Int)) ∨
    (Row.replaceText isGlyphFullWidth ⟨fill, pre.length, lim, pre.length⟩ r =
        { r with cells := pre ++ fillCells isGlyphFullWidth fill (lim - pre.length) ++
          List.replicate (n - lim) Cell.space } ∧
      (RowWriteState.replaceText isGlyphFullWidth r.cells.length
        ⟨fill, pre.length, lim, pre.length⟩).columnEnd = (lim : Int)) := by
  obtain ⟨k, hk, h1, h2⟩ := fitTextIntoColumns_spec isGlyphFullWidth fill ((lim : Int) - pre.length)
  have hL : (max 0 ((lim : Int) - pre.length)).toNat = lim - pre.length := by omega
  rw [hL] at hk h2
  have hn : r.cells.length = n := by rw [hr, List.length_append, List.length_replicate]; omega
  rw [Row.replaceText_of_lt _ ?_ ?_ ?_, RowWriteState.replaceText_of_lt _ ?_ ?_ ?_]
  rotate_left
  all_goals try (dsimp only; omega)
  simp only [Int.toNat_natCast]
  rw [h1, units_take_sum_take]
  by_cases hall : k = (units fill).length
  · -- the whole copy fits
    rw [if_pos hall] at h2
    have hsum := hk.2.1
    rw [hall, List.take_of_length_le (by simp), ← textColumns] at hsum
    have hW : (unitsCells isGlyphFullWidth (units fill)).length = textColumns isGlyphFullWidth fill :=
      length_unitsCells _
    refine .inl ⟨hsum, ?_, by rw [h2]; push_cast; rfl⟩
    rw [hall, List.take_length, h2, show ((units fill).map (unitCells isGlyphFullWidth)).flatten =
        unitsCells isGlyphFullWidth (units fill) from rfl, hW, Nat.sub_self, List.replicate_zero,
      List.append_nil, overwrite_of_blank_from hr, hW]
  · -- the copy is cut where the first glyph does not fit
    rw [if_neg hall] at h2
    have hlt : lim - pre.length < textColumns isGlyphFullWidth fill := by
      refine Nat.lt_of_not_le fun hle => hall (le_antisymm (by simpa using hk.1) (hk.2.2 _ (by simp) ?_))
      rwa [List.take_of_length_le (by simp), ← textColumns]
    have hW := @sum_fitPrefix_le isGlyphFullWidth (units fill) (lim - pre.length)
    rw [fitPrefix_of_fits hk, ← length_unitsCells] at hW
    refine .inr ⟨?_, by rw [h2]; omega⟩
    rw [h2, fillCells_of_lt (by omega) hlt hk, show (((units fill).take k).map
        (unitCells isGlyphFullWidth)).flatten = unitsCells isGlyphFullWidth ((units fill).take k) from rfl,
      overwrite_of_blank_from hr]
    simp only [List.length_append, List.length_replicate, List.append_assoc]
    generalize (unitsCells isGlyphFullWidth ((units fill).take k)).length = w at hW ⊢
    rw [show n - pre.length - (w + (lim - pre.length - w)) = n - lim by omega]

/-- **What the loop writes over spaces.**  From a row that is spaces from `columnEnd = e` on,
the loop leaves `fillCells` over `[e, lim)`, given `lim - e` turns. -/
theorem fillScratchpad_blank {fill : List UInt16} (hfill : fill ≠ []) {n lim : Nat} (hlim : lim ≤ n) :
    ∀ (fuel : Nat) (r : Row) (pre : List Cell),
      r.cells = pre ++ List.replicate (n - pre.length) Cell.space →
      pre.length ≤ lim → lim - pre.length ≤ fuel →
      fillScratchpad isGlyphFullWidth fill lim fuel r pre.length =
        some { r with cells := pre ++ fillCells isGlyphFullWidth fill (lim - pre.length) ++
          List.replicate (n - lim) Cell.space } := by
  intro fuel
  induction fuel with
  | zero =>
    intro r pre hr he hf
    rw [fillScratchpad_of_le (by omega), show lim - pre.length = 0 by omega, fillCells_zero,
      List.append_nil, show n - lim = n - pre.length by omega, ← hr]
  | succ fuel ih =>
    intro r pre hr he hf
    rcases Nat.eq_or_lt_of_le he with he | he
    · rw [fillScratchpad_of_le (by omega), he, Nat.sub_self, fillCells_zero, List.append_nil, ← he,
        ← hr]
    rw [fillScratchpad, if_pos (by omega)]
    dsimp only
    rcases @replaceText_blank isGlyphFullWidth fill _ _ _ _ hr he (by omega) with
      ⟨hsum, hrow, hend⟩ | ⟨hrow, hend⟩
    · have hc := @one_le_textColumns isGlyphFullWidth fill hfill
      have hW : (pre ++ unitsCells isGlyphFullWidth (units fill)).length =
          pre.length + textColumns isGlyphFullWidth fill := by
        rw [List.length_append, length_unitsCells]; rfl
      rw [hrow, hend, ← hW, ih _ _ (by rw [hW, Nat.sub_sub]) (by omega) (by omega), hW,
        fillCells_of_le hfill (n := lim - pre.length) hsum]
      simp only [List.append_assoc, Nat.sub_sub]
    · rw [hrow, hend, fillScratchpad_of_le le_rfl]

/-! ### Copying whole glyphs -/

/-- Cells that are whole glyphs: the two halves of a wide glyph side by side, and no other
cell a leading half. -/
inductive WholeGlyphs : List Cell → Prop
  | nil : WholeGlyphs []
  | narrow {c : Cell} {cs : List Cell} : c.dbcs ≠ .leading → WholeGlyphs cs → WholeGlyphs (c :: cs)
  | wide {l t : Cell} {cs : List Cell} : l.dbcs = .leading → t.dbcs = .trailing → WholeGlyphs cs →
      WholeGlyphs (l :: t :: cs)

theorem WholeGlyphs.append {cs ds : List Cell} (hc : WholeGlyphs cs) (hd : WholeGlyphs ds) :
    WholeGlyphs (cs ++ ds) := by
  induction hc with
  | nil => exact hd
  | narrow h _ ih => exact .narrow h ih
  | wide hl ht _ ih => exact .wide hl ht ih

theorem wholeGlyphs_replicate_space (n : Nat) : WholeGlyphs (List.replicate n Cell.space) := by
  induction n with
  | zero => exact .nil
  | succ n ih => exact .narrow (by simp) ih

theorem wholeGlyphs_unitsCells (us : List (List UInt16)) :
    WholeGlyphs (unitsCells isGlyphFullWidth us) := by
  induction us with
  | nil => exact .nil
  | cons u us ih =>
    rw [← List.singleton_append, unitsCells_append]
    refine WholeGlyphs.append ?_ ih
    simp only [unitsCells, List.map_cons, List.map_nil, List.flatten_cons, List.flatten_nil,
      List.append_nil, unitCells]
    split_ifs
    · exact .wide rfl rfl .nil
    · exact .narrow (by simp) .nil

theorem wholeGlyphs_fillCells (fill : List UInt16) (n : Nat) :
    WholeGlyphs (fillCells isGlyphFullWidth fill n) :=
  (wholeGlyphs_unitsCells _).append (wholeGlyphs_replicate_space _)

theorem one_le_glyphWidthAt (r : Row) (i lim : Nat) : 1 ≤ r.glyphWidthAt i lim := by
  unfold Row.glyphWidthAt; split_ifs <;> omega

/-- `_copyTextFrom`'s walk over whole glyphs that end where the room does takes them all. -/
theorem takeGlyphs_of_wholeGlyphs {r : Row} {lim : Nat} {T : List Cell} (hT : WholeGlyphs T) :
    ∀ {pre rest : List Cell} {fuel : Nat}, r.cells = pre ++ T ++ rest →
      pre.length + T.length ≤ lim → T.length ≤ fuel →
      (r.takeGlyphs lim fuel pre.length T.length).1 = T := by
  induction hT with
  | nil =>
    intro pre rest fuel _ _ _
    have := one_le_glyphWidthAt r pre.length lim
    cases fuel with
    | zero => rfl
    | succ fuel =>
      simp only [Row.takeGlyphs, List.length_nil]
      split_ifs <;> first | omega | rfl
  | @narrow c cs hc _ ih =>
    intro pre rest fuel hr hlim hfuel
    obtain ⟨fuel, rfl⟩ : ∃ f, fuel = f + 1 := ⟨fuel - 1, by simp at hfuel; omega⟩
    have hw : r.glyphWidthAt pre.length lim = 1 := by
      rw [Row.glyphWidthAt, cellAt_of_cells_eq (by rw [hr, List.append_assoc]; rfl)]
      exact if_neg fun h => hc h.1
    have hr' : r.cells = (pre ++ [c]) ++ cs ++ rest := by simp [hr]
    simp only [List.length_cons] at hlim hfuel
    rw [List.length_cons, Row.takeGlyphs, if_pos (by omega), hw, if_pos (by omega)]
    simp only [Nat.add_sub_cancel]
    rw [show pre.length + 1 = (pre ++ [c]).length by simp,
      ih hr' (by simp; omega) (by omega), hr, List.append_assoc, List.drop_left]
    rfl
  | @wide l t cs hl ht _ ih =>
    intro pre rest fuel hr hlim hfuel
    obtain ⟨fuel, rfl⟩ : ∃ f, fuel = f + 1 := ⟨fuel - 1, by simp at hfuel; omega⟩
    simp only [List.length_cons] at hlim hfuel
    have hw : r.glyphWidthAt pre.length lim = 2 := by
      rw [Row.glyphWidthAt, cellAt_of_cells_eq (by rw [hr, List.append_assoc]; rfl),
        show pre.length + 1 = (pre ++ [l]).length by simp,
        cellAt_of_cells_eq (show r.cells = (pre ++ [l]) ++ t :: (cs ++ rest) by simp [hr])]
      exact if_pos ⟨hl, by simp; omega, ht⟩
    have hr' : r.cells = (pre ++ [l, t]) ++ cs ++ rest := by simp [hr]
    rw [List.length_cons, List.length_cons, Row.takeGlyphs, if_pos (by omega), hw, if_pos (by omega)]
    simp only [show cs.length + 1 + 1 - 2 = cs.length by omega]
    rw [show pre.length + 2 = (pre ++ [l, t]).length by simp,
      ih hr' (by simp; omega) (by omega), hr, List.append_assoc, List.drop_left]
    rfl

namespace TextBuffer

variable (isGlyphFullWidth)

/-- `for (y = top; y < top + n; ++y)`, each row `y` changed by `f` through
`GetMutableRowByOffset(y)`. -/
def modifyRows (b : TextBuffer) (f : Row → Row) (top : Int) : Nat → TextBuffer
  | 0 => b
  | n + 1 => modifyRows (b.modifyRow top f) f (top + 1) n

variable (b : TextBuffer)

/-- `ResetLineRenditionRange(startRow, endRow)`. -/
def resetLineRenditionRange (startRow endRow : Int) : TextBuffer :=
  b.modifyRows (fun r => { r with lineRendition := .singleWidth }) startRow (endRow - startRow).toNat

/-- What `FillRect` does to each row of the rectangle: `CopyTextFrom` the scratchpad from
`rect.left` into `[rect.left, rect.right)`, then `ReplaceAttributes(rect.left, rect.right,
attributes)`. -/
def fillRow (scratchpad : Row) (rect : Rect) (attributes : TextAttribute) (r : Row) : Row :=
  (r.copyTextFrom scratchpad rect.left rect.right rect.left coordTypeMax).1.replaceAttributes
    rect.left.toNat rect.right.toNat attributes

/-- `FillRect(rect, fill, attributes)`; `none` where the scratchpad loop is not done within
`right - left` turns.  The scratchpad is slot `0`, written back once the loop is done. -/
def fillRect (rect : Rect) (fill : List UInt16) (attributes : TextAttribute) : Option TextBuffer :=
  if rect.isEmpty || fill.isEmpty then some b
  else
    let b := b.getScratchpadRow attributes
    let scratchpad := if fill != [0x20] then
        fillScratchpad isGlyphFullWidth fill rect.right (rect.right - rect.left).toNat (b.slotRow 0)
          rect.left
      else some (b.slotRow 0)
    scratchpad.map fun scratchpad =>
      modifyRows { b with rows := b.rows.set 0 scratchpad } (fillRow scratchpad rect attributes)
        rect.top (rect.bottom - rect.top).toNat

/-! ### One row, and the rows -/

/-- **What `FillRect` does to one row.**  With the scratchpad holding whole glyphs over the
`m` columns from `a`, the row gets those cells there and the attributes over them. -/
theorem fillRow_eq {scratchpad r : Row} {rect : Rect} (attributes : TextAttribute) {a : Nat}
    {T rest : List Cell} (hT : WholeGlyphs T) (hpos : 0 < T.length)
    (hs : scratchpad.cells = List.replicate a Cell.space ++ T ++ rest)
    (hl : rect.left = a) (hr : rect.right = a + T.length) (hn : a + T.length ≤ r.cells.length)
    (hmax : a + T.length ≤ coordTypeMax) :
    fillRow scratchpad rect attributes r =
      (r.overwrite a T).replaceAttributes a (a + T.length) attributes := by
  have hsl : a + T.length ≤ scratchpad.cells.length := by simp [hs]
  have hmax' : a + T.length ≤ coordTypeMax.toNat := by unfold coordTypeMax at hmax ⊢; omega
  have htake : (scratchpad.takeGlyphs (min coordTypeMax.toNat scratchpad.cells.length)
      (min coordTypeMax.toNat scratchpad.cells.length - a) (List.replicate a Cell.space).length
      T.length).1 = T :=
    takeGlyphs_of_wholeGlyphs hT hs (by rw [List.length_replicate]; omega) (by omega)
  rw [List.length_replicate] at htake
  rw [show (a : Int) + T.length = ((a + T.length : Nat) : Int) by push_cast; rfl] at hr
  simp only [fillRow, Row.copyTextFrom, Row.clampedColumnInclusive, hl, hr,
    Int.toNat_natCast, min_eq_left (show a ≤ scratchpad.cells.length by omega),
    min_eq_left (show a ≤ r.cells.length by omega),
    min_eq_left (show a + T.length ≤ r.cells.length from hn), Nat.add_sub_cancel_left]
  rw [if_pos (by omega), htake]
  split
  · rfl
  · rw [Nat.sub_self, List.replicate_zero, List.append_nil]

/-! ### The loop over the rows -/

theorem sameGeometry_modifyRows (f : Row → Row) :
    ∀ (b : TextBuffer) (top : Int) (n : Nat), SameGeometry b (b.modifyRows f top n)
  | _, _, 0 => .refl _
  | b, top, n + 1 => (b.sameGeometry_modifyRow top f).trans (sameGeometry_modifyRows f _ _ n)

@[simp] theorem cursor_modifyRows (f : Row → Row) :
    ∀ (b : TextBuffer) (top : Int) (n : Nat), (b.modifyRows f top n).cursor = b.cursor
  | _, _, 0 => rfl
  | b, top, n + 1 => cursor_modifyRows f (b.modifyRow top f) (top + 1) n

/-- **Each row of a range inside the buffer is changed once, and no other row.** -/
theorem getRowByOffset_modifyRows (f : Row → Row) :
    ∀ (n : Nat) (b : TextBuffer) {top : Int}, 0 ≤ top → top + n ≤ b.height →
      ∀ {y : Int}, 0 ≤ y → y < b.height →
      (b.modifyRows f top n).getRowByOffset y =
        if top ≤ y ∧ y < top + n then f (b.getRowByOffset y) else b.getRowByOffset y
  | 0, b, top, _, _, y, _, _ => by rw [modifyRows, if_neg (by omega)]
  | n + 1, b, top, ht, hn, y, h0, hy => by
    rw [modifyRows, getRowByOffset_modifyRows f n _ (by omega) (by simp only [height_modifyRow]; omega)
      h0 (by simpa using hy), getRowByOffset_modifyRow]
    by_cases hyt : y = top
    · subst hyt
      simp only [if_true, if_neg (show ¬(y + 1 ≤ y ∧ y < y + 1 + n) by omega)]
      rw [if_pos (by omega)]
    · rw [if_neg (mt (b.rowOffset_inj ⟨h0, hy⟩ ⟨ht, by omega⟩).1 hyt)]
      by_cases hin : top + 1 ≤ y ∧ y < top + 1 + n
      · rw [if_pos hin, if_pos (by omega)]
      · rw [if_neg hin, if_neg (by omega)]

/-- `ResetLineRenditionRange` over rows inside the buffer makes those rows single width and
leaves the rest. -/
theorem getRowByOffset_resetLineRenditionRange {startRow endRow : Int} (h0 : 0 ≤ startRow)
    (hle : startRow ≤ endRow) (hh : endRow ≤ b.height) {y : Int} (hy0 : 0 ≤ y) (hy : y < b.height) :
    (b.resetLineRenditionRange startRow endRow).getRowByOffset y =
      if startRow ≤ y ∧ y < endRow then { b.getRowByOffset y with lineRendition := .singleWidth }
      else b.getRowByOffset y := by
  rw [resetLineRenditionRange, getRowByOffset_modifyRows _ _ _ h0 (by omega) hy0 hy,
    show startRow + ((endRow - startRow).toNat : Int) = endRow by omega]

/-! ### The scratchpad -/

/-- The scratchpad is slot `0`, which no row number reaches. -/
theorem getRowByOffset_set_zero (x : Row) (y : Int) :
    ({ b with rows := b.rows.set 0 x } : TextBuffer).getRowByOffset y = b.getRowByOffset y := by
  have := (b.rowOffset_mem y).1
  show (b.rows.set 0 x).getD (b.rowOffset y) _ = b.rows.getD (b.rowOffset y) _
  rw [List.getD_eq_getElem?_getD, List.getD_eq_getElem?_getD, List.getElem?_set_ne (by omega)]

@[simp] theorem getRowByOffset_getScratchpadRow (attributes : TextAttribute) (y : Int) :
    (b.getScratchpadRow attributes).getRowByOffset y = b.getRowByOffset y :=
  ((b.commit 0).getRowByOffset_set_zero _ y).trans (by rw [getRowByOffset, slotRow_commit]; rfl)

theorem slotRow_getScratchpadRow (attributes : TextAttribute) :
    (b.getScratchpadRow attributes).slotRow 0 = (b.slotRow 0).reset attributes := by
  show ((b.committedRows 0).set 0 _).getD 0 _ = _
  rw [List.getD_eq_getElem?_getD, List.getElem?_set_self (b.lt_length_committedRows (Nat.zero_le _))]
  rfl

/-! ### `FillRect` -/

/-- With rows as wide as the buffer, `GetScratchpadRow` hands out a blank row of the width. -/
theorem slotRow_getScratchpadRow_of_rowsFit {b : TextBuffer} (h : b.RowsFit)
    (attributes : TextAttribute) :
    (b.getScratchpadRow attributes).slotRow 0 = Row.blank b.width attributes := by
  rw [slotRow_getScratchpadRow, Row.reset, h 0]

/-- A buffer three columns wide and two rows high. -/
def threeColumns : TextBuffer := (create ⟨3, 2⟩ {} 1 false 0 0).get (by decide)

/-- The rectangle has cells and `fill` has code units: `FillRect` goes on past its first test. -/
theorem fillable_iff {rect : Rect} {fill : List UInt16} :
    (rect.isEmpty || fill.isEmpty) = false ↔
      (0 ≤ rect.left ∧ 0 ≤ rect.top ∧ rect.left < rect.right ∧ rect.top < rect.bottom) ∧
        fill ≠ [] := by
  simp [Rect.isEmpty]

/-- **`FillRect` returns exactly when its rectangle ends inside the rows.**  On a buffer whose
rows are as wide as the buffer, `FillRect` returns when there is nothing to fill, when `fill`
is a single space, or when `right ≤ width`: a turn of the scratchpad loop then takes a column
at least, also where a wide glyph is wider than the columns left.  With `right` past the
width the loop never ends, whatever the number of turns: once `columnEnd` reaches the width,
`ReplaceText` clamps both columns to it, writes nothing and reports the width again. -/
theorem fillRect_isSome_iff {b : TextBuffer} (h : b.RowsFit) (rect : Rect) (fill : List UInt16)
    (attributes : TextAttribute) :
    ((b.fillRect isGlyphFullWidth rect fill attributes).isSome ↔
      (rect.isEmpty || fill.isEmpty) = true ∨ fill = [0x20] ∨ rect.right ≤ b.width) ∧
    ((rect.isEmpty || fill.isEmpty) = false → fill ≠ [0x20] → (b.width : Int) < rect.right →
      ∀ fuel, fillScratchpad isGlyphFullWidth fill rect.right fuel
        ((b.getScratchpadRow attributes).slotRow 0) rect.left = none) := by
  have hlen : ((b.getScratchpadRow attributes).slotRow 0).cells.length = b.width := by
    rw [slotRow_getScratchpadRow_of_rowsFit h, Row.blank, List.length_replicate]
  have hang : (rect.isEmpty || fill.isEmpty) = false → fill ≠ [0x20] → (b.width : Int) < rect.right →
      ∀ fuel, fillScratchpad isGlyphFullWidth fill rect.right fuel
        ((b.getScratchpadRow attributes).slotRow 0) rect.left = none := fun hne _ hw fuel =>
    fillScratchpad_eq_none fill fuel _ _ (by rw [hlen]; exact hw) (fillable_iff.1 hne).1.2.2.1
  refine ⟨?_, hang⟩
  unfold fillRect
  cases hne : (rect.isEmpty || fill.isEmpty)
  · obtain ⟨⟨hl, -, -, -⟩, hfill⟩ := fillable_iff.1 hne
    rw [if_neg Bool.false_ne_true, Option.isSome_map']
    by_cases hsp : fill = [0x20]
    · subst hsp
      simp
    rw [if_pos (bne_iff_ne.2 hsp)]
    by_cases hw : rect.right ≤ b.width
    · simp only [hw, or_true, iff_true]
      exact fillScratchpad_isSome hfill _ _ _ _ hl (by rw [hlen]; exact hw) le_rfl
    · rw [hang hne hsp (by omega)]
      simp only [Option.isSome_none, Bool.false_eq_true, false_or, hsp, hw]
  · simp only [if_true, Option.isSome_some, true_or]

/-- A rectangle one column past the right edge of `threeColumns`. -/
def pastRightEdge : Rect := ⟨0, 0, 4, 1⟩

theorem fillRect_isSome_iff_pastRightEdge :
    threeColumns.RowsFit ∧
      (((threeColumns.fillRect (fun _ => false) pastRightEdge [0x61] {}).isSome ↔
        (pastRightEdge.isEmpty || [(0x61 : UInt16)].isEmpty) = true ∨ [(0x61 : UInt16)] = [0x20] ∨
          pastRightEdge.right ≤ threeColumns.width) ∧
      ((pastRightEdge.isEmpty || [(0x61 : UInt16)].isEmpty) = false → [(0x61 : UInt16)] ≠ [0x20] →
        (threeColumns.width : Int) < pastRightEdge.right →
        ∀ fuel, fillScratchpad (fun _ => false) [0x61] pastRightEdge.right fuel
          ((threeColumns.getScratchpadRow {}).slotRow 0) pastRightEdge.left = none)) :=
  have h : threeColumns.RowsFit := rowsFit_create _ (Option.some_get (by decide)).symm
  ⟨h, fillRect_isSome_iff (fun _ => false) h pastRightEdge [0x61] {}⟩

/-- The scratchpad once the loop is done, or skipped for a space: `fillCells` over
`[a, a + m)` in a reset row. -/
theorem fillRect_scratchpad {b : TextBuffer} (h : b.RowsFit) {rect : Rect} {fill : List UInt16}
    (attributes : TextAttribute) (hfill : fill ≠ []) {a m : Nat} (ha : rect.left = a)
    (hm : rect.right = a + m) (hw : a + m ≤ b.width) :
    (if fill != [0x20] then
        fillScratchpad isGlyphFullWidth fill rect.right (rect.right - rect.left).toNat
          ((b.getScratchpadRow attributes).slotRow 0) rect.left
      else some ((b.getScratchpadRow attributes).slotRow 0)) =
      some { Row.blank b.width attributes with
        cells := List.replicate a Cell.space ++ fillCells isGlyphFullWidth fill m ++
          List.replicate (b.width - (a + m)) Cell.space } := by
  rw [slotRow_getScratchpadRow_of_rowsFit h]
  split
  · rw [ha, hm, show (a : Int) + m = ((a + m : Nat) : Int) by push_cast; rfl,
      show (((a + m : Nat) : Int) - a).toNat = a + m - a by omega]
    have := @fillScratchpad_blank isGlyphFullWidth fill hfill _ _ hw (a + m - a)
      (Row.blank b.width attributes)
      (List.replicate a Cell.space)
      (by simp only [Row.blank, List.length_replicate, ← List.replicate_add]; congr 1; omega)
      (by simp) (by simp)
    rw [List.length_replicate] at this
    rw [this, Nat.add_sub_cancel_left]
  · rename_i hsp
    obtain rfl : fill = [0x20] := by simpa using hsp
    rw [fillCells_space, ← List.replicate_add, ← List.replicate_add,
      show a + m + (b.width - (a + m)) = b.width by omega]
    rfl

/-- **What `FillRect` leaves.**  For a buffer whose ring offset is in range and a rectangle
inside it, the call returns, keeps the size and the cursor, and every row of the rectangle
reads as the row with `fillCells` over `[left, right)` and `attributes` there, whether `fill`
was written into the scratchpad or the writing was skipped for a space; every other row
reads as before. -/
theorem getRowByOffset_fillRect {b : TextBuffer} (h : b.RowsFit) {rect : Rect} {fill : List UInt16}
    (attributes : TextAttribute) (hfill : fill ≠ []) (hl : 0 ≤ rect.left)
    (hlr : rect.left < rect.right) (hrw : rect.right ≤ b.width) (hmax : rect.right ≤ coordTypeMax)
    (ht : 0 ≤ rect.top) (htb : rect.top < rect.bottom) (hbh : rect.bottom ≤ b.height) :
    ∃ b', b.fillRect isGlyphFullWidth rect fill attributes = some b' ∧
      b'.width = b.width ∧ b'.height = b.height ∧ b'.cursor = b.cursor ∧
      ∀ y : Int, 0 ≤ y → y < b.height → b'.getRowByOffset y =
        if rect.top ≤ y ∧ y < rect.bottom then
          ((b.getRowByOffset y).overwrite rect.left.toNat
            (fillCells isGlyphFullWidth fill (rect.right - rect.left).toNat)).replaceAttributes
            rect.left.toNat rect.right.toNat attributes
        else b.getRowByOffset y := by
  obtain ⟨a, ha⟩ : ∃ a : Nat, rect.left = a := ⟨rect.left.toNat, by omega⟩
  obtain ⟨m, hm⟩ : ∃ m : Nat, rect.right = a + m := ⟨(rect.right - rect.left).toNat, by omega⟩
  have hT := @length_fillCells isGlyphFullWidth fill m
  have hempty : (rect.isEmpty || fill.isEmpty) = false := by
    simp only [Rect.isEmpty, Bool.or_eq_false_iff, Bool.not_eq_false', decide_eq_true_eq,
      List.isEmpty_eq_false_iff_exists_mem]
    exact ⟨by omega, List.exists_mem_of_ne_nil fill hfill⟩
  let b₁ := b.getScratchpadRow attributes
  let S : Row := { Row.blank b.width attributes with
    cells := List.replicate a Cell.space ++ fillCells isGlyphFullWidth fill m ++
      List.replicate (b.width - (a + m)) Cell.space }
  let n := (rect.bottom - rect.top).toNat
  refine ⟨({ b₁ with rows := b₁.rows.set 0 S } : TextBuffer).modifyRows
    (fillRow S rect attributes) rect.top n, ?_, ?_⟩
  · rw [fillRect, hempty, if_neg Bool.false_ne_true]
    dsimp only
    rw [fillRect_scratchpad isGlyphFullWidth h attributes hfill ha hm (by omega)]
    rfl
  have hg := sameGeometry_modifyRows (fillRow S rect attributes)
    ({ b₁ with rows := b₁.rows.set 0 S } : TextBuffer) rect.top n
  refine ⟨hg.width, hg.height, cursor_modifyRows _ _ _ _, fun y hy0 hy => ?_⟩
  rw [getRowByOffset_modifyRows _ n ({ b₁ with rows := b₁.rows.set 0 S } : TextBuffer) ht
      (by show rect.top + (n : Int) ≤ b.height; omega) hy0 hy,
    getRowByOffset_set_zero, getRowByOffset_getScratchpadRow,
    show rect.top + (n : Int) = rect.bottom by omega]
  split
  · rw [fillRow_eq attributes (wholeGlyphs_fillCells fill m) (by omega)
      (show S.cells = List.replicate a Cell.space ++ fillCells isGlyphFullWidth fill m ++
        List.replicate (b.width - (a + m)) Cell.space from rfl) ha (by rw [hT]; exact hm)
      (by rw [hT, getRowByOffset, h]; omega) (by rw [hT]; omega), ha, hm, hT,
      show ((a : Int) + m - a).toNat = m by omega, Int.toNat_natCast,
      show ((a : Int) + m).toNat = a + m by omega]
  · rfl

/-- The top row of a buffer three columns wide. -/
def topRow : Rect := ⟨0, 0, 3, 1⟩

theorem getRowByOffset_fillRect_wideGlyph :
    threeColumns.RowsFit ∧ [(0x4E00 : UInt16)] ≠ [] ∧ 0 ≤ topRow.left ∧
      topRow.left < topRow.right ∧
      topRow.right ≤ threeColumns.width ∧ topRow.right ≤ coordTypeMax ∧ 0 ≤ topRow.top ∧
      topRow.top < topRow.bottom ∧ topRow.bottom ≤ threeColumns.height ∧
      ∃ b', threeColumns.fillRect (fun _ => true) topRow [0x4E00] {} = some b' ∧
        b'.width = threeColumns.width ∧ b'.height = threeColumns.height ∧
        b'.cursor = threeColumns.cursor ∧
        ∀ y : Int, 0 ≤ y → y < threeColumns.height → b'.getRowByOffset y =
          if topRow.top ≤ y ∧ y < topRow.bottom then
            ((threeColumns.getRowByOffset y).overwrite topRow.left.toNat
              (fillCells (fun _ => true) [0x4E00] (topRow.right - topRow.left).toNat)).replaceAttributes
              topRow.left.toNat topRow.right.toNat {}
          else threeColumns.getRowByOffset y :=
  have h : threeColumns.RowsFit := rowsFit_create _ (Option.some_get (by decide)).symm
  have hw : topRow.right ≤ threeColumns.width := by decide
  have hh : topRow.bottom ≤ threeColumns.height := by decide
  ⟨h, by decide, by decide, by decide, hw, by decide, by decide, by decide, hh,
    getRowByOffset_fillRect (fun _ => true) h {} (by decide) (by decide) (by decide) hw (by decide)
      (by decide) (by decide) hh⟩

/-! ### What `FillRect` keeps -/

/-- Slot `0` replaced by a row as wide as the buffer keeps every row as wide as the buffer. -/
theorem RowsFit.set_zero {b : TextBuffer} (h : b.RowsFit) {x : Row} (hx : x.cells.length = b.width) :
    ({ b with rows := b.rows.set 0 x } : TextBuffer).RowsFit := fun s => by
  show ((b.rows.set 0 x).getD s (Row.blank b.width b.initialAttributes)).cells.length = b.width
  rcases Nat.eq_zero_or_pos s with rfl | hs
  · cases b.rows with
    | nil => simp [Row.blank]
    | cons r rs => simpa using hx
  · rw [List.getD_eq_getElem?_getD, List.getElem?_set_ne (by omega), ← List.getD_eq_getElem?_getD]
    exact h s

theorem RowsFit.getScratchpadRow {b : TextBuffer} (h : b.RowsFit) (attributes : TextAttribute) :
    (b.getScratchpadRow attributes).RowsFit :=
  RowsFit.set_zero (b := b.commit 0) (fun s => (b.slotRow_commit _ s).symm ▸ h s)
    (by rw [Row.reset, Row.blank, List.length_replicate]; exact h 0)

@[simp] theorem cells_length_fillRow (scratchpad : Row) (rect : Rect) (attributes : TextAttribute)
    (r : Row) : (fillRow scratchpad rect attributes r).cells.length = r.cells.length :=
  Row.cells_length_copyTextFrom r scratchpad _ _ _ _

theorem RowsFit.modifyRows {f : Row → Row} (hf : ∀ r, (f r).cells.length = r.cells.length) :
    ∀ {b : TextBuffer} (top : Int) (n : Nat), b.RowsFit → (b.modifyRows f top n).RowsFit
  | _, _, 0, h => h
  | _, top, n + 1, h => RowsFit.modifyRows hf (top + 1) n (h.modifyRow (by rw [hf]; exact h _))

variable {isGlyphFullWidth}

/-- `FillRect` writes rows only: the scratchpad and the rows of the rectangle. -/
theorem sameGeometry_fillRect {b b' : TextBuffer} {rect : Rect} {fill : List UInt16}
    {attributes : TextAttribute} (hb : b.fillRect isGlyphFullWidth rect fill attributes = some b') :
    SameGeometry b b' := by
  unfold fillRect at hb
  split at hb
  · cases hb; exact .refl _
  · obtain ⟨sp, -, rfl⟩ := Option.map_eq_some'.1 hb
    refine SameGeometry.trans ?_ (sameGeometry_modifyRows _ _ _ _)
    exact ⟨rfl, rfl, rfl, rfl⟩

/-- `FillRect` keeps every row as wide as the buffer: the scratchpad loop and `CopyTextFrom`
write inside the row. -/
theorem RowsFit.fillRect {b b' : TextBuffer} (h : b.RowsFit) {rect : Rect} {fill : List UInt16}
    {attributes : TextAttribute} (hb : b.fillRect isGlyphFullWidth rect fill attributes = some b') :
    b'.RowsFit := by
  unfold TextBuffer.fillRect at hb
  split at hb
  · cases hb; exact h
  · obtain ⟨sp, hsp, rfl⟩ := Option.map_eq_some'.1 hb
    have h0 : ((b.getScratchpadRow attributes).slotRow 0).cells.length = b.width := by
      rw [slotRow_getScratchpadRow_of_rowsFit h, Row.blank, List.length_replicate]
    have hlen : sp.cells.length = b.width := by
      split at hsp
      · rw [fillScratchpad_length hsp, h0]
      · cases hsp; exact h0
    exact RowsFit.modifyRows (cells_length_fillRow sp rect attributes) _ _
      ((h.getScratchpadRow attributes).set_zero hlen)

end TextBuffer

end Fill

end TerminalBuffer
