/-
`Reflow`: rewrapping a buffer into one of another size.

The walk reads the old buffer's logical rows from the top, down to the last row with
text or the cursor row, whichever is lower.  A row of another rendition is copied
whole onto a fresh row.  A single-width row is cut at `MeasureRight` (at least one
column past the cursor on the cursor row) and copied in chunks by `CopyTextFrom`,
each chunk as much as the rest of the current new row holds; writing past the last
column marks the new row wrap-forced and moves to the next.  A row that was not
wrap-forced ends its line.

The new buffer is not rotated while the walk writes past its bottom: rows are simply
addressed modulo the height, each one reset the first time the walk comes back to it,
and once the cursor has been placed the walk stops before it would overwrite the
cursor's row.  At the end `_firstRow` is set in closed form, `newY % newHeight`, and
the cursor row translated with it.

`newY` is the row the walk would write next.  After a row that ended its line that is
one past the last row written, and `newY % newHeight` makes the last row written the
last logical row (`getRowByOffset_reflow`).  After a wrap-forced row it is the last row
written itself, and that row becomes logical row `0`, above the rows written before it
(`reflow_wrapForced_last_row_first`).  The same alignment, with the walk ending exactly
at `newY = newHeight`, skips the correction altogether and leaves the cursor one row
below the buffer (`reflow_cursor_below_buffer`).

`ROW::CopyTextFrom` writes whole glyphs only; a wide glyph never fits a row one column
wide, the code would copy it forever there, and the fuel of `copyRow` is what ends that
loop in the model.
-/
import TerminalBuffer.Search
import TerminalBuffer.Hyperlink

namespace TerminalBuffer

/-- `PositionInformation`: two old row indices that `Reflow` translates. -/
structure PositionInformation where
  mutableViewportTop : Int
  visibleViewportTop : Int
deriving DecidableEq, Repr

/-- The variables of `Reflow`'s walk. -/
structure ReflowState where
  oldBuffer : TextBuffer
  newBuffer : TextBuffer
  oldY : Int
  newY : Int
  newX : Int
  newYLimit : Int
  newCursorPos : Point
  mutableViewportTop : Int
  visibleViewportTop : Int
  positionInfo : Option PositionInformation

namespace ReflowState

variable (s : ReflowState)

/-- The two `if (oldY >= ...ViewportTop)` blocks: the first row written for an old row at
or below a viewport top records where that top landed. -/
def markViewportTops : ReflowState :=
  let markMutable := s.oldY ≥ s.mutableViewportTop
  let markVisible := s.oldY ≥ s.visibleViewportTop
  { s with
    positionInfo := s.positionInfo.map fun p =>
      { mutableViewportTop := if markMutable then s.newY else p.mutableViewportTop,
        visibleViewportTop := if markVisible then s.newY else p.visibleViewportTop },
    mutableViewportTop := if markMutable then coordTypeMax else s.mutableViewportTop,
    visibleViewportTop := if markVisible then coordTypeMax else s.visibleViewportTop }

/-- The line wrapping at the top of the do-while loop. -/
def wrapLine (newWidth : Int) : ReflowState :=
  if s.newX ≥ newWidth then
    { s with newBuffer := s.newBuffer.modifyRow s.newY fun r => { r with wrapForced := true },
             newX := 0, newY := s.newY + 1 }
  else s

/-- REFLOW_RESET: a row the walk comes back to past the new height is reset before the
first chunk goes into it. -/
def resetRevisited (newHeight : Int) : ReflowState :=
  if s.newY ≥ newHeight ∧ s.newX = 0 then
    { s with newBuffer := s.newBuffer.modifyRow s.newY (·.reset s.newBuffer.initialAttributes) }
  else s

/-- The row at `newY` through `GetMutableRowByOffset`, replaced by `row`. -/
def storeRow (row : Row) : ReflowState :=
  { s with newBuffer := s.newBuffer.modifyRow s.newY fun _ => row }

/-- `newCursorPos = { newRow.AdjustToGlyphStart(column), newY }`. -/
def placeCursor (newRow : Row) (column : Int) : ReflowState :=
  { s with newCursorPos := ⟨newRow.adjustToGlyphStart column, s.newY⟩ }

/-- `newRow.CopyTextFrom(state)` from source column `oldX` into column `newX`, then the
attributes from `oldX` on laid over the row from `newX` and stretched to the new width:
the row, `state.columnEnd` and `state.sourceColumnEnd`. -/
def copyChunk (newWidth : Int) (newRow oldRow : Row) (newX oldRowLimit oldX : Int) :
    Row × Int × Int :=
  let state := newRow.copyTextFrom oldRow newX coordTypeMax oldX oldRowLimit
  ({ state.1 with
      attrs := Row.resizeTrailingExtent (state.1.attrs.take newX.toNat ++ oldRow.attrs.drop oldX.toNat)
        newWidth.toNat },
    state.2)

section Walk

variable (oldCursorPos : Point) (newWidth newHeight : Int)

/-- One pass of the do-while loop that copies `oldRow`, from source column `oldX`: the
state, and the next `oldX`, or `none` at the `break` that keeps the cursor's row. -/
def copyPass (oldRow : Row) (oldRowLimit oldX : Int) : ReflowState × Option Int :=
  let s := s.wrapLine newWidth
  if s.newY ≥ newHeight ∧ s.newX = 0 ∧ s.newY ≥ s.newYLimit then (s, none)
  else
    let s := s.resetRevisited newHeight
    let chunk := copyChunk newWidth (s.newBuffer.getRowByOffset s.newY) oldRow s.newX oldRowLimit oldX
    let s := s.storeRow chunk.1
    let s := if s.oldY = oldCursorPos.y ∧ oldCursorPos.x ≥ oldX then
        { s.placeCursor chunk.1 (oldCursorPos.x - oldX + s.newX) with newYLimit := s.newY + newHeight }
      else s
    ({ s.markViewportTops with newX := chunk.2.1 }, some chunk.2.2)

/-- The do-while loop over one single-width row. -/
def copyRow (oldRow : Row) (oldRowLimit : Int) : Nat → ReflowState → Int → ReflowState
  | 0, s, _ => s
  | fuel + 1, s, oldX =>
    match s.copyPass oldCursorPos newWidth newHeight oldRow oldRowLimit oldX with
    | (s, none) => s
    | (s, some oldX) => if oldX < oldRowLimit then copyRow oldRow oldRowLimit fuel s oldX else s

/-- A row of another rendition, truncated: `CopyFrom` onto the row at `newY` (reset first
past the new height), never wrap-forced. -/
def copyWholeRow (oldRow : Row) : ReflowState :=
  let nb := s.newBuffer.getMutableRowByOffset s.newY
  let nb := if s.newY ≥ newHeight then nb.updateRow s.newY (·.reset nb.initialAttributes) else nb
  { s with newBuffer := nb.updateRow s.newY fun r => { r.copyFrom oldRow with wrapForced := false } }

/-- The branch for a row of another rendition: end the line if it is unfinished, copy
the row whole, place the cursor if it was on this row, and go on to the next row. -/
def copyOtherRendition (oldRow : Row) : ReflowState :=
  let s := if s.newX ≠ 0 then { s with newX := 0, newY := s.newY + 1 } else s
  let s := s.copyWholeRow newHeight oldRow
  let s := if s.oldY = oldCursorPos.y then
      s.placeCursor (s.newBuffer.getRowByOffset s.newY) oldCursorPos.x
    else s
  { s.markViewportTops with newY := s.newY + 1 }

/-- The branch for a single-width row: cut it at `MeasureRight` (past the cursor on the
cursor's row), copy it chunk by chunk, and end the line unless it was wrap-forced. -/
def copySingleWidth (oldRow : Row) : ReflowState :=
  let oldRowLimit : Int := if s.oldY = oldCursorPos.y
    then max (oldRow.measureRight : Int) (oldCursorPos.x + 1) else oldRow.measureRight
  let s := copyRow oldCursorPos newWidth newHeight oldRow oldRowLimit
    (2 * oldRowLimit.toNat + 2) s 0
  if oldRow.wrapForced then s else { s with newX := 0, newY := s.newY + 1 }

/-- The body of the walk for the old row `oldY`. -/
def walkRow : ReflowState :=
  let oldRow := s.oldBuffer.getRowByOffset s.oldY
  let s := { s with oldBuffer := s.oldBuffer.touch s.oldY }
  if oldRow.lineRendition ≠ .singleWidth then s.copyOtherRendition oldCursorPos newHeight oldRow
  else s.copySingleWidth oldCursorPos newWidth newHeight oldRow

/-- The walk: `for (; oldY < oldHeight && newY < newYLimit; ++oldY)`. -/
def walk (oldHeight : Int) : Nat → ReflowState → ReflowState
  | 0, s => s
  | fuel + 1, s =>
    if s.oldY < oldHeight ∧ s.newY < s.newYLimit then
      let s := s.walkRow oldCursorPos newWidth newHeight
      walk oldHeight fuel { s with oldY := s.oldY + 1 }
    else s

end Walk

/-- The loop that copies the attributes of the initialized rows below the text. -/
def copyAttributes (newWidth newHeight initializedRowsEnd : Int) : Nat → ReflowState → ReflowState
  | 0, s => s
  | fuel + 1, s =>
    if s.oldY < initializedRowsEnd ∧ s.newY < newHeight then
      let oldRow := s.oldBuffer.getRowByOffset s.oldY
      let nb := s.newBuffer.modifyRow s.newY fun r =>
        { r with attrs := Row.resizeTrailingExtent oldRow.attrs newWidth.toNat }
      copyAttributes newWidth newHeight initializedRowsEnd fuel
        { s with oldBuffer := s.oldBuffer.touch s.oldY, newBuffer := nb,
                 oldY := s.oldY + 1, newY := s.newY + 1 }
    else s

/-- The closed-form correction of `_firstRow` and the cursor row, when the walk went past
the new height. -/
def fixUp (newHeight : Int) : Int × Int :=
  if s.newY > newHeight then
    (cppRem s.newY newHeight,
      cppRem (s.newCursorPos.y - cppRem s.newY newHeight + newHeight) newHeight)
  else (s.newBuffer.firstRow, s.newCursorPos.y)

end ReflowState

namespace TextBuffer

/-- `_trimMarksOutsideBuffer()`. -/
def trimMarksOutsideBuffer (b : TextBuffer) : TextBuffer :=
  { b with marks := b.marks.filter fun m => ¬ (m.start.y < 0 ∨ m.start.y ≥ b.height) }

/-- The walk's starting state. -/
def reflowStart (oldBuffer newBuffer : TextBuffer) (positionInfo : Option PositionInformation) :
    ReflowState :=
  { oldBuffer, newBuffer, oldY := 0, newY := 0, newX := 0, newYLimit := coordTypeMax,
    newCursorPos := ⟨0, 0⟩,
    mutableViewportTop := (positionInfo.map (·.mutableViewportTop)).getD coordTypeMax,
    visibleViewportTop := (positionInfo.map (·.visibleViewportTop)).getD coordTypeMax,
    positionInfo }

/-- The walk and the attribute loop of `Reflow`: the state they leave, before `_firstRow`
and the cursor are set. -/
def reflowWalk (oldBuffer newBuffer : TextBuffer) (lastCharacterViewport : Option Viewport)
    (positionInfo : Option PositionInformation) : ReflowState :=
  let oldCursorPos : Point :=
    ⟨clamp oldBuffer.cursor.position.x 0 (oldBuffer.width - 1),
      clamp oldBuffer.cursor.position.y 0 (oldBuffer.height - 1)⟩
  let last := oldBuffer.getLastNonSpaceCharacter lastCharacterViewport
  let newWidth : Int := newBuffer.width
  let newHeight : Int := newBuffer.height
  let oldHeight := max last.2.y oldCursorPos.y + 1
  let s := ReflowState.walk oldCursorPos newWidth newHeight oldHeight oldHeight.toNat
    (reflowStart last.1 newBuffer positionInfo)
  let initializedRowsEnd := s.oldBuffer.estimateOffsetOfLastCommittedRow + 1
  ReflowState.copyAttributes newWidth newHeight initializedRowsEnd
    (initializedRowsEnd - s.oldY).toNat s

/-- The end of `Reflow`, after the walk left `s`: `_firstRow` and the cursor set, the
hyperlink maps and the marks taken over from the old buffer.  `Cursor::CopyProperties`
copies cursor state this model does not keep, beyond the size set right after it. -/
def reflowFinish (oldBuffer newBuffer : TextBuffer) (s : ReflowState) : TextBuffer :=
  let fix := s.fixUp newBuffer.height
  let nb := { s.newBuffer with firstRow := fix.1 }.copyHyperlinkMaps s.oldBuffer
  let nb := { nb with cursor := ⟨⟨s.newCursorPos.x, fix.2⟩, oldBuffer.cursor.size⟩,
                      marks := oldBuffer.marks }
  nb.trimMarksOutsideBuffer

/-- `Reflow(oldBuffer, newBuffer, lastCharacterViewport, positionInfo)`: the old buffer
(whose reads commit), the new buffer, and the translated `positionInfo`. -/
def reflow (oldBuffer newBuffer : TextBuffer) (lastCharacterViewport : Option Viewport)
    (positionInfo : Option PositionInformation) :
    TextBuffer × TextBuffer × Option PositionInformation :=
  let s := reflowWalk oldBuffer newBuffer lastCharacterViewport positionInfo
  (s.oldBuffer, reflowFinish oldBuffer newBuffer s, s.positionInfo)

end TextBuffer

/-! ### What the walk keeps

The walk writes the new buffer only through `GetMutableRowByOffset`, so the buffer keeps
its geometry, and every row it writes is as wide as the buffer.  The cursor it places
lands on a column of such a row, on a row the walk has already reached.
-/

namespace ReflowState

open TextBuffer

/-- What every step of the walk keeps, for a new buffer that started as `nb`: its
geometry, rows as wide as it, and a cursor on a column of a row the walk has reached. -/
structure WalkInv (nb : TextBuffer) (s : ReflowState) : Prop where
  geometry : nb.SameGeometry s.newBuffer
  rowsFit : s.newBuffer.RowsFit
  newY_nonneg : 0 ≤ s.newY
  cursor_y : 0 ≤ s.newCursorPos.y ∧ s.newCursorPos.y ≤ s.newY
  cursor_x : 0 ≤ s.newCursorPos.x ∧ s.newCursorPos.x < nb.width

variable {nb : TextBuffer} {s : ReflowState}

theorem WalkInv.newRow (h : WalkInv nb s) (y : Int) :
    (s.newBuffer.getRowByOffset y).cells.length = nb.width :=
  (h.rowsFit _).trans h.geometry.width

theorem WalkInv.modifyRow (h : WalkInv nb s) (f : Row → Row)
    (hf : (f (s.newBuffer.getRowByOffset s.newY)).cells.length = nb.width) :
    WalkInv nb { s with newBuffer := s.newBuffer.modifyRow s.newY f } :=
  ⟨h.geometry.trans (sameGeometry_modifyRow _ _ _),
    h.rowsFit.modifyRow (hf.trans h.geometry.width.symm), h.newY_nonneg, h.cursor_y, h.cursor_x⟩

theorem WalkInv.nextRow (h : WalkInv nb s) :
    WalkInv nb { s with newX := 0, newY := s.newY + 1 } :=
  ⟨h.geometry, h.rowsFit, by have := h.newY_nonneg; dsimp only; omega,
    by have := h.cursor_y; dsimp only; omega, h.cursor_x⟩

theorem WalkInv.wrapLine (h : WalkInv nb s) (newWidth : Int) : WalkInv nb (s.wrapLine newWidth) := by
  unfold ReflowState.wrapLine
  split
  · exact (h.modifyRow (fun r => { r with wrapForced := true }) (h.newRow _)).nextRow
  · exact h

theorem WalkInv.resetRevisited (h : WalkInv nb s) (newHeight : Int) :
    WalkInv nb (s.resetRevisited newHeight) := by
  unfold ReflowState.resetRevisited
  split
  · exact h.modifyRow _ ((Row.reset_cells_length _ _).trans (h.newRow _))
  · exact h

theorem WalkInv.placeCursor (h : WalkInv nb s) (row : Row) (hrow : row.cells.length = nb.width)
    (column : Int) : WalkInv nb (s.placeCursor row column) :=
  ⟨h.geometry, h.rowsFit, h.newY_nonneg, ⟨h.newY_nonneg, Int.le_refl _⟩,
    hrow ▸ row.adjustToGlyphStart_mem (hrow ▸ nb.width_pos) column⟩

theorem WalkInv.markViewportTops (h : WalkInv nb s) : WalkInv nb s.markViewportTops :=
  ⟨h.geometry, h.rowsFit, h.newY_nonneg, h.cursor_y, h.cursor_x⟩

theorem WalkInv.storeRow (h : WalkInv nb s) (row : Row) (hrow : row.cells.length = nb.width) :
    WalkInv nb (s.storeRow row) :=
  h.modifyRow _ hrow

theorem WalkInv.setNewX (h : WalkInv nb s) (x : Int) : WalkInv nb { s with newX := x } :=
  ⟨h.geometry, h.rowsFit, h.newY_nonneg, h.cursor_y, h.cursor_x⟩

theorem WalkInv.setNewYLimit (h : WalkInv nb s) (l : Int) : WalkInv nb { s with newYLimit := l } :=
  ⟨h.geometry, h.rowsFit, h.newY_nonneg, h.cursor_y, h.cursor_x⟩

@[simp] theorem cells_length_copyChunk (newWidth : Int) (newRow oldRow : Row) (newX oldRowLimit oldX : Int) :
    (copyChunk newWidth newRow oldRow newX oldRowLimit oldX).1.cells.length = newRow.cells.length :=
  Row.cells_length_copyTextFrom _ _ _ _ _ _

section Walk

variable (oldCursorPos : Point) (newWidth newHeight : Int)

theorem WalkInv.copyPass (h : WalkInv nb s) (oldRow : Row) (oldRowLimit oldX : Int) :
    WalkInv nb (s.copyPass oldCursorPos newWidth newHeight oldRow oldRowLimit oldX).1 := by
  have h1 := h.wrapLine newWidth
  have h2 := h1.resetRevisited newHeight
  unfold ReflowState.copyPass
  dsimp only
  split
  · exact h1
  · generalize (s.wrapLine newWidth).resetRevisited newHeight = s at h2 ⊢
    have hrow := (cells_length_copyChunk newWidth (s.newBuffer.getRowByOffset s.newY) oldRow s.newX
      oldRowLimit oldX).trans (h2.newRow _)
    have h3 := h2.storeRow _ hrow
    refine (WalkInv.markViewportTops ?_).setNewX _
    split
    · exact (h3.placeCursor _ hrow _).setNewYLimit _
    · exact h3

theorem WalkInv.nextLine (h : WalkInv nb s) : WalkInv nb { s with newY := s.newY + 1 } :=
  ⟨h.geometry, h.rowsFit, by have := h.newY_nonneg; dsimp only; omega,
    by have := h.cursor_y; dsimp only; omega, h.cursor_x⟩

theorem WalkInv.setOldBuffer (h : WalkInv nb s) (b : TextBuffer) :
    WalkInv nb { s with oldBuffer := b } :=
  ⟨h.geometry, h.rowsFit, h.newY_nonneg, h.cursor_y, h.cursor_x⟩

theorem WalkInv.setOldY (h : WalkInv nb s) (y : Int) : WalkInv nb { s with oldY := y } :=
  ⟨h.geometry, h.rowsFit, h.newY_nonneg, h.cursor_y, h.cursor_x⟩

theorem WalkInv.copyRow (oldRow : Row) (oldRowLimit : Int) (fuel : Nat) :
    ∀ s oldX, WalkInv nb s →
      WalkInv nb (copyRow oldCursorPos newWidth newHeight oldRow oldRowLimit fuel s oldX) := by
  induction fuel with
  | zero => exact fun _ _ h => h
  | succ fuel ih =>
    intro s oldX h
    have hp := h.copyPass oldCursorPos newWidth newHeight oldRow oldRowLimit oldX
    unfold ReflowState.copyRow
    split
    · rename_i s' heq
      rw [heq] at hp
      exact hp
    · rename_i s' oldX' heq
      rw [heq] at hp
      split
      · exact ih s' oldX' hp
      · exact hp

theorem WalkInv.setNewBuffer (h : WalkInv nb s) {b : TextBuffer} (g : nb.SameGeometry b)
    (f : b.RowsFit) : WalkInv nb { s with newBuffer := b } :=
  ⟨g, f, h.newY_nonneg, h.cursor_y, h.cursor_x⟩

theorem WalkInv.finishRow (h : WalkInv nb s) :
    WalkInv nb { s.markViewportTops with newY := s.newY + 1 } :=
  h.markViewportTops.nextLine

theorem WalkInv.copyWholeRow (h : WalkInv nb s) (oldRow : Row) :
    WalkInv nb (s.copyWholeRow newHeight oldRow) := by
  have g := h.geometry.trans (s.newBuffer.sameGeometry_getMutableRowByOffset s.newY)
  have f := h.rowsFit.getMutableRowByOffset s.newY
  unfold ReflowState.copyWholeRow
  dsimp only
  generalize s.newBuffer.getMutableRowByOffset s.newY = b at g f ⊢
  have copied : ∀ b' : TextBuffer, nb.SameGeometry b' → b'.RowsFit →
      WalkInv nb { s with newBuffer := b'.updateRow s.newY fun r =>
        { r.copyFrom oldRow with wrapForced := false } } := by
    intro b' g' f'
    apply h.setNewBuffer (g'.trans (b'.frame_updateRow _ _).sameGeometry)
    apply f'.updateRow
    dsimp only
    exact (Row.cells_length_copyFrom _ _).trans (f' _)
  split
  · exact copied _ (g.trans (b.frame_updateRow _ _).sameGeometry)
      (f.updateRow ((Row.reset_cells_length _ _).trans (f _)))
  · exact copied _ g f

theorem WalkInv.copyOtherRendition (h : WalkInv nb s) (oldRow : Row) :
    WalkInv nb (s.copyOtherRendition oldCursorPos newHeight oldRow) := by
  have h1 : WalkInv nb (if s.newX ≠ 0 then { s with newX := 0, newY := s.newY + 1 } else s) := by
    split
    · exact h.nextRow
    · exact h
  have h2 := h1.copyWholeRow newHeight oldRow
  unfold ReflowState.copyOtherRendition
  dsimp only
  generalize (if s.newX ≠ 0 then { s with newX := 0, newY := s.newY + 1 } else s).copyWholeRow
    newHeight oldRow = s at h2 ⊢
  refine WalkInv.finishRow ?_
  split
  · exact h2.placeCursor _ (h2.newRow _) _
  · exact h2

theorem WalkInv.copySingleWidth (h : WalkInv nb s) (oldRow : Row) :
    WalkInv nb (s.copySingleWidth oldCursorPos newWidth newHeight oldRow) := by
  unfold ReflowState.copySingleWidth
  dsimp only
  split
  · exact h.copyRow _ _ _ _ _ _ _ _
  · exact (h.copyRow _ _ _ _ _ _ _ _).nextRow

theorem WalkInv.walkRow (h : WalkInv nb s) : WalkInv nb (s.walkRow oldCursorPos newWidth newHeight) := by
  unfold ReflowState.walkRow
  dsimp only
  split
  · exact (h.setOldBuffer _).copyOtherRendition _ _ _
  · exact (h.setOldBuffer _).copySingleWidth _ _ _ _

theorem WalkInv.walk (oldHeight : Int) (fuel : Nat) :
    ∀ s, WalkInv nb s → WalkInv nb (walk oldCursorPos newWidth newHeight oldHeight fuel s) := by
  induction fuel with
  | zero => exact fun _ h => h
  | succ fuel ih =>
    intro s h
    unfold ReflowState.walk
    split
    · exact ih _ ((h.walkRow _ _ _).setOldY _)
    · exact h

end Walk

theorem WalkInv.copyAttributes (newWidth newHeight initializedRowsEnd : Int) (fuel : Nat) :
    ∀ s, WalkInv nb s → WalkInv nb (copyAttributes newWidth newHeight initializedRowsEnd fuel s) := by
  induction fuel with
  | zero => exact fun _ h => h
  | succ fuel ih =>
    intro s h
    unfold ReflowState.copyAttributes
    split
    · refine ih _ ⟨?_, ?_, ?_, ?_, h.cursor_x⟩ <;> dsimp only
      · exact h.geometry.trans (sameGeometry_modifyRow _ _ _)
      · exact h.rowsFit.modifyRow (h.rowsFit _)
      · have := h.newY_nonneg; omega
      · have := h.cursor_y; omega
    · exact h

end ReflowState

namespace TextBuffer

open ReflowState

theorem walkInv_reflowWalk (old new : TextBuffer) (lcv : Option Viewport)
    (pi : Option PositionInformation) (hfit : new.RowsFit) :
    WalkInv new (reflowWalk old new lcv pi) := by
  have hw := new.width_pos
  unfold reflowWalk
  dsimp only
  exact WalkInv.copyAttributes _ _ _ _ _ (WalkInv.walk _ _ _ _ _ _
    ⟨.refl _, hfit, Int.le_refl 0, ⟨Int.le_refl 0, Int.le_refl 0⟩,
      ⟨Int.le_refl 0, show (0 : Int) < new.width by omega⟩⟩)

section Finish

variable (old new : TextBuffer) (lcv : Option Viewport) (pi : Option PositionInformation)

/-! The reflowed buffer is the buffer the walk left, with `_firstRow` and the cursor set. -/

theorem reflow_snd_fst :
    (reflow old new lcv pi).2.1 = reflowFinish old new (reflowWalk old new lcv pi) := rfl

section Fields

variable (s : ReflowState)

@[simp] theorem slotRow_reflowFinish : (reflowFinish old new s).slotRow = s.newBuffer.slotRow := rfl

@[simp] theorem width_reflowFinish : (reflowFinish old new s).width = s.newBuffer.width := rfl

@[simp] theorem height_reflowFinish : (reflowFinish old new s).height = s.newBuffer.height := rfl

@[simp] theorem firstRow_reflowFinish :
    (reflowFinish old new s).firstRow = (s.fixUp new.height).1 := rfl

@[simp] theorem cursor_reflowFinish :
    (reflowFinish old new s).cursor.position = ⟨s.newCursorPos.x, (s.fixUp new.height).2⟩ := rfl

end Fields

/-! ### Where the reflowed rows and cursor land -/

/-- **`Reflow` keeps the new buffer's shape.**  Its size, rows as wide as it, and a
`_firstRow` inside the ring, whether set by the closed form or kept. -/
theorem reflow_geometry (hfit : new.RowsFit) (hf : 0 ≤ new.firstRow ∧ new.firstRow < new.height) :
    (reflow old new lcv pi).2.1.width = new.width ∧ (reflow old new lcv pi).2.1.height = new.height ∧
      (0 ≤ (reflow old new lcv pi).2.1.firstRow ∧
        (reflow old new lcv pi).2.1.firstRow < (reflow old new lcv pi).2.1.height) ∧
      (reflow old new lcv pi).2.1.RowsFit := by
  have h := walkInv_reflowWalk old new lcv pi hfit
  have hH := new.height_pos
  rw [reflow_snd_fst]
  generalize reflowWalk old new lcv pi = s at h
  refine ⟨h.geometry.width, h.geometry.height, ?_, fun r => h.rowsFit r⟩
  rw [firstRow_reflowFinish, height_reflowFinish, h.geometry.height]
  unfold fixUp
  split
  · exact cppRem_mem (by omega) (by omega)
  · rw [h.geometry.firstRow]; exact hf

/-- **The reflowed cursor is at most one row too low.**  Its column is always inside the
new width and its row never negative, but the row can be `newHeight` itself, one past
the last row. -/
theorem reflow_cursor_le (hfit : new.RowsFit) :
    0 ≤ (reflow old new lcv pi).2.1.cursor.position.x ∧
      (reflow old new lcv pi).2.1.cursor.position.x < new.width ∧
      0 ≤ (reflow old new lcv pi).2.1.cursor.position.y ∧
      (reflow old new lcv pi).2.1.cursor.position.y ≤ new.height := by
  have h := walkInv_reflowWalk old new lcv pi hfit
  have hH := new.height_pos
  rw [reflow_snd_fst]
  generalize reflowWalk old new lcv pi = s at h
  rw [cursor_reflowFinish]
  obtain ⟨hy0, hy⟩ := h.cursor_y
  refine ⟨h.cursor_x.1, h.cursor_x.2, ?_⟩
  unfold fixUp
  split
  · have := cppRem_mem (show 0 ≤ s.newY by omega) (show (0 : Int) < new.height by omega)
    have := cppRem_mem (show 0 ≤ s.newCursorPos.y - cppRem s.newY new.height + new.height by omega)
      (show (0 : Int) < new.height by omega)
    dsimp only
    omega
  · dsimp only
    omega

/-- A fresh buffer one column wide and one row high. -/
def oneByOne : TextBuffer := (create ⟨1, 1⟩ {} 1 false 0 0).get (by decide)

theorem reflow_cursor_le_oneByOne :
    oneByOne.RowsFit ∧
      0 ≤ (reflow oneByOne oneByOne none none).2.1.cursor.position.x ∧
      (reflow oneByOne oneByOne none none).2.1.cursor.position.x < oneByOne.width ∧
      0 ≤ (reflow oneByOne oneByOne none none).2.1.cursor.position.y ∧
      (reflow oneByOne oneByOne none none).2.1.cursor.position.y ≤ oneByOne.height :=
  have hfit : oneByOne.RowsFit := rowsFit_create _ (Option.some_get (by decide)).symm
  ⟨hfit, reflow_cursor_le oneByOne oneByOne none none hfit⟩

/-- A row one column wide holding the letter `c`. -/
def letterRow (c : UInt16) (wrapForced : Bool) : Row :=
  { cells := [⟨[c], .single⟩], attrs := [{}], wrapForced }

/-- A buffer one column wide whose logical rows are `rows`, all committed, with the cursor
at the start of the last one. -/
def stacked (rows : List Row) (h : 0 < rows.length) : TextBuffer :=
  { width := 1, height := rows.length, width_pos := Nat.one_pos, height_pos := h,
    commitReadAheadRowCount := 0, rows := Row.blank 1 {} :: rows, firstRow := 0,
    initialAttributes := {}, currentAttributes := {}, cursor := ⟨⟨0, rows.length - 1⟩, 1⟩,
    lastMutationId := 0, hyperlinkMap := [], hyperlinkCustomIdMap := [], currentHyperlinkId := 1,
    marks := [], isActiveBuffer := false }

/-- `a` on a line of its own, then `b` on a wrap-forced row with the cursor. -/
def twoLetters : TextBuffer :=
  stacked [letterRow 0x61 false, letterRow 0x62 true] (by decide)

/-- **The cursor ends below the buffer.**  Reflowing `a`, `b` into one row of one column
ends the walk at `newY = 1 = newHeight`, where no correction is made, and the cursor is
left on row `1` of a buffer one row high. -/
theorem reflow_cursor_below_buffer :
    (reflow twoLetters oneByOne none none).2.1.cursor.position = ⟨0, 1⟩ ∧
      (reflow twoLetters oneByOne none none).2.1.height = 1 := by
  decide

/-- `a`, `b`, `c` on lines of their own, then `d` on a wrap-forced row with the cursor. -/
def fourLetters : TextBuffer :=
  stacked [letterRow 0x61 false, letterRow 0x62 false, letterRow 0x63 false, letterRow 0x64 true]
    (by decide)

/-- A fresh buffer one column wide and two rows high. -/
def oneByTwo : TextBuffer := (create ⟨1, 2⟩ {} 1 false 0 0).get (by decide)

/-- **Past the new height, the reflowed buffer shows the last `newHeight` rows the walk
addressed.**  Logical row `y` is the row the walk addressed as `newY - newHeight + y`, so
the last logical row is the one at `newY - 1`: the last row written when the walk ended
its last line, but not when that line was wrap-forced and `newY` still names it. -/
theorem getRowByOffset_reflow (hfit : new.RowsFit) (h0 : new.firstRow = 0)
    (hgt : (reflowWalk old new lcv pi).newY > new.height) (y : Int) :
    (reflow old new lcv pi).2.1.getRowByOffset y =
      (reflowWalk old new lcv pi).newBuffer.getRowByOffset
        ((reflowWalk old new lcv pi).newY - new.height + y) := by
  have h := walkInv_reflowWalk old new lcv pi hfit
  have hH := new.height_pos
  rw [reflow_snd_fst]
  generalize reflowWalk old new lcv pi = s at h hgt ⊢
  unfold getRowByOffset
  rw [slotRow_reflowFinish, rowOffset_eq, rowOffset_eq, firstRow_reflowFinish, height_reflowFinish,
    h.geometry.height, h.geometry.firstRow, h0]
  unfold fixUp
  rw [if_pos hgt, cppRem, Int.tmod_eq_emod (by omega) (by omega), Int.emod_add_emod,
    show 0 + (s.newY - new.height + y) = s.newY + y + (-1) * new.height by omega,
    Int.add_mul_emod_self]

theorem getRowByOffset_reflow_fourLetters :
    oneByTwo.RowsFit ∧ oneByTwo.firstRow = 0 ∧
      (reflowWalk fourLetters oneByTwo none none).newY > oneByTwo.height ∧
      (reflow fourLetters oneByTwo none none).2.1.getRowByOffset 1 =
        (reflowWalk fourLetters oneByTwo none none).newBuffer.getRowByOffset
          ((reflowWalk fourLetters oneByTwo none none).newY - oneByTwo.height + 1) :=
  have hfit : oneByTwo.RowsFit := rowsFit_create _ (Option.some_get (by decide)).symm
  have h0 : oneByTwo.firstRow = 0 := rfl
  have hgt : (reflowWalk fourLetters oneByTwo none none).newY > oneByTwo.height := by decide
  ⟨hfit, h0, hgt, getRowByOffset_reflow fourLetters oneByTwo none none hfit h0 hgt 1⟩

/-- **The last row written comes out on top.**  Reflowing `a`, `b`, `c`, `d` into two rows
of one column writes `c` and then `d` last, and the new buffer reads `d` above `c`. -/
theorem reflow_wrapForced_last_row_first :
    ((reflow fourLetters oneByTwo none none).2.1.getRowByOffset 0).cells = [⟨[0x64], .single⟩] ∧
      ((reflow fourLetters oneByTwo none none).2.1.getRowByOffset 1).cells =
        [⟨[0x63], .single⟩] := by
  decide

end Finish

end TextBuffer

end TerminalBuffer
