/-
Cursor-driven writes: the ring rotation, the newline, the cursor advance, the
double-byte guard, character insertion and line renditions.

`IncrementCircularBuffer` prunes the hyperlinks only the outgoing first row references,
resets that row and advances `_firstRow`, wrapping at the height: the outgoing row becomes
the new last row.  `NewlineCursor` moves to column 0 of the next row and rotates when it
falls off the bottom.  `IncrementCursor` advances one column and, past the last column of
the row's effective width, marks the row wrap-forced and newlines.  `InsertCharacter`
first runs `_PrepareForDoubleByteSequence`, which, before the leading half of a wide
glyph in the last column, marks the row padded and advances the cursor.

For a buffer at least two columns wide every one of these operations keeps the cursor inside the effective width of its row and inside the
height, one step at a time (`cursorOp_inBounds`) and so over whole runs
(`cursorOps_inBounds`).  A buffer one column
wide is different: a double-width row there has effective width `1 >> 1 = 0`, so no
column is inside it, and `SetCurrentLineRendition` clamps the cursor to column `-1`
(`setCurrentLineRendition_oneColumn`).
-/
import TerminalBuffer.Hyperlink

namespace TerminalBuffer

namespace TextBuffer

variable (b : TextBuffer)

/-- `IncrementCircularBuffer(fillAttributes)`. -/
def incrementCircularBuffer (fillAttributes : TextAttribute) : TextBuffer :=
  let b := b.pruneHyperlinks.modifyRow 0 (·.reset fillAttributes)
  { b with firstRow := if b.firstRow + 1 ≥ b.height then 0 else b.firstRow + 1 }

/-- `NewlineCursor()`. -/
def newlineCursor : TextBuffer :=
  let iFinalRowIndex : Int := b.height - 1
  let b := b.setCursorPosition ⟨0, b.cursor.position.y + 1⟩
  if b.cursor.position.y > iFinalRowIndex then
    (b.setCursorPosition ⟨0, iFinalRowIndex⟩).incrementCircularBuffer {}
  else b

/-- `_SetWrapOnCurrentRow()`. -/
def setWrapOnCurrentRow : TextBuffer :=
  b.modifyRow b.cursor.position.y fun r => { r with wrapForced := true }

/-- `IncrementCursor()`. -/
def incrementCursor : TextBuffer :=
  let iFinalColumnIndex := b.getLineWidth b.cursor.position.y - 1
  let b := (b.touch b.cursor.position.y).setCursorPosition
    ⟨b.cursor.position.x + 1, b.cursor.position.y⟩
  if b.cursor.position.x > iFinalColumnIndex then b.setWrapOnCurrentRow.newlineCursor else b

/-- `_PrepareForDoubleByteSequence(dbcsAttribute)`. -/
def prepareForDoubleByteSequence (dbcsAttribute : DbcsAttribute) : TextBuffer :=
  if dbcsAttribute = .leading then
    let cursorPosition := b.cursor.position
    let lineWidth := b.getLineWidth cursorPosition.y
    let b := b.touch cursorPosition.y
    if cursorPosition.x = lineWidth - 1 then
      (b.modifyRow cursorPosition.y fun r => { r with doubleBytePadded := true }).incrementCursor
    else b
  else b

/-- What `InsertCharacter` stores into the cursor's row. -/
def insertIntoRow (chars : List UInt16) (dbcsAttribute : DbcsAttribute) (attr : TextAttribute)
    (iCol : Int) (row : Row) : Row :=
  let row := match dbcsAttribute with
    | .leading => row.replaceCharacters iCol 2 chars
    | .trailing => row.replaceCharacters (iCol - 1) 2 chars
    | .single => row.replaceCharacters iCol 1 chars
  row.setAttrToEnd iCol attr

/-- `InsertCharacter(chars, dbcsAttribute, attr)`. -/
def insertCharacter (chars : List UInt16) (dbcsAttribute : DbcsAttribute) (attr : TextAttribute) :
    TextBuffer :=
  let b := b.prepareForDoubleByteSequence dbcsAttribute
  let iRow := b.cursor.position.y
  let iCol := b.cursor.position.x
  (b.modifyRow iRow (insertIntoRow chars dbcsAttribute attr iCol)).incrementCursor

/-- `SetCurrentLineRendition(lineRendition, fillAttributes)`. -/
def setCurrentLineRendition (lineRendition : LineRendition) (fillAttributes : TextAttribute) :
    TextBuffer :=
  let cursorPosition := b.cursor.position
  let rowIndex := cursorPosition.y
  let b := b.getMutableRowByOffset rowIndex
  if (b.getRowByOffset rowIndex).lineRendition ≠ lineRendition then
    let b := b.updateRow rowIndex fun r => { r with lineRendition, wrapForced := false }
    if lineRendition ≠ .singleWidth then
      let fillOffset := b.getLineWidth rowIndex
      let fillLength := (b.width : Int) - fillOffset
      let b := b.updateRow rowIndex (·.writeSpaces fillOffset.toNat fillLength.toNat fillAttributes)
      b.setCursorPosition (b.clampPositionWithinLine cursorPosition)
    else b
  else b

/-! ### What the operations leave alone -/

@[simp] theorem cursor_incrementCircularBuffer (a : TextAttribute) :
    (b.incrementCircularBuffer a).cursor = b.cursor := by
  show (b.pruneHyperlinks.modifyRow 0 (·.reset a)).cursor = b.cursor
  rw [cursor_modifyRow]
  exact b.frame_pruneHyperlinks.cursor

@[simp] theorem width_incrementCircularBuffer (a : TextAttribute) :
    (b.incrementCircularBuffer a).width = b.width := by
  show (b.pruneHyperlinks.modifyRow 0 (·.reset a)).width = b.width
  rw [width_modifyRow]
  exact b.frame_pruneHyperlinks.width

@[simp] theorem height_incrementCircularBuffer (a : TextAttribute) :
    (b.incrementCircularBuffer a).height = b.height := by
  show (b.pruneHyperlinks.modifyRow 0 (·.reset a)).height = b.height
  rw [height_modifyRow]
  exact b.frame_pruneHyperlinks.height

theorem rows_incrementCircularBuffer (a : TextAttribute) :
    (b.incrementCircularBuffer a).rows = (b.pruneHyperlinks.modifyRow 0 (·.reset a)).rows := by
  unfold incrementCircularBuffer
  rfl

/-- Only the leading half of a wide glyph is prepared for. -/
theorem prepareForDoubleByteSequence_of_ne {d : DbcsAttribute} (h : d ≠ .leading) :
    b.prepareForDoubleByteSequence d = b := if_neg h

/-- A newline on the bottom row rotates the ring and leaves the cursor at the start of the
bottom row. -/
theorem newlineCursor_of_bottom (h : b.cursor.position.y = b.height - 1) :
    b.newlineCursor = (b.setCursorPosition ⟨0, b.height - 1⟩).incrementCircularBuffer {} := by
  unfold newlineCursor
  simp only [cursor_setCursorPosition, height_setCursorPosition, h]
  rw [if_pos (by omega), setCursorPosition_setCursorPosition]

@[simp] theorem width_setWrapOnCurrentRow : b.setWrapOnCurrentRow.width = b.width := rfl

@[simp] theorem height_setWrapOnCurrentRow : b.setWrapOnCurrentRow.height = b.height := rfl

@[simp] theorem cursor_setWrapOnCurrentRow : b.setWrapOnCurrentRow.cursor = b.cursor := rfl

@[simp] theorem width_newlineCursor : b.newlineCursor.width = b.width := by
  unfold newlineCursor; dsimp only; split <;> simp

@[simp] theorem height_newlineCursor : b.newlineCursor.height = b.height := by
  unfold newlineCursor; dsimp only; split <;> simp

@[simp] theorem width_incrementCursor : b.incrementCursor.width = b.width := by
  unfold incrementCursor; dsimp only; split <;> simp

@[simp] theorem height_incrementCursor : b.incrementCursor.height = b.height := by
  unfold incrementCursor; dsimp only; split <;> simp

@[simp] theorem width_prepareForDoubleByteSequence (d : DbcsAttribute) :
    (b.prepareForDoubleByteSequence d).width = b.width := by
  unfold prepareForDoubleByteSequence; split
  · dsimp only; split <;> simp
  · rfl

@[simp] theorem height_prepareForDoubleByteSequence (d : DbcsAttribute) :
    (b.prepareForDoubleByteSequence d).height = b.height := by
  unfold prepareForDoubleByteSequence; split
  · dsimp only; split <;> simp
  · rfl

/-! ### Where the cursor may be -/

/-- The cursor lies inside the effective width of its row and inside the height. -/
def CursorInBounds : Prop :=
  0 ≤ b.cursor.position.x ∧ b.cursor.position.x < b.getLineWidth b.cursor.position.y ∧
    0 ≤ b.cursor.position.y ∧ b.cursor.position.y < b.height

instance : Decidable b.CursorInBounds := inferInstanceAs (Decidable (_ ∧ _ ∧ _ ∧ _))

/-- Two columns or more leave every row at least one column. -/
theorem one_le_getLineWidth (hw : 2 ≤ b.width) (y : Int) : 1 ≤ b.getLineWidth y := by
  unfold getLineWidth; split <;> omega

theorem newlineCursor_inBounds (hw : 2 ≤ b.width) (hy : 0 ≤ b.cursor.position.y) :
    b.newlineCursor.CursorInBounds := by
  have h1 := b.height_pos
  unfold newlineCursor CursorInBounds
  dsimp only
  split
  · simp only [cursor_incrementCircularBuffer, cursor_setCursorPosition,
      height_incrementCircularBuffer, height_setCursorPosition]
    exact ⟨Int.le_refl 0, one_le_getLineWidth _ (by simpa using hw) _, by omega, by omega⟩
  · rename_i hlt
    simp only [cursor_setCursorPosition, height_setCursorPosition] at hlt ⊢
    exact ⟨Int.le_refl 0, one_le_getLineWidth _ (by simpa using hw) _, by omega, by omega⟩

/-- `IncrementCursor` needs only a column and a row that are not negative, and a row above
the bottom: it either stays inside the row it read the width of, or newlines. -/
theorem incrementCursor_inBounds (hw : 2 ≤ b.width) (hx : 0 ≤ b.cursor.position.x)
    (hy : 0 ≤ b.cursor.position.y) (hyh : b.cursor.position.y < b.height) :
    b.incrementCursor.CursorInBounds := by
  unfold incrementCursor
  dsimp only
  split
  · exact newlineCursor_inBounds _ (by simpa using hw) (by simpa using hy)
  · rename_i hle
    simp only [CursorInBounds, cursor_setCursorPosition, getLineWidth_setCursorPosition,
      getLineWidth_touch, height_setCursorPosition, height_touch] at hle ⊢
    omega

theorem cursorInBounds_touch (y : Int) : (b.touch y).CursorInBounds ↔ b.CursorInBounds := by
  simp only [CursorInBounds, cursor_touch, getLineWidth_touch, height_touch]

theorem prepareForDoubleByteSequence_inBounds (hw : 2 ≤ b.width) (h : b.CursorInBounds)
    (d : DbcsAttribute) : (b.prepareForDoubleByteSequence d).CursorInBounds := by
  unfold prepareForDoubleByteSequence
  split
  · dsimp only
    split
    · exact incrementCursor_inBounds _ (by simpa using hw) (by simpa using h.1)
        (by simpa using h.2.2.1) (by simpa using h.2.2.2)
    · exact (cursorInBounds_touch _ _).mpr h
  · exact h

theorem insertCharacter_inBounds (hw : 2 ≤ b.width) (h : b.CursorInBounds)
    (chars : List UInt16) (d : DbcsAttribute) (attr : TextAttribute) :
    (b.insertCharacter chars d attr).CursorInBounds := by
  have hp := b.prepareForDoubleByteSequence_inBounds hw h d
  unfold insertCharacter
  exact incrementCursor_inBounds _ (by simpa using hw) (by simpa using hp.1)
    (by simpa using hp.2.2.1) (by simpa using hp.2.2.2)

theorem getLineWidth_le (y : Int) : b.getLineWidth y ≤ b.width := by
  unfold getLineWidth; split <;> omega

theorem setCurrentLineRendition_inBounds (hw : 2 ≤ b.width) (h : b.CursorInBounds)
    (lr : LineRendition) (fill : TextAttribute) :
    (b.setCurrentLineRendition lr fill).CursorInBounds := by
  obtain ⟨hx, hxw, hy, hyh⟩ := h
  have hle := b.getLineWidth_le b.cursor.position.y
  unfold setCurrentLineRendition
  dsimp only
  split
  · split
    · -- the row leaves single width: the cursor is clamped into half the width
      rename_i hlr
      simp only [CursorInBounds, clampPositionWithinLine, cursor_setCursorPosition,
        getLineWidth_setCursorPosition, height_setCursorPosition, getLineWidth_updateRow_self,
        getRowByOffset_updateRow_self, Row.lineRendition_writeSpaces, width_updateRow,
        width_getMutableRowByOffset, height_updateRow, height_getMutableRowByOffset]
      simp only [bne_iff_ne, ne_eq, hlr, not_false_eq_true, if_true]
      omega
    · -- back to single width: the whole width is available again
      rename_i hlr
      simp only [CursorInBounds, getLineWidth_updateRow_self, cursor_updateRow,
        cursor_getMutableRowByOffset, width_getMutableRowByOffset, height_updateRow,
        height_getMutableRowByOffset]
      simp only [ne_eq, not_not] at hlr
      simp only [hlr, bne_self_eq_false, Bool.false_eq_true, if_false]
      omega
  · simp only [CursorInBounds, getLineWidth_getMutableRowByOffset, cursor_getMutableRowByOffset,
      height_getMutableRowByOffset]
    exact ⟨hx, hxw, hy, hyh⟩

/-! ### Every cursor operation, and every run of them -/

/-- The operations that move the cursor. -/
inductive CursorOp
  | incrementCursor
  | newlineCursor
  | insertCharacter (chars : List UInt16) (dbcsAttribute : DbcsAttribute) (attr : TextAttribute)
  | setCurrentLineRendition (lineRendition : LineRendition) (fillAttributes : TextAttribute)

/-- Running one operation. -/
def CursorOp.apply : CursorOp → TextBuffer → TextBuffer
  | .incrementCursor, b => b.incrementCursor
  | .newlineCursor, b => b.newlineCursor
  | .insertCharacter c d a, b => b.insertCharacter c d a
  | .setCurrentLineRendition lr f, b => b.setCurrentLineRendition lr f

theorem width_setCurrentLineRendition (lr : LineRendition) (f : TextAttribute) :
    (b.setCurrentLineRendition lr f).width = b.width := by
  unfold setCurrentLineRendition; dsimp only; split
  · split <;> simp only [width_setCursorPosition, width_updateRow, width_getMutableRowByOffset]
  · exact width_getMutableRowByOffset _ _

theorem width_apply (op : CursorOp) : (op.apply b).width = b.width := by
  cases op <;> simp [CursorOp.apply, insertCharacter, width_setCurrentLineRendition]

/-- **Every cursor operation keeps the cursor in bounds on a buffer two columns wide or
more**: `IncrementCursor`, `NewlineCursor`, `InsertCharacter` with a leading, trailing or
single cell, and `SetCurrentLineRendition`, from any state whose cursor is in bounds. -/
theorem cursorOp_inBounds (op : CursorOp) (hw : 2 ≤ b.width) (h : b.CursorInBounds) :
    (op.apply b).CursorInBounds := by
  cases op with
  | incrementCursor => exact b.incrementCursor_inBounds hw h.1 h.2.2.1 h.2.2.2
  | newlineCursor => exact b.newlineCursor_inBounds hw h.2.2.1
  | insertCharacter c d a => exact b.insertCharacter_inBounds hw h c d a
  | setCurrentLineRendition lr f => exact b.setCurrentLineRendition_inBounds hw h lr f

/-- And so does every run of them. -/
theorem cursorOps_inBounds (ops : List CursorOp) :
    ∀ b : TextBuffer, 2 ≤ b.width → b.CursorInBounds →
      (ops.foldl (fun b op => op.apply b) b).CursorInBounds := by
  induction ops with
  | nil => exact fun _ _ h => h
  | cons op ops ih =>
    exact fun b hw h => ih _ (by rw [width_apply]; exact hw) (cursorOp_inBounds b op hw h)

/-- A fresh buffer two columns wide and one row high. -/
def twoColumns : TextBuffer := (create ⟨2, 1⟩ {} 1 false 0 0).get (by decide)

theorem cursorOps_inBounds_twoColumns :
    2 ≤ twoColumns.width ∧ twoColumns.CursorInBounds ∧
      ([.setCurrentLineRendition .doubleWidth {}, .insertCharacter [0x61] .single {},
          .newlineCursor].foldl (fun b (op : CursorOp) => op.apply b) twoColumns).CursorInBounds :=
  have hw : 2 ≤ twoColumns.width := by decide
  have h : twoColumns.CursorInBounds := by decide
  ⟨hw, h, cursorOps_inBounds _ twoColumns hw h⟩

/-- A fresh buffer one column wide and one row high. -/
def oneColumn : TextBuffer := (create ⟨1, 1⟩ {} 1 false 0 0).get (by decide)

/-- On a buffer one column wide, making the cursor's row double width leaves the cursor at
column `-1`: no column lies inside a row of effective width `0`. -/
theorem setCurrentLineRendition_oneColumn :
    oneColumn.CursorInBounds ∧
      (oneColumn.setCurrentLineRendition .doubleWidth {}).cursor.position = ⟨-1, 0⟩ ∧
      ¬ (oneColumn.setCurrentLineRendition .doubleWidth {}).CursorInBounds := by
  decide

end TextBuffer

end TerminalBuffer
