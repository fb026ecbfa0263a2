/-
Whole-buffer operations: `Reset`, `ResizeTraditional` and `ScrollRows`.

`Reset` decommits every row and makes the current attributes the ones new rows are
built in.  `ResizeTraditional` builds a buffer of the new size, copies into it, through
`GetMutableRowByOffset` of that new buffer, as many rows as both heights allow (ending
at the cursor row when the cursor would fall off the new bottom), and moves the new
rows in with `_firstRow` back at `0`.  `ScrollRows` copies a band of rows up or down,
one `GetMutableRowByOffset` per row.

`_lastMutationId` is bumped by `GetMutableRowByOffset` alone.  `ScrollRows` goes through
it for every row it writes, but neither `Reset` nor `ResizeTraditional` calls it on the
buffer itself, so both change what its rows read as and leave the counter where it was
(`reset_keeps_lastMutationId`, `lastMutationId_resizeTraditional`).
-/
import TerminalBuffer.Cursor

namespace TerminalBuffer

namespace TextBuffer

variable (b : TextBuffer)

/-- `Reset()`: `_decommit()`, then `_initialAttributes = _currentAttributes`. -/
def reset : TextBuffer := { b with rows := [], initialAttributes := b.currentAttributes }

/-- The copy loop of `ResizeTraditional`: `n` rows of `old` from `srcRow` into `newBuffer`
from `dstRow`. -/
def resizeCopy (old : TextBuffer) : Nat → TextBuffer → Int → Int → TextBuffer
  | 0, newBuffer, _, _ => newBuffer
  | n + 1, newBuffer, srcRow, dstRow =>
    resizeCopy old n (newBuffer.modifyRow dstRow (·.copyFrom (old.getRowByOffset srcRow)))
      (srcRow + 1) (dstRow + 1)

/-- `ResizeTraditional(newSize)`; `none` where the new buffer's constructor throws.  The
new buffer's own mutation counter is dropped with it, so its seed does not matter. -/
def resizeTraditional (newSize : Size) : Option TextBuffer :=
  (create newSize b.currentAttributes 0 false b.commitReadAheadRowCount 0).map fun newBuffer =>
    let cursorRow := b.cursor.position.y
    let copyableRows := min (b.height : Int) newBuffer.height
    let srcRow := if cursorRow ≥ newBuffer.height then cursorRow - newBuffer.height + 1 else 0
    let newBuffer := resizeCopy b copyableRows.toNat newBuffer srcRow 0
    { b with width := newBuffer.width, height := newBuffer.height,
             width_pos := newBuffer.width_pos, height_pos := newBuffer.height_pos,
             rows := newBuffer.rows, initialAttributes := newBuffer.initialAttributes,
             firstRow := 0 }

/-- One copy of `ScrollRows`: `GetMutableRowByOffset(y + delta).CopyFrom(GetRowByOffset(y))`,
the mutable access first. -/
def scrollRowStep (y delta : Int) : TextBuffer :=
  let b := (b.getMutableRowByOffset (y + delta)).touch y
  b.updateRow (y + delta) (·.copyFrom (b.getRowByOffset y))

/-- The loop of `ScrollRows`: `n` copies from row `y` on, moving by `step`. -/
def scrollLoop (delta step : Int) : Nat → TextBuffer → Int → TextBuffer
  | 0, b, _ => b
  | n + 1, b, y => scrollLoop delta step n (b.scrollRowStep y delta) (y + step)

/-- `ScrollRows(firstRow, size, delta)`.  The loop runs `y != end` from the first row to
copy to the one past the last, which is `size` rows either way. -/
def scrollRows (firstRow size delta : Int) : TextBuffer :=
  if delta = 0 then b
  else
    let size := max 0 size
    if delta < 0 then scrollLoop delta 1 size.toNat b firstRow
    else scrollLoop delta (-1) size.toNat b (firstRow + size - 1)

/-! ### The counter across the whole-buffer operations -/

@[simp] theorem lastMutationId_reset : b.reset.lastMutationId = b.lastMutationId := rfl

/-- After `Reset` every row reads as a blank row in the attributes current at the time. -/
@[simp] theorem getRowByOffset_reset (y : Int) :
    b.reset.getRowByOffset y = Row.blank b.width b.currentAttributes := by
  simp [getRowByOffset, slotRow, reset]

/-- **`Reset` changes the rows and not the counter.**  Whenever some row held anything but
a blank row in the current attributes, `Reset` changes what it reads as, and
`GetLastMutationId()` is the same before and after. -/
theorem reset_keeps_lastMutationId {y : Int}
    (h : b.getRowByOffset y ≠ Row.blank b.width b.currentAttributes) :
    b.reset.getRowByOffset y ≠ b.getRowByOffset y ∧ b.reset.lastMutationId = b.lastMutationId :=
  ⟨by rw [getRowByOffset_reset]; exact Ne.symm h, rfl⟩

/-- A two-by-two buffer with `a` written at its top left. -/
def withLetter : TextBuffer :=
  ((create ⟨2, 2⟩ {} 1 false 0 0).get (by decide)).insertCharacter [0x61] .single {}

theorem reset_keeps_lastMutationId_withLetter :
    withLetter.getRowByOffset 0 ≠ Row.blank withLetter.width withLetter.currentAttributes ∧
      withLetter.reset.getRowByOffset 0 ≠ withLetter.getRowByOffset 0 ∧
      withLetter.reset.lastMutationId = withLetter.lastMutationId :=
  have h : withLetter.getRowByOffset 0 ≠ Row.blank withLetter.width withLetter.currentAttributes :=
    by decide
  ⟨h, reset_keeps_lastMutationId withLetter h⟩

/-- `ResizeTraditional` never touches the counter of the buffer it resizes. -/
theorem lastMutationId_resizeTraditional {newSize : Size} {b' : TextBuffer}
    (h : b.resizeTraditional newSize = some b') : b'.lastMutationId = b.lastMutationId := by
  simp only [resizeTraditional, Option.map_eq_some'] at h
  obtain ⟨_, _, rfl⟩ := h
  rfl

end TextBuffer

end TerminalBuffer
