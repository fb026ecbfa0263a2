/-
The text buffer's state and how a logical row finds its slot.

`TextBuffer` keeps the fields of the class that the modelled operations read or write.
The allocation is kept at the level of rows: `rows` is the list of `ROW`s constructed so
far, so its length is `_commitWatermark` counted in strides, which `Arena.lean` shows the
byte arithmetic of `_commit` keeps it at.  A slot at or past the watermark holds no row
yet; once committed it holds a blank row in `_initialAttributes`, so `slotRow` reads it
as that blank row and committing never changes what a slot reads as
(`slotRow_commit`).  Every read in the code still commits, and the model does so where
the code does (`touch`), because which slots are committed is what
`_estimateOffsetOfLastCommittedRow` reads and what the arena's watermark follows.

`_getRow(y)` maps logical row `y` to slot `(_firstRow + y) mod _height + 1` with C++'s
truncating `%` corrected for sign; `rowOffset_eq` says that is the floored remainder, for
every `y`, negative or not, and every `_firstRow`.  Slot `0` is the scratchpad.

Width and height are at least one, as the constructor and `ResizeTraditional` force,
and the structure carries that, so `_getRow` can never address a slot past the end.
-/
import TerminalBuffer.Arena
import TerminalBuffer.Row

namespace TerminalBuffer

/-- `Cursor`, by the two properties the buffer reads and writes. -/
structure Cursor where
  position : Point
  size : Nat
deriving DecidableEq, Repr

/-- `TextBuffer`, by the fields the modelled operations use. -/
structure TextBuffer where
  width : Nat
  height : Nat
  width_pos : 0 < width
  height_pos : 0 < height
  /-- `_commitReadAheadRowCount`, declared in the class header. -/
  commitReadAheadRowCount : Nat
  /-- The `ROW`s constructed below `_commitWatermark`; slot `0` is the scratchpad. -/
  rows : List Row
  firstRow : Int
  initialAttributes : TextAttribute
  currentAttributes : TextAttribute
  cursor : Cursor
  lastMutationId : UInt64
  /-- `_hyperlinkMap`, id to URI; the list order is the map's iteration order. -/
  hyperlinkMap : List (UInt16 × String)
  /-- `_hyperlinkCustomIdMap`, custom id (with the URI's hash) to id. -/
  hyperlinkCustomIdMap : List (String × UInt16)
  currentHyperlinkId : UInt16
  marks : List ScrollMark
  isActiveBuffer : Bool

namespace TextBuffer

/-- The constructor: `screenBufferSize` clamped to at least `1 × 1`, then `_reserve`, whose
`gsl::narrow<uint16_t>` throws on a dimension past `65535`.  `seed` is the value taken
from `s_lastMutationIdInitialValue`. -/
def create (screenBufferSize : Size) (defaultAttributes : TextAttribute) (cursorSize : Nat)
    (isActiveBuffer : Bool) (readAhead : Nat) (seed : UInt64) : Option TextBuffer :=
  let w := max screenBufferSize.width 1
  let h := max screenBufferSize.height 1
  if hw : w ≤ 65535 ∧ h ≤ 65535 then
    some { width := w.toNat, height := h.toNat, width_pos := by omega, height_pos := by omega,
           commitReadAheadRowCount := readAhead, rows := [], firstRow := 0,
           initialAttributes := defaultAttributes, currentAttributes := defaultAttributes,
           cursor := ⟨⟨0, 0⟩, cursorSize⟩, lastMutationId := seed, hyperlinkMap := [],
           hyperlinkCustomIdMap := [], currentHyperlinkId := 1, marks := [],
           isActiveBuffer }
  else none

variable (b : TextBuffer)

/-- `GetSize()`. -/
def getSize : Viewport := Viewport.fromDimensions b.width b.height

/-- The slot `_getRow(y)` hands to `_getRowByOffsetDirect`. -/
def rowOffset (y : Int) : Nat :=
  let offset := cppRem (b.firstRow + y) b.height
  (if offset < 0 then offset + b.height else offset).toNat + 1

/-- **`_getRow` is the floored remainder.**  For every `y` and every `_firstRow`. -/
theorem rowOffset_eq (y : Int) : b.rowOffset y = ((b.firstRow + y) % b.height).toNat + 1 := by
  rw [rowOffset, cppRem_wrap _ _ (by have := b.height_pos; omega)]

/-- `_getRow` never addresses the scratchpad nor a slot past the reservation, so the
`E_UNEXPECTED` throw of `_getRowByOffsetDirect` is never reached through it. -/
theorem rowOffset_mem (y : Int) : 1 ≤ b.rowOffset y ∧ b.rowOffset y ≤ b.height := by
  have hh : (0 : Int) < b.height := by have := b.height_pos; omega
  have := Int.emod_lt_of_pos (b.firstRow + y) hh
  have := Int.emod_nonneg (b.firstRow + y) (Int.ne_of_gt hh)
  rw [rowOffset_eq]
  omega

/-- The rows of the buffer sit in different slots, whatever `_firstRow` is. -/
theorem rowOffset_inj {y y' : Int} (hy : 0 ≤ y ∧ y < b.height) (hy' : 0 ≤ y' ∧ y' < b.height) :
    b.rowOffset y = b.rowOffset y' ↔ y = y' := by
  refine ⟨fun h => ?_, fun h => h ▸ rfl⟩
  have hh : (0 : Int) < b.height := by have := b.height_pos; omega
  have := Int.emod_nonneg (b.firstRow + y) (Int.ne_of_gt hh)
  have := Int.emod_nonneg (b.firstRow + y') (Int.ne_of_gt hh)
  rw [rowOffset_eq, rowOffset_eq] at h
  have hmod : y % b.height = y' % b.height := Int.ModEq.add_left_cancel' b.firstRow (by
    show (b.firstRow + y) % b.height = (b.firstRow + y') % b.height
    omega)
  rwa [Int.emod_eq_of_lt hy.1 hy.2, Int.emod_eq_of_lt hy'.1 hy'.2] at hmod

/-- What slot `s` reads as: its row if constructed, else the blank row committing it would
construct. -/
def slotRow (s : Nat) : Row := b.rows.getD s (Row.blank b.width b.initialAttributes)

/-- The rows once `_getRowByOffsetDirect(offset)` has committed up to `offset` and the
read-ahead, as `Arena.getRowByOffsetDirect_spec` counts them. -/
def committedRows (offset : Nat) : List Row :=
  if offset < b.rows.length then b.rows
  else b.rows ++ List.replicate
    (Arena.commitRows b.height b.commitReadAheadRowCount b.rows.length offset - b.rows.length)
    (Row.blank b.width b.initialAttributes)

/-- The effect of `_getRowByOffsetDirect(offset)`. -/
def commit (offset : Nat) : TextBuffer := { b with rows := b.committedRows offset }

/-- `GetRowByOffset(y)`: what logical row `y` reads as. -/
def getRowByOffset (y : Int) : Row := b.slotRow (b.rowOffset y)

/-- The commit a read of logical row `y` makes. -/
def touch (y : Int) : TextBuffer := b.commit (b.rowOffset y)

/-- A write to row `y` through a reference already obtained: the slot is committed and its
row replaced by `f` of it. -/
def updateRow (y : Int) (f : Row → Row) : TextBuffer :=
  { b with rows := (b.committedRows (b.rowOffset y)).set (b.rowOffset y) (f (b.getRowByOffset y)) }

/-- `GetMutableRowByOffset(y)`: the mutation counter is bumped and the row committed. -/
def getMutableRowByOffset (y : Int) : TextBuffer :=
  { b with lastMutationId := b.lastMutationId + 1 }.touch y

/-- `GetMutableRowByOffset(y)` followed by one change `f` to the row. -/
def modifyRow (y : Int) (f : Row → Row) : TextBuffer := (b.getMutableRowByOffset y).updateRow y f

/-- `GetScratchpadRow(attributes)`: slot `0`, reset. -/
def getScratchpadRow (attributes : TextAttribute) : TextBuffer :=
  { b with rows := (b.committedRows 0).set 0 ((b.slotRow 0).reset attributes) }

/-- `_estimateOffsetOfLastCommittedRow()`: the watermark less the scratchpad and one, and
`0` when fewer than two slots are committed. -/
def estimateOffsetOfLastCommittedRow : Int := max 0 ((b.rows.length : Int) - 2)

/-- `IsDoubleWidthLine(row)`. -/
def isDoubleWidthLine (row : Int) : Bool := (b.getRowByOffset row).lineRendition != .singleWidth

/-- `GetLineWidth(row)`: `width >> 1` on a double-width row. -/
def getLineWidth (row : Int) : Int := if b.isDoubleWidthLine row then b.width / 2 else b.width

/-- `ClampPositionWithinLine(position)`. -/
def clampPositionWithinLine (position : Point) : Point :=
  ⟨min position.x (b.getLineWidth position.y - 1), position.y⟩

/-- Moving the cursor: `Cursor::SetPosition`. -/
def setCursorPosition (p : Point) : TextBuffer := { b with cursor := { b.cursor with position := p } }

/-! ### Frames

Most steps change only the rows, and some the hyperlink maps.  `Frame b b'` says that
everything else is as it was, so that lemmas about the cursor, the ring offset or the
counter can cross those steps without unfolding them.
-/

/-- `b'` differs from `b` at most in its rows and its hyperlink registry. -/
structure Frame (b b' : TextBuffer) : Prop where
  width : b'.width = b.width
  height : b'.height = b.height
  firstRow : b'.firstRow = b.firstRow
  cursor : b'.cursor = b.cursor
  lastMutationId : b'.lastMutationId = b.lastMutationId
  initialAttributes : b'.initialAttributes = b.initialAttributes
  currentAttributes : b'.currentAttributes = b.currentAttributes
  commitReadAheadRowCount : b'.commitReadAheadRowCount = b.commitReadAheadRowCount
  marks : b'.marks = b.marks

theorem Frame.refl : Frame b b := ⟨rfl, rfl, rfl, rfl, rfl, rfl, rfl, rfl, rfl⟩

theorem Frame.trans {b₁ b₂ b₃ : TextBuffer} (h₁ : Frame b₁ b₂) (h₂ : Frame b₂ b₃) : Frame b₁ b₃ :=
  ⟨h₂.1.trans h₁.1, h₂.2.trans h₁.2, h₂.3.trans h₁.3, h₂.4.trans h₁.4, h₂.5.trans h₁.5,
    h₂.6.trans h₁.6, h₂.7.trans h₁.7, h₂.8.trans h₁.8, h₂.9.trans h₁.9⟩

theorem Frame.rowOffset {b' : TextBuffer} (h : Frame b b') : b'.rowOffset = b.rowOffset := by
  funext y; simp only [TextBuffer.rowOffset, h.firstRow, h.height]

theorem frame_commit (offset : Nat) : Frame b (b.commit offset) :=
  ⟨rfl, rfl, rfl, rfl, rfl, rfl, rfl, rfl, rfl⟩

theorem frame_touch (y : Int) : Frame b (b.touch y) := b.frame_commit _

theorem frame_updateRow (y : Int) (f : Row → Row) : Frame b (b.updateRow y f) :=
  ⟨rfl, rfl, rfl, rfl, rfl, rfl, rfl, rfl, rfl⟩

/-- `b'` has the geometry of `b`: its size, its ring offset and the attributes rows are
built in.  Everything that only writes rows and bumps the counter keeps it. -/
structure SameGeometry (b b' : TextBuffer) : Prop where
  width : b'.width = b.width
  height : b'.height = b.height
  firstRow : b'.firstRow = b.firstRow
  initialAttributes : b'.initialAttributes = b.initialAttributes

theorem SameGeometry.refl : SameGeometry b b := ⟨rfl, rfl, rfl, rfl⟩

theorem SameGeometry.trans {b₁ b₂ b₃ : TextBuffer} (h₁ : SameGeometry b₁ b₂)
    (h₂ : SameGeometry b₂ b₃) : SameGeometry b₁ b₃ :=
  ⟨h₂.1.trans h₁.1, h₂.2.trans h₁.2, h₂.3.trans h₁.3, h₂.4.trans h₁.4⟩

theorem Frame.sameGeometry {b' : TextBuffer} (h : Frame b b') : SameGeometry b b' :=
  ⟨h.width, h.height, h.firstRow, h.initialAttributes⟩

theorem sameGeometry_getMutableRowByOffset (y : Int) : SameGeometry b (b.getMutableRowByOffset y) :=
  ⟨rfl, rfl, rfl, rfl⟩

theorem sameGeometry_modifyRow (y : Int) (f : Row → Row) : SameGeometry b (b.modifyRow y f) :=
  ⟨rfl, rfl, rfl, rfl⟩

@[simp] theorem width_modifyRow (y : Int) (f : Row → Row) : (b.modifyRow y f).width = b.width :=
  rfl

@[simp] theorem height_modifyRow (y : Int) (f : Row → Row) :
    (b.modifyRow y f).height = b.height := rfl

@[simp] theorem cursor_modifyRow (y : Int) (f : Row → Row) :
    (b.modifyRow y f).cursor = b.cursor := rfl

@[simp] theorem firstRow_modifyRow (y : Int) (f : Row → Row) :
    (b.modifyRow y f).firstRow = b.firstRow := rfl

@[simp] theorem currentAttributes_modifyRow (y : Int) (f : Row → Row) :
    (b.modifyRow y f).currentAttributes = b.currentAttributes := rfl

@[simp] theorem hyperlinkMap_modifyRow (y : Int) (f : Row → Row) :
    (b.modifyRow y f).hyperlinkMap = b.hyperlinkMap := rfl

@[simp] theorem cursor_setCursorPosition (p : Point) :
    (b.setCursorPosition p).cursor.position = p := rfl

@[simp] theorem width_setCursorPosition (p : Point) : (b.setCursorPosition p).width = b.width :=
  rfl

@[simp] theorem height_setCursorPosition (p : Point) :
    (b.setCursorPosition p).height = b.height := rfl

@[simp] theorem getRowByOffset_setCursorPosition (p : Point) :
    (b.setCursorPosition p).getRowByOffset = b.getRowByOffset := rfl

@[simp] theorem getLineWidth_setCursorPosition (p : Point) :
    (b.setCursorPosition p).getLineWidth = b.getLineWidth := rfl

@[simp] theorem setCursorPosition_setCursorPosition (p q : Point) :
    (b.setCursorPosition p).setCursorPosition q = b.setCursorPosition q := rfl

@[simp] theorem setCursorPosition_self : b.setCursorPosition b.cursor.position = b := rfl

@[simp] theorem width_updateRow (y : Int) (f : Row → Row) : (b.updateRow y f).width = b.width :=
  rfl

@[simp] theorem height_updateRow (y : Int) (f : Row → Row) :
    (b.updateRow y f).height = b.height := rfl

@[simp] theorem cursor_updateRow (y : Int) (f : Row → Row) :
    (b.updateRow y f).cursor = b.cursor := rfl

@[simp] theorem width_getMutableRowByOffset (y : Int) :
    (b.getMutableRowByOffset y).width = b.width := rfl

@[simp] theorem height_getMutableRowByOffset (y : Int) :
    (b.getMutableRowByOffset y).height = b.height := rfl

@[simp] theorem cursor_getMutableRowByOffset (y : Int) :
    (b.getMutableRowByOffset y).cursor = b.cursor := rfl

@[simp] theorem width_touch (y : Int) : (b.touch y).width = b.width := rfl

@[simp] theorem height_touch (y : Int) : (b.touch y).height = b.height := rfl

@[simp] theorem cursor_touch (y : Int) : (b.touch y).cursor = b.cursor := rfl

/-! ### Committing is invisible to reads -/

theorem getD_committedRows (offset s : Nat) :
    (b.committedRows offset).getD s (Row.blank b.width b.initialAttributes) = b.slotRow s := by
  unfold committedRows slotRow
  split
  · rfl
  · simp only [List.getD_eq_getElem?_getD, List.getElem?_append]
    split
    · rfl
    · rw [List.getElem?_replicate]; split <;> simp_all [List.getElem?_eq_none]

theorem lt_length_committedRows {offset : Nat} (h : offset ≤ b.height) :
    offset < (b.committedRows offset).length := by
  unfold committedRows
  split
  · assumption
  · have := Arena.le_commitRows b.height b.commitReadAheadRowCount b.rows.length offset h
    simp only [List.length_append, List.length_replicate]
    omega

/-- Committing changes no slot's reading. -/
@[simp] theorem slotRow_commit (offset s : Nat) : (b.commit offset).slotRow s = b.slotRow s :=
  b.getD_committedRows offset s

/-- A slot already constructed is committed again for free. -/
theorem commit_of_lt {offset : Nat} (h : offset < b.rows.length) : b.commit offset = b := by
  simp only [commit, committedRows, if_pos h]

@[simp] theorem touch_touch (y : Int) : (b.touch y).touch y = b.touch y :=
  (b.touch y).commit_of_lt (b.lt_length_committedRows (b.rowOffset_mem y).2)

@[simp] theorem getRowByOffset_touch (y y' : Int) :
    (b.touch y).getRowByOffset y' = b.getRowByOffset y' :=
  b.slotRow_commit _ _

@[simp] theorem getLineWidth_touch (y : Int) : (b.touch y).getLineWidth = b.getLineWidth := by
  funext y'
  simp only [getLineWidth, isDoubleWidthLine, getRowByOffset_touch, width_touch]

/-- A write changes exactly its own slot. -/
theorem slotRow_updateRow (y : Int) (f : Row → Row) (s : Nat) :
    (b.updateRow y f).slotRow s =
      if s = b.rowOffset y then f (b.getRowByOffset y) else b.slotRow s := by
  have hlt := b.lt_length_committedRows (b.rowOffset_mem y).2
  show ((b.committedRows _).set _ _).getD s _ = _
  rw [List.getD_eq_getElem?_getD, List.getElem?_set]
  by_cases h1 : b.rowOffset y = s
  · simp [h1.symm, hlt]
  · rw [if_neg h1, if_neg (Ne.symm h1), ← List.getD_eq_getElem?_getD]
    exact b.getD_committedRows _ s

theorem getRowByOffset_updateRow (y : Int) (f : Row → Row) (y' : Int) :
    (b.updateRow y f).getRowByOffset y' =
      if b.rowOffset y' = b.rowOffset y then f (b.getRowByOffset y) else b.getRowByOffset y' :=
  b.slotRow_updateRow y f _

@[simp] theorem slotRow_getMutableRowByOffset (y : Int) (s : Nat) :
    (b.getMutableRowByOffset y).slotRow s = b.slotRow s :=
  slotRow_commit _ _ s

@[simp] theorem rowOffset_getMutableRowByOffset (y : Int) :
    (b.getMutableRowByOffset y).rowOffset = b.rowOffset := rfl

@[simp] theorem getRowByOffset_getMutableRowByOffset (y y' : Int) :
    (b.getMutableRowByOffset y).getRowByOffset y' = b.getRowByOffset y' :=
  slotRow_commit _ _ _

@[simp] theorem getLineWidth_getMutableRowByOffset (y : Int) :
    (b.getMutableRowByOffset y).getLineWidth = b.getLineWidth := by
  funext y'
  simp only [getLineWidth, isDoubleWidthLine, getRowByOffset_getMutableRowByOffset]
  rfl

/-- A mutable access changes exactly its own slot. -/
theorem slotRow_modifyRow (y : Int) (f : Row → Row) (s : Nat) :
    (b.modifyRow y f).slotRow s =
      if s = b.rowOffset y then f (b.getRowByOffset y) else b.slotRow s := by
  rw [modifyRow, slotRow_updateRow]
  simp only [getRowByOffset_getMutableRowByOffset, slotRow_getMutableRowByOffset,
    rowOffset_getMutableRowByOffset]

theorem getRowByOffset_modifyRow (y : Int) (f : Row → Row) (y' : Int) :
    (b.modifyRow y f).getRowByOffset y' =
      if b.rowOffset y' = b.rowOffset y then f (b.getRowByOffset y) else b.getRowByOffset y' :=
  b.slotRow_modifyRow y f _

/-- Reading one's own write. -/
@[simp] theorem getRowByOffset_updateRow_self (y : Int) (f : Row → Row) :
    (b.updateRow y f).getRowByOffset y = f (b.getRowByOffset y) := by
  simp [getRowByOffset_updateRow]

/-- The width of the row just written is that of its new rendition. -/
theorem getLineWidth_updateRow_self (y : Int) (f : Row → Row) :
    (b.updateRow y f).getLineWidth y =
      if (f (b.getRowByOffset y)).lineRendition != .singleWidth then (b.width : Int) / 2
      else b.width := by
  simp only [getLineWidth, isDoubleWidthLine, getRowByOffset_updateRow_self]
  rfl

theorem committedRows_getMutableRowByOffset (y : Int) :
    (b.getMutableRowByOffset y).committedRows (b.rowOffset y) = (b.touch y).rows :=
  if_pos (b.lt_length_committedRows (b.rowOffset_mem y).2)

/-- The rows after a mutable access and one change: the committed rows with the slot set. -/
theorem rows_modifyRow (y : Int) (f : Row → Row) :
    (b.modifyRow y f).rows = (b.touch y).rows.set (b.rowOffset y) (f (b.getRowByOffset y)) := by
  show ((b.getMutableRowByOffset y).committedRows (b.rowOffset y)).set _ _ = _
  rw [committedRows_getMutableRowByOffset, getRowByOffset_getMutableRowByOffset,
    rowOffset_getMutableRowByOffset]

@[simp] theorem getRowByOffset_modifyRow_self (y : Int) (f : Row → Row) :
    (b.modifyRow y f).getRowByOffset y = f (b.getRowByOffset y) := by
  simp [getRowByOffset_modifyRow]

/-! ### Rows as wide as the buffer -/

/-- Every slot reads as a row exactly as wide as the buffer. -/
def RowsFit : Prop := ∀ s, (b.slotRow s).cells.length = b.width

theorem RowsFit.touch {b : TextBuffer} (h : b.RowsFit) (y : Int) : (b.touch y).RowsFit :=
  fun s => (b.slotRow_commit _ s).symm ▸ h s

theorem RowsFit.getMutableRowByOffset {b : TextBuffer} (h : b.RowsFit) (y : Int) :
    (b.getMutableRowByOffset y).RowsFit :=
  fun s => (b.slotRow_getMutableRowByOffset y s).symm ▸ h s

/-- A write keeps the rows fitting when the row it writes fits. -/
theorem RowsFit.updateRow {b : TextBuffer} (h : b.RowsFit) {y : Int} {f : Row → Row}
    (hf : (f (b.getRowByOffset y)).cells.length = b.width) : (b.updateRow y f).RowsFit := by
  intro s
  rw [slotRow_updateRow]
  split
  · exact hf
  · exact h s

theorem RowsFit.modifyRow {b : TextBuffer} (h : b.RowsFit) {y : Int} {f : Row → Row}
    (hf : (f (b.getRowByOffset y)).cells.length = b.width) : (b.modifyRow y f).RowsFit :=
  (h.getMutableRowByOffset y).updateRow (by simpa using hf)

theorem rowsFit_create {size : Size} {attr : TextAttribute} {cursorSize : Nat} {active : Bool}
    {readAhead : Nat} {seed : UInt64} (h : create size attr cursorSize active readAhead seed = some b) :
    b.RowsFit := by
  unfold create at h
  dsimp only at h
  split at h
  · cases h; intro s; simp [slotRow]
  · cases h

/-- What the constructor leaves: the clamped size, no row constructed, the ring at slot `1`,
the given attributes and read-ahead, and an empty registry. -/
theorem fields_of_create {size : Size} {attr : TextAttribute} {cursorSize : Nat} {active : Bool}
    {readAhead : Nat} {seed : UInt64} (h : create size attr cursorSize active readAhead seed = some b) :
    b.width = (max size.width 1).toNat ∧ b.height = (max size.height 1).toNat ∧ b.rows = [] ∧
      b.firstRow = 0 ∧ b.initialAttributes = attr ∧ b.commitReadAheadRowCount = readAhead ∧
      b.hyperlinkMap = [] := by
  unfold create at h
  dsimp only at h
  split at h
  · cases h; exact ⟨rfl, rfl, rfl, rfl, rfl, rfl, rfl⟩
  · cases h

end TextBuffer

end TerminalBuffer
