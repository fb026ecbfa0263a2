/-
The screen a text buffer shows, and the ring that stores it.

`TextBuffer` keeps its rows in the slots of a ring: logical row `y` lives in slot
`(_firstRow + y) mod _height + 1`, a slot is committed the first time it is read, and
`IncrementCircularBuffer` scrolls by moving `_firstRow` instead of moving rows.  None of that
is meant to be seen.  What the operations are for is a screen: `_height` rows in order, the
cursor, and the current attributes.  `Screen` is that, with the rows as a plain list, and
its operations are the buffer's written over the list.  On the screen
`IncrementCircularBuffer` is what it says: the first row leaves at the top and comes back
reset at the bottom.

`TextBuffer.view` reads the screen off a buffer.  Every operation of the buffer does to its
view what the screen's operation does, so every run of operations without `Reflow`, from a
buffer whose ring offset is in range, shows what the same run on the screen shows and fails
exactly where it fails (`view_run`).  The ring offset, the commit watermark and the order in
which slots were committed are invisible through the rows.

`GetRowByOffset` takes any row number, and the screen repeats every `_height` rows, as
`_getRow`'s remainder makes it (`row_view`): a write to row `-1` lands on the last row.
-/
import TerminalBuffer.Links
import TerminalBuffer.ResizeWindow

namespace TerminalBuffer

/-- The screen a buffer shows: its rows top to bottom, the cursor and the current
attributes. -/
@[ext]
structure Screen where
  width : Nat
  height : Nat
  rows : List Row
  cursor : Point
  attributes : TextAttribute
  length_rows : rows.length = height
  height_pos : 0 < height

namespace Screen

variable (s : Screen)

/-- Logical row `y`; the row numbers repeat every `height` rows. -/
def row (y : Int) : Row := s.rows.getD (y % s.height).toNat (Row.blank s.width s.attributes)

/-- Row `y` replaced by `f` of it. -/
def modifyRow (y : Int) (f : Row → Row) : Screen :=
  { s with rows := s.rows.set (y % s.height).toNat (f (s.row y)),
           length_rows := by rw [List.length_set, s.length_rows] }

/-- `GetCursor().SetPosition(p)`. -/
def setCursorPosition (p : Point) : Screen := { s with cursor := p }

/-- `IncrementCircularBuffer(fillAttributes)`: the rows move up one and the first row comes
back, reset, at the bottom. -/
def incrementCircularBuffer (fillAttributes : TextAttribute) : Screen :=
  { s with rows := s.rows.tail ++ [(s.row 0).reset fillAttributes],
           length_rows := by
             have := s.height_pos
             simp only [List.length_append, List.length_tail, List.length_singleton,
               s.length_rows]
             omega }

/-- `GetLineWidth(row)`. -/
def getLineWidth (y : Int) : Int :=
  if (s.row y).lineRendition != .singleWidth then s.width / 2 else s.width

/-- `NewlineCursor()`. -/
def newlineCursor : Screen :=
  let iFinalRowIndex : Int := s.height - 1
  let s := s.setCursorPosition ⟨0, s.cursor.y + 1⟩
  if s.cursor.y > iFinalRowIndex then
    (s.setCursorPosition ⟨0, iFinalRowIndex⟩).incrementCircularBuffer {}
  else s

/-- `_SetWrapOnCurrentRow()`. -/
def setWrapOnCurrentRow : Screen := s.modifyRow s.cursor.y fun r => { r with wrapForced := true }

/-- `IncrementCursor()`. -/
def incrementCursor : Screen :=
  let iFinalColumnIndex := s.getLineWidth s.cursor.y - 1
  let s := s.setCursorPosition ⟨s.cursor.x + 1, s.cursor.y⟩
  if s.cursor.x > iFinalColumnIndex then s.setWrapOnCurrentRow.newlineCursor else s

/-- `_PrepareForDoubleByteSequence(dbcsAttribute)`. -/
def prepareForDoubleByteSequence (dbcsAttribute : DbcsAttribute) : Screen :=
  if dbcsAttribute = .leading then
    if s.cursor.x = s.getLineWidth s.cursor.y - 1 then
      (s.modifyRow s.cursor.y fun r => { r with doubleBytePadded := true }).incrementCursor
    else s
  else s

/-- `InsertCharacter(chars, dbcsAttribute, attr)`. -/
def insertCharacter (chars : List UInt16) (dbcsAttribute : DbcsAttribute) (attr : TextAttribute) :
    Screen :=
  let s := s.prepareForDoubleByteSequence dbcsAttribute
  (s.modifyRow s.cursor.y (TextBuffer.insertIntoRow chars dbcsAttribute attr s.cursor.x)).incrementCursor

/-- `SetCurrentLineRendition(lineRendition, fillAttributes)`. -/
def setCurrentLineRendition (lineRendition : LineRendition) (fillAttributes : TextAttribute) :
    Screen :=
  let cursorPosition := s.cursor
  let rowIndex := cursorPosition.y
  if (s.row rowIndex).lineRendition ≠ lineRendition then
    let s := s.modifyRow rowIndex fun r => { r with lineRendition, wrapForced := false }
    if lineRendition ≠ .singleWidth then
      let fillOffset := s.getLineWidth rowIndex
      let fillLength := (s.width : Int) - fillOffset
      let s := s.modifyRow rowIndex (·.writeSpaces fillOffset.toNat fillLength.toNat fillAttributes)
      s.setCursorPosition ⟨min cursorPosition.x (s.getLineWidth cursorPosition.y - 1), cursorPosition.y⟩
    else s
  else s

/-- One copy of `ScrollRows`. -/
def scrollRowStep (y delta : Int) : Screen := s.modifyRow (y + delta) (·.copyFrom (s.row y))

/-- The loop of `ScrollRows`. -/
def scrollLoop (delta step : Int) : Nat → Screen → Int → Screen
  | 0, s, _ => s
  | n + 1, s, y => scrollLoop delta step n (s.scrollRowStep y delta) (y + step)

/-- `ScrollRows(firstRow, size, delta)`. -/
def scrollRows (firstRow size delta : Int) : Screen :=
  if delta = 0 then s
  else
    let size := max 0 size
    if delta < 0 then scrollLoop delta 1 size.toNat s firstRow
    else scrollLoop delta (-1) size.toNat s (firstRow + size - 1)

/-- `Reset()`: every row blank in the current attributes. -/
def reset : Screen :=
  { s with rows := List.replicate s.height (Row.blank s.width s.attributes),
           length_rows := List.length_replicate _ _ }

/-- A screen of blank rows. -/
def blank (width height : Nat) (height_pos : 0 < height) (attributes : TextAttribute)
    (cursor : Point) : Screen :=
  ⟨width, height, List.replicate height (Row.blank width attributes), cursor, attributes,
    List.length_replicate _ _, height_pos⟩

/-- The copy loop of `ResizeTraditional`. -/
def resizeCopy (old : Screen) : Nat → Screen → Int → Int → Screen
  | 0, s, _, _ => s
  | n + 1, s, srcRow, dstRow =>
    resizeCopy old n (s.modifyRow dstRow (·.copyFrom (old.row srcRow))) (srcRow + 1) (dstRow + 1)

/-- `ResizeTraditional(newSize)`: the rows the copy loop moves into a blank screen of the new
size; `none` where the new buffer's constructor throws. -/
def resizeTraditional (newSize : Size) : Option Screen :=
  let w := max newSize.width 1
  let h := max newSize.height 1
  if hw : w ≤ 65535 ∧ h ≤ 65535 then
    let ns := blank w.toNat h.toNat (by omega) s.attributes ⟨0, 0⟩
    let copyableRows := min (s.height : Int) ns.height
    let srcRow := if s.cursor.y ≥ ns.height then s.cursor.y - ns.height + 1 else 0
    some { resizeCopy s copyableRows.toNat ns srcRow 0 with cursor := s.cursor }
  else none

/-- `TextBuffer::Write(row, attributes, state)`: row `row` written, on a screen whose rows are
as wide as the screen. -/
def write (isGlyphFullWidth : List UInt16 → Bool) (row : Int) (attributes : TextAttribute)
    (state : RowWriteState) : Screen :=
  let after := state.replaceText isGlyphFullWidth s.width
  s.modifyRow row fun r => (Row.replaceText isGlyphFullWidth state r).replaceAttributes
    after.columnBegin.toNat after.columnEnd.toNat attributes

/-- Rows `top` to `top + n - 1`, each replaced by `f` of it. -/
def modifyRows (f : Row → Row) : Screen → Int → Nat → Screen
  | s, _, 0 => s
  | s, top, n + 1 => modifyRows f (s.modifyRow top f) (top + 1) n

/-- `FillRect(rect, fill, attributes)`: the scratchpad is a blank row as wide as the screen,
and no row of the screen. -/
def fillRect (isGlyphFullWidth : List UInt16 → Bool) (rect : Rect) (fill : List UInt16)
    (attributes : TextAttribute) : Option Screen :=
  if rect.isEmpty || fill.isEmpty then some s
  else
    let scratchpad := if fill != [0x20] then
        fillScratchpad isGlyphFullWidth fill rect.right (rect.right - rect.left).toNat
          (Row.blank s.width attributes) rect.left
      else some (Row.blank s.width attributes)
    scratchpad.map fun scratchpad =>
      s.modifyRows (TextBuffer.fillRow scratchpad rect attributes) rect.top
        (rect.bottom - rect.top).toNat

/-- What an operation other than `Reflow` does to the screen; the registry and the marks are
not on it. -/
def apply : TextBuffer.Op → Option Screen
  | .getRowByOffset _ => some s
  | .setCursorPosition p => some (s.setCursorPosition p)
  | .incrementCircularBuffer fill => some (s.incrementCircularBuffer fill)
  | .newlineCursor => some s.newlineCursor
  | .incrementCursor => some s.incrementCursor
  | .insertCharacter chars d attr => some (s.insertCharacter chars d attr)
  | .setCurrentLineRendition lr fill => some (s.setCurrentLineRendition lr fill)
  | .scrollRows firstRow size delta => some (s.scrollRows firstRow size delta)
  | .resizeTraditional newSize => s.resizeTraditional newSize
  | .reset => some s.reset
  | .reflow .. => none
  | .addHyperlinkToMap .. | .getHyperlinkId .. | .scrollMarks _ | .clearMarksInRange .. | .clearAllMarks
  | .startPromptMark _ | .addMark _ | .setCurrentPromptEnd _ | .setCurrentCommandEnd _
  | .setCurrentOutputEnd .. => some s
  | .fillRect g rect fill attributes => s.fillRect g rect fill attributes
  | .write g row attributes state => some (s.write g row attributes state)

/-- A run of operations on the screen. -/
def run : Screen → List TextBuffer.Op → Option Screen
  | s, [] => some s
  | s, op :: ops => (s.apply op).bind fun s' => run s' ops

end Screen

namespace TextBuffer

/-- Whether an operation is `Reflow`. -/
def Op.isReflow : Op → Bool
  | .reflow .. => true
  | _ => false

/-- A run of operations on the buffer. -/
def Op.run : TextBuffer → List Op → Option TextBuffer
  | b, [] => some b
  | b, op :: ops => (op.apply b).bind fun b' => Op.run b' ops

/-- The screen a buffer shows. -/
def view (b : TextBuffer) : Screen where
  width := b.width
  height := b.height
  rows := (List.range b.height).map fun i : Nat => b.getRowByOffset (i : Int)
  cursor := b.cursor.position
  attributes := b.currentAttributes
  length_rows := by rw [List.length_map, List.length_range]
  height_pos := b.height_pos

/-! ### Slots and row numbers -/

variable (b : TextBuffer)

/-- Two row numbers reach one slot exactly when they agree modulo the height, whatever
`_firstRow` is. -/
theorem rowOffset_eq_rowOffset_iff (y y' : Int) :
    b.rowOffset y = b.rowOffset y' ↔ y % b.height = y' % b.height := by
  have hh : (0 : Int) < b.height := by have := b.height_pos; omega
  rw [rowOffset_eq, rowOffset_eq]
  constructor
  · intro h
    have := Int.emod_nonneg (b.firstRow + y) (Int.ne_of_gt hh)
    have := Int.emod_nonneg (b.firstRow + y') (Int.ne_of_gt hh)
    exact Int.ModEq.add_left_cancel' b.firstRow (show (b.firstRow + y) % b.height = _ by omega)
  · intro h
    exact congrArg (fun t : Int => t.toNat + 1) (Int.ModEq.add_left b.firstRow h)

theorem getRowByOffset_emod (y : Int) : b.getRowByOffset (y % b.height) = b.getRowByOffset y :=
  congrArg b.slotRow ((b.rowOffset_eq_rowOffset_iff _ _).2 (Int.emod_emod _ _))

/-- **What a row number reads is the screen's row**, for every row number. -/
theorem row_view (y : Int) : b.view.row y = b.getRowByOffset y := by
  have hh : (0 : Int) < b.height := by have := b.height_pos; omega
  have h0 := Int.emod_nonneg y (Int.ne_of_gt hh)
  have hlt := Int.emod_lt_of_pos y hh
  simp only [Screen.row, view, List.getD_eq_getElem?_getD,
    List.getElem?_map, List.getElem?_range (show (y % b.height).toNat < b.height by omega),
    Option.map_some', Option.getD_some, Int.toNat_of_nonneg h0, getRowByOffset_emod]

@[simp] theorem width_view : b.view.width = b.width := rfl

@[simp] theorem height_view : b.view.height = b.height := rfl

@[simp] theorem cursor_view : b.view.cursor = b.cursor.position := rfl

@[simp] theorem attributes_view : b.view.attributes = b.currentAttributes := rfl

theorem getLineWidth_view (y : Int) : b.view.getLineWidth y = b.getLineWidth y := by
  simp only [Screen.getLineWidth, getLineWidth, isDoubleWidthLine, row_view]
  rfl

end TextBuffer

namespace Screen

variable (s : Screen)

/-! ### The screen's rows -/

/-- Screens that agree on their size, cursor, attributes and rows are equal. -/
theorem ext_row {t : Screen} (hw : s.width = t.width) (hh : s.height = t.height)
    (hc : s.cursor = t.cursor) (ha : s.attributes = t.attributes)
    (hr : ∀ i : Nat, i < s.height → s.row i = t.row i) : s = t := by
  have hget : ∀ (u : Screen) (i : Nat), i < u.height → u.row i = u.rows.getD i (Row.blank u.width u.attributes) :=
    fun u i hi => by
      simp only [row, Int.emod_eq_of_lt (Int.ofNat_nonneg i) (by omega : (i : Int) < u.height),
        Int.toNat_natCast]
  refine Screen.ext hw hh (List.ext_getElem (by rw [s.length_rows, t.length_rows, hh]) fun i h1 h2 => ?_) hc ha
  have := hr i (s.length_rows ▸ h1)
  rw [hget s i (s.length_rows ▸ h1), hget t i (hh ▸ s.length_rows ▸ h1),
    List.getD_eq_getElem _ _ h1, List.getD_eq_getElem _ _ h2] at this
  exact this

theorem row_modifyRow (y : Int) (f : Row → Row) (i : Int) :
    (s.modifyRow y f).row i = if i % s.height = y % s.height then f (s.row y) else s.row i := by
  have hh : (0 : Int) < s.height := by have := s.height_pos; omega
  have := Int.emod_nonneg i (Int.ne_of_gt hh)
  have := Int.emod_nonneg y (Int.ne_of_gt hh)
  have := Int.emod_lt_of_pos y hh
  simp only [row, modifyRow, List.getD_eq_getElem?_getD]
  split_ifs with hiy
  · rw [hiy, List.getElem?_set_self (by rw [s.length_rows]; omega), Option.getD_some]
  · rw [List.getElem?_set_ne (by omega)]

theorem row_incrementCircularBuffer (fill : TextAttribute) (i : Int) :
    (s.incrementCircularBuffer fill).row i =
      if (i + 1) % s.height = 0 then (s.row 0).reset fill else s.row (i + 1) := by
  have hh : (0 : Int) < s.height := by have := s.height_pos; omega
  obtain ⟨k, hk⟩ : ∃ k : Nat, i % s.height = k :=
    ⟨(i % s.height).toNat, by have := Int.emod_nonneg i (Int.ne_of_gt hh); omega⟩
  have hkh : k < s.height := by have := Int.emod_lt_of_pos i hh; omega
  have hl : s.rows.tail.length = s.height - 1 := by rw [List.length_tail, s.length_rows]
  have hs : (i + 1) % s.height = (k + 1 : Int) % s.height := by rw [← Int.emod_add_emod, hk]
  simp only [row, incrementCircularBuffer, hk, List.getD_eq_getElem?_getD, Int.toNat_natCast]
  by_cases h : k + 1 = s.height
  · rw [hs, show (k : Int) + 1 = s.height by omega, Int.emod_self, if_pos rfl,
      List.getElem?_append_right (show s.rows.tail.length ≤ k by omega)]
    simp [hl, show k - (s.height - 1) = 0 by omega]
  · have hk1 : ((k : Int) + 1) % s.height = ((k + 1 : Nat) : Int) :=
      Int.emod_eq_of_lt (by omega) (by omega)
    rw [hs, hk1, if_neg (by omega), Int.toNat_natCast,
      List.getElem?_append_left (show k < s.rows.tail.length by omega), List.getElem?_tail]

end Screen

namespace TextBuffer

/-! ### One operation at a time -/

variable (b : TextBuffer)

/-- A buffer shows a screen when it has the screen's size, cursor and attributes and reads
each of its rows. -/
theorem view_eq_of_rows {s : Screen} (hw : b.width = s.width) (hh : b.height = s.height)
    (hc : b.cursor.position = s.cursor) (ha : b.currentAttributes = s.attributes)
    (hr : ∀ i : Nat, i < b.height → b.getRowByOffset i = s.row i) : b.view = s :=
  b.view.ext_row hw hh hc ha fun i hi => (b.row_view i).trans (hr i hi)

@[simp] theorem view_touch (y : Int) : (b.touch y).view = b.view :=
  (b.touch y).view_eq_of_rows rfl rfl rfl rfl fun i _ => by rw [getRowByOffset_touch, row_view]

@[simp] theorem view_getMutableRowByOffset (y : Int) : (b.getMutableRowByOffset y).view = b.view :=
  view_eq_of_rows _ rfl rfl rfl rfl fun i _ => by
    rw [getRowByOffset_getMutableRowByOffset, row_view]

@[simp] theorem view_pruneHyperlinks : b.pruneHyperlinks.view = b.view :=
  have hf := b.frame_pruneHyperlinks
  view_eq_of_rows _ hf.width hf.height (congrArg Cursor.position hf.cursor) hf.currentAttributes
    fun i _ => by rw [getRowByOffset, hf.rowOffset, slotRow_pruneHyperlinks, row_view]; rfl

theorem view_setCursorPosition (p : Point) :
    (b.setCursorPosition p).view = b.view.setCursorPosition p := rfl

theorem view_updateRow (y : Int) (f : Row → Row) :
    (b.updateRow y f).view = b.view.modifyRow y f :=
  view_eq_of_rows _ rfl rfl rfl rfl fun i _ => by
    simp only [getRowByOffset_updateRow, Screen.row_modifyRow, rowOffset_eq_rowOffset_iff,
      row_view, height_view]

theorem view_modifyRow (y : Int) (f : Row → Row) :
    (b.modifyRow y f).view = b.view.modifyRow y f := by
  rw [modifyRow, view_updateRow, view_getMutableRowByOffset]

theorem view_write (isGlyphFullWidth : List UInt16 → Bool) (row : Int) (attributes : TextAttribute)
    (state : RowWriteState) :
    (b.write isGlyphFullWidth row attributes state).1.view =
      b.view.write isGlyphFullWidth row attributes state :=
  view_modifyRow _ _ _

theorem view_modifyRows (f : Row → Row) :
    ∀ (b : TextBuffer) (top : Int) (n : Nat), (b.modifyRows f top n).view = b.view.modifyRows f top n
  | _, _, 0 => rfl
  | b, top, n + 1 => by
    rw [modifyRows, Screen.modifyRows, view_modifyRows f _ _ n, view_modifyRow]

/-- The scratchpad is slot `0`, which no row number reaches: writing it is not on the screen. -/
theorem view_set_zero (attributes : TextAttribute) (x : Row) :
    ({ b.getScratchpadRow attributes with
      rows := (b.getScratchpadRow attributes).rows.set 0 x } : TextBuffer).view = b.view :=
  view_eq_of_rows _ rfl rfl rfl rfl fun i _ => by
    rw [getRowByOffset_set_zero, getRowByOffset_getScratchpadRow, row_view]

/-- **`FillRect` on the ring is `FillRect` on the screen**: the scratchpad is a blank row of
the width wherever the rows are as wide as the buffer, and the rectangle's rows are the
screen's. -/
theorem view_fillRect {b : TextBuffer} (h : b.RowsFit) (isGlyphFullWidth : List UInt16 → Bool)
    (rect : Rect) (fill : List UInt16) (attributes : TextAttribute) :
    (b.fillRect isGlyphFullWidth rect fill attributes).map view =
      b.view.fillRect isGlyphFullWidth rect fill attributes := by
  unfold fillRect Screen.fillRect
  by_cases hc : (rect.isEmpty || fill.isEmpty) = true
  · rw [if_pos hc, if_pos hc]; rfl
  · rw [if_neg hc, if_neg hc]
    dsimp only
    rw [slotRow_getScratchpadRow_of_rowsFit h, Option.map_map]
    congr 1
    funext sp
    rw [Function.comp_apply, view_modifyRows, view_set_zero]

/-- **The ring's rotation is the screen's.**  Moving `_firstRow` on by one shows the rows
moved up by one, with the old first row reset at the bottom. -/
theorem view_incrementCircularBuffer {b : TextBuffer} (h : b.Inv) (fill : TextAttribute) :
    (b.incrementCircularBuffer fill).view = b.view.incrementCircularBuffer fill := by
  have ha : (b.incrementCircularBuffer fill).currentAttributes = b.currentAttributes := by
    show (b.pruneHyperlinks.modifyRow 0 (·.reset fill)).currentAttributes = _
    rw [currentAttributes_modifyRow]
    exact b.frame_pruneHyperlinks.currentAttributes
  refine view_eq_of_rows _ (width_incrementCircularBuffer _ _) (height_incrementCircularBuffer _ _)
    (by rw [cursor_incrementCircularBuffer]; rfl) ha fun i _ => ?_
  simp only [h.getRowByOffset_incrementCircularBuffer, Screen.row_incrementCircularBuffer,
    rowOffset_eq_rowOffset_iff, Int.zero_emod, row_view, height_view]

variable {b}

theorem view_newlineCursor (h : b.Inv) : b.newlineCursor.view = b.view.newlineCursor := by
  unfold newlineCursor Screen.newlineCursor
  dsimp only
  split_ifs with h1 h2 h2
  · rw [view_incrementCircularBuffer ((h.setCursorPosition _).setCursorPosition _)]; rfl
  · exact absurd h1 h2
  · exact absurd h2 h1
  · rfl

theorem view_setWrapOnCurrentRow : b.setWrapOnCurrentRow.view = b.view.setWrapOnCurrentRow :=
  view_modifyRow _ _ _

theorem view_incrementCursor (h : b.Inv) : b.incrementCursor.view = b.view.incrementCursor := by
  have h1 := (h.touch b.cursor.position.y).setCursorPosition
    ⟨b.cursor.position.x + 1, b.cursor.position.y⟩
  unfold incrementCursor Screen.incrementCursor
  simp only [getLineWidth_view, cursor_view]
  split_ifs with h2 h3 h3
  · rw [view_newlineCursor h1.setWrapOnCurrentRow, view_setWrapOnCurrentRow,
      view_setCursorPosition, view_touch]
  · exact absurd h2 h3
  · exact absurd h3 h2
  · rw [view_setCursorPosition, view_touch]

theorem view_prepareForDoubleByteSequence (h : b.Inv) (d : DbcsAttribute) :
    (b.prepareForDoubleByteSequence d).view = b.view.prepareForDoubleByteSequence d := by
  unfold prepareForDoubleByteSequence Screen.prepareForDoubleByteSequence
  simp only [getLineWidth_view, cursor_view]
  split_ifs
  · rw [view_incrementCursor ((h.touch _).modifyRow _ _ rfl), view_modifyRow, view_touch]
  · exact view_touch _ _
  · rfl

theorem view_insertCharacter (h : b.Inv) (chars : List UInt16) (d : DbcsAttribute)
    (attr : TextAttribute) :
    (b.insertCharacter chars d attr).view = b.view.insertCharacter chars d attr := by
  have e := view_prepareForDoubleByteSequence h d
  have h1 := h.prepareForDoubleByteSequence d
  unfold insertCharacter Screen.insertCharacter
  generalize b.prepareForDoubleByteSequence d = b1 at e h1 ⊢
  rw [← e, view_incrementCursor (h1.modifyRow _ _ (cells_length_insertIntoRow ..)), view_modifyRow]
  rfl

theorem view_setCurrentLineRendition (lr : LineRendition) (fill : TextAttribute) :
    (b.setCurrentLineRendition lr fill).view = b.view.setCurrentLineRendition lr fill := by
  unfold setCurrentLineRendition Screen.setCurrentLineRendition clampPositionWithinLine
  simp only [getRowByOffset_getMutableRowByOffset]
  simp only [← row_view, cursor_view]
  split_ifs
  · simp only [← getLineWidth_view, view_updateRow, view_getMutableRowByOffset,
      view_setCursorPosition, width_updateRow, width_getMutableRowByOffset]
    rfl
  · rw [view_updateRow, view_getMutableRowByOffset]
  · exact view_getMutableRowByOffset _ _

theorem view_scrollRowStep (y delta : Int) :
    (b.scrollRowStep y delta).view = b.view.scrollRowStep y delta := by
  rw [scrollRowStep, view_updateRow, view_touch, view_getMutableRowByOffset, getRowByOffset_touch,
    getRowByOffset_getMutableRowByOffset, ← row_view]
  rfl

theorem view_scrollLoop (delta step : Int) (n : Nat) :
    ∀ (b : TextBuffer) (y : Int),
      (scrollLoop delta step n b y).view = Screen.scrollLoop delta step n b.view y := by
  induction n with
  | zero => intro b y; rfl
  | succ n ih => intro b y; rw [scrollLoop, Screen.scrollLoop, ih, view_scrollRowStep]

theorem view_scrollRows (firstRow size delta : Int) :
    (b.scrollRows firstRow size delta).view = b.view.scrollRows firstRow size delta := by
  unfold scrollRows Screen.scrollRows
  split_ifs <;> simp only [view_scrollLoop]

theorem view_reset : b.reset.view = b.view.reset :=
  view_eq_of_rows _ rfl rfl rfl rfl fun i _ => by
    simp [getRowByOffset_reset, Screen.row, Screen.reset]

/-! ### `ResizeTraditional` -/

theorem firstRow_resizeCopy (old : TextBuffer) (n : Nat) :
    ∀ (nb : TextBuffer) (srcRow dstRow : Int),
      (resizeCopy old n nb srcRow dstRow).firstRow = nb.firstRow ∧
        (resizeCopy old n nb srcRow dstRow).currentAttributes = nb.currentAttributes := by
  induction n with
  | zero => exact fun _ _ _ => ⟨rfl, rfl⟩
  | succ n ih => exact fun nb _ _ => ih _ _ _

theorem view_resizeCopy (old : TextBuffer) (n : Nat) :
    ∀ (nb : TextBuffer) (srcRow dstRow : Int),
      (resizeCopy old n nb srcRow dstRow).view = Screen.resizeCopy old.view n nb.view srcRow dstRow := by
  induction n with
  | zero => exact fun _ _ _ => rfl
  | succ n ih =>
    intro nb srcRow dstRow
    rw [resizeCopy, Screen.resizeCopy, ih, view_modifyRow, row_view]

/-- A buffer with no row constructed shows blank rows. -/
theorem view_of_rows_nil (hr : b.rows = []) (ha : b.initialAttributes = b.currentAttributes) :
    b.view = Screen.blank b.width b.height b.height_pos b.currentAttributes b.cursor.position :=
  view_eq_of_rows _ rfl rfl rfl rfl fun i _ => by
    simp [getRowByOffset, slotRow, hr, ha, Screen.row, Screen.blank]

/-- The buffer `ResizeTraditional` leaves shows the copy's rows under the old cursor. -/
theorem view_resized (nb : TextBuffer) (h0 : nb.firstRow = 0)
    (ha : nb.currentAttributes = b.currentAttributes) :
    ({ b with width := nb.width, height := nb.height, width_pos := nb.width_pos,
              height_pos := nb.height_pos, rows := nb.rows,
              initialAttributes := nb.initialAttributes, firstRow := 0 } : TextBuffer).view =
      { nb.view with cursor := b.cursor.position } :=
  view_eq_of_rows _ rfl rfl rfl ha.symm fun i _ => by
    show _ = nb.view.row i
    rw [row_view]
    simp only [getRowByOffset, slotRow, rowOffset_eq, h0]

theorem view_resizeTraditional (newSize : Size) :
    (b.resizeTraditional newSize).map view = b.view.resizeTraditional newSize := by
  unfold resizeTraditional Screen.resizeTraditional create
  dsimp only
  by_cases hw : max newSize.width 1 ≤ 65535 ∧ max newSize.height 1 ≤ 65535
  · rw [dif_pos hw, dif_pos hw, Option.map_some']
    refine congrArg some ((view_resized (b := b) _ ?_ ?_).trans ?_)
    · exact (firstRow_resizeCopy ..).1
    · exact (firstRow_resizeCopy ..).2
    · simp only [view_resizeCopy, view_of_rows_nil]
      rfl
  · rw [dif_neg hw, dif_neg hw]; rfl

/-! ### The registry and the marks are not on the screen -/

theorem view_getHyperlinkId (hash : String → UInt64) (uri id : String) :
    (b.getHyperlinkId hash uri id).1.view = b.view := by
  unfold getHyperlinkId
  dsimp only
  split <;> split <;> first | rfl | (split <;> rfl)

theorem view_modifyCurrentMark (f : ScrollMark → ScrollMark) :
    (b.modifyCurrentMark f).view = b.view := by
  unfold modifyCurrentMark; split <;> rfl

/-! ### Whole runs -/

/-- **Every operation but `Reflow` does to the screen what the screen's operation does**, and
fails exactly when that fails. -/
theorem view_apply (h : b.Inv) (op : Op) (hr : op.isReflow = false) :
    (op.apply b).map view = b.view.apply op := by
  cases op with
  | reflow => cases hr
  | resizeTraditional newSize => exact b.view_resizeTraditional newSize
  | getRowByOffset y => exact congrArg some (b.view_touch y)
  | incrementCircularBuffer fill => exact congrArg some (view_incrementCircularBuffer h fill)
  | newlineCursor => exact congrArg some (view_newlineCursor h)
  | incrementCursor => exact congrArg some (view_incrementCursor h)
  | insertCharacter chars d attr => exact congrArg some (view_insertCharacter h chars d attr)
  | setCurrentLineRendition lr fill => exact congrArg some (view_setCurrentLineRendition lr fill)
  | scrollRows firstRow size delta => exact congrArg some (view_scrollRows firstRow size delta)
  | reset => exact congrArg some view_reset
  | getHyperlinkId hash uri id => exact congrArg some (view_getHyperlinkId hash uri id)
  | setCurrentPromptEnd | setCurrentCommandEnd | setCurrentOutputEnd =>
    exact congrArg some (view_modifyCurrentMark _)
  | fillRect g rect fill attributes => exact view_fillRect h.rowsFit g rect fill attributes
  | write g row attributes state => exact congrArg some (b.view_write g row attributes state)
  | setCursorPosition | addHyperlinkToMap | scrollMarks | clearMarksInRange | clearAllMarks
  | startPromptMark | addMark => rfl

/-- **The ring refines the screen.**  From every buffer whose ring offset lies in
`[0, _height)` and whose rows are as wide as the buffer, every run of operations without
`Reflow` shows the screen the same run shows on the list of rows, and throws exactly where
that throws. -/
theorem view_run (h : b.Inv) {ops : List Op} (hr : ∀ op ∈ ops, op.isReflow = false) :
    (Op.run b ops).map view = b.view.run ops := by
  induction ops generalizing b with
  | nil => rfl
  | cons op ops ih =>
    have hop := view_apply h op (hr op (List.mem_cons_self _ _))
    rw [Op.run, Screen.run, ← hop]
    cases hb : op.apply b with
    | none => rfl
    | some b' => exact ih (h.apply op hb) fun o ho => hr o (List.mem_cons_of_mem _ ho)

/-- Two letters on a two-by-two buffer, two newlines past its bottom, a scroll up and a
shrink to one row. -/
def scrolledWrites : List Op :=
  [.insertCharacter [0x61] .single {}, .insertCharacter [0x62] .single {}, .newlineCursor,
    .newlineCursor, .scrollRows 0 2 (-1), .resizeTraditional ⟨3, 1⟩]

theorem view_run_scrolledWrites :
    ((create ⟨2, 2⟩ {} 1 false 0 0).get (by decide)).Inv ∧
      (∀ op ∈ scrolledWrites, op.isReflow = false) ∧
      (Op.run ((create ⟨2, 2⟩ {} 1 false 0 0).get (by decide)) scrolledWrites).map view =
        ((create ⟨2, 2⟩ {} 1 false 0 0).get (by decide)).view.run scrolledWrites :=
  have h := inv_create (Option.some_get (x := create ⟨2, 2⟩ {} 1 false 0 0) (by decide)).symm
  ⟨h, by decide, view_run h (by decide)⟩

end TextBuffer

end TerminalBuffer
