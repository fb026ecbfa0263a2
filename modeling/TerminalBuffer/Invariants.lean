/-
What every reachable buffer keeps.

A buffer is reachable when the constructor made it and the public operations the model
covers took it from there, `Reflow` included as the copy into a buffer fresh from the
constructor that replaces the old one.  Two facts hold of every such buffer (`Inv`):
`_firstRow` lies in `[0, _height)`, and every slot reads as a row exactly as wide as the
buffer.  The first is what keeps `_getRow` on the ring; the second is what `Reflow` needs
of the buffer it writes into, and so is carried along with it.

`IncrementCircularBuffer` is the only operation that moves `_firstRow` by one, and it
moves the map from logical rows to slots by one with it (`rowOffset_incrementCircularBuffer`).
`ResizeTraditional` sets it back to `0`, and `Reflow` sets it in closed form; everything
else leaves it alone.
-/
import TerminalBuffer.Marks
import TerminalBuffer.Fill

namespace TerminalBuffer

namespace TextBuffer

/-- What every reachable buffer keeps. -/
structure Inv (b : TextBuffer) : Prop where
  firstRow_nonneg : 0 ≤ b.firstRow
  firstRow_lt : b.firstRow < b.height
  rowsFit : b.RowsFit

variable {b : TextBuffer}

/-! ### Steps that keep the ring where it is -/

theorem Inv.of_sameGeometry {b' : TextBuffer} (h : b.Inv) (g : b.SameGeometry b')
    (f : b'.RowsFit) : b'.Inv :=
  ⟨g.firstRow ▸ h.1, g.firstRow ▸ g.height ▸ h.2, f⟩

theorem Inv.touch (h : b.Inv) (y : Int) : (b.touch y).Inv :=
  h.of_sameGeometry (b.frame_touch y).sameGeometry (h.rowsFit.touch y)

theorem Inv.getMutableRowByOffset (h : b.Inv) (y : Int) : (b.getMutableRowByOffset y).Inv :=
  h.of_sameGeometry (b.sameGeometry_getMutableRowByOffset y) (h.rowsFit.getMutableRowByOffset y)

theorem Inv.updateRow (h : b.Inv) (y : Int) (f : Row → Row)
    (hf : (f (b.getRowByOffset y)).cells.length = (b.getRowByOffset y).cells.length) :
    (b.updateRow y f).Inv :=
  h.of_sameGeometry (b.frame_updateRow y f).sameGeometry (h.rowsFit.updateRow (hf.trans (h.rowsFit _)))

theorem Inv.modifyRow (h : b.Inv) (y : Int) (f : Row → Row)
    (hf : (f (b.getRowByOffset y)).cells.length = (b.getRowByOffset y).cells.length) :
    (b.modifyRow y f).Inv :=
  (h.getMutableRowByOffset y).updateRow y f (by simpa using hf)

theorem Inv.setCursorPosition (h : b.Inv) (p : Point) : (b.setCursorPosition p).Inv :=
  ⟨h.1, h.2, h.3⟩

theorem Inv.pruneHyperlinks (h : b.Inv) : b.pruneHyperlinks.Inv :=
  h.of_sameGeometry b.frame_pruneHyperlinks.sameGeometry fun s => by
    rw [slotRow_pruneHyperlinks, b.frame_pruneHyperlinks.width]; exact h.rowsFit s

/-! ### The rotation -/

theorem firstRow_incrementCircularBuffer (fill : TextAttribute) :
    (b.incrementCircularBuffer fill).firstRow =
      if b.firstRow + 1 ≥ b.height then 0 else b.firstRow + 1 := by
  show (if (b.pruneHyperlinks.modifyRow 0 (·.reset fill)).firstRow + 1 ≥
      (b.pruneHyperlinks.modifyRow 0 (·.reset fill)).height then 0
    else (b.pruneHyperlinks.modifyRow 0 (·.reset fill)).firstRow + 1) = _
  rw [firstRow_modifyRow, height_modifyRow, b.frame_pruneHyperlinks.firstRow,
    b.frame_pruneHyperlinks.height]

theorem Inv.incrementCircularBuffer (h : b.Inv) (fill : TextAttribute) :
    (b.incrementCircularBuffer fill).Inv := by
  have h2 := h.pruneHyperlinks.modifyRow 0 (·.reset fill) (Row.reset_cells_length _ _)
  have hf := b.firstRow_incrementCircularBuffer fill
  have := h.firstRow_nonneg
  have := b.height_pos
  refine ⟨?_, ?_, h2.rowsFit⟩
  · rw [hf]; split <;> omega
  · rw [hf, height_incrementCircularBuffer]; split <;> omega

/-- **One rotation shifts the map from logical rows to slots by one.** -/
theorem rowOffset_incrementCircularBuffer (h : b.Inv) (fill : TextAttribute) (y : Int) :
    (b.incrementCircularBuffer fill).rowOffset y = b.rowOffset (y + 1) := by
  have := h.firstRow_lt
  rw [rowOffset_eq, rowOffset_eq, firstRow_incrementCircularBuffer, height_incrementCircularBuffer]
  split
  · rw [show b.firstRow + (y + 1) = 0 + y + 1 * b.height by omega, Int.add_mul_emod_self]
  · rw [Int.add_assoc, Int.add_comm y 1, ← Int.add_assoc]

/-- After `k` rotations logical row `y` is the slot that was logical row `y + k`, for every
`y`, negative or not. -/
theorem rowOffset_rotations (fills : List TextAttribute) :
    ∀ b : TextBuffer, b.Inv → ∀ y : Int,
      (fills.foldl incrementCircularBuffer b).rowOffset y = b.rowOffset (y + fills.length) := by
  induction fills with
  | nil => intro b _ y; simp
  | cons fill fills ih =>
    intro b h y
    rw [List.foldl_cons, ih _ (h.incrementCircularBuffer fill), rowOffset_incrementCircularBuffer h,
      List.length_cons]
    congr 1
    omega

/-! ### The cursor operations -/

theorem Inv.newlineCursor (h : b.Inv) : b.newlineCursor.Inv := by
  unfold TextBuffer.newlineCursor
  dsimp only
  split
  · exact ((h.setCursorPosition _).setCursorPosition _).incrementCircularBuffer _
  · exact h.setCursorPosition _

theorem Inv.setWrapOnCurrentRow (h : b.Inv) : b.setWrapOnCurrentRow.Inv :=
  h.modifyRow _ _ rfl

theorem Inv.incrementCursor (h : b.Inv) : b.incrementCursor.Inv := by
  have h1 := (h.touch b.cursor.position.y).setCursorPosition
    ⟨b.cursor.position.x + 1, b.cursor.position.y⟩
  unfold TextBuffer.incrementCursor
  dsimp only
  split
  · exact h1.setWrapOnCurrentRow.newlineCursor
  · exact h1

theorem Inv.prepareForDoubleByteSequence (h : b.Inv) (d : DbcsAttribute) :
    (b.prepareForDoubleByteSequence d).Inv := by
  unfold TextBuffer.prepareForDoubleByteSequence
  split
  · dsimp only
    split
    · exact ((h.touch _).modifyRow _ _ rfl).incrementCursor
    · exact h.touch _
  · exact h

theorem cells_length_insertIntoRow (chars : List UInt16) (d : DbcsAttribute) (attr : TextAttribute)
    (iCol : Int) (row : Row) : (insertIntoRow chars d attr iCol row).cells.length = row.cells.length := by
  unfold insertIntoRow
  cases d <;> simp

theorem Inv.insertCharacter (h : b.Inv) (chars : List UInt16) (d : DbcsAttribute)
    (attr : TextAttribute) : (b.insertCharacter chars d attr).Inv := by
  have h1 := h.prepareForDoubleByteSequence d
  unfold TextBuffer.insertCharacter
  exact (h1.modifyRow _ _ (cells_length_insertIntoRow ..)).incrementCursor

theorem Inv.setCurrentLineRendition (h : b.Inv) (lr : LineRendition) (fill : TextAttribute) :
    (b.setCurrentLineRendition lr fill).Inv := by
  have h1 := h.getMutableRowByOffset b.cursor.position.y
  unfold TextBuffer.setCurrentLineRendition
  dsimp only
  split
  · have h2 := h1.updateRow b.cursor.position.y
      (fun r => { r with lineRendition := lr, wrapForced := false }) rfl
    split
    · apply Inv.setCursorPosition
      apply h2.updateRow
      exact Row.cells_length_writeSpaces _ _ _ _
    · exact h2
  · exact h1

/-! ### Whole-buffer operations -/

theorem Inv.reset (h : b.Inv) : b.reset.Inv :=
  ⟨h.1, h.2, fun s => by simp [slotRow, TextBuffer.reset]⟩

theorem inv_create {size : Size} {attr : TextAttribute} {cursorSize : Nat} {active : Bool}
    {readAhead : Nat} {seed : UInt64} (h : create size attr cursorSize active readAhead seed = some b) :
    b.Inv := by
  have hf := rowsFit_create b h
  unfold create at h
  dsimp only at h
  split at h
  · cases h
    exact ⟨Int.le_refl 0, by simp only [Int.ofNat_pos]; omega, hf⟩
  · cases h

theorem Inv.resizeCopy (old : TextBuffer) (n : Nat) :
    ∀ nb : TextBuffer, nb.Inv → ∀ srcRow dstRow, (resizeCopy old n nb srcRow dstRow).Inv := by
  induction n with
  | zero => exact fun _ h _ _ => h
  | succ n ih =>
    intro nb h srcRow dstRow
    rw [TextBuffer.resizeCopy]
    exact ih _ (h.modifyRow dstRow (·.copyFrom (old.getRowByOffset srcRow))
      (Row.cells_length_copyFrom _ _)) _ _

theorem inv_resizeTraditional (newSize : Size) {b' : TextBuffer}
    (hb : b.resizeTraditional newSize = some b') : b'.Inv := by
  simp only [TextBuffer.resizeTraditional, Option.map_eq_some'] at hb
  obtain ⟨nb, hnb, rfl⟩ := hb
  have h := (inv_create hnb).resizeCopy b (min (b.height : Int) nb.height).toNat nb
    (if b.cursor.position.y ≥ nb.height then b.cursor.position.y - nb.height + 1 else 0) 0
  generalize resizeCopy b _ nb _ 0 = nb' at h ⊢
  exact ⟨Int.le_refl 0, by have := nb'.height_pos; simp only [Int.ofNat_pos]; omega,
    fun s => h.rowsFit s⟩

theorem Inv.scrollRowStep (h : b.Inv) (y delta : Int) : (b.scrollRowStep y delta).Inv := by
  have h1 := (h.getMutableRowByOffset (y + delta)).touch y
  unfold TextBuffer.scrollRowStep
  generalize (b.getMutableRowByOffset (y + delta)).touch y = b' at h1 ⊢
  exact h1.updateRow (y + delta) (·.copyFrom (b'.getRowByOffset y)) (Row.cells_length_copyFrom _ _)

theorem Inv.scrollLoop (delta step : Int) (n : Nat) :
    ∀ b : TextBuffer, b.Inv → ∀ y, (scrollLoop delta step n b y).Inv := by
  induction n with
  | zero => exact fun _ h _ => h
  | succ n ih => exact fun b h y => ih _ (h.scrollRowStep y delta) _

theorem Inv.scrollRows (h : b.Inv) (firstRow size delta : Int) :
    (b.scrollRows firstRow size delta).Inv := by
  unfold TextBuffer.scrollRows
  split
  · exact h
  · dsimp only
    split
    · exact Inv.scrollLoop _ _ _ _ h _
    · exact Inv.scrollLoop _ _ _ _ h _

theorem Inv.reflow {new : TextBuffer} (hn : new.Inv) (old : TextBuffer) (lcv : Option Viewport)
    (pi : Option PositionInformation) : (reflow old new lcv pi).2.1.Inv :=
  have h := reflow_geometry old new lcv pi hn.rowsFit ⟨hn.1, hn.2⟩
  ⟨h.2.2.1.1, h.2.2.1.2, h.2.2.2⟩

theorem Inv.modifyCurrentMark (h : b.Inv) (f : ScrollMark → ScrollMark) :
    (b.modifyCurrentMark f).Inv := by
  unfold TextBuffer.modifyCurrentMark; split
  · exact h
  · exact ⟨h.1, h.2, h.3⟩

theorem Inv.addHyperlinkToMap (h : b.Inv) (uri : String) (id : UInt16) :
    (b.addHyperlinkToMap uri id).Inv :=
  ⟨h.1, h.2, h.3⟩

theorem Inv.getHyperlinkId (h : b.Inv) (hash : String → UInt64) (uri id : String) :
    (b.getHyperlinkId hash uri id).1.Inv := by
  unfold TextBuffer.getHyperlinkId
  dsimp only
  split <;> split <;> first | exact ⟨h.1, h.2, h.3⟩ | (split <;> exact ⟨h.1, h.2, h.3⟩)

theorem Inv.write (h : b.Inv) (isGlyphFullWidth : List UInt16 → Bool) (row : Int)
    (attributes : TextAttribute) (state : RowWriteState) :
    (b.write isGlyphFullWidth row attributes state).1.Inv :=
  h.modifyRow row (fun r => (Row.replaceText isGlyphFullWidth state r).replaceAttributes _ _ attributes)
    (cells_length_replaceText state _)

theorem Inv.fillRect (h : b.Inv) {b' : TextBuffer} {isGlyphFullWidth : List UInt16 → Bool}
    {rect : Rect} {fill : List UInt16} {attributes : TextAttribute}
    (hb : b.fillRect isGlyphFullWidth rect fill attributes = some b') : b'.Inv :=
  h.of_sameGeometry (sameGeometry_fillRect hb) (h.rowsFit.fillRect hb)

/-! ### Reachable buffers -/

/-- The public operations the model covers. -/
inductive Op
  /-- `GetRowByOffset(y)`: a read, which commits. -/
  | getRowByOffset (y : Int)
  /-- `GetCursor().SetPosition(p)`. -/
  | setCursorPosition (p : Point)
  | incrementCircularBuffer (fillAttributes : TextAttribute)
  | newlineCursor
  | incrementCursor
  | insertCharacter (chars : List UInt16) (dbcsAttribute : DbcsAttribute) (attr : TextAttribute)
  | setCurrentLineRendition (lineRendition : LineRendition) (fillAttributes : TextAttribute)
  | scrollRows (firstRow size delta : Int)
  | resizeTraditional (newSize : Size)
  | reset
  /-- `Reflow` into a buffer of `newSize` fresh from the constructor, which then replaces
  this one; `seed` is its mutation counter's first value. -/
  | reflow (newSize : Size) (seed : UInt64) (lastCharacterViewport : Option Viewport)
      (positionInfo : Option PositionInformation)
  | addHyperlinkToMap (uri : String) (id : UInt16)
  | getHyperlinkId (hash : String → UInt64) (uri id : String)
  | scrollMarks (delta : Int)
  | clearMarksInRange (start «end» : Point)
  | clearAllMarks
  | startPromptMark (m : ScrollMark)
  | addMark (m : ScrollMark)
  | setCurrentPromptEnd (pos : Point)
  | setCurrentCommandEnd (pos : Point)
  | setCurrentOutputEnd (pos : Point) (category : MarkCategory)
  /-- `FillRect(rect, fill, attributes)`, with `isGlyphFullWidth` for `IsGlyphFullWidth`. -/
  | fillRect (isGlyphFullWidth : List UInt16 → Bool) (rect : Rect) (fill : List UInt16)
      (attributes : TextAttribute)
  /-- `Write(row, attributes, state)`, with `isGlyphFullWidth` for `IsGlyphFullWidth`. -/
  | write (isGlyphFullWidth : List UInt16 → Bool) (row : Int) (attributes : TextAttribute)
      (state : RowWriteState)

/-- The buffer an operation leaves, or `none` where it throws or, for `FillRect`, does not
return. -/
def Op.apply (b : TextBuffer) : Op → Option TextBuffer
  | .getRowByOffset y => some (b.touch y)
  | .setCursorPosition p => some (b.setCursorPosition p)
  | .incrementCircularBuffer fill => some (b.incrementCircularBuffer fill)
  | .newlineCursor => some b.newlineCursor
  | .incrementCursor => some b.incrementCursor
  | .insertCharacter chars d attr => some (b.insertCharacter chars d attr)
  | .setCurrentLineRendition lr fill => some (b.setCurrentLineRendition lr fill)
  | .scrollRows firstRow size delta => some (b.scrollRows firstRow size delta)
  | .resizeTraditional newSize => b.resizeTraditional newSize
  | .reset => some b.reset
  | .reflow newSize seed lcv pi =>
    (create newSize b.currentAttributes b.cursor.size b.isActiveBuffer b.commitReadAheadRowCount
      seed).map fun nb => (TextBuffer.reflow b nb lcv pi).2.1
  | .addHyperlinkToMap uri id => some (b.addHyperlinkToMap uri id)
  | .getHyperlinkId hash uri id => some (b.getHyperlinkId hash uri id).1
  | .scrollMarks delta => some (b.scrollMarks delta)
  | .clearMarksInRange start «end» => some (b.clearMarksInRange start «end»)
  | .clearAllMarks => some b.clearAllMarks
  | .startPromptMark m => some (b.startPromptMark m)
  | .addMark m => some (b.addMark m)
  | .setCurrentPromptEnd pos => some (b.setCurrentPromptEnd pos)
  | .setCurrentCommandEnd pos => some (b.setCurrentCommandEnd pos)
  | .setCurrentOutputEnd pos category => some (b.setCurrentOutputEnd pos category)
  | .fillRect g rect fill attributes => b.fillRect g rect fill attributes
  | .write g row attributes state => some (b.write g row attributes state).1

/-- The buffers the constructor and the operations reach. -/
inductive Reachable : TextBuffer → Prop
  | create {size : Size} {attr : TextAttribute} {cursorSize : Nat} {active : Bool}
      {readAhead : Nat} {seed : UInt64} {b : TextBuffer}
      (h : create size attr cursorSize active readAhead seed = some b) : Reachable b
  | step {b b' : TextBuffer} (h : Reachable b) (op : Op) (hop : op.apply b = some b') :
      Reachable b'

theorem Inv.apply (h : b.Inv) {b' : TextBuffer} (op : Op) (hop : op.apply b = some b') : b'.Inv := by
  cases op with
  | resizeTraditional newSize => exact inv_resizeTraditional newSize hop
  | reflow newSize seed lcv pi =>
    simp only [Op.apply, Option.map_eq_some'] at hop
    obtain ⟨nb, hnb, rfl⟩ := hop
    exact (inv_create hnb).reflow b lcv pi
  | getRowByOffset y => cases hop; exact h.touch y
  | setCursorPosition p => cases hop; exact h.setCursorPosition p
  | incrementCircularBuffer fill => cases hop; exact h.incrementCircularBuffer fill
  | newlineCursor => cases hop; exact h.newlineCursor
  | incrementCursor => cases hop; exact h.incrementCursor
  | insertCharacter chars d attr => cases hop; exact h.insertCharacter chars d attr
  | setCurrentLineRendition lr fill => cases hop; exact h.setCurrentLineRendition lr fill
  | scrollRows firstRow size delta => cases hop; exact h.scrollRows firstRow size delta
  | reset => cases hop; exact h.reset
  | addHyperlinkToMap uri id => cases hop; exact h.addHyperlinkToMap uri id
  | getHyperlinkId hash uri id => cases hop; exact h.getHyperlinkId hash uri id
  | scrollMarks | clearMarksInRange | clearAllMarks | startPromptMark | addMark =>
    cases hop; exact ⟨h.1, h.2, h.3⟩
  | setCurrentPromptEnd | setCurrentCommandEnd | setCurrentOutputEnd =>
    cases hop; exact h.modifyCurrentMark _
  | fillRect => exact h.fillRect hop
  | write g row attributes state => cases hop; exact h.write g row attributes state

theorem Reachable.inv (h : Reachable b) : b.Inv := by
  induction h with
  | create h => exact inv_create h
  | step _ op hop ih => exact ih.apply op hop

/-- **The ring stays inside the buffer.**  For every reachable buffer, `_firstRow` lies in
`[0, _height)`; every logical row `y`, negative or not, goes to slot
`(_firstRow + y) mod _height + 1`, which is never the scratchpad and never past the last
slot, so `_getRowByOffsetDirect` on any run of the allocator reserved for this height
returns it without throwing; and after `k` rotations, logical row `y` is the slot that was
logical row `y + k`. -/
theorem reachable_firstRow_mem (h : Reachable b) :
    (0 ≤ b.firstRow ∧ b.firstRow < b.height) ∧
      (∀ y : Int, b.rowOffset y = ((b.firstRow + y) % b.height).toNat + 1 ∧
        1 ≤ b.rowOffset y ∧ b.rowOffset y ≤ b.height) ∧
      (∀ (rowStride : Nat) (a : Arena), 0 < rowStride →
        Arena.Reachable b.height rowStride b.commitReadAheadRowCount a →
        ∀ y : Int, ∃ a', a.getRowByOffsetDirect (b.rowOffset y) = .ok (a', rowStride * b.rowOffset y)) ∧
      (∀ (fills : List TextAttribute) (y : Int),
        (fills.foldl incrementCircularBuffer b).rowOffset y = b.rowOffset (y + fills.length)) := by
  have hi := h.inv
  refine ⟨⟨hi.1, hi.2⟩, fun y => ⟨b.rowOffset_eq y, b.rowOffset_mem y⟩, ?_,
    fun fills => rowOffset_rotations fills b hi⟩
  intro rowStride a hs ha y
  have hai := ha.inv hs
  obtain ⟨k, -, hk, hc⟩ := hai.aligned
  exact ⟨_, Arena.getRowByOffsetDirect_spec hs hai hk hc (b.rowOffset_mem y).2⟩

/-- A buffer one column wide and two rows high after one rotation. -/
def rotatedOnce : TextBuffer :=
  ((create ⟨1, 2⟩ {} 1 false 0 0).get (by decide)).incrementCircularBuffer {}

theorem reachable_rotatedOnce : Reachable rotatedOnce :=
  .step (.create (Option.some_get _).symm) (.incrementCircularBuffer {}) rfl

theorem reachable_firstRow_mem_rotatedOnce :
    Reachable rotatedOnce ∧
    (0 ≤ rotatedOnce.firstRow ∧ rotatedOnce.firstRow < rotatedOnce.height) ∧
      (∀ y : Int, rotatedOnce.rowOffset y =
          ((rotatedOnce.firstRow + y) % rotatedOnce.height).toNat + 1 ∧
        1 ≤ rotatedOnce.rowOffset y ∧ rotatedOnce.rowOffset y ≤ rotatedOnce.height) ∧
      (∀ (rowStride : Nat) (a : Arena), 0 < rowStride →
        Arena.Reachable rotatedOnce.height rowStride rotatedOnce.commitReadAheadRowCount a →
        ∀ y : Int, ∃ a', a.getRowByOffsetDirect (rotatedOnce.rowOffset y) =
          .ok (a', rowStride * rotatedOnce.rowOffset y)) ∧
      (∀ (fills : List TextAttribute) (y : Int),
        (fills.foldl incrementCircularBuffer rotatedOnce).rowOffset y =
          rotatedOnce.rowOffset (y + fills.length)) :=
  ⟨reachable_rotatedOnce, reachable_firstRow_mem reachable_rotatedOnce⟩

/-! ### Marks over reachable buffers

The buffer never checks a mark it is given, so a reachable buffer may hold marks off its
rows; what matters is that the operations keep marks on the rows once they are.
`markOps_keep_marksInBounds` says the trimming and mark operations do.  `ResizeTraditional`
does not: it is reachable from a buffer whose marks are all on its rows and leaves one
below the new bottom. -/

theorem reachable_markedBuffer : Reachable markedBuffer :=
  .step (.create (Option.some_get _).symm) (.startPromptMark (promptAt 1)) rfl

/-- `markedBuffer` resized to one row. -/
def markedBufferShrunk : TextBuffer := (markedBuffer.resizeTraditional ⟨2, 1⟩).get (by decide)

/-- **`ResizeTraditional` strands a mark.**  Shrinking `markedBuffer` to one row keeps its
mark on row `1`, below the new bottom, and nothing trims it. -/
theorem resizeTraditional_strands_mark :
    Reachable markedBuffer ∧ markedBuffer.MarksInBounds ∧
      markedBuffer.resizeTraditional ⟨2, 1⟩ = some markedBufferShrunk ∧
      Reachable markedBufferShrunk ∧ ¬ markedBufferShrunk.MarksInBounds :=
  have hb : markedBuffer.resizeTraditional ⟨2, 1⟩ = some markedBufferShrunk :=
    (Option.some_get _).symm
  ⟨reachable_markedBuffer, by decide, hb, .step reachable_markedBuffer (.resizeTraditional _) hb,
    by decide⟩

end TextBuffer

end TerminalBuffer
