/-
The double-byte guard of `InsertCharacter`.

Before the leading half of a wide glyph, `_PrepareForDoubleByteSequence` looks at whether the
cursor is in the last column of its row's effective width.  There it marks the row padded and
calls `IncrementCursor`, which marks the row wrap-forced and moves to column `0` of the next
row, rotating the ring from the bottom row; `InsertCharacter` then writes the glyph there.
Anywhere else the glyph is written at the cursor and its second half is still inside the row.
Either way both halves land in one row (`insertCharacter_leading_one_row`).

The guard never writes the padding.  The comment above it says that a padding space is added,
and the code only sets the flag: the padded row keeps the cells it had, so its last column
shows whatever was written there before (`insertCharacter_leading_pads_without_space`).  In a
buffer one row high the row the guard marks is the row the rotation recycles, so the flags are
gone again before the glyph is written into it.
-/
import TerminalBuffer.Links

namespace TerminalBuffer

namespace Row

/-- The two halves of the wide glyph `chars` at columns `c` and `c + 1`. -/
def GlyphAt (r : Row) (c : Nat) (chars : List UInt16) : Prop :=
  (r.cells.drop c).take 2 = glyphCells chars 2

instance (r : Row) (c : Nat) (chars : List UInt16) : Decidable (r.GlyphAt c chars) :=
  inferInstanceAs (Decidable (_ = _))

/-- What `overwrite` writes stays written: its repairs touch only the columns just outside. -/
theorem overwrite_drop_take (r : Row) {a : Nat} {new : List Cell}
    (h : a + new.length ≤ r.cells.length) :
    ((r.overwrite a new).cells.drop a).take new.length = new := by
  have hta : (r.cells.take a).length = a := List.length_take_of_le (by omega)
  have base : ((r.cells.take a ++ new ++ r.cells.drop (a + new.length)).drop a).take new.length =
      new := by
    rw [List.append_assoc, List.drop_left' hta, List.take_left]
  have hright : ∀ (l : List Cell) (x : Cell),
      ((l.set (a + new.length) x).drop a).take new.length = (l.drop a).take new.length := by
    intro l x
    rw [List.drop_set, if_neg (Nat.not_lt.2 (Nat.le_add_right a _)), Nat.add_sub_cancel_left,
      List.set_take, List.set_eq_of_length_le (by simp)]
  have hleft : ∀ (l : List Cell) (x : Cell), 0 < a → (l.set (a - 1) x).drop a = l.drop a :=
    fun l x ha => List.drop_set_of_lt _ _ (by omega)
  unfold overwrite
  dsimp only
  split_ifs with h₁ h₂ h₂ <;> (try rw [hright]) <;> (try rw [hleft _ _ h₂.1]) <;> exact base

end Row

namespace TextBuffer

/-! ### What `InsertCharacter` stores -/

@[simp] theorem lineRendition_insertIntoRow (chars : List UInt16) (d : DbcsAttribute)
    (attr : TextAttribute) (c : Int) (r : Row) :
    (insertIntoRow chars d attr c r).lineRendition = r.lineRendition := by
  cases d <;> simp only [insertIntoRow, Row.setAttrToEnd, Row.replaceCharacters] <;> split_ifs <;> rfl

theorem flags_insertIntoRow (chars : List UInt16) (d : DbcsAttribute) (attr : TextAttribute)
    (c : Int) (r : Row) :
    (insertIntoRow chars d attr c r).wrapForced = r.wrapForced ∧
      (insertIntoRow chars d attr c r).doubleBytePadded = r.doubleBytePadded := by
  cases d <;> simp only [insertIntoRow, Row.setAttrToEnd, Row.replaceCharacters] <;> split_ifs <;>
    exact ⟨rfl, rfl⟩

/-- A leading half with room for both halves writes the glyph at the column. -/
theorem glyphAt_insertIntoRow_leading (chars : List UInt16) (attr : TextAttribute) {c : Nat}
    {r : Row} (h : c + 2 ≤ r.cells.length) :
    (insertIntoRow chars .leading attr c r).GlyphAt c chars := by
  have hc : r.clampedColumnInclusive (c : Int) = c := by
    unfold Row.clampedColumnInclusive; omega
  simp only [insertIntoRow, Row.setAttrToEnd, Row.replaceCharacters, hc, if_pos (show c < r.cells.length by omega),
    if_pos h]
  exact @Row.overwrite_drop_take r c (Row.glyphCells chars 2) h

variable {b : TextBuffer}

/-- A change that keeps line renditions keeps every row's effective width. -/
theorem getLineWidth_modifyRow (y : Int) {f : Row → Row}
    (hf : ∀ r, (f r).lineRendition = r.lineRendition) :
    (b.modifyRow y f).getLineWidth = b.getLineWidth := by
  funext y'
  simp only [getLineWidth, isDoubleWidthLine, getRowByOffset_modifyRow, width_modifyRow]
  split
  · rename_i hy
    simp only [hf, getRowByOffset, hy]
  · rfl

/-- An advance that stays inside the row moves only the cursor. -/
theorem getRowByOffset_incrementCursor_of_lt
    (h : b.cursor.position.x + 1 < b.getLineWidth b.cursor.position.y) :
    b.incrementCursor.getRowByOffset = b.getRowByOffset := by
  unfold incrementCursor
  dsimp only
  rw [if_neg (by simp only [cursor_setCursorPosition]; omega)]
  funext y'
  simp

/-- A write at the cursor that the advance does not carry past the row's edge: the cursor's
row afterwards is the row written. -/
theorem getRowByOffset_write (chars : List UInt16) (d : DbcsAttribute) (attr : TextAttribute)
    (hlw : b.cursor.position.x + 1 < b.getLineWidth b.cursor.position.y) :
    ((b.modifyRow b.cursor.position.y
        (insertIntoRow chars d attr b.cursor.position.x)).incrementCursor).getRowByOffset
      b.cursor.position.y =
      insertIntoRow chars d attr b.cursor.position.x (b.getRowByOffset b.cursor.position.y) := by
  have hkeep := getLineWidth_modifyRow (b := b) b.cursor.position.y
    (lineRendition_insertIntoRow chars d attr b.cursor.position.x)
  rw [getRowByOffset_incrementCursor_of_lt (by rw [hkeep, cursor_modifyRow]; exact hlw),
    getRowByOffset_modifyRow_self]

/-- The leading half written at the cursor, with room for both halves before the row's edge:
after `InsertCharacter`'s advance the glyph is in the cursor's row. -/
theorem glyphAt_write_leading (h : b.Inv) (chars : List UInt16) (attr : TextAttribute)
    (hx : 0 ≤ b.cursor.position.x)
    (hlw : b.cursor.position.x + 1 < b.getLineWidth b.cursor.position.y) :
    (((b.modifyRow b.cursor.position.y
        (insertIntoRow chars .leading attr b.cursor.position.x)).incrementCursor).getRowByOffset
      b.cursor.position.y).GlyphAt b.cursor.position.x.toNat chars := by
  rw [getRowByOffset_write chars .leading attr hlw]
  have hcells : (b.getRowByOffset b.cursor.position.y).cells.length = b.width := h.rowsFit _
  have hle := b.getLineWidth_le b.cursor.position.y
  have := glyphAt_insertIntoRow_leading chars attr (c := b.cursor.position.x.toNat)
    (r := b.getRowByOffset b.cursor.position.y) (by omega)
  rwa [Int.toNat_of_nonneg hx] at this

/-! ### Away from the last column -/

/-- Away from the last column the guard only commits the cursor's row, and the glyph is
written at the cursor with its second half inside the row. -/
theorem insertCharacter_leading_inside (h : b.Inv) (hc : b.CursorInBounds)
    (hne : b.cursor.position.x ≠ b.getLineWidth b.cursor.position.y - 1)
    (chars : List UInt16) (attr : TextAttribute) :
    b.cursor.position.x + 1 < b.getLineWidth b.cursor.position.y ∧
      ((b.insertCharacter chars .leading attr).getRowByOffset b.cursor.position.y).GlyphAt
        b.cursor.position.x.toNat chars := by
  have hlt : b.cursor.position.x + 1 < b.getLineWidth b.cursor.position.y := by
    have := hc.2.1; omega
  have hp : b.prepareForDoubleByteSequence .leading = b.touch b.cursor.position.y := by
    unfold prepareForDoubleByteSequence
    rw [if_pos rfl]
    exact if_neg hne
  refine ⟨hlt, ?_⟩
  have := glyphAt_write_leading (h.touch b.cursor.position.y) chars attr hc.1
    (by rwa [cursor_touch, getLineWidth_touch])
  unfold insertCharacter
  rw [hp]
  simpa only [cursor_touch] using this

/-! ### In the last column -/

/-- In the last column the guard pads and wrap-forces the cursor's row and then newlines:
the buffer it newlines in has that row with its cells as they were. -/
theorem prepareForDoubleByteSequence_last (h : b.Inv)
    (hlast : b.cursor.position.x = b.getLineWidth b.cursor.position.y - 1) :
    ∃ d : TextBuffer, d.Inv ∧ d.height = b.height ∧ d.width = b.width ∧
      d.cursor.position.y = b.cursor.position.y ∧
      d.getRowByOffset b.cursor.position.y =
        { b.getRowByOffset b.cursor.position.y with doubleBytePadded := true, wrapForced := true } ∧
      b.prepareForDoubleByteSequence .leading = d.newlineCursor := by
  have hkeep : ((b.touch b.cursor.position.y).modifyRow b.cursor.position.y
      fun r => { r with doubleBytePadded := true }).getLineWidth = b.getLineWidth := by
    rw [getLineWidth_modifyRow (f := fun r : Row => { r with doubleBytePadded := true }) _
      fun _ => rfl, getLineWidth_touch]
  refine ⟨((((b.touch b.cursor.position.y).modifyRow b.cursor.position.y
      fun r => { r with doubleBytePadded := true }).touch b.cursor.position.y).setCursorPosition
      ⟨b.cursor.position.x + 1, b.cursor.position.y⟩).setWrapOnCurrentRow, ?_, ?_, ?_, ?_, ?_, ?_⟩
  · exact ((((h.touch _).modifyRow _ _ rfl).touch _).setCursorPosition _).setWrapOnCurrentRow
  · simp only [height_setWrapOnCurrentRow, height_setCursorPosition, height_touch, height_modifyRow]
  · simp only [width_setWrapOnCurrentRow, width_setCursorPosition, width_touch, width_modifyRow]
  · simp only [cursor_setWrapOnCurrentRow, cursor_setCursorPosition]
  · simp only [setWrapOnCurrentRow, cursor_setCursorPosition, getRowByOffset_modifyRow_self,
      getRowByOffset_setCursorPosition, getRowByOffset_touch]
  · unfold prepareForDoubleByteSequence incrementCursor
    rw [if_pos rfl]
    dsimp only
    have hpast : b.cursor.position.x + 1 > b.getLineWidth b.cursor.position.y - 1 := by omega
    rw [if_pos hlast]
    simp only [cursor_setCursorPosition, cursor_modifyRow, cursor_touch, hkeep]
    rw [if_pos hpast]

/-- A newline above the bottom row only moves the cursor. -/
theorem newlineCursor_of_lt_bottom (h : b.cursor.position.y + 1 < b.height) :
    b.newlineCursor = b.setCursorPosition ⟨0, b.cursor.position.y + 1⟩ := by
  unfold newlineCursor
  simp only [cursor_setCursorPosition]
  exact if_neg (by omega)

/-- **The padded row keeps its cells.**  With two rows or more the guard in the last column
leaves the cursor at the start of the row below, or of the recycled bottom row, and the row it
padded, one row up when the ring rotated, is the row it was with both flags set. -/
theorem prepareForDoubleByteSequence_padded_row (h : b.Inv) (hc : b.CursorInBounds)
    (hlast : b.cursor.position.x = b.getLineWidth b.cursor.position.y - 1) (hh : 2 ≤ b.height) :
    (b.prepareForDoubleByteSequence .leading).cursor.position =
        ⟨0, min (b.cursor.position.y + 1) (b.height - 1)⟩ ∧
      (b.prepareForDoubleByteSequence .leading).getRowByOffset
          (if b.cursor.position.y + 1 < b.height then b.cursor.position.y
           else b.cursor.position.y - 1) =
        { b.getRowByOffset b.cursor.position.y with doubleBytePadded := true, wrapForced := true } := by
  obtain ⟨d, hd, hdh, -, hdy, hrow, hp⟩ := prepareForDoubleByteSequence_last h hlast
  rw [hp]
  by_cases hlt : b.cursor.position.y + 1 < b.height
  · rw [newlineCursor_of_lt_bottom (by omega), if_pos hlt, getRowByOffset_setCursorPosition,
      cursor_setCursorPosition, hdy, hrow, Int.min_eq_left (by omega)]
    exact ⟨rfl, rfl⟩
  · have hbot : d.cursor.position.y = d.height - 1 := by have := hc.2.2.2; omega
    rw [d.newlineCursor_of_bottom hbot, if_neg hlt, cursor_incrementCircularBuffer,
      cursor_setCursorPosition, (hd.setCursorPosition _).getRowByOffset_incrementCircularBuffer,
      Int.sub_add_cancel, if_neg, getRowByOffset_setCursorPosition, hrow, hdh,
      Int.min_eq_right (by omega)]
    · exact ⟨rfl, rfl⟩
    · show ¬ d.rowOffset _ = d.rowOffset 0
      have := hc.2.2.1
      rw [hd.rowOffset_eq_rowOffset_zero ⟨by omega, by omega⟩]
      omega

/-- Below the padded row the glyph is written from column `0`, and stays there when that row
has two columns. -/
theorem insertCharacter_leading_below (h : b.Inv) (hc : b.CursorInBounds)
    (hlast : b.cursor.position.x = b.getLineWidth b.cursor.position.y - 1) (hh : 2 ≤ b.height)
    (chars : List UInt16) (attr : TextAttribute)
    (hlw : 1 < (b.prepareForDoubleByteSequence .leading).getLineWidth
      (min (b.cursor.position.y + 1) (b.height - 1))) :
    ((b.insertCharacter chars .leading attr).getRowByOffset
      (min (b.cursor.position.y + 1) (b.height - 1))).GlyphAt 0 chars := by
  have hpos := (prepareForDoubleByteSequence_padded_row h hc hlast hh).1
  have := glyphAt_write_leading (h.prepareForDoubleByteSequence .leading) chars attr
    (by rw [hpos]) (by rw [hpos]; exact hlw)
  unfold insertCharacter
  simp only [hpos, Int.toNat_zero] at this ⊢
  exact this

/-- In a buffer one row high the guard's newline recycles the row it padded. -/
theorem prepareForDoubleByteSequence_one_row (h : b.Inv) (hc : b.CursorInBounds)
    (hlast : b.cursor.position.x = b.getLineWidth b.cursor.position.y - 1) (hh : b.height = 1) :
    (b.prepareForDoubleByteSequence .leading).cursor.position = ⟨0, 0⟩ ∧
      ∃ r : Row, r.cells.length = b.width ∧
        (b.prepareForDoubleByteSequence .leading).getRowByOffset 0 = r.reset {} := by
  obtain ⟨d, hd, hdh, hdw, hdy, -, hp⟩ := prepareForDoubleByteSequence_last h hlast
  have hbot : d.cursor.position.y = d.height - 1 := by have := hc.2.2; omega
  have hone : ∀ y, d.rowOffset y = 1 := fun y => by
    rw [rowOffset_eq, hdh, hh, Nat.cast_one, Int.emod_one]; rfl
  rw [hp, d.newlineCursor_of_bottom hbot, cursor_incrementCircularBuffer, cursor_setCursorPosition,
    (hd.setCursorPosition _).getRowByOffset_incrementCircularBuffer, if_pos (by
      show d.rowOffset _ = d.rowOffset 0
      rw [hone, hone]), hdh, hh]
  refine ⟨rfl, _, ?_, rfl⟩
  rw [← hdw]
  exact hd.rowsFit _

/-- In a buffer one row high the glyph is written into the recycled row, which has lost both
flags. -/
theorem insertCharacter_leading_recycled (h : b.Inv) (hw : 2 ≤ b.width) (hc : b.CursorInBounds)
    (hlast : b.cursor.position.x = b.getLineWidth b.cursor.position.y - 1) (hh : b.height = 1)
    (chars : List UInt16) (attr : TextAttribute) :
    ((b.insertCharacter chars .leading attr).getRowByOffset 0).GlyphAt 0 chars ∧
      ((b.insertCharacter chars .leading attr).getRowByOffset 0).doubleBytePadded = false ∧
      ((b.insertCharacter chars .leading attr).getRowByOffset 0).wrapForced = false := by
  obtain ⟨hpos, r, hr, hrow⟩ := prepareForDoubleByteSequence_one_row h hc hlast hh
  have hfit : (b.prepareForDoubleByteSequence .leading).cursor.position.x + 1 <
      (b.prepareForDoubleByteSequence .leading).getLineWidth
        (b.prepareForDoubleByteSequence .leading).cursor.position.y := by
    simp only [hpos, getLineWidth, isDoubleWidthLine, hrow, width_prepareForDoubleByteSequence]
    show (0 : Int) + 1 < (if (LineRendition.singleWidth != .singleWidth) = true then _ else _)
    rw [bne_self_eq_false, if_neg Bool.false_ne_true]
    omega
  have hrow' : (b.insertCharacter chars .leading attr).getRowByOffset 0 =
      insertIntoRow chars .leading attr 0 (r.reset {}) := by
    have := getRowByOffset_write chars .leading attr hfit
    unfold insertCharacter
    simp only [hpos, hrow] at this ⊢
    exact this
  rw [hrow']
  refine ⟨glyphAt_insertIntoRow_leading chars attr (c := 0) (by simp only [Row.reset_cells_length]; omega),
    (flags_insertIntoRow ..).2, (flags_insertIntoRow ..).1⟩

/-! ### The guard as a whole -/

/-- **Both halves of a wide glyph land in one row.**  For every buffer two columns wide or
more and every cursor inside its row's effective width.  Away from the last column
`InsertCharacter(chars, Leading, attr)` writes the glyph at the cursor, inside the row.  In the
last column of a buffer two rows high or more the guard moves the cursor to column `0` of the
row below, or of the recycled bottom row, and leaves the row it padded, one row up when the ring
rotated, with its cells as they were and both flags set; the glyph is written at the new cursor
when its row has two columns.  In a buffer one row high the glyph is written into the recycled
row, which has lost both flags. -/
theorem insertCharacter_leading_one_row (h : b.Inv) (hw : 2 ≤ b.width) (hc : b.CursorInBounds)
    (chars : List UInt16) (attr : TextAttribute) :
    (b.cursor.position.x ≠ b.getLineWidth b.cursor.position.y - 1 →
      b.cursor.position.x + 1 < b.getLineWidth b.cursor.position.y ∧
        ((b.insertCharacter chars .leading attr).getRowByOffset b.cursor.position.y).GlyphAt
          b.cursor.position.x.toNat chars) ∧
    (b.cursor.position.x = b.getLineWidth b.cursor.position.y - 1 → 2 ≤ b.height →
      (b.prepareForDoubleByteSequence .leading).cursor.position =
          ⟨0, min (b.cursor.position.y + 1) (b.height - 1)⟩ ∧
        (b.prepareForDoubleByteSequence .leading).getRowByOffset
            (if b.cursor.position.y + 1 < b.height then b.cursor.position.y
             else b.cursor.position.y - 1) =
          { b.getRowByOffset b.cursor.position.y with doubleBytePadded := true, wrapForced := true } ∧
        (1 < (b.prepareForDoubleByteSequence .leading).getLineWidth
            (min (b.cursor.position.y + 1) (b.height - 1)) →
          ((b.insertCharacter chars .leading attr).getRowByOffset
            (min (b.cursor.position.y + 1) (b.height - 1))).GlyphAt 0 chars)) ∧
    (b.cursor.position.x = b.getLineWidth b.cursor.position.y - 1 → b.height = 1 →
      ((b.insertCharacter chars .leading attr).getRowByOffset 0).GlyphAt 0 chars ∧
        ((b.insertCharacter chars .leading attr).getRowByOffset 0).doubleBytePadded = false ∧
        ((b.insertCharacter chars .leading attr).getRowByOffset 0).wrapForced = false) :=
  ⟨fun hne => insertCharacter_leading_inside h hc hne chars attr,
    fun hlast hh => ⟨(prepareForDoubleByteSequence_padded_row h hc hlast hh).1,
      (prepareForDoubleByteSequence_padded_row h hc hlast hh).2,
      insertCharacter_leading_below h hc hlast hh chars attr⟩,
    fun hlast hh => insertCharacter_leading_recycled h hw hc hlast hh chars attr⟩

/-- A two-by-two buffer whose first row ends in the letter `x`, the cursor back on it. -/
def staleColumnBuffer : TextBuffer :=
  ((((create ⟨2, 2⟩ {} 1 false 0 0).get (by decide)).setCursorPosition ⟨1, 0⟩).insertCharacter
    [0x78] .single {}).setCursorPosition ⟨1, 0⟩

theorem reachable_staleColumnBuffer : Reachable staleColumnBuffer :=
  .step (.step (.step (.create (Option.some_get _).symm) (.setCursorPosition ⟨1, 0⟩) rfl)
    (.insertCharacter [0x78] .single {}) rfl) (.setCursorPosition ⟨1, 0⟩) rfl

theorem insertCharacter_leading_one_row_staleColumnBuffer :
    (staleColumnBuffer.Inv ∧ 2 ≤ staleColumnBuffer.width ∧ staleColumnBuffer.CursorInBounds) ∧
    (staleColumnBuffer.cursor.position.x ≠
        staleColumnBuffer.getLineWidth staleColumnBuffer.cursor.position.y - 1 →
      staleColumnBuffer.cursor.position.x + 1 <
          staleColumnBuffer.getLineWidth staleColumnBuffer.cursor.position.y ∧
        ((staleColumnBuffer.insertCharacter [0x4E00] .leading {}).getRowByOffset
          staleColumnBuffer.cursor.position.y).GlyphAt
          staleColumnBuffer.cursor.position.x.toNat [0x4E00]) ∧
    (staleColumnBuffer.cursor.position.x =
        staleColumnBuffer.getLineWidth staleColumnBuffer.cursor.position.y - 1 →
      2 ≤ staleColumnBuffer.height →
      (staleColumnBuffer.prepareForDoubleByteSequence .leading).cursor.position =
          ⟨0, min (staleColumnBuffer.cursor.position.y + 1) (staleColumnBuffer.height - 1)⟩ ∧
        (staleColumnBuffer.prepareForDoubleByteSequence .leading).getRowByOffset
            (if staleColumnBuffer.cursor.position.y + 1 < staleColumnBuffer.height then
              staleColumnBuffer.cursor.position.y
             else staleColumnBuffer.cursor.position.y - 1) =
          { staleColumnBuffer.getRowByOffset staleColumnBuffer.cursor.position.y with
              doubleBytePadded := true, wrapForced := true } ∧
        (1 < (staleColumnBuffer.prepareForDoubleByteSequence .leading).getLineWidth
            (min (staleColumnBuffer.cursor.position.y + 1) (staleColumnBuffer.height - 1)) →
          ((staleColumnBuffer.insertCharacter [0x4E00] .leading {}).getRowByOffset
            (min (staleColumnBuffer.cursor.position.y + 1)
              (staleColumnBuffer.height - 1))).GlyphAt 0 [0x4E00])) ∧
    (staleColumnBuffer.cursor.position.x =
        staleColumnBuffer.getLineWidth staleColumnBuffer.cursor.position.y - 1 →
      staleColumnBuffer.height = 1 →
      ((staleColumnBuffer.insertCharacter [0x4E00] .leading {}).getRowByOffset 0).GlyphAt 0
          [0x4E00] ∧
        ((staleColumnBuffer.insertCharacter [0x4E00] .leading {}).getRowByOffset 0).doubleBytePadded =
          false ∧
        ((staleColumnBuffer.insertCharacter [0x4E00] .leading {}).getRowByOffset 0).wrapForced =
          false) :=
  have h := reachable_staleColumnBuffer.inv
  have hw : 2 ≤ staleColumnBuffer.width := by decide
  have hc : staleColumnBuffer.CursorInBounds := by decide
  ⟨⟨h, hw, hc⟩, insertCharacter_leading_one_row h hw hc [0x4E00] {}⟩

/-! ### The padding that is never written -/

/-- A buffer two columns wide and one row high, the cursor in its last column. -/
def oneRowBuffer : TextBuffer :=
  ((create ⟨2, 1⟩ {} 1 false 0 0).get (by decide)).setCursorPosition ⟨1, 0⟩

theorem reachable_oneRowBuffer : Reachable oneRowBuffer :=
  .step (.create (Option.some_get _).symm) (.setCursorPosition ⟨1, 0⟩) rfl

/-- **The guard pads without a space.**  A reachable two-by-two buffer holds `x` in the last
column of its first row with the cursor on it; a wide glyph inserted there goes to the next
row, and the padded row, flagged padded and wrap-forced, still shows `x` in its last column.
In a buffer one row high the padded row is the one the rotation recycles, and after the insert
neither flag is set. -/
theorem insertCharacter_leading_pads_without_space :
    Reachable staleColumnBuffer ∧ staleColumnBuffer.CursorInBounds ∧
      staleColumnBuffer.cursor.position = ⟨1, 0⟩ ∧ staleColumnBuffer.getLineWidth 0 = 2 ∧
      (staleColumnBuffer.getRowByOffset 0).cellAt 1 = ⟨[0x78], .single⟩ ∧
      ((staleColumnBuffer.insertCharacter [0x4E00] .leading {}).getRowByOffset 0).cellAt 1 =
        ⟨[0x78], .single⟩ ∧
      ((staleColumnBuffer.insertCharacter [0x4E00] .leading {}).getRowByOffset 0).doubleBytePadded =
        true ∧
      ((staleColumnBuffer.insertCharacter [0x4E00] .leading {}).getRowByOffset 0).wrapForced = true ∧
      ((staleColumnBuffer.insertCharacter [0x4E00] .leading {}).getRowByOffset 1).GlyphAt 0
        [0x4E00] ∧
      Reachable oneRowBuffer ∧ oneRowBuffer.CursorInBounds ∧ oneRowBuffer.cursor.position = ⟨1, 0⟩ ∧
      ((oneRowBuffer.insertCharacter [0x4E00] .leading {}).getRowByOffset 0).doubleBytePadded =
        false ∧
      ((oneRowBuffer.insertCharacter [0x4E00] .leading {}).getRowByOffset 0).wrapForced = false := by
  refine ⟨reachable_staleColumnBuffer, ?_, ?_, ?_, ?_, ?_, ?_, ?_, ?_, reachable_oneRowBuffer, ?_, ?_,
    ?_, ?_⟩ <;> decide

end TextBuffer

end TerminalBuffer
