/-
Where `_writeCharsLegacyUnprocessed` puts ASCII text.

A code unit below `0x80` is a glyph one column wide whatever `IsGlyphFullWidth` says, so
`FitTextIntoColumns` takes its fast path on ASCII: a turn of the loop writes as much of the
text as is left of the cursor's row, a cell a code unit, and reports exactly those columns
(`unprocessedStep_of_ascii`).  With wrapping on, a turn that reaches the right edge marks the
row wrap-forced and hands `AdjustCursorPosition` the edge, which wraps the cursor to column
`0` of the next row; on the bottom row it first rotates the ring, so that every row moves up
one.  So the text lands row-major from the cursor at `(x, y)`, shifted up by the `s` rotations
of the whole write: code unit `i` in column `(x + i) % width` of row
`y + (x + i) / width - s` while that row is still in the buffer, and the cursor ends on the
cell after the last one (`LaidOut`, `writeCharsLegacy_laidOut`).  A turn is described by the
rotations it made and the rows it touched (`AsciiTurn`), and a write by the turns it chains
(`LaidOut.of_turn`).  `WriteCharsLegacy` does the same with no delayed wrap at the cursor and
no control character in the text, since then its processed loop hands the whole text to
`_writeCharsLegacyUnprocessed` at once.
-/
import TerminalBuffer.Host.WriteChars
import TerminalBuffer.DoubleByte

namespace TerminalBuffer

/-- The cell an ASCII code unit is written as: the code unit, one column. -/
def asciiCell (c : UInt16) : Cell := ⟨[c], .single⟩

section Ascii

variable (isGlyphFullWidth : List UInt16 → Bool)

/-- The ASCII fast path runs to its bound or to the end of an ASCII text. -/
theorem asciiRun_of_ascii : ∀ (n : Nat) {s : List UInt16}, (∀ c ∈ s, c.toNat < 0x80) →
    asciiRun n s = min n s.length
  | 0, _, _ => by simp [asciiRun]
  | _ + 1, [], _ => by simp [asciiRun]
  | n + 1, c :: cs, h => by
    rw [asciiRun, if_pos (h c (List.mem_cons_self c cs)),
      asciiRun_of_ascii n fun d hd => h d (List.mem_cons_of_mem c hd), List.length_cons]
    omega

/-- ASCII takes the fast path: as many code units as there are columns, a column each. -/
theorem fitTextIntoColumns_of_ascii {chars : List UInt16} (h : ∀ c ∈ chars, c.toNat < 0x80)
    (columnLimit : Int) :
    fitTextIntoColumns isGlyphFullWidth chars columnLimit =
      (min chars.length (max 0 columnLimit).toNat, min chars.length (max 0 columnLimit).toNat) := by
  unfold fitTextIntoColumns
  dsimp only
  rw [asciiRun_of_ascii _ h, Nat.min_eq_left (Nat.min_le_left _ _), if_pos rfl]

/-- An ASCII text is a unit a code unit. -/
theorem units_of_ascii {chars : List UInt16} (h : ∀ c ∈ chars, c.toNat < 0x80) :
    units chars = chars.map fun c => [c] := by
  simpa [units] using units_append_of_ascii h []

theorem unitCells_of_lt {c : UInt16} (h : c.toNat < 0x80) :
    unitCells isGlyphFullWidth [c] = [asciiCell c] := by
  simp [unitCells, unitColumns_of_lt isGlyphFullWidth h, asciiCell, show ¬ 0x80 ≤ c.toNat by omega]

/-- The cells of an ASCII text, a cell a code unit. -/
theorem flatten_unitCells_of_ascii {chars : List UInt16} (h : ∀ c ∈ chars, c.toNat < 0x80) :
    ((units chars).map (unitCells isGlyphFullWidth)).flatten = chars.map asciiCell := by
  rw [units_of_ascii h]
  induction chars with
  | nil => rfl
  | cons c cs ih =>
    simp only [List.map_cons, List.flatten_cons, unitCells_of_lt _ (h c (List.mem_cons_self c cs)),
      ih fun d hd => h d (List.mem_cons_of_mem c hd), List.singleton_append]

/-- From `columnBegin` inside the row, ASCII text is written a cell a code unit, as much of it
as fits. -/
theorem Row.replaceText_of_ascii {state : RowWriteState} (h : ∀ c ∈ state.text, c.toNat < 0x80)
    {r : Row} (h0 : 0 ≤ state.columnBegin) (h1 : state.columnBegin < state.columnLimit)
    (h2 : state.columnLimit ≤ r.cells.length) :
    Row.replaceText isGlyphFullWidth state r = r.overwrite state.columnBegin.toNat
      ((state.text.take (min state.text.length
        (max 0 (state.columnLimit - state.columnBegin)).toNat)).map asciiCell) := by
  rw [Row.replaceText_of_lt _ h0 h1 h2]
  dsimp only
  rw [fitTextIntoColumns_of_ascii _ h, flatten_unitCells_of_ascii _ fun c hc => h c (List.mem_of_mem_take hc),
    List.length_map, List.length_take, Nat.min_eq_left (Nat.min_le_left _ _), Nat.sub_self,
    List.replicate_zero, List.append_nil]

end Ascii

/-- An overwrite inside the row reads back what it wrote. -/
theorem Row.cellAt_overwrite (r : Row) {a : Nat} {new : List Cell} (h : a + new.length ≤ r.cells.length)
    {i : Nat} (hi : i < new.length) : (r.overwrite a new).cellAt (a + i) = new[i] := by
  have := congrArg (·[i]?) (r.overwrite_drop_take h)
  simp only [List.getElem?_take, hi, if_true, List.getElem?_drop] at this
  rw [Row.cellAt, List.getD_eq_getElem?_getD, this, List.getElem?_eq_getElem hi, Option.getD_some]

namespace Host

variable {ex : Externals}

/-- With wrapping on, `AdjustCursorPosition` wraps a cursor not left of the buffer into its
row, and from past the bottom rotates the ring once and puts the cursor on the last row. -/
theorem adjustCursorPosition_of_wrap (si : ScreenInformation) {c : Point}
    (hwrap : si.outputMode.wrapAtEolOutput = true) (hx : 0 ≤ c.x) :
    adjustCursorPosition si c =
      if c.y + c.x / si.textBuffer.width ≥ si.textBuffer.height then
        { si with textBuffer := ((si.textBuffer.incrementCircularBuffer
          si.textBuffer.currentAttributes).setCursorPosition
            ⟨c.x % si.textBuffer.width, si.textBuffer.height - 1⟩) }
      else { si with textBuffer := (si.textBuffer.setCursorPosition
        ⟨c.x % si.textBuffer.width, c.y + c.x / si.textBuffer.width⟩) } := by
  have hw := si.textBuffer.width_pos
  unfold adjustCursorPosition
  by_cases h1 : c.x ≥ si.textBuffer.width
  · simp only [if_neg (not_lt.2 hx), if_pos h1, hwrap, if_true]
  · have hdiv : c.x / si.textBuffer.width = 0 := Int.ediv_eq_zero_of_lt hx (by omega)
    simp only [if_neg (not_lt.2 hx), if_neg h1, hdiv, Int.add_zero,
      Int.emod_eq_of_lt hx (show c.x < si.textBuffer.width by omega)]

/-- After a rotation, a row above the last reads as the row below it did. -/
theorem getRowByOffset_incrementCircularBuffer_of_lt {b : TextBuffer} (h : b.Inv)
    (fill : TextAttribute) {y : Int} (h0 : 0 ≤ y) (h1 : y + 1 < b.height) :
    (b.incrementCircularBuffer fill).getRowByOffset y = b.getRowByOffset (y + 1) := by
  have := b.height_pos
  rw [h.getRowByOffset_incrementCircularBuffer, if_neg]
  rw [b.rowOffset_inj ⟨by omega, h1⟩ ⟨le_rfl, by omega⟩]
  omega

/-- The write of a turn over ASCII text: the `k` code units that fit written into row `y` from
column `x`, a cell each, the row wrap-forced when they reach the edge, and no other row
changed; what is left is the move of the cursor to the column after them. -/
theorem unprocessedStep_of_ascii_write {si : ScreenInformation} {text : List UInt16} {x y : Int}
    {k : Nat} (hascii : ∀ c ∈ text, c.toNat < 0x80) (hwrap : si.outputMode.wrapAtEolOutput = true)
    (hinv : si.textBuffer.Inv) (hpos : si.textBuffer.cursor.position = ⟨x, y⟩)
    (hx : 0 ≤ x ∧ x < si.textBuffer.width) (hy : 0 ≤ y ∧ y < si.textBuffer.height)
    (hk : k = min text.length (si.textBuffer.width - x).toNat) :
    (unprocessedStep ex si text).2 = text.drop k ∧
    ∃ T : TextBuffer,
      (unprocessedStep ex si text).1 = adjustCursorPosition { si with textBuffer := T } ⟨x + k, y⟩ ∧
      TextBuffer.SameGeometry si.textBuffer T ∧ T.currentAttributes = si.textBuffer.currentAttributes ∧
      T.Inv ∧ (∀ i (hi : i < k), (T.getRowByOffset y).cellAt (x.toNat + i) = asciiCell text[i]) ∧
      (x + k = si.textBuffer.width → (T.getRowByOffset y).wrapForced = true) ∧
      ∀ y' : Int, 0 ≤ y' → y' < si.textBuffer.height → y' ≠ y →
        T.getRowByOffset y' = si.textBuffer.getRowByOffset y' := by
  obtain ⟨hx0, hxw⟩ := hx
  have hpx : si.textBuffer.cursor.position.x = x := by rw [hpos]
  have hpy : si.textBuffer.cursor.position.y = y := by rw [hpos]
  have hfitk : fitTextIntoColumns ex.isGlyphFullWidth text (si.textBuffer.width - x) = (k, k) := by
    rw [fitTextIntoColumns_of_ascii _ hascii, max_eq_right (by omega), ← hk]
  have hx0' : 0 ≤ si.textBuffer.cursor.position.x := by omega
  have hxw' : si.textBuffer.cursor.position.x < si.textBuffer.width := by omega
  refine ⟨by rw [unprocessedStep_snd _ _ _ ⟨hx0', hxw'⟩, hpx, hfitk], ?_⟩
  set F : Row → Row := fun r => (Row.replaceText ex.isGlyphFullWidth
    ⟨text, x, si.textBuffer.width, 0⟩ r).replaceAttributes
      x.toNat (x + k).toNat si.textBuffer.currentAttributes with hF
  set T := if x + k ≥ si.textBuffer.width then
    (si.textBuffer.modifyRow y F).setWrapForced y true else si.textBuffer.modifyRow y F with hT
  have he : (unprocessedStep ex si text).1 =
      adjustCursorPosition { si with textBuffer := T } ⟨x + k, y⟩ := by
    simp only [unprocessedStep, TextBuffer.write]
    rw [RowWriteState.replaceText_of_lt _ hx0' hxw' le_rfl]
    simp only [hfitk, hpx, hpy, hwrap, true_and, hT, hF]
  have hlen : (si.textBuffer.getRowByOffset y).cells.length = si.textBuffer.width := hinv.rowsFit _
  have hF1 : ∀ r : Row, (si.textBuffer.width : Int) ≤ r.cells.length →
      F r = (r.overwrite x.toNat ((text.take k).map asciiCell)).replaceAttributes
        x.toNat (x + k).toNat si.textBuffer.currentAttributes := fun r hr => by
    simp only [hF]
    rw [Row.replaceText_of_ascii _ hascii hx0 hxw hr]
    dsimp only
    rw [max_eq_right (by omega), ← hk]
  have hnew : x.toNat + ((text.take k).map asciiCell).length ≤
      (si.textBuffer.getRowByOffset y).cells.length := by
    rw [hlen, List.length_map, List.length_take]; omega
  have hFlen : (F (si.textBuffer.getRowByOffset y)).cells.length =
      (si.textBuffer.getRowByOffset y).cells.length := by
    rw [hF1 _ (by rw [hlen])]; exact Row.cells_length_overwrite _ hnew
  have hrows : ∀ y', T.getRowByOffset y' = if si.textBuffer.rowOffset y' = si.textBuffer.rowOffset y
      then (if x + k ≥ si.textBuffer.width then
        { F (si.textBuffer.getRowByOffset y) with wrapForced := true }
        else F (si.textBuffer.getRowByOffset y))
      else si.textBuffer.getRowByOffset y' := fun y' => by
    rw [hT]
    split
    · rw [TextBuffer.setWrapForced, TextBuffer.getRowByOffset_modifyRow,
        TextBuffer.getRowByOffset_modifyRow_self, TextBuffer.getRowByOffset_modifyRow]
      rw [show (si.textBuffer.modifyRow y F).rowOffset = si.textBuffer.rowOffset from rfl]
      split_ifs <;> rfl
    · exact TextBuffer.getRowByOffset_modifyRow _ _ _ _
  refine ⟨T, he, ?_, ?_, ?_, fun i hi => ?_, fun hedge => ?_, fun y' h0 h1 hne => ?_⟩
  · rw [hT]; split
    · exact (si.textBuffer.sameGeometry_modifyRow y F).trans (TextBuffer.sameGeometry_modifyRow _ _ _)
    · exact si.textBuffer.sameGeometry_modifyRow y F
  · rw [hT]; split <;> simp only [TextBuffer.setWrapForced, TextBuffer.currentAttributes_modifyRow]
  · rw [hT]; split
    · exact (hinv.modifyRow y F hFlen).modifyRow y _
        (by rw [TextBuffer.getRowByOffset_modifyRow_self])
    · exact hinv.modifyRow y F hFlen
  · have hc : (F (si.textBuffer.getRowByOffset y)).cellAt (x.toNat + i) = asciiCell text[i] := by
      rw [hF1 _ (by rw [hlen])]
      refine (Row.cellAt_overwrite _ hnew (by rw [List.length_map, List.length_take]; omega)).trans ?_
      simp only [List.getElem_map, List.getElem_take]
    rw [hrows, if_pos rfl]
    split <;> exact hc
  · rw [hrows, if_pos rfl, if_pos (by omega)]
  · rw [hrows, if_neg fun h => hne ((TextBuffer.rowOffset_inj _ ⟨h0, h1⟩ hy).1 h)]

/-- What a turn over the ASCII `text` from `(x, y)` leaves in `B` besides the cursor: the `k`
code units that fit, written into row `y` from column `x`, a cell each, the row wrap-forced when
they reach the edge, and the ring rotated `r` times, once when the turn ran off the last row, so
that row `y` and every other row read `r` rows higher up. -/
structure AsciiTurn (b : TextBuffer) (x y : Int) (text : List UInt16) (k r : Nat) (B : TextBuffer) :
    Prop where
  le : k ≤ text.length
  width : B.width = b.width
  height : B.height = b.height
  inv : B.Inv
  scrolls : r = (y + (x + k) / b.width - (b.height - 1)).toNat
  cells : ∀ i (hi : i < k), 0 ≤ y - r →
    (B.getRowByOffset (y - r)).cellAt (x.toNat + i) = asciiCell text[i]
  wrapForced : x + k = b.width → 0 ≤ y - r → (B.getRowByOffset (y - r)).wrapForced = true
  others : ∀ y' : Int, 0 ≤ y' → y' + r < b.height → y' + r ≠ y →
    B.getRowByOffset y' = b.getRowByOffset (y' + r)

/-- **A turn over ASCII text.**  From `(x, y)` inside the buffer, with wrapping on, a turn
takes the `k` code units that fit before the right edge, writes them as `AsciiTurn` says, and
moves the cursor to the cell after them: wrapped to the next row from the edge, and kept on
the last row by a rotation. -/
theorem unprocessedStep_of_ascii {si : ScreenInformation} {text : List UInt16} {x y : Int}
    {k : Nat} (hascii : ∀ c ∈ text, c.toNat < 0x80) (hwrap : si.outputMode.wrapAtEolOutput = true)
    (hinv : si.textBuffer.Inv) (hpos : si.textBuffer.cursor.position = ⟨x, y⟩)
    (hx : 0 ≤ x ∧ x < si.textBuffer.width) (hy : 0 ≤ y ∧ y < si.textBuffer.height)
    (hk : k = min text.length (si.textBuffer.width - x).toNat) :
    (unprocessedStep ex si text).2 = text.drop k ∧
    ∃ (B : TextBuffer) (r : Nat), (unprocessedStep ex si text).1 = { si with textBuffer :=
        (B.setCursorPosition ⟨(x + k) % si.textBuffer.width, y + (x + k) / si.textBuffer.width - r⟩) } ∧
      AsciiTurn si.textBuffer x y text k r B := by
  obtain ⟨hsnd, T, he, hTg, hTa, hTinv, hcells, hwf, hframe⟩ :=
    @unprocessedStep_of_ascii_write ex _ _ _ _ _ hascii hwrap hinv hpos hx hy hk
  have hw := si.textBuffer.width_pos
  have hkl : k ≤ text.length := by omega
  have hq0 : 0 ≤ (x + k) / si.textBuffer.width := Int.ediv_nonneg (by omega) (by omega)
  have hq1 : (x + k) / si.textBuffer.width ≤ 1 := by
    have := Int.ediv_le_ediv (c := si.textBuffer.width) (by omega)
      (show x + k ≤ si.textBuffer.width by omega)
    rwa [Int.ediv_self (by omega)] at this
  refine ⟨hsnd, ?_⟩
  rw [he, adjustCursorPosition_of_wrap _ ?_ ?_]
  rotate_left
  · exact hwrap
  · dsimp only; omega
  dsimp only
  rw [hTg.width, hTg.height, hTa]
  split
  · -- the turn ran off the last row: the ring rotates
    rename_i hrot
    have hrow : ∀ y' : Int, 0 ≤ y' → y' + 1 < si.textBuffer.height →
        (T.incrementCircularBuffer si.textBuffer.currentAttributes).getRowByOffset y' =
          T.getRowByOffset (y' + 1) := fun y' h0 h1 =>
      getRowByOffset_incrementCircularBuffer_of_lt hTinv _ h0 (by rw [hTg.height]; exact h1)
    have hy1 : y - ((1 : Nat) : Int) + 1 = y := by omega
    refine ⟨T.incrementCircularBuffer si.textBuffer.currentAttributes, 1, by congr 3; omega,
      ⟨hkl, by rw [TextBuffer.width_incrementCircularBuffer, hTg.width],
        by rw [TextBuffer.height_incrementCircularBuffer, hTg.height], hTinv.incrementCircularBuffer _,
        by omega, fun i hi h0 => ?_, fun hedge h0 => ?_, fun y' h0 h1 hne => ?_⟩⟩
    · rw [hrow _ h0 (by omega), hy1]; exact hcells i hi
    · rw [hrow _ h0 (by omega), hy1]; exact hwf hedge
    · rw [hrow _ h0 (by omega)]; exact hframe _ (by omega) (by omega) (by omega)
  · -- the cursor stays inside the buffer
    rename_i hrot
    refine ⟨T, 0, by rw [Nat.cast_zero, Int.sub_zero], ⟨hkl, hTg.width, hTg.height, hTinv,
      by omega, fun i hi _ => ?_, fun hedge _ => ?_, fun y' h0 h1 hne => ?_⟩⟩
    · rw [Nat.cast_zero, Int.sub_zero]; exact hcells i hi
    · rw [Nat.cast_zero, Int.sub_zero]; exact hwf hedge
    · rw [Nat.cast_zero, Int.add_zero]; exact hframe y' h0 (by omega) (by omega)

/-- Where a write of the ASCII `text` from `(x, y)` into `b` has put it in `b'`, the ring rotated
`s` times: code unit `i` in column `(x + i) % width` of row `y + (x + i) / width - s` while that
row is still in the buffer, every row the text ran off the right edge of wrap-forced, the rows
above moved up `s` rows, the rows below as they were, and the cursor on the cell after the
text. -/
structure LaidOut (b : TextBuffer) (x y : Int) (text : List UInt16) (s : Nat) (b' : TextBuffer) :
    Prop where
  cursor : b'.cursor.position =
    ⟨(x + text.length) % b.width, y + (x + text.length) / b.width - s⟩
  cells : ∀ i (hi : i < text.length), 0 ≤ y + (x + i) / b.width - s →
    (b'.getRowByOffset (y + (x + i) / b.width - s)).cellAt ((x + i) % b.width).toNat =
      asciiCell text[i]
  wrapForced : ∀ y', y ≤ y' → y' < y + (x + text.length) / b.width → 0 ≤ y' - s →
    (b'.getRowByOffset (y' - s)).wrapForced = true
  above : ∀ y' : Int, 0 ≤ y' → y' < y - s → b'.getRowByOffset y' = b.getRowByOffset (y' + s)
  below : ∀ y' : Int, y + (x + text.length) / b.width - s < y' → y' < b.height →
    b'.getRowByOffset y' = b.getRowByOffset y'

/-- The empty text is laid out where it starts. -/
theorem laidOut_nil {b : TextBuffer} {x y : Int} (hpos : b.cursor.position = ⟨x, y⟩) (hx0 : 0 ≤ x)
    (hxw : x < b.width) (hyh : y < b.height) :
    LaidOut b x y [] ((y + (x + ([] : List UInt16).length) / b.width - (b.height - 1)).toNat) b := by
  have hq : (x + ([] : List UInt16).length) / b.width = 0 :=
    Int.ediv_eq_zero_of_lt (by simpa using hx0) (by simpa using hxw)
  have hs : (y + (x + ([] : List UInt16).length) / b.width - (b.height - 1)).toNat = 0 := by omega
  rw [hs]
  refine ⟨?_, fun i hi => absurd hi (Nat.not_lt_zero i), fun y' h1 h2 => by omega,
    fun _ _ _ => by rw [Nat.cast_zero, Int.add_zero], fun _ _ _ => rfl⟩
  rw [hpos, hq, Int.add_zero, Nat.cast_zero, Int.sub_zero, List.length_nil, Nat.cast_zero,
    Int.add_zero, Int.emod_eq_of_lt hx0 hxw]

/-- A turn that took the whole text lays it out. -/
theorem laidOut_of_turn {b B : TextBuffer} {x y : Int} {text : List UInt16} {r : Nat}
    (t : AsciiTurn b x y text text.length r B) (hx0 : 0 ≤ x) (hy : 0 ≤ y ∧ y < b.height)
    (hfits : x + text.length ≤ b.width) :
    LaidOut b x y text ((y + (x + text.length) / b.width - (b.height - 1)).toNat)
      (B.setCursorPosition ⟨(x + text.length) % b.width, y + (x + text.length) / b.width - r⟩) := by
  have hw := b.width_pos
  have hq0 : 0 ≤ (x + text.length) / b.width := Int.ediv_nonneg (by omega) (by omega)
  have hq1 : (x + text.length) / b.width ≤ 1 := by
    have := Int.ediv_le_ediv (c := b.width) (by omega) hfits
    rwa [Int.ediv_self (by omega)] at this
  have hr := t.scrolls
  rw [← hr]
  refine ⟨rfl, fun i hi h0 => ?_, fun y' h1 h2 h3 => ?_, fun y' h0 h1 => t.others y' h0 (by omega) (by omega),
    fun y' h1 h2 => ?_⟩
  · have hxi : x + i < b.width := by omega
    rw [Int.ediv_eq_zero_of_lt (by omega) hxi, Int.add_zero] at h0 ⊢
    rw [Int.emod_eq_of_lt (by omega) hxi, Int.toNat_add_nat hx0]
    exact t.cells i hi h0
  · have hedge : x + text.length = b.width := by
      by_contra hne
      have : (x + text.length) / b.width = 0 := Int.ediv_eq_zero_of_lt (by omega) (by omega)
      omega
    obtain rfl : y' = y := by omega
    exact t.wrapForced hedge h3
  · obtain rfl : r = 0 := by omega
    simpa using t.others y' (by omega) (by omega) (by omega)

/-- A turn that ran off the right edge, followed by the rest of the text laid out from column
`0` of the next row, lays out the whole text. -/
theorem LaidOut.of_turn {b B b₁ b' : TextBuffer} {x y : Int} {text : List UInt16} {k r s₁ : Nat}
    (hl : LaidOut b₁ 0 (y + 1 - r) (text.drop k) s₁ b') (t : AsciiTurn b x y text k r B)
    (hx0 : 0 ≤ x) (hy : 0 ≤ y ∧ y < b.height) (hedge : x + k = b.width)
    (hb₁ : b₁.getRowByOffset = B.getRowByOffset) (hw₁ : b₁.width = b.width)
    (hh₁ : b₁.height = b.height)
    (hs₁ : s₁ = (y + 1 - r + (0 + (text.drop k).length) / b₁.width - (b₁.height - 1)).toNat) :
    LaidOut b x y text ((y + (x + text.length) / b.width - (b.height - 1)).toNat) b' := by
  have hw := b.width_pos
  have hlen : (text.length : Int) = k + (text.drop k).length := by
    rw [List.length_drop]; have := t.le; omega
  have hshift : ∀ j : Int, (x + (k + j)) % b.width = (0 + j) % b₁.width ∧
      (x + (k + j)) / b.width = 1 + (0 + j) / b₁.width := fun j => by
    rw [hw₁, ← Int.add_assoc, hedge, Int.add_emod_self_left, Int.add_ediv_of_dvd_left (dvd_refl _),
      Int.ediv_self (by omega), Int.zero_add]
    exact ⟨rfl, rfl⟩
  have hr := t.scrolls
  rw [hedge, Int.ediv_self (by omega)] at hr
  rw [hw₁, hh₁] at hs₁
  have hq₁ : 0 ≤ (0 + ((text.drop k).length : Int)) / b₁.width := Int.ediv_nonneg (by omega) (by omega)
  have hend : (x + text.length) / b.width = 1 + (0 + ((text.drop k).length : Int)) / b₁.width := by
    rw [hlen, (hshift _).2]
  have hs : (y + (x + text.length) / b.width - (b.height - 1)).toNat = r + s₁ := by
    rw [hend]; rw [hw₁] at hq₁ ⊢; omega
  rw [hs]
  have hrowy : 0 ≤ y - ((r + s₁ : Nat) : Int) →
      b'.getRowByOffset (y - ((r + s₁ : Nat) : Int)) = B.getRowByOffset (y - r) := fun h0 => by
    rw [Nat.cast_add, show y - (r + s₁) = y - r - s₁ by omega, hl.above _ (by omega) (by omega),
      hb₁, Int.sub_add_cancel]
  refine ⟨?_, fun i hi h0 => ?_, fun y' h1 h2 h3 => ?_, fun y' h0 h1 => ?_, fun y' h1 h2 => ?_⟩
  · rw [hl.cursor, hlen, (hshift _).1, (hshift _).2, Nat.cast_add]
    congr 1
    omega
  · by_cases hik : i < k
    · have hxi : x + i < b.width := by omega
      rw [Int.ediv_eq_zero_of_lt (by omega) hxi, Int.add_zero] at h0 ⊢
      rw [Int.emod_eq_of_lt (by omega) hxi, Int.toNat_add_nat hx0, hrowy h0]
      exact t.cells i hik (by omega)
    · obtain ⟨j, rfl⟩ : ∃ j, i = k + j := ⟨i - k, by omega⟩
      rw [Nat.cast_add, (hshift _).2] at h0
      have := hl.cells j (by rw [List.length_drop]; omega) (by omega)
      rw [List.getElem_drop] at this
      rw [Nat.cast_add, (hshift _).1, (hshift _).2,
        show y + (1 + (0 + (j : Int)) / b₁.width) - ((r + s₁ : Nat) : Int) =
          y + 1 - r + (0 + j) / b₁.width - s₁ by push_cast; omega]
      exact this
  · rw [hend] at h2
    by_cases hyy : y' = y
    · subst hyy
      rw [hrowy (by omega)]
      exact t.wrapForced hedge (by omega)
    · have := hl.wrapForced (y' - r) (by omega) (by omega) (by omega)
      rwa [Nat.cast_add, show y' - (r + s₁) = y' - r - s₁ by omega]
  · rw [Nat.cast_add] at h1
    rw [hl.above y' h0 (by omega), hb₁, t.others (y' + s₁) (by omega) (by omega) (by omega),
      Nat.cast_add, Int.add_assoc, Int.add_comm (s₁ : Int)]
  · rw [hend, Nat.cast_add] at h1
    rw [hl.below y' (by omega) (by rw [hh₁]; exact h2), hb₁]
    obtain rfl : r = 0 := by omega
    simpa using t.others y' (by omega) (by omega) (by omega)

/-- On a buffer that keeps its invariant, with wrapping on and the cursor inside the buffer,
`_writeCharsLegacyUnprocessed` lays ASCII text out from the cursor, within a turn a code unit,
the ring rotated once for each row the text runs past the bottom. -/
theorem writeCharsLegacyUnprocessed_laidOut :
    ∀ (fuel : Nat) {si : ScreenInformation} {text : List UInt16} {x y : Int},
      (∀ c ∈ text, c.toNat < 0x80) → si.outputMode.wrapAtEolOutput = true → si.textBuffer.Inv →
      si.textBuffer.cursor.position = ⟨x, y⟩ → 0 ≤ x → x < si.textBuffer.width → 0 ≤ y →
      y < si.textBuffer.height → text.length ≤ fuel →
      ∃ si', writeCharsLegacyUnprocessed ex fuel si text = some si' ∧
        LaidOut si.textBuffer x y text ((y + (x + text.length) / si.textBuffer.width -
          (si.textBuffer.height - 1)).toNat) si'.textBuffer
  | fuel, si, [], _, _, _, _, _, hpos, hx0, hxw, _, hyh, _ =>
    ⟨si, by cases fuel <;> rfl, laidOut_nil hpos hx0 hxw hyh⟩
  | 0, _, _ :: _, _, _, _, _, _, _, _, _, _, _, hfuel => absurd hfuel (by simp)
  | fuel + 1, si, c :: cs, x, y, hascii, hwrap, hinv, hpos, hx0, hxw, hy, hyh, hfuel => by
    have hw := si.textBuffer.width_pos
    generalize hkdef : min (c :: cs).length (si.textBuffer.width - x).toNat = k
    obtain ⟨hsnd, B, r, he, t⟩ :=
      @unprocessedStep_of_ascii ex si _ x y k hascii hwrap hinv hpos ⟨hx0, hxw⟩ ⟨hy, hyh⟩ hkdef.symm
    rw [writeCharsLegacyUnprocessed, hsnd, he]
    by_cases hall : k = (c :: cs).length
    · -- the whole text fits into the row
      subst hall
      rw [List.drop_length]
      exact ⟨_, by cases fuel <;> rfl, laidOut_of_turn t hx0 ⟨hy, hyh⟩ (by omega)⟩
    · -- the text runs off the right edge: the rest goes on from column 0 of the next row
      have hedge : x + k = si.textBuffer.width := by omega
      have hr := t.scrolls
      rw [hedge, Int.ediv_self (by omega)] at hr
      set si₁ : ScreenInformation := { si with textBuffer := (B.setCursorPosition
          ⟨(x + k) % si.textBuffer.width, y + (x + k) / si.textBuffer.width - r⟩) } with hsi₁
      have hpos₁ : si₁.textBuffer.cursor.position = ⟨0, y + 1 - r⟩ := by
        show (⟨(x + k) % si.textBuffer.width, y + (x + k) / si.textBuffer.width - r⟩ : Point) = _
        rw [hedge, Int.emod_self, Int.ediv_self (by omega)]
      obtain ⟨si', he', hl⟩ := @writeCharsLegacyUnprocessed_laidOut fuel si₁ ((c :: cs).drop k) 0
        (y + 1 - r) (fun d hd => hascii d (List.mem_of_mem_drop hd)) hwrap
        (t.inv.setCursorPosition _) hpos₁ le_rfl
        (by show (0 : Int) < B.width; rw [t.width]; omega) (by omega)
        (by show y + 1 - r < B.height; rw [t.height]; omega)
        (by rw [List.length_drop]; simp only [List.length_cons] at hfuel ⊢; omega)
      exact ⟨si', he', hl.of_turn t hx0 ⟨hy, hyh⟩ hedge rfl t.width t.height rfl⟩

/-- Without a delayed wrap at the cursor, `WriteCharsLegacy` starts from the buffer and the
mode as they are. -/
theorem applyDelayedEolWrap_of_ne {si : ScreenInformation}
    (h : si.delayedEolWrap ≠ some si.textBuffer.cursor.position) :
    (applyDelayedEolWrap si).textBuffer = si.textBuffer ∧
      (applyDelayedEolWrap si).outputMode = si.outputMode := by
  unfold applyDelayedEolWrap
  split
  · rename_i delayed hd
    dsimp only
    split_ifs with hw hdp
    · exact absurd (hd.trans (congrArg some hdp)) h
    all_goals exact ⟨rfl, rfl⟩
  · exact ⟨rfl, rfl⟩

/-- Without a delayed wrap at the cursor, and with `ENABLE_PROCESSED_OUTPUT` clear or no
control character in the text, `WriteCharsLegacy` is `_writeCharsLegacyUnprocessed`. -/
theorem writeCharsLegacy_eq_unprocessed {si : ScreenInformation} {text : List UInt16} (fuel : Nat)
    (hd : si.delayedEolWrap ≠ some si.textBuffer.cursor.position)
    (hglyphs : si.outputMode.processedOutput = true → ∀ c ∈ text, isGlyphChar c = true) :
    writeCharsLegacy ex fuel si text =
      writeCharsLegacyUnprocessed ex fuel (applyDelayedEolWrap si) text := by
  unfold writeCharsLegacy
  dsimp only
  split
  · rename_i hp
    rw [processedLoop_of_glyphs _ _ _ _ (hglyphs ((applyDelayedEolWrap_of_ne hd).2 ▸ hp)),
      List.nil_append, flushRun]
    split
    · subst_vars; cases fuel <;> rfl
    · rfl
  · rfl

/-- **ASCII text lands row-major from the cursor.**  On a buffer that keeps its invariant, with
`ENABLE_WRAP_AT_EOL_OUTPUT` set and the cursor at `(x, y)` inside the buffer,
`_writeCharsLegacyUnprocessed` returns within a turn a code unit, with the ring rotated once for
each row the text runs past the bottom, `s` times in all.  Code unit `i` of an ASCII text is
then a one-column cell in column `(x + i) % width` of row `y + (x + i) / width - s` while that
row is in the buffer, every row the text ran off the right edge of is wrap-forced, the rows
above the text have moved up `s` rows, those below it are as they were, and the cursor is on
the cell after the text.  So does `WriteCharsLegacy` when no delayed wrap waits at the cursor
and, with `ENABLE_PROCESSED_OUTPUT` set, the text has no control character. -/
theorem writeCharsLegacy_laidOut (fuel : Nat) (si : ScreenInformation) (text : List UInt16)
    (x y : Int) (hascii : ∀ c ∈ text, c.toNat < 0x80) (hwrap : si.outputMode.wrapAtEolOutput = true)
    (hinv : si.textBuffer.Inv) (hpos : si.textBuffer.cursor.position = ⟨x, y⟩) (hx0 : 0 ≤ x)
    (hxw : x < si.textBuffer.width) (hy : 0 ≤ y) (hyh : y < si.textBuffer.height)
    (hfuel : text.length ≤ fuel) :
    (∃ si', writeCharsLegacyUnprocessed ex fuel si text = some si' ∧
      LaidOut si.textBuffer x y text ((y + (x + text.length) / si.textBuffer.width -
        (si.textBuffer.height - 1)).toNat) si'.textBuffer) ∧
    (si.delayedEolWrap ≠ some ⟨x, y⟩ →
      (si.outputMode.processedOutput = true → ∀ c ∈ text, isGlyphChar c = true) →
      ∃ si', writeCharsLegacy ex fuel si text = some si' ∧
        LaidOut si.textBuffer x y text ((y + (x + text.length) / si.textBuffer.width -
          (si.textBuffer.height - 1)).toNat) si'.textBuffer) := by
  refine ⟨writeCharsLegacyUnprocessed_laidOut fuel hascii hwrap hinv hpos hx0 hxw hy hyh hfuel,
    fun hd hglyphs => ?_⟩
  have hd' : si.delayedEolWrap ≠ some si.textBuffer.cursor.position := by rw [hpos]; exact hd
  obtain ⟨hb, hm⟩ := applyDelayedEolWrap_of_ne hd'
  rw [writeCharsLegacy_eq_unprocessed fuel hd' hglyphs, ← hb]
  exact writeCharsLegacyUnprocessed_laidOut fuel hascii (by rw [hm]; exact hwrap)
    (by rw [hb]; exact hinv) (by rw [hb]; exact hpos) hx0 (by rw [hb]; exact hxw) hy
    (by rw [hb]; exact hyh) hfuel

/-- A screen three columns wide and two rows high, processed output, wrapping on, the cursor in
column `1` of the bottom row.  Five letters fill the rest of that row, rotate the ring, and
fill the first column of the new bottom row. -/
def asciiScreen : ScreenInformation :=
  ⟨((TextBuffer.create ⟨3, 2⟩ {} 1 false 0 0).get (by decide)).setCursorPosition ⟨1, 1⟩,
    ⟨true, true, false⟩, none⟩

theorem writeCharsLegacy_laidOut_fiveLetters :
    let text : List UInt16 := [0x61, 0x62, 0x63, 0x64, 0x65]
    ((∀ c ∈ text, c.toNat < 0x80) ∧ asciiScreen.outputMode.wrapAtEolOutput = true ∧
      asciiScreen.textBuffer.Inv ∧ asciiScreen.textBuffer.cursor.position = ⟨1, 1⟩ ∧
      (0 : Int) ≤ 1 ∧ (1 : Int) < asciiScreen.textBuffer.width ∧ (0 : Int) ≤ 1 ∧
      (1 : Int) < asciiScreen.textBuffer.height ∧ text.length ≤ 5) ∧
    ((∃ si', writeCharsLegacyUnprocessed wideGlyphs 5 asciiScreen text = some si' ∧
      LaidOut asciiScreen.textBuffer 1 1 text (((1 : Int) + (1 + text.length) / asciiScreen.textBuffer.width -
        (asciiScreen.textBuffer.height - 1)).toNat) si'.textBuffer) ∧
    (asciiScreen.delayedEolWrap ≠ some ⟨1, 1⟩ →
      (asciiScreen.outputMode.processedOutput = true → ∀ c ∈ text, isGlyphChar c = true) →
      ∃ si', writeCharsLegacy wideGlyphs 5 asciiScreen text = some si' ∧
        LaidOut asciiScreen.textBuffer 1 1 text (((1 : Int) + (1 + text.length) / asciiScreen.textBuffer.width -
          (asciiScreen.textBuffer.height - 1)).toNat) si'.textBuffer)) :=
  have hascii : ∀ c ∈ ([0x61, 0x62, 0x63, 0x64, 0x65] : List UInt16), c.toNat < 0x80 := by decide
  have hinv : asciiScreen.textBuffer.Inv :=
    (TextBuffer.inv_create (Option.some_get (by decide)).symm).setCursorPosition _
  have hxw : (1 : Int) < asciiScreen.textBuffer.width := by decide
  have hyh : (1 : Int) < asciiScreen.textBuffer.height := by decide
  ⟨⟨hascii, rfl, hinv, rfl, by decide, hxw, by decide, hyh, le_rfl⟩,
    writeCharsLegacy_laidOut 5 asciiScreen _ 1 1 hascii rfl hinv rfl (by decide) hxw (by decide) hyh
      le_rfl⟩

end Host

end TerminalBuffer
