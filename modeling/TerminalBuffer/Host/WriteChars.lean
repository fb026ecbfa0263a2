/-
`WriteCharsLegacy` and its loop `_writeCharsLegacyUnprocessed`, the write path of the
legacy console.

The loop writes the text into the cursor's row from the cursor's column with
`TextBuffer::Write`, which takes what fits before the buffer's right edge, marks the row
wrap-forced when the write reached that edge and `ENABLE_WRAP_AT_EOL_OUTPUT` is set, and
hands the column the write ended at to `AdjustCursorPosition`.  That puts the cursor back
inside the buffer: past the right edge it wraps to the next row when wrapping is on and
stays where it was when it is off, and past the bottom it rotates the ring.  The loop runs
while text is left.  `WriteCharsLegacy` hands it the whole text when
`ENABLE_PROCESSED_OUTPUT` is clear, and otherwise every run between control characters,
which it handles itself.

`ROW::ReplaceText` is not among the sources; the comment on `FitTextIntoColumns` gives its
contract, which is what the model writes: both columns clamped into the row, the glyphs that
fit are written, a glyph that does not fit is left in the text, and the write then reports the
whole limit as used.  Under that
contract a wide glyph that never fits is never written.  With wrapping off and the cursor in
the last column the loop writes nothing, the cursor goes back to that column, and the next
turn does the same; a buffer one column wide does the same with wrapping on, from column `0`
of the next row.  Neither loop ever ends (`writeCharsLegacy_wide_glyph_never_returns`).  With
wrapping on and two columns or more a glyph that does not fit moves the cursor to column `0`,
where every glyph fits, so every two turns take a code unit at least and the loop ends
within `2 · length + 1` turns (`writeCharsLegacyUnprocessed_returns`).  The processed loop
hands the loop every run of glyph characters and each control character's spaces, and moves
the cursor itself for the others, always through `AdjustCursorPosition`; with wrapping on that
keeps the cursor inside the buffer, so `WriteCharsLegacy` returns with it there
(`writeCharsLegacy_returns`).

Not modelled: the viewport `AdjustCursorPosition` scrolls, and the renderer and
accessibility notifications, none of which the loop reads back.
-/
import TerminalBuffer.Columns
import TerminalBuffer.Cursor

namespace TerminalBuffer

/-- What the write path calls that is not among the sources: `IsGlyphFullWidth`,
`ROW::NavigateToPrevious`, and `MultiByteToWideChar(OutputCP, MB_USEGLYPHCHARS, ..)` of one
byte, `none` where it does not return one code unit. -/
structure Externals where
  isGlyphFullWidth : List UInt16 → Bool
  navigateToPrevious : Row → Int → Int
  glyphChar : UInt8 → Option UInt16

/-- `RowWriteState`, by the fields the write path reads. -/
structure RowWriteState where
  text : List UInt16
  columnBegin : Int
  columnLimit : Int
  columnEnd : Int := 0
deriving DecidableEq, Repr

section Write

variable (isGlyphFullWidth : List UInt16 → Bool)

/-- What `ROW::ReplaceText(state)` leaves in `state` on a row of `columnCount` columns: the
text not written and `columnEnd`.  Both columns are clamped into `[0, columnCount]` first, as
`_clampedColumnInclusive` does; with no column between them nothing is written and
`columnEnd` is the clamped `columnBegin`. -/
def RowWriteState.replaceText (columnCount : Nat) (state : RowWriteState) : RowWriteState :=
  let colBeg := min state.columnBegin.toNat columnCount
  let colLimit := min state.columnLimit.toNat columnCount
  if colBeg < colLimit then
    let fit := fitTextIntoColumns isGlyphFullWidth state.text (colLimit - colBeg : Nat)
    { state with text := state.text.drop fit.1, columnEnd := colBeg + fit.2 }
  else { state with columnEnd := colBeg }

/-- The cells one unit is written as: over one column, or as the two halves of a wide glyph.
The cells hold the unit as it was written; a lone surrogate is measured as U+FFFD only. -/
def unitCells (u : List UInt16) : List Cell :=
  if unitColumns isGlyphFullWidth u = 2 then [⟨u, .leading⟩, ⟨u, .trailing⟩] else [⟨u, .single⟩]

/-- Modelled from the contract at `FitTextIntoColumns`: the cells `ROW::ReplaceText(state)`
writes, the glyphs that fit from `columnBegin` and spaces up to `columnEnd`, both columns
clamped into the row first; with no column between them the row is left alone. -/
def Row.replaceText (state : RowWriteState) (r : Row) : Row :=
  let colBeg := r.clampedColumnInclusive state.columnBegin
  let colLimit := r.clampedColumnInclusive state.columnLimit
  if colBeg < colLimit then
    let fit := fitTextIntoColumns isGlyphFullWidth state.text (colLimit - colBeg : Nat)
    let written := ((units (state.text.take fit.1)).map (unitCells isGlyphFullWidth)).flatten
    r.overwrite colBeg (written ++ List.replicate (fit.2 - written.length) Cell.space)
  else r

/-- Modelled from the spec: `ROW::ReplaceAttributes(beginIndex, endIndex, newAttr)`. -/
def Row.replaceAttributes (r : Row) (beginIndex endIndex : Nat) (newAttr : TextAttribute) : Row :=
  { r with attrs := r.attrs.take beginIndex ++
      List.replicate (min endIndex r.attrs.length - beginIndex) newAttr ++ r.attrs.drop endIndex }

namespace TextBuffer

/-- `TextBuffer::Write(row, attributes, state)`: the buffer and the state after.  Every row is
`_width` columns, as `_construct` builds it, so `ReplaceText` clamps to the width. -/
def write (b : TextBuffer) (row : Int) (attributes : TextAttribute) (state : RowWriteState) :
    TextBuffer × RowWriteState :=
  let after := state.replaceText isGlyphFullWidth b.width
  (b.modifyRow row fun r => (Row.replaceText isGlyphFullWidth state r).replaceAttributes
      after.columnBegin.toNat after.columnEnd.toNat attributes,
    after)

/-- `SetWrapForced(y, wrap)`. -/
def setWrapForced (b : TextBuffer) (y : Int) (wrap : Bool) : TextBuffer :=
  b.modifyRow y fun r => { r with wrapForced := wrap }

end TextBuffer

/-- Inside the row the clamp changes nothing: `FitTextIntoColumns` over the columns from
`columnBegin` to `columnLimit`. -/
theorem RowWriteState.replaceText_of_lt {n : Nat} {state : RowWriteState}
    (h0 : 0 ≤ state.columnBegin) (h1 : state.columnBegin < state.columnLimit)
    (h2 : state.columnLimit ≤ n) :
    state.replaceText isGlyphFullWidth n = { state with
      text := state.text.drop (fitTextIntoColumns isGlyphFullWidth state.text
        (state.columnLimit - state.columnBegin)).1,
      columnEnd := state.columnBegin + (fitTextIntoColumns isGlyphFullWidth state.text
        (state.columnLimit - state.columnBegin)).2 } := by
  have hd : ((min state.columnLimit.toNat n - min state.columnBegin.toNat n : Nat) : Int) =
      state.columnLimit - state.columnBegin := by omega
  have hb : ((min state.columnBegin.toNat n : Nat) : Int) = state.columnBegin := by omega
  simp only [RowWriteState.replaceText]
  rw [if_pos (by omega), hd, hb]

/-- Inside the row the clamp changes nothing: the glyphs that fit from `columnBegin`, then
spaces. -/
theorem Row.replaceText_of_lt {state : RowWriteState} {r : Row}
    (h0 : 0 ≤ state.columnBegin) (h1 : state.columnBegin < state.columnLimit)
    (h2 : state.columnLimit ≤ r.cells.length) :
    Row.replaceText isGlyphFullWidth state r =
      let fit := fitTextIntoColumns isGlyphFullWidth state.text (state.columnLimit - state.columnBegin)
      let written := ((units (state.text.take fit.1)).map (unitCells isGlyphFullWidth)).flatten
      r.overwrite state.columnBegin.toNat
        (written ++ List.replicate (fit.2 - written.length) Cell.space) := by
  have hd : ((min state.columnLimit.toNat r.cells.length -
      min state.columnBegin.toNat r.cells.length : Nat) : Int) =
      state.columnLimit - state.columnBegin := by omega
  have hb : min state.columnBegin.toNat r.cells.length = state.columnBegin.toNat := by omega
  simp only [Row.replaceText, Row.clampedColumnInclusive]
  rw [if_pos (by omega), hd, hb]

end Write

namespace Host

/-- The output mode flags the write path reads. -/
structure OutputMode where
  processedOutput : Bool
  wrapAtEolOutput : Bool
  disableNewlineAutoReturn : Bool
deriving DecidableEq, Repr

/-- `SCREEN_INFORMATION`, by what the write path reads and writes: the text buffer, the output
mode, and the cursor's delayed end-of-line wrap, which the buffer's `Cursor` does not keep. -/
structure ScreenInformation where
  textBuffer : TextBuffer
  outputMode : OutputMode
  delayedEolWrap : Option Point

variable (ex : Externals)

/-- `AdjustCursorPosition(screenInfo, coordCursor, nullptr)`. -/
def adjustCursorPosition (si : ScreenInformation) (coordCursor : Point) : ScreenInformation :=
  let w : Int := si.textBuffer.width
  let h : Int := si.textBuffer.height
  let coordCursor : Point :=
    if coordCursor.x < 0 then
      if coordCursor.y > 0 then ⟨w + coordCursor.x, coordCursor.y - 1⟩ else ⟨0, coordCursor.y⟩
    else if coordCursor.x ≥ w then
      if si.outputMode.wrapAtEolOutput then ⟨coordCursor.x % w, coordCursor.y + coordCursor.x / w⟩
      else ⟨si.textBuffer.cursor.position.x, coordCursor.y⟩
    else coordCursor
  if coordCursor.y ≥ h then
    { si with textBuffer := (si.textBuffer.incrementCircularBuffer
        si.textBuffer.currentAttributes).setCursorPosition ⟨coordCursor.x, h - 1⟩ }
  else { si with textBuffer := si.textBuffer.setCursorPosition coordCursor }

/-- One turn of the loop of `_writeCharsLegacyUnprocessed`: the screen and the text left. -/
def unprocessedStep (si : ScreenInformation) (text : List UInt16) :
    ScreenInformation × List UInt16 :=
  let cursorPosition := si.textBuffer.cursor.position
  let state : RowWriteState := ⟨text, cursorPosition.x, si.textBuffer.width, 0⟩
  let written := si.textBuffer.write ex.isGlyphFullWidth cursorPosition.y
    si.textBuffer.currentAttributes state
  let textBuffer := if si.outputMode.wrapAtEolOutput ∧ written.2.columnEnd ≥ written.2.columnLimit
    then written.1.setWrapForced cursorPosition.y true else written.1
  (adjustCursorPosition { si with textBuffer } ⟨written.2.columnEnd, cursorPosition.y⟩, written.2.text)

/-- `_writeCharsLegacyUnprocessed(screenInfo, text, nullptr)`, at most `fuel` turns of its
loop: `none` when text is left after them. -/
def writeCharsLegacyUnprocessed : Nat → ScreenInformation → List UInt16 → Option ScreenInformation
  | _, si, [] => some si
  | 0, _, _ :: _ => none
  | fuel + 1, si, text@(_ :: _) =>
    writeCharsLegacyUnprocessed fuel (unprocessedStep ex si text).1 (unprocessedStep ex si text).2

/-- `IS_GLYPH_CHAR(wch)`. -/
def isGlyphChar (wch : UInt16) : Bool := 0x20 ≤ wch.toNat && wch.toNat != 0x7F

/-- One control character of `WriteCharsLegacy`'s `switch`. -/
def controlChar (fuel : Nat) (si : ScreenInformation) (c : UInt16) : Option ScreenInformation :=
  let pos := si.textBuffer.cursor.position
  if c = 0x00 then writeCharsLegacyUnprocessed ex fuel si [0x20]
  else if c = 0x07 then some si
  else if c = 0x08 then
    let si := { si with textBuffer := si.textBuffer.touch pos.y }
    some (adjustCursorPosition si ⟨ex.navigateToPrevious (si.textBuffer.getRowByOffset pos.y) pos.x, pos.y⟩)
  else if c = 0x09 then
    let remaining := (si.textBuffer.width : Int) - pos.x
    let tabCount := min remaining (8 - pos.x % 8)
    writeCharsLegacyUnprocessed ex fuel si (List.replicate tabCount.toNat 0x20)
  else if c = 0x0A then
    let x := if si.outputMode.disableNewlineAutoReturn then pos.x else 0
    let si := { si with textBuffer := si.textBuffer.setWrapForced pos.y false }
    some (adjustCursorPosition si ⟨x, pos.y + 1⟩)
  else if c = 0x0D then some (adjustCursorPosition si ⟨0, pos.y⟩)
  else match ex.glyphChar c.toUInt8 with
    | some wch => writeCharsLegacyUnprocessed ex fuel si [wch]
    | none => some si

/-- The run of glyph characters gathered so far, written. -/
def flushRun (fuel : Nat) (si : ScreenInformation) (run : List UInt16) : Option ScreenInformation :=
  if run = [] then some si else writeCharsLegacyUnprocessed ex fuel si run

/-- The loop of `WriteCharsLegacy` with `ENABLE_PROCESSED_OUTPUT`: every run of glyph
characters to `_writeCharsLegacyUnprocessed`, every control character to the `switch`. -/
def processedLoop (fuel : Nat) : ScreenInformation → List UInt16 → List UInt16 →
    Option ScreenInformation
  | si, run, [] => flushRun ex fuel si run
  | si, run, c :: cs =>
    if isGlyphChar c then processedLoop fuel si (run ++ [c]) cs
    else (flushRun ex fuel si run).bind fun si =>
      (controlChar ex fuel si c).bind fun si => processedLoop fuel si [] cs

/-- The start of `WriteCharsLegacy`: with wrapping on, a delayed end-of-line wrap is cleared,
and carried out when it is still at the cursor. -/
def applyDelayedEolWrap (si : ScreenInformation) : ScreenInformation :=
  match si.delayedEolWrap with
  | some delayed =>
    if si.outputMode.wrapAtEolOutput then
      let pos := si.textBuffer.cursor.position
      let si := { si with delayedEolWrap := none }
      if delayed = pos then adjustCursorPosition si ⟨0, pos.y + 1⟩ else si
    else si
  | none => si

/-- `WriteCharsLegacy(screenInfo, text, nullptr)`, every loop of `_writeCharsLegacyUnprocessed`
run at most `fuel` turns. -/
def writeCharsLegacy (fuel : Nat) (si : ScreenInformation) (text : List UInt16) :
    Option ScreenInformation :=
  let si := applyDelayedEolWrap si
  if si.outputMode.processedOutput then processedLoop ex fuel si [] text
  else writeCharsLegacyUnprocessed ex fuel si text

/-! ### What one turn does -/

@[simp] theorem width_adjustCursorPosition (si : ScreenInformation) (c : Point) :
    (adjustCursorPosition si c).textBuffer.width = si.textBuffer.width := by
  unfold adjustCursorPosition; dsimp only; split_ifs <;> simp

@[simp] theorem outputMode_adjustCursorPosition (si : ScreenInformation) (c : Point) :
    (adjustCursorPosition si c).outputMode = si.outputMode := by
  unfold adjustCursorPosition; dsimp only; split_ifs <;> rfl

/-- The column `AdjustCursorPosition` leaves a cursor in that is not left of the buffer: past
the right edge it wraps around, or stays where it was with wrapping off. -/
theorem x_adjustCursorPosition (si : ScreenInformation) {c : Point} (hx : 0 ≤ c.x) :
    (adjustCursorPosition si c).textBuffer.cursor.position.x =
      if c.x ≥ si.textBuffer.width then
        if si.outputMode.wrapAtEolOutput then c.x % si.textBuffer.width
        else si.textBuffer.cursor.position.x
      else c.x := by
  unfold adjustCursorPosition; dsimp only
  rw [if_neg (not_lt.2 hx)]
  split_ifs <;> simp

/-- A turn writes into the cursor's row and hands `AdjustCursorPosition` the column the write
ended at; the buffer it hands over has the size and the cursor it had. -/
theorem unprocessedStep_fst (si : ScreenInformation) (text : List UInt16)
    (hx : 0 ≤ si.textBuffer.cursor.position.x ∧ si.textBuffer.cursor.position.x < si.textBuffer.width) :
    ∃ T : TextBuffer, T.width = si.textBuffer.width ∧ T.cursor = si.textBuffer.cursor ∧
      (unprocessedStep ex si text).1 = adjustCursorPosition { si with textBuffer := T }
        ⟨si.textBuffer.cursor.position.x + (fitTextIntoColumns ex.isGlyphFullWidth text
          (si.textBuffer.width - si.textBuffer.cursor.position.x)).2, si.textBuffer.cursor.position.y⟩ := by
  simp only [unprocessedStep, TextBuffer.write]
  rw [RowWriteState.replaceText_of_lt _ hx.1 hx.2 le_rfl]
  refine ⟨_, ?_, ?_, rfl⟩ <;> split <;>
    simp only [TextBuffer.setWrapForced, TextBuffer.width_modifyRow, TextBuffer.cursor_modifyRow]

theorem unprocessedStep_snd (si : ScreenInformation) (text : List UInt16)
    (hx : 0 ≤ si.textBuffer.cursor.position.x ∧ si.textBuffer.cursor.position.x < si.textBuffer.width) :
    (unprocessedStep ex si text).2 = text.drop (fitTextIntoColumns ex.isGlyphFullWidth text
      (si.textBuffer.width - si.textBuffer.cursor.position.x)).1 := by
  simp only [unprocessedStep, TextBuffer.write]
  rw [RowWriteState.replaceText_of_lt _ hx.1 hx.2 le_rfl]

/-! ### A glyph that never fits -/

/-- The screens a wide glyph never leaves: the cursor in the last column, and wrapping off or
a buffer one column wide. -/
def Stuck (si : ScreenInformation) : Prop :=
  si.textBuffer.cursor.position.x + 1 = si.textBuffer.width ∧
    (si.outputMode.wrapAtEolOutput = false ∨ si.textBuffer.width = 1)

variable {ex}

/-- On a stuck screen a turn with a wide glyph next writes nothing and leaves the screen
stuck. -/
theorem stuck_unprocessedStep {si : ScreenInformation} (h : Stuck si) {text : List UInt16}
    {u : List UInt16} {us : List (List UInt16)} (hu : units text = u :: us)
    (hwide : unitColumns ex.isGlyphFullWidth u = 2) :
    Stuck (unprocessedStep ex si text).1 ∧ (unprocessedStep ex si text).2 = text := by
  obtain ⟨hx, hmode⟩ := h
  have hxin : 0 ≤ si.textBuffer.cursor.position.x ∧
      si.textBuffer.cursor.position.x < si.textBuffer.width := by
    have := si.textBuffer.width_pos; omega
  have hL : (max 0 ((si.textBuffer.width : Int) - si.textBuffer.cursor.position.x)).toNat = 1 := by
    omega
  have hfit := fitTextIntoColumns_of_lt_head ex.isGlyphFullWidth hu (by rw [hL, hwide]; decide)
  rw [hL] at hfit
  refine ⟨?_, by rw [unprocessedStep_snd _ _ _ hxin, hfit]; rfl⟩
  obtain ⟨T, hTw, hTc, he⟩ := unprocessedStep_fst ex si text hxin
  rw [he, hfit]
  refine ⟨?_, by simpa [hTw] using hmode⟩
  rw [x_adjustCursorPosition _ (by dsimp only; omega), width_adjustCursorPosition]
  dsimp only
  rw [hTw, hTc, if_pos (by omega)]
  rcases hmode with hmode | hmode
  · simp only [hmode, Bool.false_eq_true, if_false]; exact hx
  · rw [hmode] at hx ⊢
    split <;> simp only [Nat.cast_one] at hx ⊢ <;> omega

/-- A stuck screen with a wide glyph next runs out of every fuel. -/
theorem writeCharsLegacyUnprocessed_of_stuck {si : ScreenInformation} (h : Stuck si)
    {text : List UInt16} {u : List UInt16} {us : List (List UInt16)} (hu : units text = u :: us)
    (hwide : unitColumns ex.isGlyphFullWidth u = 2) (fuel : Nat) :
    writeCharsLegacyUnprocessed ex fuel si text = none := by
  obtain ⟨c, cs, rfl⟩ : ∃ c cs, text = c :: cs :=
    List.exists_cons_of_ne_nil (by rintro rfl; simp [units] at hu)
  induction fuel generalizing si with
  | zero => rfl
  | succ fuel ih =>
    obtain ⟨hs, htext⟩ := stuck_unprocessedStep h hu hwide
    rw [writeCharsLegacyUnprocessed, htext]
    exact ih hs

/-- With only glyph characters `WriteCharsLegacy`'s processed loop hands the whole text to
`_writeCharsLegacyUnprocessed` at once. -/
theorem processedLoop_of_glyphs (fuel : Nat) (si : ScreenInformation) :
    ∀ run cs : List UInt16, (∀ c ∈ cs, isGlyphChar c = true) →
      processedLoop ex fuel si run cs = flushRun ex fuel si (run ++ cs)
  | run, [], _ => by rw [processedLoop, List.append_nil]
  | run, c :: cs, h => by
    rw [processedLoop, if_pos (h c (List.mem_cons_self c cs)),
      processedLoop_of_glyphs fuel si (run ++ [c]) cs fun d hd => h d (List.mem_cons_of_mem c hd),
      List.append_assoc, List.singleton_append]

/-- The delayed wrap keeps the size and the mode, and leaves the cursor's column alone or,
with wrapping on, moves it to `0`. -/
theorem applyDelayedEolWrap_spec (si : ScreenInformation) :
    (applyDelayedEolWrap si).textBuffer.width = si.textBuffer.width ∧
      (applyDelayedEolWrap si).outputMode = si.outputMode ∧
      ((applyDelayedEolWrap si).textBuffer.cursor.position.x = si.textBuffer.cursor.position.x ∨
        (applyDelayedEolWrap si).textBuffer.cursor.position.x = 0 ∧
          si.outputMode.wrapAtEolOutput = true) := by
  unfold applyDelayedEolWrap
  split
  · dsimp only
    split_ifs with hwrap
    · refine ⟨by simp, by simp, .inr ⟨?_, hwrap⟩⟩
      rw [x_adjustCursorPosition _ (c := ⟨0, _⟩) le_rfl,
        if_neg (by have := si.textBuffer.width_pos; dsimp only; omega)]
    all_goals exact ⟨rfl, rfl, .inl rfl⟩
  · exact ⟨rfl, rfl, .inl rfl⟩

theorem Stuck.applyDelayedEolWrap {si : ScreenInformation} (h : Stuck si) :
    Stuck (applyDelayedEolWrap si) := by
  obtain ⟨hw, hm, hx⟩ := applyDelayedEolWrap_spec si
  obtain ⟨h1, h2⟩ := h
  rw [Stuck, hw, hm]
  refine ⟨?_, h2⟩
  rcases hx with hx | ⟨hx, hwrap⟩
  · rwa [hx]
  · rw [hwrap] at h2; simp only [Bool.true_eq_false, false_or] at h2; rw [hx, h2]; rfl

/-- **A wide glyph that never fits stops the write for good.**  With the cursor in the last
column, and wrapping off or a buffer one column wide, a text of glyph characters that starts
with a two-column unit runs out of every fuel: in `_writeCharsLegacyUnprocessed`, and in
`WriteCharsLegacy` with `ENABLE_PROCESSED_OUTPUT` set or clear. -/
theorem writeCharsLegacy_wide_glyph_never_returns (si : ScreenInformation) (text : List UInt16)
    (hx : si.textBuffer.cursor.position.x + 1 = si.textBuffer.width)
    (hmode : si.outputMode.wrapAtEolOutput = false ∨ si.textBuffer.width = 1)
    (hwide : ∃ u us, units text = u :: us ∧ unitColumns ex.isGlyphFullWidth u = 2)
    (hglyphs : ∀ c ∈ text, isGlyphChar c = true) (fuel : Nat) :
    writeCharsLegacyUnprocessed ex fuel si text = none ∧ writeCharsLegacy ex fuel si text = none := by
  obtain ⟨u, us, hu, hw⟩ := hwide
  have hs : Stuck (applyDelayedEolWrap si) := Stuck.applyDelayedEolWrap ⟨hx, hmode⟩
  refine ⟨writeCharsLegacyUnprocessed_of_stuck ⟨hx, hmode⟩ hu hw fuel, ?_⟩
  unfold writeCharsLegacy
  dsimp only
  split
  · rw [processedLoop_of_glyphs _ _ _ _ hglyphs, List.nil_append, flushRun,
      if_neg (by rintro rfl; simp [units] at hu)]
    exact writeCharsLegacyUnprocessed_of_stuck hs hu hw fuel
  · exact writeCharsLegacyUnprocessed_of_stuck hs hu hw fuel

/-- Every glyph from `0x80` on is wide, and backspace goes one column back. -/
def wideGlyphs : Externals := ⟨fun _ => true, fun _ x => x - 1, fun _ => none⟩

/-- A screen two columns wide, processed output, wrapping off, the cursor in the last
column. -/
def lastColumnScreen : ScreenInformation :=
  ⟨((TextBuffer.create ⟨2, 1⟩ {} 1 false 0 0).get (by decide)).setCursorPosition ⟨1, 0⟩,
    ⟨true, false, false⟩, none⟩

theorem writeCharsLegacy_wide_glyph_never_returns_lastColumn :
    (lastColumnScreen.textBuffer.cursor.position.x + 1 = lastColumnScreen.textBuffer.width ∧
      (lastColumnScreen.outputMode.wrapAtEolOutput = false ∨ lastColumnScreen.textBuffer.width = 1) ∧
      units [0x4E00] = [[0x4E00]] ∧ unitColumns wideGlyphs.isGlyphFullWidth [0x4E00] = 2 ∧
      ∀ c ∈ [(0x4E00 : UInt16)], isGlyphChar c = true) ∧
    writeCharsLegacyUnprocessed wideGlyphs 1000 lastColumnScreen [0x4E00] = none ∧
      writeCharsLegacy wideGlyphs 1000 lastColumnScreen [0x4E00] = none :=
  have hx : lastColumnScreen.textBuffer.cursor.position.x + 1 = lastColumnScreen.textBuffer.width := by
    decide
  have hmode : lastColumnScreen.outputMode.wrapAtEolOutput = false ∨
      lastColumnScreen.textBuffer.width = 1 := .inl rfl
  have hu : units [0x4E00] = [[0x4E00]] := by decide
  have hw : unitColumns wideGlyphs.isGlyphFullWidth [0x4E00] = 2 := by decide
  have hg : ∀ c ∈ [(0x4E00 : UInt16)], isGlyphChar c = true := by decide
  ⟨⟨hx, hmode, hu, hw, hg⟩, writeCharsLegacy_wide_glyph_never_returns lastColumnScreen [0x4E00] hx hmode
    ⟨_, _, hu, hw⟩ hg 1000⟩

/-! ### Wrapping on, two columns or more -/

/-- The screens the loop always leaves: wrapping on, two columns or more, the cursor inside
its row. -/
def Ready (si : ScreenInformation) : Prop :=
  si.outputMode.wrapAtEolOutput = true ∧ 2 ≤ si.textBuffer.width ∧
    0 ≤ si.textBuffer.cursor.position.x ∧ si.textBuffer.cursor.position.x < si.textBuffer.width

/-- A bound on the turns left: two for each code unit, one more while the cursor is not in
column `0`. -/
def turnsLeft (si : ScreenInformation) (text : List UInt16) : Nat :=
  2 * text.length + if si.textBuffer.cursor.position.x = 0 then 0 else 1

/-- With wrapping on, a handed column in `[0, width]` comes back inside the row, at `0` from
the right edge. -/
theorem x_adjustCursorPosition_of_wrap (si : ScreenInformation) {c : Point}
    (hwrap : si.outputMode.wrapAtEolOutput = true) (h0 : 0 ≤ c.x) (hw : c.x ≤ si.textBuffer.width) :
    (adjustCursorPosition si c).textBuffer.cursor.position.x =
      if c.x = si.textBuffer.width then 0 else c.x := by
  rw [x_adjustCursorPosition si h0, hwrap, if_pos rfl]
  split_ifs with h1 h2 h2
  · rw [h2, Int.emod_self]
  · omega
  · omega
  · rfl

/-- **One turn on a ready screen makes progress**: it takes a code unit, or it takes none
because the first unit is wider than what is left of the row, and then the cursor goes from a
column past `0` to column `0`. -/
theorem ready_unprocessedStep {si : ScreenInformation} (h : Ready si) {text : List UInt16}
    (hne : text ≠ []) : Ready (unprocessedStep ex si text).1 ∧
      turnsLeft (unprocessedStep ex si text).1 (unprocessedStep ex si text).2 < turnsLeft si text := by
  obtain ⟨hwrap, hw, hx0, hxw⟩ := h
  obtain ⟨T, hTw, hTc, he⟩ := unprocessedStep_fst ex si text ⟨hx0, hxw⟩
  have hcols := fitTextIntoColumns_snd_le ex.isGlyphFullWidth text
    (si.textBuffer.width - si.textBuffer.cursor.position.x)
  have hlen := fitTextIntoColumns_fst_le ex.isGlyphFullWidth text
    (si.textBuffer.width - si.textBuffer.cursor.position.x)
  have hprog : 0 < (fitTextIntoColumns ex.isGlyphFullWidth text
      (si.textBuffer.width - si.textBuffer.cursor.position.x)).1 ∨
      (fitTextIntoColumns ex.isGlyphFullWidth text
        (si.textBuffer.width - si.textBuffer.cursor.position.x)).2 =
        (max 0 ((si.textBuffer.width : Int) - si.textBuffer.cursor.position.x)).toNat ∧
      si.textBuffer.cursor.position.x ≠ 0 := by
    by_cases h0 : (fitTextIntoColumns ex.isGlyphFullWidth text
      (si.textBuffer.width - si.textBuffer.cursor.position.x)).1 = 0
    · obtain ⟨u, us, hu, hlt⟩ := fitTextIntoColumns_fst_eq_zero ex.isGlyphFullWidth hne h0
      have := unitColumns_le_two ex.isGlyphFullWidth u
      rw [fitTextIntoColumns_of_lt_head ex.isGlyphFullWidth hu hlt]
      exact .inr ⟨rfl, by omega⟩
    · exact .inl (Nat.pos_of_ne_zero h0)
  rw [unprocessedStep_snd _ _ _ ⟨hx0, hxw⟩, he]
  generalize fitTextIntoColumns ex.isGlyphFullWidth text
    (si.textBuffer.width - si.textBuffer.cursor.position.x) = fit at hcols hlen hprog
  have hx' := x_adjustCursorPosition_of_wrap { si with textBuffer := T }
    (c := ⟨si.textBuffer.cursor.position.x + fit.2, si.textBuffer.cursor.position.y⟩) hwrap
    (by dsimp only; omega) (by dsimp only; rw [hTw]; omega)
  dsimp only at hx'
  rw [hTw] at hx'
  refine ⟨⟨by simpa using hwrap, by simpa [hTw] using hw, ?_, ?_⟩, ?_⟩
  · rw [hx']; split_ifs <;> omega
  · rw [hx', width_adjustCursorPosition]; dsimp only; rw [hTw]; split_ifs <;> omega
  · unfold turnsLeft
    rw [hx', List.length_drop]
    split_ifs <;> omega

/-- On a ready screen the loop ends within `turnsLeft` turns, on a ready screen. -/
theorem writeCharsLegacyUnprocessed_of_ready :
    ∀ (fuel : Nat) {si : ScreenInformation} {text : List UInt16}, Ready si →
      turnsLeft si text ≤ fuel → ∃ si', writeCharsLegacyUnprocessed ex fuel si text = some si' ∧ Ready si'
  | _, si, [], h, _ => ⟨si, by cases ‹Nat› <;> rfl, h⟩
  | 0, _, _ :: _, _, hf => by simp [turnsLeft] at hf
  | fuel + 1, si, c :: cs, h, hf => by
    obtain ⟨h', hlt⟩ := @ready_unprocessedStep ex si h (c :: cs) (List.cons_ne_nil c cs)
    rw [writeCharsLegacyUnprocessed]
    exact writeCharsLegacyUnprocessed_of_ready fuel h' (by omega)

theorem Ready.applyDelayedEolWrap {si : ScreenInformation} (h : Ready si) :
    Ready (applyDelayedEolWrap si) := by
  obtain ⟨hw, hm, hx⟩ := applyDelayedEolWrap_spec si
  obtain ⟨h1, h2, h3, h4⟩ := h
  rw [Ready, hw, hm]
  refine ⟨h1, h2, ?_⟩
  rcases hx with hx | ⟨hx, -⟩ <;> rw [hx] <;> constructor <;> omega

/-- **With wrapping on and two columns or more the write ends**: within two turns of the loop
for each code unit and one more, with the cursor inside its row, in
`_writeCharsLegacyUnprocessed` and in `WriteCharsLegacy` without `ENABLE_PROCESSED_OUTPUT`. -/
theorem writeCharsLegacyUnprocessed_returns (si : ScreenInformation) (text : List UInt16)
    (hwrap : si.outputMode.wrapAtEolOutput = true) (hw : 2 ≤ si.textBuffer.width)
    (hx : 0 ≤ si.textBuffer.cursor.position.x ∧ si.textBuffer.cursor.position.x < si.textBuffer.width)
    (fuel : Nat) (hfuel : 2 * text.length + 1 ≤ fuel) :
    (∃ si', writeCharsLegacyUnprocessed ex fuel si text = some si' ∧
      0 ≤ si'.textBuffer.cursor.position.x ∧ si'.textBuffer.cursor.position.x < si'.textBuffer.width) ∧
    (si.outputMode.processedOutput = false → ∃ si', writeCharsLegacy ex fuel si text = some si' ∧
      0 ≤ si'.textBuffer.cursor.position.x ∧ si'.textBuffer.cursor.position.x < si'.textBuffer.width) := by
  have hr : Ready si := ⟨hwrap, hw, hx⟩
  have hturns : ∀ si', turnsLeft si' text ≤ fuel := fun si' => by unfold turnsLeft; split <;> omega
  refine ⟨?_, fun hp => ?_⟩
  · obtain ⟨si', he, h'⟩ := writeCharsLegacyUnprocessed_of_ready fuel hr (hturns si)
    exact ⟨si', he, h'.2.2⟩
  · obtain ⟨si', he, h'⟩ := writeCharsLegacyUnprocessed_of_ready fuel hr.applyDelayedEolWrap (hturns _)
    refine ⟨si', ?_, h'.2.2⟩
    unfold writeCharsLegacy
    dsimp only
    rw [(applyDelayedEolWrap_spec si).2.1, hp]
    exact he

/-- A screen three columns wide, unprocessed output, wrapping on, the cursor in the last
column. -/
def wrappingScreen : ScreenInformation :=
  ⟨((TextBuffer.create ⟨3, 1⟩ {} 1 false 0 0).get (by decide)).setCursorPosition ⟨2, 0⟩,
    ⟨false, true, false⟩, none⟩

theorem writeCharsLegacyUnprocessed_returns_wrapping :
    (wrappingScreen.outputMode.wrapAtEolOutput = true ∧ 2 ≤ wrappingScreen.textBuffer.width ∧
      (0 ≤ wrappingScreen.textBuffer.cursor.position.x ∧
        wrappingScreen.textBuffer.cursor.position.x < wrappingScreen.textBuffer.width) ∧
      2 * [(0x4E00 : UInt16)].length + 1 ≤ 3) ∧
    ((∃ si', writeCharsLegacyUnprocessed wideGlyphs 3 wrappingScreen [0x4E00] = some si' ∧
      0 ≤ si'.textBuffer.cursor.position.x ∧ si'.textBuffer.cursor.position.x < si'.textBuffer.width) ∧
    (wrappingScreen.outputMode.processedOutput = false →
      ∃ si', writeCharsLegacy wideGlyphs 3 wrappingScreen [0x4E00] = some si' ∧
      0 ≤ si'.textBuffer.cursor.position.x ∧ si'.textBuffer.cursor.position.x < si'.textBuffer.width)) :=
  have hw : 2 ≤ wrappingScreen.textBuffer.width := by decide
  have hx : 0 ≤ wrappingScreen.textBuffer.cursor.position.x ∧
      wrappingScreen.textBuffer.cursor.position.x < wrappingScreen.textBuffer.width := by decide
  ⟨⟨rfl, hw, hx, by decide⟩,
    writeCharsLegacyUnprocessed_returns wrappingScreen [0x4E00] rfl hw hx 3 (by decide)⟩

/-! ### Processed output: the cursor stays inside the buffer -/

@[simp] theorem height_adjustCursorPosition (si : ScreenInformation) (c : Point) :
    (adjustCursorPosition si c).textBuffer.height = si.textBuffer.height := by
  unfold adjustCursorPosition; dsimp only; split_ifs <;> simp

/-- The row `AdjustCursorPosition` leaves the cursor in is inside the buffer when the handed
row is not above it: a row past the bottom rotates the ring and lands on the last row. -/
theorem y_adjustCursorPosition_mem (si : ScreenInformation) {c : Point} (hy : 0 ≤ c.y) :
    0 ≤ (adjustCursorPosition si c).textBuffer.cursor.position.y ∧
      (adjustCursorPosition si c).textBuffer.cursor.position.y < si.textBuffer.height := by
  have hh := si.textBuffer.height_pos
  have hw := si.textBuffer.width_pos
  unfold adjustCursorPosition; dsimp only
  split_ifs <;> simp only [TextBuffer.cursor_setCursorPosition] at * <;>
    first | omega | have := Int.ediv_nonneg (a := c.x) (b := si.textBuffer.width) (by omega) (by omega); omega

/-- The screens the write path keeps: ready, with the cursor's row inside the buffer. -/
structure Inside (si : ScreenInformation) : Prop where
  ready : Ready si
  y_nonneg : 0 ≤ si.textBuffer.cursor.position.y
  y_lt : si.textBuffer.cursor.position.y < si.textBuffer.height

/-- With wrapping on and two columns or more, `AdjustCursorPosition` puts every cursor that is
not left of the buffer or above it inside the buffer. -/
theorem inside_adjustCursorPosition {si : ScreenInformation}
    (hwrap : si.outputMode.wrapAtEolOutput = true) (hw : 2 ≤ si.textBuffer.width) {c : Point}
    (hx : 0 ≤ c.x) (hy : 0 ≤ c.y) : Inside (adjustCursorPosition si c) := by
  have hx' := x_adjustCursorPosition si hx
  rw [hwrap, if_pos rfl] at hx'
  obtain ⟨hy0, hyh⟩ := y_adjustCursorPosition_mem si hy
  refine ⟨⟨by simpa using hwrap, by simpa using hw, ?_, ?_⟩, hy0, by simpa using hyh⟩ <;>
    rw [hx'] <;> split_ifs
  · exact Int.emod_nonneg _ (by omega)
  · exact hx
  · exact (width_adjustCursorPosition si c).symm ▸ Int.emod_lt_of_pos _ (by omega)
  · rw [width_adjustCursorPosition]; omega

/-- A turn of `_writeCharsLegacyUnprocessed` keeps the screen inside. -/
theorem inside_unprocessedStep {si : ScreenInformation} (h : Inside si) (text : List UInt16) :
    Inside (unprocessedStep ex si text).1 := by
  obtain ⟨T, hTw, -, he⟩ := unprocessedStep_fst ex si text ⟨h.ready.2.2.1, h.ready.2.2.2⟩
  rw [he]
  refine inside_adjustCursorPosition ?_ ?_ ?_ ?_
  exacts [h.ready.1, hTw ▸ h.ready.2.1, by have := h.ready.2.2.1; dsimp only; omega, h.y_nonneg]

/-- On an inside screen the loop ends within `turnsLeft` turns, on an inside screen. -/
theorem writeCharsLegacyUnprocessed_of_inside :
    ∀ (fuel : Nat) {si : ScreenInformation} {text : List UInt16}, Inside si →
      turnsLeft si text ≤ fuel → ∃ si', writeCharsLegacyUnprocessed ex fuel si text = some si' ∧ Inside si'
  | _, si, [], h, _ => ⟨si, by cases ‹Nat› <;> rfl, h⟩
  | 0, _, _ :: _, _, hf => by simp [turnsLeft] at hf
  | fuel + 1, si, c :: cs, h, hf => by
    have hlt := (@ready_unprocessedStep ex si h.ready (c :: cs) (List.cons_ne_nil c cs)).2
    rw [writeCharsLegacyUnprocessed]
    exact writeCharsLegacyUnprocessed_of_inside fuel (inside_unprocessedStep h _) (by omega)

theorem turnsLeft_le (si : ScreenInformation) (text : List UInt16) :
    turnsLeft si text ≤ 2 * text.length + 1 := by
  unfold turnsLeft; split <;> omega

/-- Every control character of the `switch` returns on an inside screen, on an inside screen:
a null, a tab and a character with an OEM glyph write eight code units at most, backspace, line
feed and carriage return hand `AdjustCursorPosition` a column not left of the row, and the bell
and a character without a glyph change nothing. -/
theorem inside_controlChar (hnav : ∀ r x, 0 ≤ ex.navigateToPrevious r x) {fuel : Nat}
    (hfuel : 17 ≤ fuel) {si : ScreenInformation} (h : Inside si) (c : UInt16) :
    ∃ si', controlChar ex fuel si c = some si' ∧ Inside si' := by
  have ⟨⟨hwrap, hw, hx, _⟩, hy, _⟩ := h
  have hunits : ∀ text : List UInt16, text.length ≤ 8 →
      ∃ si', writeCharsLegacyUnprocessed ex fuel si text = some si' ∧ Inside si' := fun text hl =>
    writeCharsLegacyUnprocessed_of_inside fuel h (by have := turnsLeft_le si text; omega)
  unfold controlChar
  by_cases h0 : c = 0x00
  · rw [if_pos h0]; exact hunits [0x20] (by decide)
  rw [if_neg h0]
  by_cases h7 : c = 0x07
  · rw [if_pos h7]; exact ⟨si, rfl, h⟩
  rw [if_neg h7]
  by_cases h8 : c = 0x08
  · rw [if_pos h8]
    refine ⟨_, rfl, inside_adjustCursorPosition ?_ ?_ ?_ ?_⟩
    exacts [hwrap, hw, hnav _ _, hy]
  rw [if_neg h8]
  by_cases h9 : c = 0x09
  · rw [if_pos h9]; exact hunits _ (by rw [List.length_replicate]; omega)
  rw [if_neg h9]
  by_cases h10 : c = 0x0A
  · rw [if_pos h10]
    refine ⟨_, rfl, inside_adjustCursorPosition ?_ ?_ ?_ ?_⟩
    exacts [hwrap, hw, by dsimp only; split <;> omega, by dsimp only; omega]
  rw [if_neg h10]
  by_cases h13 : c = 0x0D
  · rw [if_pos h13]
    refine ⟨_, rfl, inside_adjustCursorPosition ?_ ?_ ?_ ?_⟩
    exacts [hwrap, hw, le_rfl, hy]
  rw [if_neg h13]
  split
  · exact hunits [_] (by rw [List.length_singleton]; omega)
  · exact ⟨si, rfl, h⟩

theorem inside_flushRun (fuel : Nat) {si : ScreenInformation} (h : Inside si) (run : List UInt16)
    (hfuel : 2 * run.length + 1 ≤ fuel) : ∃ si', flushRun ex fuel si run = some si' ∧ Inside si' := by
  unfold flushRun
  split
  · exact ⟨si, rfl, h⟩
  · exact writeCharsLegacyUnprocessed_of_inside fuel h ((turnsLeft_le si run).trans hfuel)

/-- **The processed loop keeps the screen inside**, every run and every control character
returning, given the turns the longest run and a tab take. -/
theorem inside_processedLoop (hnav : ∀ r x, 0 ≤ ex.navigateToPrevious r x) {fuel : Nat}
    (htab : 17 ≤ fuel) : ∀ {si : ScreenInformation} (run cs : List UInt16), Inside si →
      2 * (run.length + cs.length) + 1 ≤ fuel →
      ∃ si', processedLoop ex fuel si run cs = some si' ∧ Inside si'
  | si, run, [], h, hf => by rw [processedLoop]; exact inside_flushRun fuel h run (by simpa using hf)
  | si, run, c :: cs, h, hf => by
    simp only [List.length_cons] at hf
    rw [processedLoop]
    split
    · refine inside_processedLoop hnav htab (run ++ [c]) cs h ?_
      simp only [List.length_append, List.length_singleton]; omega
    · obtain ⟨si₁, h₁, hi₁⟩ := inside_flushRun fuel h run (by omega)
      obtain ⟨si₂, h₂, hi₂⟩ := inside_controlChar hnav htab hi₁ c
      rw [h₁, Option.some_bind, h₂, Option.some_bind]
      exact inside_processedLoop hnav htab [] cs hi₂ (by simp only [List.length_nil]; omega)

theorem Inside.applyDelayedEolWrap {si : ScreenInformation} (h : Inside si) :
    Inside (applyDelayedEolWrap si) := by
  unfold Host.applyDelayedEolWrap
  split
  · dsimp only
    split_ifs
    · refine inside_adjustCursorPosition ?_ ?_ ?_ ?_
      exacts [h.ready.1, h.ready.2.1, le_rfl, by have := h.y_nonneg; dsimp only; omega]
    all_goals exact ⟨h.ready, h.y_nonneg, h.y_lt⟩
  · exact h

/-- **The write ends with the cursor inside the buffer.**  With wrapping on, two columns or
more, the cursor inside the buffer and `NavigateToPrevious` giving a column not left of the
row, `WriteCharsLegacy` returns with the cursor inside the buffer, `ENABLE_PROCESSED_OUTPUT`
set or clear, every control character handled: given two turns of
`_writeCharsLegacyUnprocessed` for each code unit and one more, and the seventeen a tab's
spaces may take. -/
theorem writeCharsLegacy_returns (si : ScreenInformation) (text : List UInt16)
    (hwrap : si.outputMode.wrapAtEolOutput = true) (hw : 2 ≤ si.textBuffer.width)
    (hx : 0 ≤ si.textBuffer.cursor.position.x ∧ si.textBuffer.cursor.position.x < si.textBuffer.width)
    (hy : 0 ≤ si.textBuffer.cursor.position.y ∧ si.textBuffer.cursor.position.y < si.textBuffer.height)
    (hnav : ∀ r x, 0 ≤ ex.navigateToPrevious r x) (fuel : Nat) (hfuel : 2 * text.length + 1 ≤ fuel)
    (htab : 17 ≤ fuel) :
    ∃ si', writeCharsLegacy ex fuel si text = some si' ∧
      (0 ≤ si'.textBuffer.cursor.position.x ∧ si'.textBuffer.cursor.position.x < si'.textBuffer.width) ∧
      (0 ≤ si'.textBuffer.cursor.position.y ∧ si'.textBuffer.cursor.position.y < si'.textBuffer.height) := by
  have h : Inside (applyDelayedEolWrap si) := Inside.applyDelayedEolWrap ⟨⟨hwrap, hw, hx⟩, hy.1, hy.2⟩
  obtain ⟨si', he, h'⟩ : ∃ si', writeCharsLegacy ex fuel si text = some si' ∧ Inside si' := by
    unfold writeCharsLegacy
    dsimp only
    split
    · exact inside_processedLoop hnav htab [] text h (by simpa using hfuel)
    · exact writeCharsLegacyUnprocessed_of_inside fuel h ((turnsLeft_le _ text).trans hfuel)
  exact ⟨si', he, h'.ready.2.2, h'.y_nonneg, h'.y_lt⟩

/-- Every glyph from `0x80` on is wide, backspace goes one column back and stops at column `0`,
and no control character has a glyph. -/
def clampedBackspace : Externals := ⟨fun _ => true, fun _ x => max 0 (x - 1), fun _ => none⟩

/-- A screen three columns wide and two rows high, processed output, wrapping on, the cursor in
the last cell. -/
def processedScreen : ScreenInformation :=
  ⟨((TextBuffer.create ⟨3, 2⟩ {} 1 false 0 0).get (by decide)).setCursorPosition ⟨2, 1⟩,
    ⟨true, true, false⟩, none⟩

theorem writeCharsLegacy_returns_processed :
    let text : List UInt16 := [0x41, 0x09, 0x08, 0x0A, 0x4E00, 0x0D, 0x00, 0x01]
    (processedScreen.outputMode.wrapAtEolOutput = true ∧ 2 ≤ processedScreen.textBuffer.width ∧
      (0 ≤ processedScreen.textBuffer.cursor.position.x ∧
        processedScreen.textBuffer.cursor.position.x < processedScreen.textBuffer.width) ∧
      (0 ≤ processedScreen.textBuffer.cursor.position.y ∧
        processedScreen.textBuffer.cursor.position.y < processedScreen.textBuffer.height) ∧
      (∀ r x, 0 ≤ clampedBackspace.navigateToPrevious r x) ∧ 2 * text.length + 1 ≤ 17 ∧ 17 ≤ 17) ∧
    ∃ si', writeCharsLegacy clampedBackspace 17 processedScreen text = some si' ∧
      (0 ≤ si'.textBuffer.cursor.position.x ∧ si'.textBuffer.cursor.position.x < si'.textBuffer.width) ∧
      (0 ≤ si'.textBuffer.cursor.position.y ∧ si'.textBuffer.cursor.position.y < si'.textBuffer.height) :=
  have hw : 2 ≤ processedScreen.textBuffer.width := by decide
  have hx : 0 ≤ processedScreen.textBuffer.cursor.position.x ∧
      processedScreen.textBuffer.cursor.position.x < processedScreen.textBuffer.width := by decide
  have hy : 0 ≤ processedScreen.textBuffer.cursor.position.y ∧
      processedScreen.textBuffer.cursor.position.y < processedScreen.textBuffer.height := by decide
  have hnav : ∀ r x, 0 ≤ clampedBackspace.navigateToPrevious r x := fun _ _ => le_max_left _ _
  ⟨⟨rfl, hw, hx, hy, hnav, by decide, le_rfl⟩,
    writeCharsLegacy_returns processedScreen _ rfl hw hx hy hnav 17 (by decide) le_rfl⟩

end Host

end TerminalBuffer
