/-
The row a slot of the buffer holds.

`ROW` lives in `row.cpp`, which is not among this repository's sources: the spec puts
its packing out of scope and names only the operations the buffer calls on it (§6).
This file models that contract column by column.  A row is a list of cells, one per
column, each holding the UTF-16 text of the glyph over it and which half of a wide
glyph it is, beside a list of attributes, one per column (the run-length encoding of
`til::small_rle` expanded), and the three flags.

Two rules of the contract are kept because the buffer relies on them.  A write never
leaves half a wide glyph behind: the other half of a glyph a write cuts through is
blanked (`Row.overwrite`).  And, as `FitTextIntoColumns` documents for `RowWriteState`,
a wide glyph that does not fit the columns left is not written; those columns are
padded with spaces and the write reports that it used them all.
-/
import TerminalBuffer.Basic

namespace TerminalBuffer

/-- One column: the text of the glyph over it and which half of the glyph it is. -/
structure Cell where
  chars : List UInt16
  dbcs : DbcsAttribute := .single
deriving DecidableEq, Repr

/-- A blank column. -/
def Cell.space : Cell := ⟨[0x20], .single⟩

/-- Modelled from the spec: `ROW`, by its columns and its three flags. -/
structure Row where
  cells : List Cell
  attrs : List TextAttribute
  wrapForced : Bool := false
  doubleBytePadded : Bool := false
  lineRendition : LineRendition := .singleWidth
deriving DecidableEq, Repr

namespace Row

/-- Modelled from the spec: a freshly constructed `ROW(.., width, fillAttribute)`. -/
def blank (width : Nat) (attr : TextAttribute) : Row :=
  ⟨List.replicate width Cell.space, List.replicate width attr, false, false, .singleWidth⟩

/-- Modelled from the spec: `ROW::Reset(attr)` blanks the row and clears its flags. -/
def reset (r : Row) (attr : TextAttribute) : Row := blank r.cells.length attr

/-- Modelled from the spec: `ROW::MeasureRight`, the column after the last non-space one. -/
def measureRight (r : Row) : Nat := (r.cells.reverse.dropWhile (· == Cell.space)).length

/-- Modelled from the spec: `ROW::GetHyperlinks`, the ids the row's attributes carry. -/
def getHyperlinks (r : Row) : List UInt16 := (r.attrs.map (·.hyperlinkId)).filter (· != 0)

/-- Modelled from the spec: `ROW::GetReadableColumnCount`. -/
def getReadableColumnCount (r : Row) : Nat :=
  if r.lineRendition = .singleWidth then r.cells.length else r.cells.length / 2

/-- `_clampedColumnInclusive`: a column clamped into `[0, columnCount]`, compared as a
natural number so that clamping `til::CoordTypeMax` never counts down from it. -/
def clampedColumnInclusive (r : Row) (v : Int) : Nat := min v.toNat r.cells.length

/-- The cell at a column, blank past the end. -/
def cellAt (r : Row) (i : Nat) : Cell := r.cells.getD i Cell.space

/-- Steps left off trailing halves: `_adjustBackward`. -/
def adjustBackward (r : Row) : Nat → Nat
  | 0 => 0
  | c + 1 => if (r.cellAt (c + 1)).dbcs = .trailing then adjustBackward r c else c + 1

/-- Modelled from the spec: `ROW::AdjustToGlyphStart`. -/
def adjustToGlyphStart (r : Row) (col : Int) : Int :=
  r.adjustBackward (clamp col 0 (r.cells.length - 1)).toNat

/-- Replace columns `[a, a + new.length)` by `new`, blanking the other half of any wide
glyph the write cuts through at either edge. -/
def overwrite (r : Row) (a : Nat) (new : List Cell) : Row :=
  let b := a + new.length
  let cells := r.cells.take a ++ new ++ r.cells.drop b
  let cells := if 0 < a ∧ (r.cellAt a).dbcs = .trailing then cells.set (a - 1) Cell.space
    else cells
  let cells := if (r.cellAt b).dbcs = .trailing then cells.set b Cell.space else cells
  { r with cells }

/-- How many columns the glyph at source column `i` covers, looking no further than `lim`. -/
def glyphWidthAt (r : Row) (i lim : Nat) : Nat :=
  if (r.cellAt i).dbcs = .leading ∧ i + 1 < lim ∧ (r.cellAt (i + 1)).dbcs = .trailing then 2
  else 1

/-- The whole glyphs of columns `[i, lim)` that fit into `room` columns, and whether that
was all of them. -/
def takeGlyphs (r : Row) (lim : Nat) : Nat → Nat → Nat → List Cell × Bool
  | 0, _, _ => ([], true)
  | fuel + 1, i, room =>
    if i < lim then
      if r.glyphWidthAt i lim ≤ room then
        let rest := takeGlyphs r lim fuel (i + r.glyphWidthAt i lim) (room - r.glyphWidthAt i lim)
        ((r.cells.drop i).take (r.glyphWidthAt i lim) ++ rest.1, rest.2)
      else ([], false)
    else ([], true)

/-- Modelled from the spec: `ROW::CopyTextFrom(RowCopyTextFromState&)`.  Returns the row,
`state.columnEnd` and `state.sourceColumnEnd`. -/
def copyTextFrom (dst src : Row) (columnBegin columnLimit sourceColumnBegin
    sourceColumnLimit : Int) : Row × Int × Int :=
  let srcBeg := src.clampedColumnInclusive sourceColumnBegin
  let srcLim := src.clampedColumnInclusive sourceColumnLimit
  let colBeg := dst.clampedColumnInclusive columnBegin
  let colLim := dst.clampedColumnInclusive columnLimit
  if colBeg < colLim then
    let g := src.takeGlyphs srcLim (srcLim - srcBeg) srcBeg (colLim - colBeg)
    let n := g.1.length
    if g.2 then (dst.overwrite colBeg g.1, colBeg + n, srcBeg + n)
    else (dst.overwrite colBeg (g.1 ++ List.replicate (colLim - colBeg - n) Cell.space),
      colLim, srcBeg + n)
  else (dst, colBeg, src.cells.length)

/-- `til::small_rle::resize_trailing_extent`: cut, or stretch the last run. -/
def resizeTrailingExtent (attrs : List TextAttribute) (n : Nat) : List TextAttribute :=
  if n ≤ attrs.length then attrs.take n
  else attrs ++ List.replicate (n - attrs.length) (attrs.getLastD default)

/-- Modelled from the spec: `ROW::CopyFrom`, everything of `src` that fits. -/
def copyFrom (dst src : Row) : Row :=
  let dst := { dst with lineRendition := src.lineRendition, wrapForced := src.wrapForced }
  let dst := (dst.copyTextFrom src 0 coordTypeMax 0 src.getReadableColumnCount).1
  { dst with attrs := resizeTrailingExtent src.attrs dst.cells.length }

/-- The cells of one glyph of `width` columns. -/
def glyphCells (chars : List UInt16) : Nat → List Cell
  | 2 => [⟨chars, .leading⟩, ⟨chars, .trailing⟩]
  | _ => [⟨chars, .single⟩]

/-- Modelled from the spec: `ROW::ReplaceCharacters(columnBegin, width, chars)`.  A glyph
that does not fit is not written and the columns left are padded. -/
def replaceCharacters (r : Row) (columnBegin : Int) (width : Nat) (chars : List UInt16) : Row :=
  let c := r.clampedColumnInclusive columnBegin
  if c < r.cells.length then
    if c + width ≤ r.cells.length then r.overwrite c (glyphCells chars width)
    else r.overwrite c (List.replicate (r.cells.length - c) Cell.space)
  else r

/-- Modelled from the spec: `ROW::SetAttrToEnd(columnBegin, attr)`. -/
def setAttrToEnd (r : Row) (columnBegin : Int) (attr : TextAttribute) : Row :=
  let c := r.clampedColumnInclusive columnBegin
  { r with attrs := r.attrs.take c ++ List.replicate (r.attrs.length - c) attr }

/-- Modelled from the spec: `ROW::GetText(columnBegin, columnEnd)`, the text of the glyphs
starting in `[columnBegin, columnEnd)`, the begin clamped into the row and the end between
the begin and the row's end. -/
def getText (r : Row) (columnBegin columnEnd : Int) : List UInt16 :=
  let colBeg := r.clampedColumnInclusive columnBegin
  let colEnd := r.clampedColumnInclusive (max columnEnd colBeg)
  (((r.cells.drop colBeg).take (colEnd - colBeg)).filter (·.dbcs != .trailing)).flatMap (·.chars)

/-- Steps right off trailing halves, at most `fuel` columns. -/
def adjustForwardFrom (r : Row) : Nat → Nat → Nat
  | 0, c => c
  | fuel + 1, c => if (r.cellAt c).dbcs = .trailing then r.adjustForwardFrom fuel (c + 1) else c

/-- `_adjustForward(column)`: the first column at or after `column` that is not a trailing
half; the row's end at the latest, since past it every column reads as blank. -/
def adjustForward (r : Row) (c : Nat) : Nat := r.adjustForwardFrom (r.cells.length - c) c

/-- Modelled from the spec: `ROW::NavigateToPrevious(column)`, the start of the glyph before
`column`. -/
def navigateToPrevious (r : Row) (column : Int) : Int := r.adjustToGlyphStart (column - 1)

/-- Modelled from the spec: `ROW::NavigateToNext(column)`, the column after the glyph at
`column`, at most the row's end. -/
def navigateToNext (r : Row) (column : Int) : Int :=
  r.adjustForward (r.clampedColumnInclusive (column + 1))

/-- Modelled from the spec: `ROW::WriteCells` of `n` spaces in `attr` from column `col`,
as `SetCurrentLineRendition` calls it. -/
def writeSpaces (r : Row) (col n : Nat) (attr : TextAttribute) : Row :=
  let m := min n (r.cells.length - col)
  let r := r.overwrite col (List.replicate m Cell.space)
  { r with attrs := r.attrs.take col ++ List.replicate m attr ++ r.attrs.drop (col + m) }

@[simp] theorem blank_cells_length (w : Nat) (a : TextAttribute) : (blank w a).cells.length = w := by
  simp [blank]

@[simp] theorem blank_lineRendition (w : Nat) (a : TextAttribute) :
    (blank w a).lineRendition = .singleWidth := rfl

@[simp] theorem blank_wrapForced (w : Nat) (a : TextAttribute) : (blank w a).wrapForced = false :=
  rfl

@[simp] theorem reset_cells_length (r : Row) (a : TextAttribute) :
    (r.reset a).cells.length = r.cells.length := by
  simp [reset]

@[simp] theorem measureRight_blank (w : Nat) (a : TextAttribute) : (blank w a).measureRight = 0 := by
  simp [measureRight, blank, List.reverse_replicate, List.dropWhile_replicate]

@[simp] theorem lineRendition_overwrite (r : Row) (a : Nat) (new : List Cell) :
    (r.overwrite a new).lineRendition = r.lineRendition := rfl

@[simp] theorem lineRendition_writeSpaces (r : Row) (col n : Nat) (attr : TextAttribute) :
    (r.writeSpaces col n attr).lineRendition = r.lineRendition := rfl

/-! ### Writes keep a row's width -/

theorem clampedColumnInclusive_le (r : Row) (v : Int) : r.clampedColumnInclusive v ≤ r.cells.length :=
  Nat.min_le_right _ _

theorem cells_length_overwrite (r : Row) {a : Nat} {new : List Cell}
    (h : a + new.length ≤ r.cells.length) : (r.overwrite a new).cells.length = r.cells.length := by
  unfold overwrite
  dsimp only
  split <;> split <;> simp only [List.length_set, List.length_append, List.length_take,
    List.length_drop] <;> omega

/-- The glyphs taken never need more columns than there is room for. -/
theorem length_takeGlyphs_le (r : Row) (lim : Nat) :
    ∀ fuel i room, (r.takeGlyphs lim fuel i room).1.length ≤ room := by
  intro fuel
  induction fuel with
  | zero => intro _ _; exact Nat.zero_le _
  | succ fuel ih =>
    intro i room
    unfold takeGlyphs
    split
    · split
      · have := ih (i + r.glyphWidthAt i lim) (room - r.glyphWidthAt i lim)
        simp only [List.length_append, List.length_take]
        omega
      · exact Nat.zero_le _
    · exact Nat.zero_le _

@[simp] theorem cells_length_copyTextFrom (dst src : Row) (a b c d : Int) :
    (dst.copyTextFrom src a b c d).1.cells.length = dst.cells.length := by
  have hlim := dst.clampedColumnInclusive_le b
  unfold copyTextFrom
  dsimp only
  split
  · have := src.length_takeGlyphs_le (src.clampedColumnInclusive d)
      (src.clampedColumnInclusive d - src.clampedColumnInclusive c) (src.clampedColumnInclusive c)
      (dst.clampedColumnInclusive b - dst.clampedColumnInclusive a)
    split
    · exact dst.cells_length_overwrite (by omega)
    · exact dst.cells_length_overwrite (by simp only [List.length_append, List.length_replicate]; omega)
  · rfl

@[simp] theorem cells_length_copyFrom (dst src : Row) :
    (dst.copyFrom src).cells.length = dst.cells.length :=
  cells_length_copyTextFrom _ _ _ _ _ _

theorem length_glyphCells_le (chars : List UInt16) (w : Nat) :
    (glyphCells chars w).length ≤ max w 1 := by
  unfold glyphCells
  split <;> simp only [List.length_cons, List.length_nil] <;> omega

@[simp] theorem cells_length_replaceCharacters (r : Row) (columnBegin : Int) (w : Nat)
    (chars : List UInt16) : (r.replaceCharacters columnBegin w chars).cells.length = r.cells.length := by
  have := length_glyphCells_le chars w
  unfold replaceCharacters
  dsimp only
  split
  · split
    · exact r.cells_length_overwrite (by omega)
    · exact r.cells_length_overwrite (by simp only [List.length_replicate]; omega)
  · rfl

@[simp] theorem cells_length_setAttrToEnd (r : Row) (columnBegin : Int) (attr : TextAttribute) :
    (r.setAttrToEnd columnBegin attr).cells.length = r.cells.length := rfl

@[simp] theorem cells_length_writeSpaces (r : Row) (col n : Nat) (attr : TextAttribute) :
    (r.writeSpaces col n attr).cells.length = r.cells.length := by
  unfold writeSpaces
  dsimp only
  by_cases h : col ≤ r.cells.length
  · exact r.cells_length_overwrite (by simp only [List.length_replicate]; omega)
  · have hm : min n (r.cells.length - col) = 0 := by omega
    simp only [hm, List.replicate_zero]
    unfold overwrite
    simp only [List.length_nil, Nat.add_zero, List.append_nil, cellAt, List.getD_eq_getElem?_getD,
      List.getElem?_eq_none (Nat.le_of_not_le h), Option.getD_none, Cell.space]
    simp [List.take_of_length_le (Nat.le_of_not_le h)]
    omega

theorem adjustBackward_le (r : Row) : ∀ c, r.adjustBackward c ≤ c
  | 0 => Nat.le_refl 0
  | c + 1 => by
    unfold adjustBackward
    split
    · exact Nat.le_succ_of_le (adjustBackward_le r c)
    · exact Nat.le_refl _

/-- `AdjustToGlyphStart` lands on a column of the row. -/
theorem adjustToGlyphStart_mem (r : Row) (h : 0 < r.cells.length) (col : Int) :
    0 ≤ r.adjustToGlyphStart col ∧ r.adjustToGlyphStart col < r.cells.length := by
  have hc := @clamp_mem col 0 (r.cells.length - 1) (by omega)
  have := r.adjustBackward_le (clamp col 0 (r.cells.length - 1)).toNat
  unfold adjustToGlyphStart
  omega

/-- A blank row carries the link of its attributes in every cell, and no other. -/
@[simp] theorem mem_getHyperlinks_blank {w : Nat} {a : TextAttribute} {h : UInt16} :
    h ∈ (blank w a).getHyperlinks ↔ 0 < w ∧ h = a.hyperlinkId ∧ h ≠ 0 := by
  simp only [getHyperlinks, blank, List.map_replicate, List.mem_filter, List.mem_replicate,
    bne_iff_ne, ne_eq, Nat.pos_iff_ne_zero, and_assoc]

end Row

end TerminalBuffer
