/-
Selection rectangles.

`GetTextRects` turns two corners of a selection into one rectangle per row, from the upper
corner's row to the lower one's, each one row high: the columns between the corners for a
block selection, or the rows of running text between them for a stream selection.
`_ExpandTextRow` then widens each rectangle over a wide glyph that its left or right edge
cuts: one cell left from a trailing half, one cell right from a leading half.

Widening by one cell is enough only when every trailing half sits right after its leading
half.  The layout `GetTextRects` is written against (`NoSplitGlyphs`: no leading half in the
last column, no trailing half in the first, a trailing half after every leading one) also
allows a leading half followed by two trailing ones, and an edge on the second of them is
moved onto the first (`getTextRects_left_on_trailing`).  When every glyph is whole
(`GlyphsWhole`), each rectangle covers its row's part of the selection, widened by at most one
cell on each side, and cuts no glyph (`getTextRects_covers`).
-/
import TerminalBuffer.Glyphs

namespace TerminalBuffer

/-- `til::inclusive_rect`. -/
structure InclusiveRect where
  left : Int
  top : Int
  right : Int
  bottom : Int
deriving DecidableEq, Repr

/-- `til::point_span`. -/
structure PointSpan where
  start : Point
  «end» : Point
deriving DecidableEq, Repr

/-- Modelled from the spec: `ScreenToBufferLine(line, lineRendition)`, not among the sources;
the columns of a row of double-width glyphs are halved by an arithmetic shift. -/
def screenToBufferLine (line : InclusiveRect) (lineRendition : LineRendition) : InclusiveRect :=
  let scale : Nat := if lineRendition = .singleWidth then 0 else 1
  { line with left := line.left >>> scale, right := line.right >>> scale }

/-- Modelled from the spec: `ScreenToBufferLine(line, lineRendition)` for a point. -/
def screenToBufferLinePoint (line : Point) (lineRendition : LineRendition) : Point :=
  let scale : Nat := if lineRendition = .singleWidth then 0 else 1
  ⟨line.x >>> scale, line.y⟩

namespace TextBuffer

variable (b : TextBuffer)

/-- `GetLineRendition(row)`. -/
def getLineRendition (row : Int) : LineRendition := (b.getRowByOffset row).lineRendition

/-- `_ExpandTextRow(textRow)`: the left edge moves off a trailing half, the right edge off a
leading half. -/
def expandTextRow (textRow : InclusiveRect) : InclusiveRect :=
  let bufferSize := b.getSize
  let targetPoint : Point := ⟨textRow.left, textRow.top⟩
  let textRow := if (b.getCellDataAt targetPoint).dbcs = .trailing then
      { textRow with left := (if targetPoint.x = bufferSize.left then
          bufferSize.incrementInBounds targetPoint false
        else bufferSize.decrementInBounds targetPoint false).1.x }
    else textRow
  let targetPoint : Point := ⟨textRow.right, textRow.bottom⟩
  if (b.getCellDataAt targetPoint).dbcs = .leading then
    { textRow with right := (if targetPoint.x = bufferSize.right then
        bufferSize.decrementInBounds targetPoint false
      else bufferSize.incrementInBounds targetPoint false).1.x }
  else textRow

/-- The body of `GetTextRects`'s loop for `row`, before `_ExpandTextRow`. -/
def getTextRow (higherCoord lowerCoord : Point) (blockSelection bufferCoordinates : Bool)
    (row : Int) : InclusiveRect :=
  let bufferSize := b.getSize
  let textRow : InclusiveRect :=
    if blockSelection || higherCoord.y == lowerCoord.y then
      ⟨min higherCoord.x lowerCoord.x, row, max higherCoord.x lowerCoord.x, row⟩
    else
      ⟨if row = higherCoord.y then higherCoord.x else bufferSize.left, row,
        if row = lowerCoord.y then lowerCoord.x else bufferSize.right, row⟩
  if bufferCoordinates then textRow else screenToBufferLine textRow (b.getLineRendition row)

/-- `GetTextRects(start, end, blockSelection, bufferCoordinates)`: the loop over the rows
`higherCoord.y … lowerCoord.y`. -/
def getTextRects (start «end» : Point) (blockSelection bufferCoordinates : Bool) :
    List InclusiveRect :=
  let bufferSize := b.getSize
  let (higherCoord, lowerCoord) :=
    if bufferSize.compareInBounds start «end» ≤ 0 then (start, «end») else («end», start)
  let textRectSize := 1 + lowerCoord.y - higherCoord.y
  (List.range textRectSize.toNat).map fun (i : Nat) =>
    b.expandTextRow
      (b.getTextRow higherCoord lowerCoord blockSelection bufferCoordinates (higherCoord.y + i))

/-- `GetTextSpans(start, end, blockSelection, bufferCoordinates)`. -/
def getTextSpans (start «end» : Point) (blockSelection bufferCoordinates : Bool) :
    List PointSpan :=
  if blockSelection then
    (b.getTextRects start «end» true bufferCoordinates).map fun rect =>
      ⟨⟨rect.left, rect.top⟩, ⟨rect.right, rect.bottom⟩⟩
  else
    let (higherCoord, lowerCoord) := if start ≤ «end» then (start, «end») else («end», start)
    let higherCoord := if bufferCoordinates then higherCoord
      else screenToBufferLinePoint higherCoord (b.getLineRendition higherCoord.y)
    let lowerCoord := if bufferCoordinates then lowerCoord
      else screenToBufferLinePoint lowerCoord (b.getLineRendition lowerCoord.y)
    let asRect := b.expandTextRow ⟨higherCoord.x, higherCoord.y, lowerCoord.x, lowerCoord.y⟩
    [⟨⟨asRect.left, asRect.top⟩, ⟨asRect.right, asRect.bottom⟩⟩]

/-! ### What a rectangle should cover -/

/-- The layout the selection code is written against: no leading half in the last column, no
trailing half in the first, and a trailing half after every leading one. -/
def NoSplitGlyphs : Prop :=
  ∀ y : Nat, y < b.height → ∀ x : Nat, x < b.width →
    ((b.getCellDataAt ⟨x, y⟩).dbcs = .leading →
      x + 1 < b.width ∧ (b.getCellDataAt ⟨x + 1, y⟩).dbcs = .trailing) ∧
    ((b.getCellDataAt ⟨x, y⟩).dbcs = .trailing → 0 < x)

instance : Decidable b.NoSplitGlyphs :=
  inferInstanceAs (Decidable (∀ y : Nat, y < b.height → _))

/-- The columns of `row` a selection from `first` to `last` covers before glyphs are
widened: `[min x, max x]` for a block or one-row selection; for a stream selection from
`first.x` to the right margin on the first row, margin to margin in between, and from the
left margin to `last.x` on the last row. -/
def selectionExtent (first last : Point) (blockSelection : Bool) (row : Int) : Int × Int :=
  if blockSelection = true ∨ first.y = last.y then (min first.x last.x, max first.x last.x)
  else (if row = first.y then first.x else 0, if row = last.y then last.x else b.width - 1)

/-- The rectangle for `row` of a selection from `first` to `last`: that row only, its extent
widened by at most one cell on each side, and no glyph cut at either edge. -/
structure RectCovers (first last : Point) (blockSelection : Bool) (row : Int)
    (r : InclusiveRect) : Prop where
  top_eq : r.top = row
  bottom_eq : r.bottom = row
  left_mem : (b.selectionExtent first last blockSelection row).1 - 1 ≤ r.left ∧
    r.left ≤ (b.selectionExtent first last blockSelection row).1
  right_mem : (b.selectionExtent first last blockSelection row).2 ≤ r.right ∧
    r.right ≤ (b.selectionExtent first last blockSelection row).2 + 1
  left_not_trailing : (b.getCellDataAt ⟨r.left, row⟩).dbcs ≠ .trailing
  right_not_leading : (b.getCellDataAt ⟨r.right, row⟩).dbcs ≠ .leading

variable {b}

/-! ### Widening one row -/

/-- `DecrementInBounds` from a cell past the first of its row: the cell to its left. -/
theorem decrementInBounds_of_pos {p : Point} (hp : b.getSize.InBounds p) (hx : 0 < p.x)
    (allowEndExclusive : Bool) :
    b.getSize.decrementInBounds p allowEndExclusive = (⟨p.x - 1, p.y⟩, true) := by
  have hmem := Viewport.offset_mem hp
  have hl := @Viewport.offset_mem b.getSize ⟨p.x - 1, p.y⟩
    ⟨by simp only [getSize_left]; omega, by have := hp.2.1; simp only [getSize_right] at this ⊢; omega,
      hp.2.2⟩
  rw [Viewport.offset_sub_x] at hl
  rw [Viewport.decrementInBounds, getSize_walkInBounds p ⟨by omega, by split <;> omega⟩,
    ← Int.sub_eq_add_neg, ofOffset_pred hp hx]

/-- `IncrementInBounds` from a cell before the last of its row: the cell to its right. -/
theorem incrementInBounds_of_lt {p : Point} (hp : b.getSize.InBounds p) (hx : p.x + 1 < b.width)
    (allowEndExclusive : Bool) :
    b.getSize.incrementInBounds p allowEndExclusive = (⟨p.x + 1, p.y⟩, true) := by
  have hmem := Viewport.offset_mem hp
  have hr := @Viewport.offset_mem b.getSize ⟨p.x + 1, p.y⟩
    ⟨by have := hp.1; simp only [getSize_left] at this ⊢; omega,
      by simp only [getSize_right]; omega, hp.2.2⟩
  rw [Viewport.offset_add_x] at hr
  rw [Viewport.incrementInBounds, getSize_walkInBounds p ⟨by omega, by split <;> omega⟩,
    ofOffset_succ hp hx]

/-- **`_ExpandTextRow` on whole glyphs** moves the left edge one cell left off a trailing
half and the right edge one cell right off a leading half. -/
theorem expandTextRow_eq (h : b.GlyphsWhole) {r : InclusiveRect}
    (hl : b.getSize.InBounds ⟨r.left, r.top⟩) (hr : b.getSize.InBounds ⟨r.right, r.bottom⟩) :
    b.expandTextRow r = { r with
      left := if (b.getCellDataAt ⟨r.left, r.top⟩).dbcs = .trailing then r.left - 1 else r.left,
      right := if (b.getCellDataAt ⟨r.right, r.bottom⟩).dbcs = .leading then r.right + 1
        else r.right } := by
  have hL := (h.at hl).2
  have hR := (h.at hr).1
  dsimp only at hL hR
  unfold expandTextRow
  dsimp only
  by_cases ht : (b.getCellDataAt ⟨r.left, r.top⟩).dbcs = .trailing <;>
    by_cases hd : (b.getCellDataAt ⟨r.right, r.bottom⟩).dbcs = .leading <;>
    simp only [ht, hd, if_true, if_false, getSize_left, getSize_right, reduceCtorEq]
  · rw [if_neg (by have := (hL ht).1; omega), if_neg (by have := (hR hd).1; omega),
      decrementInBounds_of_pos hl (hL ht).1, incrementInBounds_of_lt hr (hR hd).1]
  · rw [if_neg (by have := (hL ht).1; omega), decrementInBounds_of_pos hl (hL ht).1]
  · rw [if_neg (by have := (hR hd).1; omega), incrementInBounds_of_lt hr (hR hd).1]

/-- A buffer three columns wide and two rows high whose first row holds a leading half
followed by two trailing halves. -/
def splitGlyphBuffer : TextBuffer :=
  ((create ⟨3, 2⟩ {} 1 false 0 0).get (by decide)).modifyRow 0 fun r =>
    { r with cells := [⟨[0x4E00], .leading⟩, ⟨[0x4E00], .trailing⟩, ⟨[0x4E00], .trailing⟩] }

/-- **An edge moved onto a trailing half.**  `splitGlyphBuffer` keeps `NoSplitGlyphs`;
selecting the last cell of its first row, a trailing half, gives a rectangle whose left edge
`_ExpandTextRow` moves one cell left, onto the other trailing half. -/
theorem getTextRects_left_on_trailing :
    splitGlyphBuffer.NoSplitGlyphs ∧ splitGlyphBuffer.getSize.InBounds ⟨2, 0⟩ ∧
      splitGlyphBuffer.getTextRects ⟨2, 0⟩ ⟨2, 0⟩ true true = [⟨1, 0, 2, 0⟩] ∧
      (splitGlyphBuffer.getCellDataAt ⟨1, 0⟩).dbcs = .trailing := by
  decide

/-- Every cell of a row is covered by a rectangle that cuts no glyph: `_ExpandTextRow` of the
extent. -/
theorem expandTextRow_covers (h : b.GlyphsWhole) {first last : Point} {blockSelection : Bool}
    {row : Int}
    (hl : b.getSize.InBounds ⟨(b.selectionExtent first last blockSelection row).1, row⟩)
    (hr : b.getSize.InBounds ⟨(b.selectionExtent first last blockSelection row).2, row⟩) :
    b.RectCovers first last blockSelection row (b.expandTextRow
      ⟨(b.selectionExtent first last blockSelection row).1, row,
        (b.selectionExtent first last blockSelection row).2, row⟩) := by
  obtain ⟨-, hLt⟩ := h.at hl
  obtain ⟨hRl, -⟩ := h.at hr
  dsimp only at hLt hRl
  rw [expandTextRow_eq h hl hr]
  refine ⟨rfl, rfl, ?_, ?_, ?_, ?_⟩ <;> dsimp only
  · split <;> omega
  · split <;> omega
  · split
    · next ht => rw [(hLt ht).2]; decide
    · assumption
  · split
    · next hd => rw [(hRl hd).2]; decide
    · assumption

/-- The extent of a row lies between the margins. -/
theorem selectionExtent_mem {first last : Point} (hf : b.getSize.InBounds first)
    (hl : b.getSize.InBounds last) (blockSelection : Bool) (row : Int) :
    0 ≤ (b.selectionExtent first last blockSelection row).1 ∧
      (b.selectionExtent first last blockSelection row).1 < b.width ∧
      0 ≤ (b.selectionExtent first last blockSelection row).2 ∧
      (b.selectionExtent first last blockSelection row).2 < b.width := by
  obtain ⟨hf1, hf2, -, -⟩ := hf
  obtain ⟨hl1, hl2, -, -⟩ := hl
  have := b.width_pos
  simp only [getSize_left, getSize_right] at hf1 hf2 hl1 hl2
  unfold selectionExtent
  split <;> (try split) <;> (try split) <;> dsimp only <;> omega

/-- On buffer coordinates the loop body of `GetTextRects` is the extent of its row. -/
theorem getTextRow_true (first last : Point) (blockSelection : Bool) (row : Int) :
    b.getTextRow first last blockSelection true row =
      ⟨(b.selectionExtent first last blockSelection row).1, row,
        (b.selectionExtent first last blockSelection row).2, row⟩ := by
  unfold getTextRow selectionExtent
  by_cases hs : blockSelection = true ∨ first.y = last.y <;> simp [hs]

/-! ### All rows -/

/-- `GetTextRects` orders two cells of the buffer row-major. -/
theorem getTextRects_eq {a c : Point} (ha : b.getSize.InBounds a) (hc : b.getSize.InBounds c)
    (blockSelection bufferCoordinates : Bool) :
    b.getTextRects a c blockSelection bufferCoordinates =
      (List.range (1 + (if a ≤ c then c else a).y - (if a ≤ c then a else c).y).toNat).map
        fun (i : Nat) => b.expandTextRow (b.getTextRow (if a ≤ c then a else c) (if a ≤ c then c else a)
          blockSelection bufferCoordinates ((if a ≤ c then a else c).y + i)) := by
  have hiff : b.getSize.compareInBounds a c ≤ 0 ↔ a ≤ c := by
    rw [Viewport.compareInBounds_eq, sub_nonpos,
      Viewport.offset_le_offset_iff ⟨ha.1, ha.2.1⟩ ⟨hc.1, hc.2.1⟩]
  unfold getTextRects
  by_cases hac : a ≤ c
  · simp only [if_pos (hiff.2 hac), if_pos hac]
  · simp only [if_neg (mt hiff.1 hac), if_neg hac]

/-- **Selection rectangles on whole glyphs.**  For two cells `a` and `c` of a buffer whose
wide glyphs are whole, `GetTextRects` on buffer coordinates gives one rectangle for each row
from the upper cell's to the lower one's, in order; each covers its row's extent widened by
at most one cell on each side and cuts no glyph at either edge.  The block spans are those
rectangles. -/
theorem getTextRects_covers (h : b.GlyphsWhole) {a c : Point} (ha : b.getSize.InBounds a)
    (hc : b.getSize.InBounds c) (blockSelection : Bool) :
    (b.getTextRects a c blockSelection true).length = (max a.y c.y - min a.y c.y + 1).toNat ∧
      (∀ i < (max a.y c.y - min a.y c.y + 1).toNat, ∃ r,
        (b.getTextRects a c blockSelection true)[i]? = some r ∧
        b.RectCovers (if a ≤ c then a else c) (if a ≤ c then c else a) blockSelection
          (min a.y c.y + i) r) ∧
      b.getTextSpans a c true true =
        (b.getTextRects a c true true).map fun r => ⟨⟨r.left, r.top⟩, ⟨r.right, r.bottom⟩⟩ := by
  have hf : b.getSize.InBounds (if a ≤ c then a else c) := by split <;> assumption
  have hl : b.getSize.InBounds (if a ≤ c then c else a) := by split <;> assumption
  have hy : (if a ≤ c then a else c).y = min a.y c.y ∧ (if a ≤ c then c else a).y = max a.y c.y := by
    by_cases hac : a ≤ c
    · have : a.y ≤ c.y := by rcases hac with hac | hac <;> omega
      simp only [if_pos hac]; omega
    · have : c.y < a.y ∨ c.y = a.y := by
        simp only [LE.le, not_or, not_and, not_le] at hac; omega
      simp only [if_neg hac]; omega
  refine ⟨?_, fun i hi => ?_, rfl⟩
  · rw [getTextRects_eq ha hc, List.length_map, List.length_range, hy.1, hy.2]; congr 1; omega
  · rw [getTextRects_eq ha hc, List.getElem?_map, List.getElem?_range (by rw [hy.1, hy.2]; omega),
      Option.map_some', getTextRow_true, hy.1]
    refine ⟨_, rfl, expandTextRow_covers h ?_ ?_⟩ <;>
      · have := selectionExtent_mem hf hl blockSelection (min a.y c.y + i)
        obtain ⟨-, -, h3, h4⟩ := ha
        obtain ⟨-, -, h3', h4'⟩ := hc
        simp only [getSize_top, getSize_bottom] at h3 h4 h3' h4'
        refine ⟨?_, ?_, ?_, ?_⟩ <;>
          simp only [getSize_left, getSize_right, getSize_top, getSize_bottom] <;> omega

theorem getTextRects_covers_wideGlyphBuffer :
    wideGlyphBuffer.GlyphsWhole ∧ wideGlyphBuffer.getSize.InBounds ⟨1, 0⟩ ∧
      wideGlyphBuffer.getSize.InBounds ⟨0, 1⟩ ∧
      ((wideGlyphBuffer.getTextRects ⟨1, 0⟩ ⟨0, 1⟩ false true).length =
          (max (0 : Int) 1 - min (0 : Int) 1 + 1).toNat ∧
        (∀ i < (max (0 : Int) 1 - min (0 : Int) 1 + 1).toNat, ∃ r,
          (wideGlyphBuffer.getTextRects ⟨1, 0⟩ ⟨0, 1⟩ false true)[i]? = some r ∧
          wideGlyphBuffer.RectCovers (if (⟨1, 0⟩ : Point) ≤ ⟨0, 1⟩ then ⟨1, 0⟩ else ⟨0, 1⟩)
            (if (⟨1, 0⟩ : Point) ≤ ⟨0, 1⟩ then ⟨0, 1⟩ else ⟨1, 0⟩) false (min (0 : Int) 1 + i) r) ∧
        wideGlyphBuffer.getTextSpans ⟨1, 0⟩ ⟨0, 1⟩ true true =
          (wideGlyphBuffer.getTextRects ⟨1, 0⟩ ⟨0, 1⟩ true true).map
            fun r => ⟨⟨r.left, r.top⟩, ⟨r.right, r.bottom⟩⟩) :=
  have h : wideGlyphBuffer.GlyphsWhole := by decide
  have ha : wideGlyphBuffer.getSize.InBounds ⟨1, 0⟩ := by decide
  have hc : wideGlyphBuffer.getSize.InBounds ⟨0, 1⟩ := by decide
  ⟨h, ha, hc, getTextRects_covers h ha hc false⟩

end TextBuffer

end TerminalBuffer
