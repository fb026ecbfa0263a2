/-
`GetText`: the text and colors of a selection.

For each selection rectangle `GetText` walks the rectangle's cells in row-major order and
appends the code units of every cell that is not the trailing half of a wide glyph; given a
color function it pushes the cell's colors once per code unit.  It then pops trailing spaces,
with their colors, when asked to trim and the row may be formatted, and appends CR LF in black
to every entry but the last under the same condition.

The three vectors are filled and trimmed in step, so each entry is the three projections of
one list of (code unit, foreground, background) triples, `textUnits`, which says cell by
cell which units an entry holds (`getText_eq`).  So every row's colors are exactly as
long as its text, which is what `GenHTML` and `GenRTF` need (`TextAndColor.WellFormed`).
-/
import TerminalBuffer.Selection
import TerminalBuffer.Export.Runs

namespace TerminalBuffer

/-- Modelled from the spec: the cells of `Viewport::FromInclusive(rect)` as
`TextBufferCellIterator` visits them, row by row, left to right. -/
def InclusiveRect.cells (rect : InclusiveRect) : List Point :=
  (List.range (rect.bottom - rect.top + 1).toNat).flatMap fun dy =>
    (List.range (rect.right - rect.left + 1).toNat).map fun dx => ⟨rect.left + dx, rect.top + dy⟩

namespace TextBuffer

open Export

variable (b : TextBuffer)

/-- The attributes of the cell at `pos`, the iterator's `TextAttr()`. -/
def getTextAttrAt (pos : Point) : TextAttribute :=
  (b.getRowByOffset pos.y).attrs.getD pos.x.toNat {}

/-- An entry of `GetText`'s output while it is built: the text and its two color vectors. -/
abbrev RowData := List UInt16 × List Colorref × List Colorref

/-- One round of `GetText`'s copy loop: the cell's code units, unless it is a trailing half,
and, given a color function, its colors once per code unit. -/
def copyCell (getAttributeColors : Option (TextAttribute → Colorref × Colorref))
    (data : RowData) (pos : Point) : RowData :=
  let cell := b.getCellDataAt pos
  if cell.dbcs ≠ .trailing then
    let chars := cell.chars
    match getAttributeColors with
    | some f =>
      let (cellFgAttr, cellBkAttr) := f (b.getTextAttrAt pos)
      (data.1 ++ chars, data.2.1 ++ List.replicate chars.length cellFgAttr,
        data.2.2 ++ List.replicate chars.length cellBkAttr)
    | none => (data.1 ++ chars, data.2.1, data.2.2)
  else data

/-- `GetText`'s trimming loop: while the text ends in a space, pop it, and its colors with it;
`fuel` rounds at most. -/
def popTrailingSpaces (copyTextColor : Bool) : Nat → RowData → RowData
  | 0, data => data
  | fuel + 1, (text, fg, bk) =>
    if text ≠ [] ∧ text.getLast? = some 0x20 then
      popTrailingSpaces copyTextColor fuel (text.dropLast,
        if copyTextColor then fg.dropLast else fg, if copyTextColor then bk.dropLast else bk)
    else (text, fg, bk)

/-- One round of `GetText`'s loop over the selection: the entry for rectangle `i`. -/
def getTextRowData (includeCRLF trimTrailingWhitespace : Bool)
    (selectionRects : List InclusiveRect)
    (getAttributeColors : Option (TextAttribute → Colorref × Colorref)) (formatWrappedRows : Bool)
    (i : Nat) : RowData :=
  let copyTextColor := getAttributeColors.isSome
  let rect := selectionRects.getD i ⟨0, 0, 0, 0⟩
  let data := rect.cells.foldl (b.copyCell getAttributeColors) ([], [], [])
  let shouldFormatRow := formatWrappedRows || !(b.getRowByOffset rect.top).wrapForced
  let data := if trimTrailingWhitespace && shouldFormatRow then
      popTrailingSpaces copyTextColor data.1.length data
    else data
  if includeCRLF && decide (i < selectionRects.length - 1) && shouldFormatRow then
    (data.1 ++ [0x0D, 0x0A], if copyTextColor then data.2.1 ++ [0, 0] else data.2.1,
      if copyTextColor then data.2.2 ++ [0, 0] else data.2.2)
  else data

/-- `GetText(includeCRLF, trimTrailingWhitespace, selectionRects, GetAttributeColors,
formatWrappedRows)`. -/
def getText (includeCRLF trimTrailingWhitespace : Bool) (selectionRects : List InclusiveRect)
    (getAttributeColors : Option (TextAttribute → Colorref × Colorref))
    (formatWrappedRows : Bool) : TextAndColor :=
  let copyTextColor := getAttributeColors.isSome
  (List.range selectionRects.length).foldl (fun data i =>
    let row := b.getTextRowData includeCRLF trimTrailingWhitespace selectionRects
      getAttributeColors formatWrappedRows i
    { text := data.text ++ [row.1],
      fgAttr := if copyTextColor then data.fgAttr ++ [row.2.1] else data.fgAttr,
      bkAttr := if copyTextColor then data.bkAttr ++ [row.2.2] else data.bkAttr }) ⟨[], [], []⟩

/-! ### What an entry holds -/

/-- The code units of the cell at `pos`, none for a trailing half, each with the cell's
colors. -/
def cellUnits (colors : TextAttribute → Colorref × Colorref) (pos : Point) :
    List (UInt16 × Colorref × Colorref) :=
  if (b.getCellDataAt pos).dbcs = .trailing then []
  else (b.getCellDataAt pos).chars.map fun u => (u, colors (b.getTextAttrAt pos))

/-- Entry `i` of a selection's text, each code unit with its colors: the units of rectangle
`i`, without trailing spaces when trimming and the row may be formatted (it is not
wrap-forced, or wrapped rows are formatted too), then CR LF in black on every entry but the
last under the same condition. -/
def textUnits (includeCRLF trimTrailingWhitespace : Bool) (selectionRects : List InclusiveRect)
    (colors : TextAttribute → Colorref × Colorref) (formatWrappedRows : Bool) (i : Nat) :
    List (UInt16 × Colorref × Colorref) :=
  let rect := selectionRects.getD i ⟨0, 0, 0, 0⟩
  let formatRow := formatWrappedRows || !(b.getRowByOffset rect.top).wrapForced
  let units := rect.cells.flatMap (b.cellUnits colors)
  (if trimTrailingWhitespace && formatRow then units.rdropWhile (fun u => u.1 == 0x20)
    else units) ++
  (if includeCRLF && decide (i + 1 < selectionRects.length) && formatRow then
    [(0x0D, 0, 0), (0x0A, 0, 0)] else [])

/-- The three vectors of a list of units. -/
def unitsData (us : List (UInt16 × Colorref × Colorref)) : RowData :=
  (us.map Prod.fst, us.map fun u => u.2.1, us.map fun u => u.2.2)

variable {b}

/-! ### The copy loop -/

theorem copyCell_some (f : TextAttribute → Colorref × Colorref)
    (us : List (UInt16 × Colorref × Colorref)) (pos : Point) :
    b.copyCell (some f) (unitsData us) pos = unitsData (us ++ b.cellUnits f pos) := by
  unfold copyCell cellUnits unitsData
  by_cases h : (b.getCellDataAt pos).dbcs = .trailing
  · simp [h]
  · simp [h, Function.comp_def, List.map_const']

theorem copyCell_none (colors : TextAttribute → Colorref × Colorref) (data : RowData)
    (pos : Point) :
    b.copyCell none data pos = (data.1 ++ (b.cellUnits colors pos).map Prod.fst, data.2) := by
  unfold copyCell cellUnits
  by_cases h : (b.getCellDataAt pos).dbcs = .trailing <;> simp [h, Function.comp_def]

theorem foldl_copyCell_some (f : TextAttribute → Colorref × Colorref) (cells : List Point)
    (us : List (UInt16 × Colorref × Colorref)) :
    cells.foldl (b.copyCell (some f)) (unitsData us) =
      unitsData (us ++ cells.flatMap (b.cellUnits f)) := by
  induction cells generalizing us with
  | nil => simp
  | cons pos cells ih => rw [List.foldl_cons, copyCell_some, ih, List.flatMap_cons, List.append_assoc]

theorem foldl_copyCell_none (colors : TextAttribute → Colorref × Colorref) (cells : List Point)
    (data : RowData) :
    cells.foldl (b.copyCell none) data =
      (data.1 ++ (cells.flatMap (b.cellUnits colors)).map Prod.fst, data.2) := by
  induction cells generalizing data with
  | nil => simp
  | cons pos cells ih =>
    rw [List.foldl_cons, copyCell_none colors, ih, List.flatMap_cons, List.map_append,
      List.append_assoc]

/-! ### The trimming loop -/

theorem popTrailingSpaces_true (us : List (UInt16 × Colorref × Colorref)) :
    ∀ fuel, us.length ≤ fuel →
      popTrailingSpaces true fuel (unitsData us) = unitsData (us.rdropWhile fun u => u.1 == 0x20)
  | 0, h => by rw [List.length_eq_zero.mp (Nat.le_zero.mp h)]; rfl
  | fuel + 1, h => by
    rcases List.eq_nil_or_concat us with rfl | ⟨L, x, rfl⟩
    · rfl
    · rw [List.concat_eq_append] at h ⊢
      by_cases hx : x.1 = 0x20
      · rw [List.rdropWhile_concat_pos _ _ _ (by simpa using hx), ← popTrailingSpaces_true L fuel
          (by simp at h; omega)]
        simp [popTrailingSpaces, unitsData, hx]
      · rw [List.rdropWhile_concat_neg _ _ _ (by simpa using hx)]
        simp [popTrailingSpaces, unitsData, hx]

theorem popTrailingSpaces_false (us : List (UInt16 × Colorref × Colorref))
    (fg bk : List Colorref) : ∀ fuel, us.length ≤ fuel →
      popTrailingSpaces false fuel (us.map Prod.fst, fg, bk) =
        ((us.rdropWhile fun u => u.1 == 0x20).map Prod.fst, fg, bk)
  | 0, h => by rw [List.length_eq_zero.mp (Nat.le_zero.mp h)]; rfl
  | fuel + 1, h => by
    rcases List.eq_nil_or_concat us with rfl | ⟨L, x, rfl⟩
    · rfl
    · rw [List.concat_eq_append] at h ⊢
      by_cases hx : x.1 = 0x20
      · rw [List.rdropWhile_concat_pos _ _ _ (by simpa using hx), ← popTrailingSpaces_false L fg bk
          fuel (by simp at h; omega)]
        simp [popTrailingSpaces, hx]
      · rw [List.rdropWhile_concat_neg _ _ _ (by simpa using hx)]
        simp [popTrailingSpaces, hx]

/-! ### One entry, and all of them -/

theorem getTextRowData_some (includeCRLF trimTrailingWhitespace : Bool)
    (selectionRects : List InclusiveRect) (f : TextAttribute → Colorref × Colorref)
    (formatWrappedRows : Bool) (i : Nat) :
    b.getTextRowData includeCRLF trimTrailingWhitespace selectionRects (some f) formatWrappedRows i =
      unitsData (b.textUnits includeCRLF trimTrailingWhitespace selectionRects f
        formatWrappedRows i) := by
  have hcr : decide (i < selectionRects.length - 1) = decide (i + 1 < selectionRects.length) := by
    simp only [decide_eq_decide]; omega
  unfold getTextRowData textUnits
  simp only [Option.isSome_some, hcr]
  rw [show (([], [], []) : RowData) = unitsData [] from rfl, foldl_copyCell_some, List.nil_append]
  generalize (selectionRects.getD i ⟨0, 0, 0, 0⟩).cells.flatMap (b.cellUnits f) = us
  generalize (formatWrappedRows ||
    !(b.getRowByOffset (selectionRects.getD i ⟨0, 0, 0, 0⟩).top).wrapForced) = fmt
  have htrim : (if (trimTrailingWhitespace && fmt) = true then
      popTrailingSpaces true (unitsData us).1.length (unitsData us) else unitsData us) =
      unitsData (if (trimTrailingWhitespace && fmt) = true then
        us.rdropWhile (fun u => u.1 == 0x20) else us) := by
    split
    · exact popTrailingSpaces_true us _ (by simp [unitsData])
    · rfl
  rw [htrim]
  split <;> simp [unitsData]

theorem getTextRowData_none (includeCRLF trimTrailingWhitespace : Bool)
    (selectionRects : List InclusiveRect) (colors : TextAttribute → Colorref × Colorref)
    (formatWrappedRows : Bool) (i : Nat) :
    b.getTextRowData includeCRLF trimTrailingWhitespace selectionRects none formatWrappedRows i =
      ((b.textUnits includeCRLF trimTrailingWhitespace selectionRects colors
        formatWrappedRows i).map Prod.fst, [], []) := by
  have hcr : decide (i < selectionRects.length - 1) = decide (i + 1 < selectionRects.length) := by
    simp only [decide_eq_decide]; omega
  unfold getTextRowData textUnits
  simp only [Option.isSome_none, foldl_copyCell_none colors, List.nil_append, hcr]
  generalize (selectionRects.getD i ⟨0, 0, 0, 0⟩).cells.flatMap (b.cellUnits colors) = us
  generalize (formatWrappedRows ||
    !(b.getRowByOffset (selectionRects.getD i ⟨0, 0, 0, 0⟩).top).wrapForced) = fmt
  have htrim : (if (trimTrailingWhitespace && fmt) = true then
      popTrailingSpaces false (us.map Prod.fst).length (us.map Prod.fst, [], []) else
        (us.map Prod.fst, ([], []))) =
      ((if (trimTrailingWhitespace && fmt) = true then
        us.rdropWhile (fun u => u.1 == 0x20) else us).map Prod.fst, [], []) := by
    split
    · exact popTrailingSpaces_false us [] [] _ (by simp)
    · rfl
  rw [htrim]
  split <;> simp_all

/-- The loop over the selection appends one entry a round. -/
theorem foldl_entries (F : Nat → RowData) (copyTextColor : Bool) (l : List Nat)
    (acc : TextAndColor) :
    l.foldl (fun data i =>
      { text := data.text ++ [(F i).1],
        fgAttr := if copyTextColor then data.fgAttr ++ [(F i).2.1] else data.fgAttr,
        bkAttr := if copyTextColor then data.bkAttr ++ [(F i).2.2] else data.bkAttr }) acc =
      { text := acc.text ++ l.map fun i => (F i).1,
        fgAttr := if copyTextColor then acc.fgAttr ++ l.map (fun i => (F i).2.1) else acc.fgAttr,
        bkAttr := if copyTextColor then acc.bkAttr ++ l.map (fun i => (F i).2.2)
          else acc.bkAttr } := by
  cases copyTextColor <;> simp only [Bool.false_eq_true, if_false, if_true] <;>
  induction l generalizing acc with
  | nil => simp
  | cons i l ih => simp [ih]

theorem getText_some (includeCRLF trimTrailingWhitespace : Bool)
    (selectionRects : List InclusiveRect) (colors : TextAttribute → Colorref × Colorref)
    (formatWrappedRows : Bool) :
    b.getText includeCRLF trimTrailingWhitespace selectionRects (some colors) formatWrappedRows =
      ⟨(List.range selectionRects.length).map fun i =>
          (b.textUnits includeCRLF trimTrailingWhitespace selectionRects colors
            formatWrappedRows i).map Prod.fst,
        (List.range selectionRects.length).map fun i =>
          (b.textUnits includeCRLF trimTrailingWhitespace selectionRects colors
            formatWrappedRows i).map fun u => u.2.1,
        (List.range selectionRects.length).map fun i =>
          (b.textUnits includeCRLF trimTrailingWhitespace selectionRects colors
            formatWrappedRows i).map fun u => u.2.2⟩ := by
  unfold getText
  dsimp only
  rw [foldl_entries]
  simp only [Option.isSome_some, getTextRowData_some, unitsData, if_true, List.nil_append]

theorem getText_none (includeCRLF trimTrailingWhitespace : Bool)
    (selectionRects : List InclusiveRect) (colors : TextAttribute → Colorref × Colorref)
    (formatWrappedRows : Bool) :
    b.getText includeCRLF trimTrailingWhitespace selectionRects none formatWrappedRows =
      ⟨(List.range selectionRects.length).map fun i =>
          (b.textUnits includeCRLF trimTrailingWhitespace selectionRects colors
            formatWrappedRows i).map Prod.fst, [], []⟩ := by
  unfold getText
  dsimp only
  rw [foldl_entries]
  simp only [Option.isSome_none, getTextRowData_none _ _ _ colors, Bool.false_eq_true, if_false,
    List.nil_append]

/-- **What `GetText` returns.**  For every selection and every flag, entry `i` of the text is
the code units of `textUnits … i`; given a color function its foreground and background colors
are those units' colors, one per code unit, and without one there are no colors.  So every
entry's colors are exactly as long as its text, and `GenHTML` and `GenRTF` can read them. -/
theorem getText_eq (includeCRLF trimTrailingWhitespace : Bool)
    (selectionRects : List InclusiveRect) (colors : TextAttribute → Colorref × Colorref)
    (formatWrappedRows : Bool) :
    b.getText includeCRLF trimTrailingWhitespace selectionRects (some colors) formatWrappedRows =
        ⟨(List.range selectionRects.length).map fun i =>
            (b.textUnits includeCRLF trimTrailingWhitespace selectionRects colors
              formatWrappedRows i).map Prod.fst,
          (List.range selectionRects.length).map fun i =>
            (b.textUnits includeCRLF trimTrailingWhitespace selectionRects colors
              formatWrappedRows i).map fun u => u.2.1,
          (List.range selectionRects.length).map fun i =>
            (b.textUnits includeCRLF trimTrailingWhitespace selectionRects colors
              formatWrappedRows i).map fun u => u.2.2⟩ ∧
      b.getText includeCRLF trimTrailingWhitespace selectionRects none formatWrappedRows =
        ⟨(List.range selectionRects.length).map fun i =>
            (b.textUnits includeCRLF trimTrailingWhitespace selectionRects colors
              formatWrappedRows i).map Prod.fst, [], []⟩ ∧
      (b.getText includeCRLF trimTrailingWhitespace selectionRects (some colors)
        formatWrappedRows).WellFormed := by
  refine ⟨getText_some .., getText_none .., fun i hi => ?_⟩
  rw [getText_some] at hi ⊢
  simp only [List.length_map, List.length_range] at hi
  simp [List.getD_eq_getElem?_getD, List.getElem?_map, List.getElem?_range hi]

end TextBuffer

end TerminalBuffer
