/-
Words.

Every cell has a delimiter class: a control character (blanks included), a delimiter from the
caller's set, or a regular character.  Selection and accessibility walk the buffer over these
classes, one cell a round, in row-major order.

For a selection (`accessibilityMode = false`) a word is a run of cells of one class:
`GetWordStart` and `GetWordEnd` walk out from the target to the ends of its run, and a run of
control characters stops at the margins of the target's row (`getWord_selection_run`).

For accessibility a word starts at a regular cell that is the first cell or follows a cell that
is not regular.  `GetWordStart` finds the last such start at or before the target, and
`MoveToPreviousWord` steps to the one before it (`moveToPreviousWord_spec`).
`_GetWordEndForAccessibility` walks on to the next start but stops its loops at the bottom-right
cell and then steps past it, so a word that starts on the bottom-right cell is never found:
`MoveToNextWord` reports no next word there (`getWordEnd_misses_bottom_right_word`).

Every loop is written as `loopWhile`, with the buffer's cell count as fuel.  All positions the
loops visit are cells of the buffer, and the proofs work with their indices in row-major order
(`Viewport.offset`): a loop that moves one cell a round from index `k` stops at the first index
where its test fails (`loopWhile_down`, `loopWhile_up`).
-/
import TerminalBuffer.Glyphs

namespace TerminalBuffer

/-- `DelimiterClass`. -/
inductive DelimiterClass
  | controlChar
  | delimiterChar
  | regularChar
deriving DecidableEq, Repr

/-- `ROW::DelimiterClassAt(column, wordDelimiters)`, modelled from the spec: the cell's first
code unit, a space when it has none, is a control character up to U+0020, a delimiter when the
set holds it, and regular otherwise. -/
def Row.delimiterClassAt (r : Row) (column : Int) (wordDelimiters : List UInt16) :
    DelimiterClass :=
  let glyph := (r.cellAt column.toNat).chars.headD 0x20
  if glyph ≤ 0x20 then .controlChar
  else if glyph ∈ wordDelimiters then .delimiterChar
  else .regularChar

/-- `while (cond(result)) result = step(result);` for at most `fuel` rounds, `none` when they
run out.  A source loop that returns from inside at the origin or the bottom-right cell has
that test in `cond`, and its caller returns when the loop stops there. -/
def loopWhile (cond : Point → Bool) (step : Point → Point) : Nat → Point → Option Point
  | 0, _ => none
  | fuel + 1, result => if cond result then loopWhile cond step fuel (step result) else some result

namespace TextBuffer

variable (b : TextBuffer)

/-- `_GetDelimiterClassAt(pos, wordDelimiters)`. -/
def getDelimiterClassAt (pos : Point) (wordDelimiters : List UInt16) : DelimiterClass :=
  (b.getRowByOffset pos.y).delimiterClassAt pos.x wordDelimiters

/-- Rounds enough for a loop that moves one cell a round: one per cell, and the last test. -/
def walkFuel : Nat := b.width * b.height + 1

/-- The test of `_GetWordStartForAccessibility`'s first loop, with its return at the origin. -/
def backOverDelimiters (wordDelimiters : List UInt16) (result : Point) : Bool :=
  b.getDelimiterClassAt result wordDelimiters != .regularChar && result != b.getSize.origin

/-- The test of `_GetWordStartForAccessibility`'s second loop, with its return at the origin. -/
def backOverWord (wordDelimiters : List UInt16) (result : Point) : Bool :=
  b.getDelimiterClassAt result wordDelimiters == .regularChar && result != b.getSize.origin

/-- `_GetWordStartForAccessibility(target, wordDelimiters)`. -/
def getWordStartForAccessibility (target : Point) (wordDelimiters : List UInt16) :
    Option Point := do
  let bufferSize := b.getSize
  let result ← loopWhile (b.backOverDelimiters wordDelimiters)
    (fun r => (bufferSize.decrementInBounds r false).1) b.walkFuel target
  if b.getDelimiterClassAt result wordDelimiters != .regularChar then return result
  let result ← loopWhile (b.backOverWord wordDelimiters)
    (fun r => (bufferSize.decrementInBounds r false).1) b.walkFuel result
  if b.getDelimiterClassAt result wordDelimiters == .regularChar then return result
  return (bufferSize.incrementInBounds result false).1

/-- The test of `_GetWordStartForSelection`'s loop, its `break` at the left margin included. -/
def expandsLeft (wordDelimiters : List UInt16) (initialDelimiter : DelimiterClass)
    (result : Point) : Bool :=
  result != b.getSize.origin && b.getDelimiterClassAt result wordDelimiters == initialDelimiter &&
    !(initialDelimiter == .controlChar && result.x == b.getSize.left)

/-- `_GetWordStartForSelection(target, wordDelimiters)`. -/
def getWordStartForSelection (target : Point) (wordDelimiters : List UInt16) : Option Point := do
  let bufferSize := b.getSize
  let initialDelimiter := b.getDelimiterClassAt target wordDelimiters
  let result ← loopWhile (b.expandsLeft wordDelimiters initialDelimiter)
    (fun r => (bufferSize.decrementInBounds r false).1) b.walkFuel target
  if b.getDelimiterClassAt result wordDelimiters != initialDelimiter then
    return (bufferSize.incrementInBounds result false).1
  return result

/-- `GetWordStart(target, wordDelimiters, accessibilityMode, limitOptional)`. -/
def getWordStart (target : Point) (wordDelimiters : List UInt16) (accessibilityMode : Bool)
    (limitOptional : Option Point) : Option Point :=
  let bufferSize := b.getSize
  let limit := limitOptional.getD bufferSize.endExclusive
  if target = bufferSize.origin then some target
  else
    let copy := if target = bufferSize.endExclusive then bufferSize.bottomRightInclusive
      else if bufferSize.compareInBounds target limit ≥ 0 then
        limitOptional.getD bufferSize.bottomRightInclusive
      else target
    if accessibilityMode then b.getWordStartForAccessibility copy wordDelimiters
    else b.getWordStartForSelection copy wordDelimiters

/-- The test of `_GetWordEndForAccessibility`'s first loop. -/
def forwardOverWord (wordDelimiters : List UInt16) (limit result : Point) : Bool :=
  result != limit && result != b.getSize.bottomRightInclusive &&
    b.getDelimiterClassAt result wordDelimiters == .regularChar

/-- The test of `_GetWordEndForAccessibility`'s second loop. -/
def forwardOverDelimiters (wordDelimiters : List UInt16) (limit result : Point) : Bool :=
  result != limit && result != b.getSize.bottomRightInclusive &&
    b.getDelimiterClassAt result wordDelimiters != .regularChar

/-- `_GetWordEndForAccessibility(target, wordDelimiters, limit)`. -/
def getWordEndForAccessibility (target : Point) (wordDelimiters : List UInt16) (limit : Point) :
    Option Point := do
  let bufferSize := b.getSize
  if bufferSize.compareInBounds target limit ≥ 0 then
    return (bufferSize.incrementInBounds limit true).1
  let result ← loopWhile (b.forwardOverWord wordDelimiters limit)
    (fun r => (bufferSize.incrementInBounds r false).1) b.walkFuel target
  let result ← loopWhile (b.forwardOverDelimiters wordDelimiters limit)
    (fun r => (bufferSize.incrementInBounds r false).1) b.walkFuel result
  if result = bufferSize.bottomRightInclusive then
    return (bufferSize.incrementInBounds result true).1
  return result

/-- The test of `_GetWordEndForSelection`'s loop, its `break` at the right margin included. -/
def expandsRight (wordDelimiters : List UInt16) (initialDelimiter : DelimiterClass)
    (result : Point) : Bool :=
  result != b.getSize.bottomRightInclusive &&
    b.getDelimiterClassAt result wordDelimiters == initialDelimiter &&
    !(initialDelimiter == .controlChar && result.x == b.getSize.right)

/-- `_GetWordEndForSelection(target, wordDelimiters)`. -/
def getWordEndForSelection (target : Point) (wordDelimiters : List UInt16) : Option Point := do
  let bufferSize := b.getSize
  let initialDelimiter := b.getDelimiterClassAt target wordDelimiters
  let result ← loopWhile (b.expandsRight wordDelimiters initialDelimiter)
    (fun r => (bufferSize.incrementInBoundsCircular r).1) b.walkFuel target
  if b.getDelimiterClassAt result wordDelimiters != initialDelimiter then
    return (bufferSize.decrementInBounds result false).1
  return result

/-- `GetWordEnd(target, wordDelimiters, accessibilityMode, limitOptional)`. -/
def getWordEnd (target : Point) (wordDelimiters : List UInt16) (accessibilityMode : Bool)
    (limitOptional : Option Point) : Option Point :=
  let bufferSize := b.getSize
  let limit := limitOptional.getD bufferSize.endExclusive
  if bufferSize.compareInBounds target limit ≥ 0 then some target
  else if accessibilityMode then b.getWordEndForAccessibility target wordDelimiters limit
  else b.getWordEndForSelection target wordDelimiters

/-- `MoveToNextWord(pos, wordDelimiters, limitOptional)`: the position and whether it moved. -/
def moveToNextWord (pos : Point) (wordDelimiters : List UInt16) (limitOptional : Option Point) :
    Option (Point × Bool) := do
  let bufferSize := b.getSize
  let limit := limitOptional.getD bufferSize.endExclusive
  let copy ← b.getWordEndForAccessibility pos wordDelimiters limit
  if bufferSize.compareInBounds copy limit ≥ 0 then return (pos, false)
  return (copy, true)

/-- `MoveToPreviousWord(pos, wordDelimiters)`: the position and whether it moved. -/
def moveToPreviousWord (pos : Point) (wordDelimiters : List UInt16) : Option (Point × Bool) := do
  let copy ← b.getWordStart pos wordDelimiters true none
  let (copy, moved) := b.getSize.decrementInBounds copy true
  if !moved then return (pos, false)
  let pos ← b.getWordStart copy wordDelimiters true none
  return (pos, true)

/-! ### Cells by index -/

variable {b}

theorem origin_eq : b.getSize.origin = b.getSize.ofOffset 0 := by
  rw [← Viewport.offset_origin, Viewport.ofOffset_offset]
  have := b.width_pos; simp only [Viewport.origin, getSize_left, getSize_right]; omega

theorem bottomRightInclusive_eq :
    b.getSize.bottomRightInclusive = b.getSize.ofOffset (b.getSize.cellCount - 1) := by
  rw [← Viewport.offset_bottomRightInclusive, Viewport.ofOffset_offset]
  have := b.width_pos; simp only [Viewport.bottomRightInclusive, getSize_left, getSize_right]; omega

theorem endExclusive_eq : b.getSize.endExclusive = b.getSize.ofOffset b.getSize.cellCount := by
  rw [← Viewport.offset_endExclusive, Viewport.ofOffset_offset]
  have := b.width_pos; simp only [Viewport.endExclusive, getSize_left, getSize_right]; omega

theorem ofOffset_inj {j k : Int} : b.getSize.ofOffset j = b.getSize.ofOffset k ↔ j = k :=
  ⟨fun h => by rw [← @Viewport.offset_ofOffset b.getSize j, h, Viewport.offset_ofOffset],
    fun h => h ▸ rfl⟩

@[simp] theorem x_ofOffset (k : Int) : (b.getSize.ofOffset k).x = k % b.width := by
  simp [Viewport.ofOffset]

@[simp] theorem y_ofOffset (k : Int) : (b.getSize.ofOffset k).y = k / b.width := by
  simp [Viewport.ofOffset]

theorem walkFuel_gt : b.getSize.cellCount < b.walkFuel := by
  rw [getSize_cellCount, walkFuel]; push_cast; omega

theorem walkInBounds_ofOffset {k delta : Int} {allowEndExclusive : Bool}
    (h : 0 ≤ k + delta ∧
      k + delta ≤ b.getSize.cellCount - if allowEndExclusive then 0 else 1) :
    b.getSize.walkInBounds (b.getSize.ofOffset k) delta allowEndExclusive =
      (b.getSize.ofOffset (k + delta), true) := by
  rw [getSize_walkInBounds _ (by rwa [Viewport.offset_ofOffset]), Viewport.offset_ofOffset]

theorem decrementInBounds_ofOffset {k : Int} (hk : 0 < k ∧ k < b.getSize.cellCount)
    (allowEndExclusive : Bool) :
    b.getSize.decrementInBounds (b.getSize.ofOffset k) allowEndExclusive =
      (b.getSize.ofOffset (k - 1), true) := by
  rw [Viewport.decrementInBounds, walkInBounds_ofOffset ⟨by omega, by split <;> omega⟩]; rfl

theorem decrementInBounds_zero (allowEndExclusive : Bool) :
    b.getSize.decrementInBounds (b.getSize.ofOffset 0) allowEndExclusive =
      (b.getSize.ofOffset 0, false) := by
  rw [Viewport.decrementInBounds, Viewport.walkInBounds_of_lt getSize_width_pos getSize_height_pos _
    (by rw [Viewport.offset_ofOffset]; omega), origin_eq]

theorem incrementInBounds_ofOffset {k : Int} {allowEndExclusive : Bool}
    (hk : 0 ≤ k ∧ k + 1 ≤ b.getSize.cellCount - if allowEndExclusive then 0 else 1) :
    b.getSize.incrementInBounds (b.getSize.ofOffset k) allowEndExclusive =
      (b.getSize.ofOffset (k + 1), true) :=
  walkInBounds_ofOffset ⟨by omega, hk.2⟩

/-- Before the last cell, the circular step is the plain one. -/
theorem incrementInBoundsCircular_ofOffset {k : Int} (hk : 0 ≤ k ∧ k + 1 < b.getSize.cellCount) :
    b.getSize.incrementInBoundsCircular (b.getSize.ofOffset k) =
      (b.getSize.ofOffset (k + 1), true) := by
  have hp := @Viewport.inBounds_ofOffset b.getSize getSize_width_pos k ⟨hk.1, by omega⟩
  have hko := @Viewport.offset_ofOffset b.getSize k
  have ⟨h1, h2, h3, h4⟩ := hp
  simp only [getSize_left, getSize_right, getSize_top, getSize_bottom] at h1 h2 h3 h4
  unfold Viewport.incrementInBoundsCircular
  by_cases hx : (b.getSize.ofOffset k).x = b.getSize.right
  · have hy : (b.getSize.ofOffset k).y + 1 ≤ b.getSize.bottom := by
      by_contra hy
      have hy' : (b.getSize.ofOffset k).y = b.getSize.bottom := by
        simp only [getSize_bottom] at hy ⊢; omega
      have : b.getSize.offset (b.getSize.ofOffset k) =
          b.getSize.offset b.getSize.bottomRightInclusive := by
        simp only [Viewport.offset, Viewport.bottomRightInclusive, hx, hy']
      rw [hko, Viewport.offset_bottomRightInclusive] at this
      omega
    have hnext : b.getSize.offset ⟨b.getSize.left, (b.getSize.ofOffset k).y + 1⟩ =
        b.getSize.offset (b.getSize.ofOffset k) + 1 := by
      simp only [Viewport.offset, hx, getSize_left, getSize_top, getSize_right, getSize_width]; ring
    rw [if_pos hx, if_neg (by omega), ← @Viewport.ofOffset_offset b.getSize
      ⟨b.getSize.left, (b.getSize.ofOffset k).y + 1⟩
      (by simp only [getSize_left, getSize_right]; omega), hnext, hko]
  · rw [if_neg hx, ← ofOffset_succ hp (by simp only [getSize_right] at hx; omega), hko]

/-! ### Loops that move one cell a round -/

/-- **A loop stepping back** one cell a round from index `k`, with more rounds than `k`,
stops at the last index `j ≤ k` where its test fails, when the test fails at the origin. -/
theorem loopWhile_down (c : Point → Bool) (f : Point → Point)
    (hf : ∀ k, 0 < k → k < b.getSize.cellCount → c (b.getSize.ofOffset k) = true →
      f (b.getSize.ofOffset k) = b.getSize.ofOffset (k - 1))
    (h0 : c (b.getSize.ofOffset 0) = false) :
    ∀ (fuel : Nat) (k : Int), 0 ≤ k → k < b.getSize.cellCount → k < fuel →
      ∃ j, 0 ≤ j ∧ j ≤ k ∧
        loopWhile c f fuel (b.getSize.ofOffset k) = some (b.getSize.ofOffset j) ∧
        c (b.getSize.ofOffset j) = false ∧ ∀ i, j < i → i ≤ k → c (b.getSize.ofOffset i) = true
  | 0, _, _, _, hfuel => absurd hfuel (by omega)
  | fuel + 1, k, h0k, hk, hfuel => by
    by_cases hc : c (b.getSize.ofOffset k) = true
    · have hpos : 0 < k := by
        rcases lt_or_eq_of_le h0k with h | h
        · exact h
        · rw [← h, h0] at hc; contradiction
      obtain ⟨j, hj0, hjk, hl, hjc, hrun⟩ :=
        loopWhile_down c f hf h0 fuel (k - 1) (by omega) (by omega) (by omega)
      refine ⟨j, hj0, by omega, ?_, hjc, fun i h1 h2 => ?_⟩
      · rw [loopWhile, if_pos hc, hf k hpos hk hc, hl]
      · rcases lt_or_eq_of_le h2 with h | h
        · exact hrun i h1 (by omega)
        · rw [h]; exact hc
    · exact ⟨k, h0k, le_rfl, by rw [loopWhile, if_neg hc], by simpa using hc,
        fun i h1 h2 => absurd h2 (by omega)⟩

/-- **A loop stepping on** one cell a round from index `k`, with more rounds than cells
left, stops at the first index `j ≥ k` where its test fails, when the test fails at the
last cell. -/
theorem loopWhile_up (c : Point → Bool) (f : Point → Point)
    (hf : ∀ k, 0 ≤ k → k + 1 < b.getSize.cellCount → c (b.getSize.ofOffset k) = true →
      f (b.getSize.ofOffset k) = b.getSize.ofOffset (k + 1))
    (hlast : c (b.getSize.ofOffset (b.getSize.cellCount - 1)) = false) :
    ∀ (fuel : Nat) (k : Int), 0 ≤ k → k < b.getSize.cellCount → b.getSize.cellCount - k ≤ fuel →
      ∃ j, k ≤ j ∧ j < b.getSize.cellCount ∧
        loopWhile c f fuel (b.getSize.ofOffset k) = some (b.getSize.ofOffset j) ∧
        c (b.getSize.ofOffset j) = false ∧ ∀ i, k ≤ i → i < j → c (b.getSize.ofOffset i) = true
  | 0, _, _, hk, hfuel => absurd hfuel (by omega)
  | fuel + 1, k, h0k, hk, hfuel => by
    by_cases hc : c (b.getSize.ofOffset k) = true
    · have hlt : k + 1 < b.getSize.cellCount := by
        by_contra hn
        rw [show k = b.getSize.cellCount - 1 by omega, hlast] at hc; contradiction
      obtain ⟨j, hkj, hj, hl, hjc, hrun⟩ :=
        loopWhile_up c f hf hlast fuel (k + 1) (by omega) hlt (by omega)
      refine ⟨j, by omega, hj, ?_, hjc, fun i h1 h2 => ?_⟩
      · rw [loopWhile, if_pos hc, hf k h0k hlt hc, hl]
      · rcases lt_or_eq_of_le h1 with h | h
        · exact hrun i (by omega) h2
        · rw [← h]; exact hc
    · exact ⟨k, le_rfl, hk, by rw [loopWhile, if_neg hc], by simpa using hc,
        fun i h1 h2 => absurd h2 (by omega)⟩

/-! ### Words by index -/

/-- The class of the cell at index `i` in row-major order. -/
def classAt (wordDelimiters : List UInt16) (i : Int) : DelimiterClass :=
  b.getDelimiterClassAt (b.getSize.ofOffset i) wordDelimiters

/-- The cell at index `i` starts a word for accessibility: it is regular, and it is the first
cell or the cell before it is not regular. -/
def IsWordStart (wordDelimiters : List UInt16) (i : Int) : Prop :=
  0 ≤ i ∧ i < b.getSize.cellCount ∧ b.classAt wordDelimiters i = .regularChar ∧
    (i = 0 ∨ b.classAt wordDelimiters (i - 1) ≠ .regularChar)

instance (wordDelimiters : List UInt16) (i : Int) : Decidable (b.IsWordStart wordDelimiters i) :=
  inferInstanceAs (Decidable (_ ∧ _))

/-- `s` is the last word start at or before index `k`, or `0` when there is none. -/
def IsLastWordStart (wordDelimiters : List UInt16) (k s : Int) : Prop :=
  0 ≤ s ∧ s ≤ k ∧ (b.IsWordStart wordDelimiters s ∨ s = 0) ∧
    ∀ i, s < i → i ≤ k → ¬ b.IsWordStart wordDelimiters i

/-- Between two indices in different rows lies the first cell of a row. -/
theorem exists_rowStart_between {w j k : Int} (hw : 0 < w) (hjk : j ≤ k) (hne : j / w ≠ k / w) :
    ∃ i, j < i ∧ i ≤ k ∧ i % w = 0 := by
  refine ⟨k / w * w, ?_, Int.ediv_mul_le k hw.ne', Int.mul_emod_left _ _⟩
  have h1 : j / w + 1 ≤ k / w := lt_of_le_of_ne (Int.ediv_le_ediv hw hjk) hne
  calc j < (j / w + 1) * w := Int.lt_ediv_add_one_mul_self j hw
    _ ≤ k / w * w := Int.mul_le_mul_of_nonneg_right h1 hw.le

/-- The cell before the first of a row is the last of the row before. -/
theorem emod_sub_one_of_emod_eq_zero {w i : Int} (hw : 0 < w) (h : i % w = 0) :
    (i - 1) % w = w - 1 := by
  have hi := Int.emod_add_ediv i w
  rw [h] at hi
  have : i - 1 = w - 1 + w * (i / w - 1) := by rw [Int.mul_sub, Int.mul_one]; omega
  rw [this, Int.add_mul_emod_self_left, Int.emod_eq_of_lt (by omega) (by omega)]

/-! ### The tests of the loops, by index -/

theorem backOverDelimiters_ofOffset (ds : List UInt16) (i : Int) :
    b.backOverDelimiters ds (b.getSize.ofOffset i) = true ↔
      b.classAt ds i ≠ .regularChar ∧ i ≠ 0 := by
  simp only [backOverDelimiters, classAt, origin_eq, Bool.and_eq_true, bne_iff_ne, ne_eq,
    ofOffset_inj]

theorem backOverWord_ofOffset (ds : List UInt16) (i : Int) :
    b.backOverWord ds (b.getSize.ofOffset i) = true ↔ b.classAt ds i = .regularChar ∧ i ≠ 0 := by
  simp only [backOverWord, classAt, origin_eq, Bool.and_eq_true, beq_iff_eq, bne_iff_ne, ne_eq,
    ofOffset_inj]

theorem expandsLeft_ofOffset (ds : List UInt16) (initialDelimiter : DelimiterClass) (i : Int) :
    b.expandsLeft ds initialDelimiter (b.getSize.ofOffset i) = true ↔
      i ≠ 0 ∧ b.classAt ds i = initialDelimiter ∧
        (initialDelimiter = .controlChar → i % b.width ≠ 0) := by
  simp only [expandsLeft, classAt, origin_eq, Bool.and_eq_true, bne_iff_ne, ne_eq, ofOffset_inj,
    beq_iff_eq, Bool.not_eq_true', Bool.and_eq_false_iff, x_ofOffset, getSize_left,
    beq_eq_false_iff_ne, and_assoc, imp_iff_not_or, add_zero]

theorem expandsRight_ofOffset (ds : List UInt16) (initialDelimiter : DelimiterClass) (i : Int) :
    b.expandsRight ds initialDelimiter (b.getSize.ofOffset i) = true ↔
      i ≠ b.getSize.cellCount - 1 ∧ b.classAt ds i = initialDelimiter ∧
        (initialDelimiter = .controlChar → i % b.width ≠ b.width - 1) := by
  simp only [expandsRight, classAt, bottomRightInclusive_eq, Bool.and_eq_true, bne_iff_ne, ne_eq,
    ofOffset_inj, beq_iff_eq, Bool.not_eq_true', Bool.and_eq_false_iff, x_ofOffset,
    getSize_right, beq_eq_false_iff_ne, and_assoc, imp_iff_not_or]

theorem forwardOverWord_ofOffset (ds : List UInt16) (i : Int) :
    b.forwardOverWord ds b.getSize.endExclusive (b.getSize.ofOffset i) = true ↔
      i ≠ b.getSize.cellCount ∧ i ≠ b.getSize.cellCount - 1 ∧ b.classAt ds i = .regularChar := by
  simp only [forwardOverWord, classAt, endExclusive_eq, bottomRightInclusive_eq, Bool.and_eq_true,
    bne_iff_ne, ne_eq, ofOffset_inj, beq_iff_eq, and_assoc]

theorem forwardOverDelimiters_ofOffset (ds : List UInt16) (i : Int) :
    b.forwardOverDelimiters ds b.getSize.endExclusive (b.getSize.ofOffset i) = true ↔
      i ≠ b.getSize.cellCount ∧ i ≠ b.getSize.cellCount - 1 ∧ b.classAt ds i ≠ .regularChar := by
  simp only [forwardOverDelimiters, classAt, endExclusive_eq, bottomRightInclusive_eq,
    Bool.and_eq_true, bne_iff_ne, ne_eq, ofOffset_inj, and_assoc]

/-! ### Selection: the run of the target's class -/

/-- **`_GetWordStartForSelection` by index**: the start `s` of the run of the target's class
that ends at `k`; it stops after a cell of another class, at the first cell, or, for control
characters, at the first cell of the target's row. -/
theorem getWordStartForSelection_spec (ds : List UInt16) {k : Int}
    (hk : 0 ≤ k ∧ k < b.getSize.cellCount) :
    ∃ s, 0 ≤ s ∧ s ≤ k ∧
      b.getWordStartForSelection (b.getSize.ofOffset k) ds = some (b.getSize.ofOffset s) ∧
      (∀ i, s ≤ i → i ≤ k → b.classAt ds i = b.classAt ds k) ∧
      (0 < s → b.classAt ds (s - 1) ≠ b.classAt ds k ∨
        (b.classAt ds k = .controlChar ∧ s % b.width = 0)) ∧
      (b.classAt ds k = .controlChar → s / b.width = k / b.width) := by
  have hw : (0 : Int) < b.width := by have := b.width_pos; omega
  obtain ⟨j, hj0, hjk, hl, hjc, hrun⟩ := loopWhile_down
    (b.expandsLeft ds (b.getDelimiterClassAt (b.getSize.ofOffset k) ds))
    (fun r => (b.getSize.decrementInBounds r false).1)
    (fun i hi0 hic _ => by simp only [decrementInBounds_ofOffset ⟨hi0, hic⟩])
    (by rw [← Bool.not_eq_true, expandsLeft_ofOffset]; simp) b.walkFuel k hk.1 hk.2
    (by have := @walkFuel_gt b; omega)
  rw [← Bool.not_eq_true, expandsLeft_ofOffset] at hjc
  simp only [expandsLeft_ofOffset] at hrun
  have heval : b.getWordStartForSelection (b.getSize.ofOffset k) ds =
      if b.classAt ds j ≠ b.classAt ds k then
        some (b.getSize.incrementInBounds (b.getSize.ofOffset j) false).1
      else some (b.getSize.ofOffset j) := by
    simp only [getWordStartForSelection, hl, Option.bind_eq_bind, Option.some_bind, classAt,
      bne_iff_ne, ne_eq]
    rfl
  -- a run of control characters holds no first cell of a row past `j`
  have hrow : b.classAt ds k = .controlChar → ∀ i, j < i → i ≤ k → i % b.width ≠ 0 :=
    fun hc i h1 h2 => (hrun i h1 h2).2.2 hc
  by_cases hcj : b.classAt ds j = b.classAt ds k
  · refine ⟨j, hj0, hjk, by rw [heval, if_neg (not_not.mpr hcj)], fun i h1 h2 => ?_,
      fun hpos => Or.inr ?_, fun hc => ?_⟩
    · rcases lt_or_eq_of_le h1 with h | h
      · exact (hrun i h h2).2.1
      · rw [← h]; exact hcj
    · by_contra hn
      exact hjc ⟨by omega, hcj, fun hc h0 => hn ⟨hc, h0⟩⟩
    · by_contra hne
      obtain ⟨i, h1, h2, h3⟩ := exists_rowStart_between hw hjk hne
      exact hrow hc i h1 h2 h3
  · have hjk' : j < k := lt_of_le_of_ne hjk fun h => hcj (h ▸ rfl)
    refine ⟨j + 1, by omega, by omega, ?_, fun i h1 h2 => (hrun i (by omega) h2).2.1,
      fun _ => Or.inl (by simpa using hcj), fun hc => ?_⟩
    · rw [heval, if_pos hcj, incrementInBounds_ofOffset
        ⟨hj0, by simp only [Bool.false_eq_true, if_false]; omega⟩]
    · by_contra hne
      obtain ⟨i, h1, h2, h3⟩ := exists_rowStart_between hw (by omega : j + 1 ≤ k) hne
      exact hrow hc i (by omega) h2 h3

/-- **`_GetWordEndForSelection` by index**: the end `e` of the run of the target's class that
starts at `k`; it stops before a cell of another class, at the last cell, or, for control
characters, at the last cell of the target's row. -/
theorem getWordEndForSelection_spec (ds : List UInt16) {k : Int}
    (hk : 0 ≤ k ∧ k < b.getSize.cellCount) :
    ∃ e, k ≤ e ∧ e < b.getSize.cellCount ∧
      b.getWordEndForSelection (b.getSize.ofOffset k) ds = some (b.getSize.ofOffset e) ∧
      (∀ i, k ≤ i → i ≤ e → b.classAt ds i = b.classAt ds k) ∧
      (e + 1 < b.getSize.cellCount → b.classAt ds (e + 1) ≠ b.classAt ds k ∨
        (b.classAt ds k = .controlChar ∧ e % b.width = b.width - 1)) ∧
      (b.classAt ds k = .controlChar → e / b.width = k / b.width) := by
  have hw : (0 : Int) < b.width := by have := b.width_pos; omega
  obtain ⟨j, hkj, hj, hl, hjc, hrun⟩ := loopWhile_up
    (b.expandsRight ds (b.getDelimiterClassAt (b.getSize.ofOffset k) ds))
    (fun r => (b.getSize.incrementInBoundsCircular r).1)
    (fun i hi0 hic _ => by simp only [incrementInBoundsCircular_ofOffset ⟨hi0, hic⟩])
    (by rw [← Bool.not_eq_true, expandsRight_ofOffset]; simp) b.walkFuel k hk.1 hk.2
    (by have := @walkFuel_gt b; omega)
  rw [← Bool.not_eq_true, expandsRight_ofOffset] at hjc
  simp only [expandsRight_ofOffset] at hrun
  have heval : b.getWordEndForSelection (b.getSize.ofOffset k) ds =
      if b.classAt ds j ≠ b.classAt ds k then
        some (b.getSize.decrementInBounds (b.getSize.ofOffset j) false).1
      else some (b.getSize.ofOffset j) := by
    simp only [getWordEndForSelection, hl, Option.bind_eq_bind, Option.some_bind, classAt,
      bne_iff_ne, ne_eq]
    rfl
  -- a run of control characters up to `e` stays in the target's row
  have hrow : ∀ e, k ≤ e → e ≤ j → b.classAt ds k = .controlChar → e / b.width = k / b.width := by
    intro e h1 h2 hc
    by_contra hne
    obtain ⟨i, hi1, hi2, hi3⟩ := exists_rowStart_between hw h1 (Ne.symm hne)
    exact (hrun (i - 1) (by omega) (by omega)).2.2 hc (emod_sub_one_of_emod_eq_zero hw hi3)
  by_cases hcj : b.classAt ds j = b.classAt ds k
  · refine ⟨j, hkj, hj, by rw [heval, if_neg (not_not.mpr hcj)], fun i h1 h2 => ?_,
      fun hlt => Or.inr ?_, hrow j hkj le_rfl⟩
    · rcases lt_or_eq_of_le h2 with h | h
      · exact (hrun i h1 h).2.1
      · rw [h]; exact hcj
    · by_contra hn
      exact hjc ⟨by omega, hcj, fun hc h0 => hn ⟨hc, h0⟩⟩
  · have hkj' : k < j := lt_of_le_of_ne hkj fun h => hcj (h ▸ rfl)
    refine ⟨j - 1, by omega, by omega, ?_, fun i h1 h2 => (hrun i h1 (by omega)).2.1,
      fun _ => Or.inl (by simpa using hcj), hrow (j - 1) (by omega) (by omega)⟩
    rw [heval, if_pos hcj, decrementInBounds_ofOffset ⟨by omega, hj⟩]

/-! ### Accessibility: word starts -/

/-- **`_GetWordStartForAccessibility` by index** finds the last word start at or before `k`,
or the first cell when there is none. -/
theorem getWordStartForAccessibility_spec (ds : List UInt16) {k : Int}
    (hk : 0 ≤ k ∧ k < b.getSize.cellCount) :
    ∃ s, b.getWordStartForAccessibility (b.getSize.ofOffset k) ds = some (b.getSize.ofOffset s) ∧
      b.IsLastWordStart ds k s := by
  have hfuel := @walkFuel_gt b
  obtain ⟨j, hj0, hjk, hl, hjc, hrun⟩ := loopWhile_down (b.backOverDelimiters ds)
    (fun r => (b.getSize.decrementInBounds r false).1)
    (fun i hi0 hic _ => by simp only [decrementInBounds_ofOffset ⟨hi0, hic⟩])
    (by rw [← Bool.not_eq_true, backOverDelimiters_ofOffset]; simp) b.walkFuel k hk.1 hk.2
    (by omega)
  rw [← Bool.not_eq_true, backOverDelimiters_ofOffset] at hjc
  simp only [backOverDelimiters_ofOffset] at hrun
  by_cases hcj : b.classAt ds j = .regularChar
  · obtain ⟨m, hm0, hmj, hl', hmc, hrun'⟩ := loopWhile_down (b := b) (b.backOverWord ds)
      (fun r => (b.getSize.decrementInBounds r false).1)
      (fun i hi0 hic _ => by simp only [decrementInBounds_ofOffset ⟨hi0, hic⟩])
      (by rw [← Bool.not_eq_true, backOverWord_ofOffset]; simp) b.walkFuel j hj0 (by omega)
      (by omega)
    rw [← Bool.not_eq_true, backOverWord_ofOffset] at hmc
    simp only [backOverWord_ofOffset] at hrun'
    have heval : b.getWordStartForAccessibility (b.getSize.ofOffset k) ds =
        if b.classAt ds m = .regularChar then some (b.getSize.ofOffset m)
        else some (b.getSize.incrementInBounds (b.getSize.ofOffset m) false).1 := by
      simp only [getWordStartForAccessibility, hl, hl', Option.bind_eq_bind, Option.some_bind]
      simp only [classAt] at hcj
      simp only [hcj, bne_self_eq_false, Bool.false_eq_true, if_false, classAt, beq_iff_eq]
      rfl
    -- every cell of `(m, k]` is regular and after a regular cell, or not regular
    have hnone : ∀ i, m < i → i ≤ k → 0 < i → b.classAt ds (i - 1) = .regularChar →
        ¬ b.IsWordStart ds i := fun i _ _ hi hprev hw =>
      hw.2.2.2.elim (by omega) fun h => h hprev
    by_cases hcm : b.classAt ds m = .regularChar
    · have hm : m = 0 := by by_contra h; exact hmc ⟨hcm, h⟩
      refine ⟨m, by rw [heval, if_pos hcm], hm0, by omega, Or.inr hm, fun i h1 h2 => ?_⟩
      rcases le_or_lt i j with h | h
      · refine hnone i h1 h2 (by omega) ?_
        rcases lt_or_eq_of_le (show m ≤ i - 1 by omega) with h' | h'
        · exact (hrun' (i - 1) h' (by omega)).1
        · rw [← h']; exact hcm
      · exact fun hw => (hrun i h h2).1 hw.2.2.1
    · have hmj' : m < j := lt_of_le_of_ne hmj fun h => hcm (h ▸ hcj)
      refine ⟨m + 1, by rw [heval, if_neg hcm, incrementInBounds_ofOffset
          ⟨hm0, by simp only [Bool.false_eq_true, if_false]; omega⟩], by omega, by omega,
        Or.inl ⟨by omega, by omega, (hrun' (m + 1) (by omega) (by omega)).1,
          Or.inr (by simpa using hcm)⟩, fun i h1 h2 => ?_⟩
      rcases le_or_lt i j with h | h
      · exact hnone i (by omega) h2 (by omega) (hrun' (i - 1) (by omega) (by omega)).1
      · exact fun hw => (hrun i h h2).1 hw.2.2.1
  · have hj : j = 0 := by by_contra h; exact hjc ⟨hcj, h⟩
    refine ⟨j, ?_, hj0, hjk, Or.inr hj, fun i h1 h2 hw => (hrun i h1 h2).1 hw.2.2.1⟩
    simp only [getWordStartForAccessibility, hl, Option.bind_eq_bind, Option.some_bind]
    simp only [classAt] at hcj
    simp only [bne_iff_ne, ne_eq, hcj, not_false_eq_true, if_true]
    rfl

/-- **`_GetWordEndForAccessibility` by index**, to the end of the buffer: the first word start
after `k` and before the last cell, or one past the last cell when there is none. -/
theorem getWordEndForAccessibility_spec (ds : List UInt16) {k : Int}
    (hk : 0 ≤ k ∧ k < b.getSize.cellCount) :
    ∃ e, b.getWordEndForAccessibility (b.getSize.ofOffset k) ds b.getSize.endExclusive =
        some (b.getSize.ofOffset e) ∧
      (b.IsWordStart ds e ∧ k < e ∧ e < b.getSize.cellCount - 1 ∨ e = b.getSize.cellCount) ∧
      ∀ i, k < i → i < e → i < b.getSize.cellCount - 1 → ¬ b.IsWordStart ds i := by
  have hfuel := @walkFuel_gt b
  obtain ⟨j, hkj, hj, hl, hjc, hrun⟩ := loopWhile_up (b.forwardOverWord ds b.getSize.endExclusive)
    (fun r => (b.getSize.incrementInBounds r false).1)
    (fun i hi0 hic _ => by simp only [incrementInBounds_ofOffset
      ⟨hi0, show i + 1 ≤ b.getSize.cellCount - if false = true then 0 else 1 by
        simp only [Bool.false_eq_true, if_false]; omega⟩])
    (by rw [← Bool.not_eq_true, forwardOverWord_ofOffset]; simp) b.walkFuel k hk.1 hk.2 (by omega)
  rw [← Bool.not_eq_true, forwardOverWord_ofOffset] at hjc
  simp only [forwardOverWord_ofOffset] at hrun
  obtain ⟨m, hjm, hm, hl', hmc, hrun'⟩ := loopWhile_up (b := b)
    (b.forwardOverDelimiters ds b.getSize.endExclusive)
    (fun r => (b.getSize.incrementInBounds r false).1)
    (fun i hi0 hic _ => by simp only [incrementInBounds_ofOffset
      ⟨hi0, show i + 1 ≤ b.getSize.cellCount - if false = true then 0 else 1 by
        simp only [Bool.false_eq_true, if_false]; omega⟩])
    (by rw [← Bool.not_eq_true, forwardOverDelimiters_ofOffset]; simp) b.walkFuel j (by omega) hj
    (by omega)
  rw [← Bool.not_eq_true, forwardOverDelimiters_ofOffset] at hmc
  simp only [forwardOverDelimiters_ofOffset] at hrun'
  have heval : b.getWordEndForAccessibility (b.getSize.ofOffset k) ds b.getSize.endExclusive =
      if m = b.getSize.cellCount - 1 then
        some (b.getSize.incrementInBounds (b.getSize.ofOffset m) true).1
      else some (b.getSize.ofOffset m) := by
    have hd : b.getSize.compareInBounds (b.getSize.ofOffset k) b.getSize.endExclusive < 0 := by
      rw [Viewport.compareInBounds_eq, Viewport.offset_ofOffset, Viewport.offset_endExclusive]
      omega
    simp only [getWordEndForAccessibility, hl, hl', Option.bind_eq_bind, Option.some_bind,
      bottomRightInclusive_eq, ofOffset_inj, if_neg (not_le.mpr hd)]
    rfl
  -- no cell of `(k, m)` starts a word
  have hnone : ∀ i, k < i → i < m → ¬ b.IsWordStart ds i := by
    intro i h1 h2 hw
    rcases lt_or_le i j with h | h
    · exact hw.2.2.2.elim (by omega) fun hp => hp (hrun (i - 1) (by omega) (by omega)).2.2
    · exact (hrun' i h h2).2.2 hw.2.2.1
  by_cases hmr : m = b.getSize.cellCount - 1
  · refine ⟨b.getSize.cellCount, ?_, Or.inr rfl, fun i h1 _ h3 => hnone i h1 (by omega)⟩
    rw [heval, if_pos hmr, incrementInBounds_ofOffset ⟨by omega, by simp; omega⟩, hmr,
      Int.sub_add_cancel]
  · have hcm : b.classAt ds m = .regularChar := by
      by_contra h; exact hmc ⟨by omega, hmr, h⟩
    have hjm' : j < m := by
      refine lt_of_le_of_ne hjm fun h => hjc ⟨by omega, by omega, ?_⟩
      rw [h]; exact hcm
    exact ⟨m, by rw [heval, if_neg hmr], Or.inl ⟨⟨by omega, hm, hcm,
      Or.inr (hrun' (m - 1) (by omega) (by omega)).2.2⟩, by omega, by omega⟩,
      fun i h1 h2 _ => hnone i h1 h2⟩

/-! ### The entry points on a cell of the buffer -/

theorem getWordStart_origin (ds : List UInt16) (accessibilityMode : Bool) :
    b.getWordStart (b.getSize.ofOffset 0) ds accessibilityMode none =
      some (b.getSize.ofOffset 0) := by
  simp only [getWordStart, origin_eq, if_true]

theorem getWordStart_ofOffset (ds : List UInt16) (accessibilityMode : Bool) {k : Int}
    (hk : 0 < k ∧ k < b.getSize.cellCount) :
    b.getWordStart (b.getSize.ofOffset k) ds accessibilityMode none =
      if accessibilityMode then b.getWordStartForAccessibility (b.getSize.ofOffset k) ds
      else b.getWordStartForSelection (b.getSize.ofOffset k) ds := by
  have hd : b.getSize.compareInBounds (b.getSize.ofOffset k) (b.getSize.ofOffset b.getSize.cellCount) <
      0 := by
    rw [Viewport.compareInBounds_eq, Viewport.offset_ofOffset, Viewport.offset_ofOffset]; omega
  simp only [getWordStart, Option.getD_none, origin_eq, endExclusive_eq, ofOffset_inj,
    if_neg (show k ≠ 0 by omega), if_neg (show k ≠ b.getSize.cellCount by omega),
    if_neg (not_le.mpr hd)]

theorem getWordEnd_ofOffset (ds : List UInt16) (accessibilityMode : Bool) {k : Int}
    (hk : 0 ≤ k ∧ k < b.getSize.cellCount) :
    b.getWordEnd (b.getSize.ofOffset k) ds accessibilityMode none =
      if accessibilityMode then
        b.getWordEndForAccessibility (b.getSize.ofOffset k) ds b.getSize.endExclusive
      else b.getWordEndForSelection (b.getSize.ofOffset k) ds := by
  have hd : b.getSize.compareInBounds (b.getSize.ofOffset k) b.getSize.endExclusive < 0 := by
    rw [Viewport.compareInBounds_eq, Viewport.offset_ofOffset, Viewport.offset_endExclusive]
    omega
  simp only [getWordEnd, Option.getD_none, if_neg (not_le.mpr hd)]

/-- A cell of the buffer is the cell at its index. -/
theorem exists_ofOffset {p : Point} (hp : b.getSize.InBounds p) :
    ∃ k, (0 ≤ k ∧ k < b.getSize.cellCount) ∧ p = b.getSize.ofOffset k :=
  ⟨_, Viewport.offset_mem hp, (Viewport.ofOffset_offset ⟨hp.1, hp.2.1⟩).symm⟩

/-- `GetWordStart` for a selection, the origin included. -/
theorem getWordStart_selection_spec (ds : List UInt16) {k : Int}
    (hk : 0 ≤ k ∧ k < b.getSize.cellCount) :
    ∃ s, 0 ≤ s ∧ s ≤ k ∧
      b.getWordStart (b.getSize.ofOffset k) ds false none = some (b.getSize.ofOffset s) ∧
      (∀ i, s ≤ i → i ≤ k → b.classAt ds i = b.classAt ds k) ∧
      (0 < s → b.classAt ds (s - 1) ≠ b.classAt ds k ∨
        (b.classAt ds k = .controlChar ∧ s % b.width = 0)) ∧
      (b.classAt ds k = .controlChar → s / b.width = k / b.width) := by
  rcases lt_or_eq_of_le hk.1 with h | h
  · rw [getWordStart_ofOffset ds false ⟨h, hk.2⟩]
    exact getWordStartForSelection_spec ds hk
  · subst h
    exact ⟨0, le_rfl, le_rfl, getWordStart_origin ds false,
      fun i h1 h2 => by rw [show i = 0 by omega], fun h => absurd h (lt_irrefl 0), fun _ => rfl⟩

/-- `GetWordStart` for accessibility, the origin included. -/
theorem getWordStart_accessibility_spec (ds : List UInt16) {k : Int}
    (hk : 0 ≤ k ∧ k < b.getSize.cellCount) :
    ∃ s, b.getWordStart (b.getSize.ofOffset k) ds true none = some (b.getSize.ofOffset s) ∧
      b.IsLastWordStart ds k s := by
  rcases lt_or_eq_of_le hk.1 with h | h
  · rw [getWordStart_ofOffset ds true ⟨h, hk.2⟩]
    exact getWordStartForAccessibility_spec ds hk
  · subst h
    exact ⟨0, getWordStart_origin ds true, le_rfl, le_rfl, Or.inr rfl,
      fun i h1 h2 => absurd h2 (by omega)⟩

/-! ### Selection -/

/-- **A selection covers the run of the target's class.**  For every cell `t` of the buffer,
`GetWordStart` and `GetWordEnd` for a selection give cells `s ≤ t ≤ e` between which every cell
has `t`'s class; the cell before `s` and the cell after `e` have another class, except where a
run of control characters is cut at a margin, and such a run stays in `t`'s row. -/
theorem getWord_selection_run (ds : List UInt16) {t : Point} (ht : b.getSize.InBounds t) :
    ∃ s e, b.getWordStart t ds false none = some s ∧ b.getWordEnd t ds false none = some e ∧
      b.getSize.InBounds s ∧ b.getSize.InBounds e ∧ s ≤ t ∧ t ≤ e ∧
      (∀ q, b.getSize.InBounds q → s ≤ q → q ≤ e →
        b.getDelimiterClassAt q ds = b.getDelimiterClassAt t ds) ∧
      (s ≠ b.getSize.origin →
        b.getDelimiterClassAt (b.getSize.ofOffset (b.getSize.offset s - 1)) ds ≠
            b.getDelimiterClassAt t ds ∨
          (b.getDelimiterClassAt t ds = .controlChar ∧ s.x = b.getSize.left)) ∧
      (e ≠ b.getSize.bottomRightInclusive →
        b.getDelimiterClassAt (b.getSize.ofOffset (b.getSize.offset e + 1)) ds ≠
            b.getDelimiterClassAt t ds ∨
          (b.getDelimiterClassAt t ds = .controlChar ∧ e.x = b.getSize.right)) ∧
      (b.getDelimiterClassAt t ds = .controlChar → s.y = t.y ∧ e.y = t.y) := by
  obtain ⟨k, hk, rfl⟩ := exists_ofOffset ht
  obtain ⟨s, hs0, hsk, hseq, hsrun, hsmax, hsrow⟩ := getWordStart_selection_spec ds hk
  obtain ⟨e, hke, hec, heeq, herun, hemax, herow⟩ := getWordEndForSelection_spec ds hk
  have hin : ∀ i, 0 ≤ i → i < b.getSize.cellCount → b.getSize.InBounds (b.getSize.ofOffset i) :=
    fun i h1 h2 => Viewport.inBounds_ofOffset getSize_width_pos ⟨h1, h2⟩
  have hle := @Viewport.ofOffset_le_ofOffset_iff b.getSize getSize_width_pos
  refine ⟨_, _, hseq, by rw [getWordEnd_ofOffset ds false hk, if_neg Bool.false_ne_true]; exact heeq,
    hin s hs0 (by omega), hin e (by omega) hec, hle.2 hsk, hle.2 hke, fun q hq h1 h2 => ?_,
    fun hne => ?_, fun hne => ?_, fun hc => ⟨?_, ?_⟩⟩
  · obtain ⟨i, -, rfl⟩ := exists_ofOffset hq
    rw [hle] at h1 h2
    rcases le_total i k with h | h
    · exact hsrun i h1 h
    · exact herun i h h2
  · rw [origin_eq, Ne, ofOffset_inj] at hne
    rw [Viewport.offset_ofOffset, x_ofOffset, getSize_left]
    exact hsmax (by omega)
  · rw [bottomRightInclusive_eq, Ne, ofOffset_inj] at hne
    rw [Viewport.offset_ofOffset, x_ofOffset, getSize_right]
    exact hemax (by omega)
  · rw [y_ofOffset, y_ofOffset]; exact hsrow hc
  · rw [y_ofOffset, y_ofOffset]; exact herow hc

/-- A buffer four columns wide and two rows high whose first row reads `a bc`. -/
def twoWordsBuffer : TextBuffer :=
  ((create ⟨4, 2⟩ {} 1 false 0 0).get (by decide)).modifyRow 0 fun r =>
    { r with cells := [⟨[0x61], .single⟩, ⟨[0x20], .single⟩, ⟨[0x62], .single⟩,
      ⟨[0x63], .single⟩] }

theorem getWord_selection_run_twoWordsBuffer :
    twoWordsBuffer.getSize.InBounds ⟨2, 0⟩ ∧
      ∃ s e, twoWordsBuffer.getWordStart ⟨2, 0⟩ [] false none = some s ∧
        twoWordsBuffer.getWordEnd ⟨2, 0⟩ [] false none = some e ∧
        twoWordsBuffer.getSize.InBounds s ∧ twoWordsBuffer.getSize.InBounds e ∧ s ≤ ⟨2, 0⟩ ∧ ⟨2, 0⟩ ≤ e ∧
        (∀ q, twoWordsBuffer.getSize.InBounds q → s ≤ q → q ≤ e →
          twoWordsBuffer.getDelimiterClassAt q [] = twoWordsBuffer.getDelimiterClassAt ⟨2, 0⟩ []) ∧
        (s ≠ twoWordsBuffer.getSize.origin →
          twoWordsBuffer.getDelimiterClassAt (twoWordsBuffer.getSize.ofOffset (twoWordsBuffer.getSize.offset s - 1)) [] ≠
              twoWordsBuffer.getDelimiterClassAt ⟨2, 0⟩ [] ∨
            (twoWordsBuffer.getDelimiterClassAt ⟨2, 0⟩ [] = .controlChar ∧ s.x = twoWordsBuffer.getSize.left)) ∧
        (e ≠ twoWordsBuffer.getSize.bottomRightInclusive →
          twoWordsBuffer.getDelimiterClassAt (twoWordsBuffer.getSize.ofOffset (twoWordsBuffer.getSize.offset e + 1)) [] ≠
              twoWordsBuffer.getDelimiterClassAt ⟨2, 0⟩ [] ∨
            (twoWordsBuffer.getDelimiterClassAt ⟨2, 0⟩ [] = .controlChar ∧ e.x = twoWordsBuffer.getSize.right)) ∧
        (twoWordsBuffer.getDelimiterClassAt ⟨2, 0⟩ [] = .controlChar → s.y = (⟨2, 0⟩ : Point).y ∧
          e.y = (⟨2, 0⟩ : Point).y) :=
  have ht : twoWordsBuffer.getSize.InBounds ⟨2, 0⟩ := by decide
  ⟨ht, getWord_selection_run [] ht⟩

/-! ### Accessibility -/

/-- `MoveToNextWord` from the cell at index `k`, given where `_GetWordEndForAccessibility`
stops. -/
theorem moveToNextWord_of_wordEnd (ds : List UInt16) {k e : Int} (he : e ≤ b.getSize.cellCount)
    (heq : b.getWordEndForAccessibility (b.getSize.ofOffset k) ds b.getSize.endExclusive =
      some (b.getSize.ofOffset e)) :
    b.moveToNextWord (b.getSize.ofOffset k) ds none =
      some (if e = b.getSize.cellCount then (b.getSize.ofOffset k, false)
        else (b.getSize.ofOffset e, true)) := by
  simp only [moveToNextWord, Option.getD_none, heq, Option.bind_eq_bind, Option.some_bind,
    Viewport.compareInBounds_eq, Viewport.offset_ofOffset, Viewport.offset_endExclusive,
    sub_nonneg]
  by_cases h : e = b.getSize.cellCount
  · rw [if_pos h.ge, if_pos h]; rfl
  · rw [if_neg (by omega), if_neg h]; rfl

/-- **`MoveToNextWord` and `GetWordEnd` for accessibility** go to the first word start after
`p` and before the last cell, or, when there is none, `GetWordEnd` gives `EndExclusive` and
`MoveToNextWord` does not move. -/
theorem moveToNextWord_spec (ds : List UInt16) {p : Point} (hp : b.getSize.InBounds p) :
    ∃ e, b.getWordEnd p ds true none = some (b.getSize.ofOffset e) ∧
      (b.IsWordStart ds e ∧ b.getSize.offset p < e ∧ e < b.getSize.cellCount - 1 ∨
        e = b.getSize.cellCount) ∧
      (∀ i, b.getSize.offset p < i → i < e → i < b.getSize.cellCount - 1 →
        ¬ b.IsWordStart ds i) ∧
      b.moveToNextWord p ds none =
        some (if e = b.getSize.cellCount then (p, false) else (b.getSize.ofOffset e, true)) := by
  obtain ⟨k, hk, rfl⟩ := exists_ofOffset hp
  obtain ⟨e, heq, hcase, hnone⟩ := getWordEndForAccessibility_spec ds hk
  rw [Viewport.offset_ofOffset]
  exact ⟨e, by rw [getWordEnd_ofOffset ds true hk, if_pos rfl, heq], hcase, hnone,
    moveToNextWord_of_wordEnd ds (by omega) heq⟩

theorem moveToNextWord_spec_twoWordsBuffer :
    twoWordsBuffer.getSize.InBounds ⟨0, 0⟩ ∧
      ∃ e, twoWordsBuffer.getWordEnd ⟨0, 0⟩ [] true none = some (twoWordsBuffer.getSize.ofOffset e) ∧
        (twoWordsBuffer.IsWordStart [] e ∧ twoWordsBuffer.getSize.offset ⟨0, 0⟩ < e ∧
            e < twoWordsBuffer.getSize.cellCount - 1 ∨ e = twoWordsBuffer.getSize.cellCount) ∧
        (∀ i, twoWordsBuffer.getSize.offset ⟨0, 0⟩ < i → i < e → i < twoWordsBuffer.getSize.cellCount - 1 →
          ¬ twoWordsBuffer.IsWordStart [] i) ∧
        twoWordsBuffer.moveToNextWord ⟨0, 0⟩ [] none =
          some (if e = twoWordsBuffer.getSize.cellCount then (⟨0, 0⟩, false)
            else (twoWordsBuffer.getSize.ofOffset e, true)) :=
  have hp : twoWordsBuffer.getSize.InBounds ⟨0, 0⟩ := by decide
  ⟨hp, moveToNextWord_spec [] hp⟩

/-- **A word on the bottom-right cell is never found.**  When the last cell of the buffer starts
a word and no word starts between `p` and it, `GetWordEnd` for accessibility gives
`EndExclusive` and `MoveToNextWord` reports that there is no next word. -/
theorem getWordEnd_misses_bottom_right_word (ds : List UInt16) {p : Point}
    (hp : b.getSize.InBounds p) (_hlast : b.IsWordStart ds (b.getSize.cellCount - 1))
    (hlt : b.getSize.offset p < b.getSize.cellCount - 1)
    (hnone : ∀ i, b.getSize.offset p < i → i < b.getSize.cellCount - 1 → ¬ b.IsWordStart ds i) :
    b.getWordEnd p ds true none = some b.getSize.endExclusive ∧
      b.moveToNextWord p ds none = some (p, false) := by
  obtain ⟨k, hk, rfl⟩ := exists_ofOffset hp
  rw [Viewport.offset_ofOffset] at hlt hnone
  obtain ⟨e, heq, hcase, -⟩ := getWordEndForAccessibility_spec ds hk
  obtain rfl : e = b.getSize.cellCount :=
    hcase.resolve_left fun ⟨hw, h1, h2⟩ => hnone e h1 h2 hw
  refine ⟨by rw [getWordEnd_ofOffset ds true hk, if_pos rfl, heq, endExclusive_eq], ?_⟩
  rw [moveToNextWord_of_wordEnd ds le_rfl heq, if_pos rfl]

/-- A buffer two columns wide and one row high holding a blank and then `a`. -/
def lastWordBuffer : TextBuffer :=
  ((create ⟨2, 1⟩ {} 1 false 0 0).get (by decide)).modifyRow 0 fun r =>
    { r with cells := [⟨[0x20], .single⟩, ⟨[0x61], .single⟩] }

theorem getWordEnd_misses_bottom_right_word_lastWordBuffer :
    lastWordBuffer.getSize.InBounds ⟨0, 0⟩ ∧
      lastWordBuffer.IsWordStart [] (lastWordBuffer.getSize.cellCount - 1) ∧
      lastWordBuffer.getSize.offset ⟨0, 0⟩ < lastWordBuffer.getSize.cellCount - 1 ∧
      (∀ i, lastWordBuffer.getSize.offset ⟨0, 0⟩ < i → i < lastWordBuffer.getSize.cellCount - 1 →
        ¬ lastWordBuffer.IsWordStart [] i) ∧
      (lastWordBuffer.getWordEnd ⟨0, 0⟩ [] true none = some lastWordBuffer.getSize.endExclusive ∧
        lastWordBuffer.moveToNextWord ⟨0, 0⟩ [] none = some (⟨0, 0⟩, false)) :=
  have hp : lastWordBuffer.getSize.InBounds ⟨0, 0⟩ := by decide
  have hlast : lastWordBuffer.IsWordStart [] (lastWordBuffer.getSize.cellCount - 1) := by decide
  have hc : lastWordBuffer.getSize.cellCount = 2 := by decide
  have ho : lastWordBuffer.getSize.offset ⟨0, 0⟩ = 0 := by decide
  have hlt : lastWordBuffer.getSize.offset ⟨0, 0⟩ < lastWordBuffer.getSize.cellCount - 1 := by
    rw [hc, ho]; decide
  have hnone : ∀ i, lastWordBuffer.getSize.offset ⟨0, 0⟩ < i →
      i < lastWordBuffer.getSize.cellCount - 1 → ¬ lastWordBuffer.IsWordStart [] i :=
    fun i h1 h2 => absurd h2 (by rw [hc]; rw [ho] at h1; omega)
  ⟨hp, hlast, hlt, hnone, getWordEnd_misses_bottom_right_word [] hp hlast hlt hnone⟩

/-- **`MoveToPreviousWord`** goes from `p` to the last word start before `p`'s own, the last
word start at or before `p`; it does not move exactly when `p`'s own is the first cell. -/
theorem moveToPreviousWord_spec (ds : List UInt16) {p : Point} (hp : b.getSize.InBounds p) :
    ∃ s, b.getWordStart p ds true none = some (b.getSize.ofOffset s) ∧
      b.IsLastWordStart ds (b.getSize.offset p) s ∧
      (s = 0 → b.moveToPreviousWord p ds = some (p, false)) ∧
      (0 < s → ∃ s', b.moveToPreviousWord p ds = some (b.getSize.ofOffset s', true) ∧
        b.IsLastWordStart ds (s - 1) s') := by
  obtain ⟨k, hk, rfl⟩ := exists_ofOffset hp
  obtain ⟨s, hs, hls⟩ := getWordStart_accessibility_spec ds hk
  rw [Viewport.offset_ofOffset]
  refine ⟨s, hs, hls, fun h0 => ?_, fun hpos => ?_⟩
  · subst h0
    simp only [moveToPreviousWord, hs, Option.bind_eq_bind, Option.some_bind,
      decrementInBounds_zero]
    rfl
  · obtain ⟨s', hs', hls'⟩ := getWordStart_accessibility_spec (b := b) ds (k := s - 1)
      ⟨by omega, by have := hls.2.1; omega⟩
    refine ⟨s', ?_, hls'⟩
    simp only [moveToPreviousWord, hs, Option.bind_eq_bind, Option.some_bind,
      decrementInBounds_ofOffset (b := b) ⟨hpos, by have := hls.2.1; omega⟩, hs']
    rfl

theorem moveToPreviousWord_spec_twoWordsBuffer :
    twoWordsBuffer.getSize.InBounds ⟨3, 0⟩ ∧
      ∃ s, twoWordsBuffer.getWordStart ⟨3, 0⟩ [] true none = some (twoWordsBuffer.getSize.ofOffset s) ∧
        twoWordsBuffer.IsLastWordStart [] (twoWordsBuffer.getSize.offset ⟨3, 0⟩) s ∧
        (s = 0 → twoWordsBuffer.moveToPreviousWord ⟨3, 0⟩ [] = some (⟨3, 0⟩, false)) ∧
        (0 < s → ∃ s', twoWordsBuffer.moveToPreviousWord ⟨3, 0⟩ [] = some (twoWordsBuffer.getSize.ofOffset s', true) ∧
          twoWordsBuffer.IsLastWordStart [] (s - 1) s') :=
  have hp : twoWordsBuffer.getSize.InBounds ⟨3, 0⟩ := by decide
  ⟨hp, moveToPreviousWord_spec [] hp⟩

end TextBuffer

end TerminalBuffer
