/-
Scans that stop at the committed rows.

`_estimateOffsetOfLastCommittedRow` turns the watermark into a logical row index, and
two scans trust it as the end of the text.  `GetLastNonSpaceCharacter` starts from the
estimate (or the bottom of the viewport it is given, if that is higher up) and backs up
over empty rows.  `SearchText` caps the rows it hands to the ICU engine at the estimate
plus one; the engine itself, and the `UText` that presents the rows to it, are outside
these sources, so the model stops at the row range they are given.

Both scans read rows, and a read commits, so both return the buffer they leave behind.
Here it is shown that neither ever looks below the estimate (`y_getLastNonSpaceCharacter_le`,
`searchTextRows_le`): the scans are right exactly when no text lies below it.  Above it the
backward search is exact: it reports the lowest row with text at or above where it starts,
or the viewport's top, and that row's last non-space column (`getLastNonSpaceCharacter_spec`).
-/
import TerminalBuffer.Buffer

namespace TerminalBuffer

/-- `allWhitespace(text)`: every code unit is a space. -/
def allWhitespace (text : List UInt16) : Bool := text.all (· == 0x20)

namespace TextBuffer

variable (b : TextBuffer)

/-- The loop of `GetLastNonSpaceCharacter`: while the row at `y` is empty and above the
viewport's top, step up one row.  `x` is `MeasureRight() - 1` of the row at `y`. -/
def backUp (top : Int) : Nat → TextBuffer → Int → Int → TextBuffer × Point
  | 0, b, x, y => (b, ⟨x, y⟩)
  | fuel + 1, b, x, y =>
    if x < 0 ∧ y > top then
      backUp top fuel (b.touch (y - 1)) (((b.getRowByOffset (y - 1)).measureRight : Int) - 1)
        (y - 1)
    else (b, ⟨x, y⟩)

/-- `GetLastNonSpaceCharacter(viewOptional)`.  The loop runs at most `y - top` times, which
is the fuel it is given. -/
def getLastNonSpaceCharacter (viewOptional : Option Viewport) : TextBuffer × Point :=
  let viewport := viewOptional.getD b.getSize
  let y := min viewport.bottom b.estimateOffsetOfLastCommittedRow
  let x := ((b.getRowByOffset y).measureRight : Int) - 1
  let r := backUp viewport.top (y - viewport.top).toNat (b.touch y) x y
  (r.1, ⟨max r.2.x 0, max r.2.y 0⟩)

/-- The rows `SearchText(needle, caseInsensitive, rowBeg, rowEnd)` hands to the search
engine, `[rowBeg, rowEnd)` with `rowEnd` capped at the estimate plus one, or `none` where
it returns no result without searching. -/
def searchTextRows (needle : List UInt16) (rowBeg rowEnd : Int) : Option (Int × Int) :=
  let rowEnd := min rowEnd (b.estimateOffsetOfLastCommittedRow + 1)
  if allWhitespace needle ∨ rowBeg ≥ rowEnd then none else some (rowBeg, rowEnd)

/-- `SearchText(needle, caseInsensitive)`: all rows. -/
def searchTextAll (needle : List UInt16) : Option (Int × Int) :=
  b.searchTextRows needle 0 coordTypeMax

/-! ### Neither scan looks below the estimate -/

theorem y_backUp_le (top : Int) :
    ∀ fuel (b : TextBuffer) x y, (backUp top fuel b x y).2.y ≤ y := by
  intro fuel
  induction fuel with
  | zero => intro _ _ y; exact Int.le_refl y
  | succ fuel ih =>
    intro b x y
    unfold backUp
    split
    · exact Int.le_trans (ih _ _ _) (Int.sub_le_self y (by decide))
    · exact Int.le_refl y

theorem estimateOffsetOfLastCommittedRow_nonneg : 0 ≤ b.estimateOffsetOfLastCommittedRow := by
  unfold estimateOffsetOfLastCommittedRow; omega

/-- `GetLastNonSpaceCharacter` never reports a row below the estimate. -/
theorem y_getLastNonSpaceCharacter_le (v : Option Viewport) :
    (b.getLastNonSpaceCharacter v).2.y ≤ b.estimateOffsetOfLastCommittedRow :=
  Int.max_le.mpr ⟨Int.le_trans (y_backUp_le _ _ _ _ _) (Int.min_le_right _ _),
    b.estimateOffsetOfLastCommittedRow_nonneg⟩

/-- `SearchText` never hands a row below the estimate to the engine. -/
theorem searchTextRows_le {needle : List UInt16} {rowBeg rowEnd a e : Int}
    (h : b.searchTextRows needle rowBeg rowEnd = some (a, e)) :
    rowBeg = a ∧ e ≤ b.estimateOffsetOfLastCommittedRow + 1 := by
  unfold searchTextRows at h
  dsimp only at h
  split at h
  · cases h
  · cases h; exact ⟨rfl, Int.min_le_right _ _⟩

/-! ### What the backward search finds -/

/-- The loop of `GetLastNonSpaceCharacter`, from row `y` with enough fuel: it stops at or
above `y`, not above `top`, on a row with text or on `top`, after rows without text only;
its column is the stopping row's last non-space column; and the rows read the same. -/
theorem backUp_spec (top : Int) : ∀ (fuel : Nat) (b : TextBuffer) (y : Int), (y - top).toNat ≤ fuel →
    (backUp top fuel b (((b.getRowByOffset y).measureRight : Int) - 1) y).2.y ≤ y ∧
      (top ≤ y → top ≤ (backUp top fuel b (((b.getRowByOffset y).measureRight : Int) - 1) y).2.y) ∧
      (∀ y', (backUp top fuel b (((b.getRowByOffset y).measureRight : Int) - 1) y).2.y < y' →
        y' ≤ y → (b.getRowByOffset y').measureRight = 0) ∧
      ((backUp top fuel b (((b.getRowByOffset y).measureRight : Int) - 1) y).2.y ≤ top ∨
        0 < (b.getRowByOffset (backUp top fuel b (((b.getRowByOffset y).measureRight : Int) - 1)
          y).2.y).measureRight) ∧
      (backUp top fuel b (((b.getRowByOffset y).measureRight : Int) - 1) y).2.x =
        ((b.getRowByOffset (backUp top fuel b (((b.getRowByOffset y).measureRight : Int) - 1)
          y).2.y).measureRight : Int) - 1 ∧
      ∀ y', (backUp top fuel b (((b.getRowByOffset y).measureRight : Int) - 1) y).1.getRowByOffset y' =
        b.getRowByOffset y' := by
  intro fuel
  induction fuel with
  | zero =>
    intro b y hf
    rw [backUp]
    dsimp only
    exact ⟨le_refl _, fun h => h, fun y' h1 h2 => absurd h1 (by omega), .inl (by omega), rfl,
      fun _ => rfl⟩
  | succ fuel ih =>
    intro b y hf
    rw [backUp]
    split
    · rename_i hc
      have := ih (b.touch (y - 1)) (y - 1) (by omega)
      simp only [getRowByOffset_touch] at this
      obtain ⟨h1, h2, h3, h4, h5, h6⟩ := this
      refine ⟨by omega, fun _ => h2 (by omega), fun y' hy1 hy2 => ?_, h4, h5, h6⟩
      by_cases hy : y' = y
      · subst hy; omega
      · exact h3 y' hy1 (by omega)
    · rename_i hc
      dsimp only
      exact ⟨le_refl _, fun h => h, fun y' h1 h2 => absurd h1 (by omega), by omega, rfl,
        fun _ => rfl⟩


/-- **`GetLastNonSpaceCharacter` finds the last row with text at or above where it starts.**
It starts at the lower of the viewport's bottom and the estimate.  When that is not above the
viewport's top, the row it reports is the lowest row from there up that has text, or the top
when every row down to it is empty; the column is that row's last non-space column; both are
clamped at `0`; and every row reads the same afterwards. -/
theorem getLastNonSpaceCharacter_spec (v : Option Viewport)
    (ht : (v.getD b.getSize).top ≤ min (v.getD b.getSize).bottom b.estimateOffsetOfLastCommittedRow) :
    ∃ y, (v.getD b.getSize).top ≤ y ∧
      y ≤ min (v.getD b.getSize).bottom b.estimateOffsetOfLastCommittedRow ∧
      (∀ y', y < y' → y' ≤ min (v.getD b.getSize).bottom b.estimateOffsetOfLastCommittedRow →
        (b.getRowByOffset y').measureRight = 0) ∧
      (y = (v.getD b.getSize).top ∨ 0 < (b.getRowByOffset y).measureRight) ∧
      (b.getLastNonSpaceCharacter v).2 =
        ⟨max (((b.getRowByOffset y).measureRight : Int) - 1) 0, max y 0⟩ ∧
      ∀ y', (b.getLastNonSpaceCharacter v).1.getRowByOffset y' = b.getRowByOffset y' := by
  unfold getLastNonSpaceCharacter
  dsimp only
  generalize min (v.getD b.getSize).bottom b.estimateOffsetOfLastCommittedRow = y0 at ht ⊢
  have := backUp_spec (v.getD b.getSize).top _ (b.touch y0) y0 le_rfl
  simp only [getRowByOffset_touch] at this
  obtain ⟨h1, h2, h3, h4, h5, h6⟩ := this
  refine ⟨_, h2 ht, h1, h3, h4.imp_left fun h => le_antisymm h (h2 ht), by rw [h5], h6⟩

/-- A buffer two columns wide and three rows high with `a` at its top left and all three
rows committed. -/
def letterOnTop : TextBuffer :=
  (((create ⟨2, 3⟩ {} 1 false 0 0).get (by decide)).modifyRow 0
    (·.replaceCharacters 0 1 [0x61])).touch 2

theorem getLastNonSpaceCharacter_spec_letterOnTop :
    ((Option.none : Option Viewport).getD letterOnTop.getSize).top ≤
        min ((Option.none : Option Viewport).getD letterOnTop.getSize).bottom
          letterOnTop.estimateOffsetOfLastCommittedRow ∧
      ∃ y, ((Option.none : Option Viewport).getD letterOnTop.getSize).top ≤ y ∧
        y ≤ min ((Option.none : Option Viewport).getD letterOnTop.getSize).bottom
          letterOnTop.estimateOffsetOfLastCommittedRow ∧
        (∀ y', y < y' → y' ≤ min ((Option.none : Option Viewport).getD letterOnTop.getSize).bottom
            letterOnTop.estimateOffsetOfLastCommittedRow →
          (letterOnTop.getRowByOffset y').measureRight = 0) ∧
        (y = ((Option.none : Option Viewport).getD letterOnTop.getSize).top ∨
          0 < (letterOnTop.getRowByOffset y).measureRight) ∧
        (letterOnTop.getLastNonSpaceCharacter none).2 =
          ⟨max (((letterOnTop.getRowByOffset y).measureRight : Int) - 1) 0, max y 0⟩ ∧
        ∀ y', (letterOnTop.getLastNonSpaceCharacter none).1.getRowByOffset y' =
          letterOnTop.getRowByOffset y' :=
  have ht : ((Option.none : Option Viewport).getD letterOnTop.getSize).top ≤
      min ((Option.none : Option Viewport).getD letterOnTop.getSize).bottom
        letterOnTop.estimateOffsetOfLastCommittedRow := by decide
  ⟨ht, getLastNonSpaceCharacter_spec letterOnTop none ht⟩

end TextBuffer

end TerminalBuffer
