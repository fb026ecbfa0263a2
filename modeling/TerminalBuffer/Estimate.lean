/-
The committed-row estimate once the ring has turned.

`_estimateOffsetOfLastCommittedRow` reads the watermark as a logical row: slots
`1 … k - 1` constructed means logical rows `0 … k - 2` may hold text.  That reading is
only right while `_firstRow` is `0`; it ignores the ring.  A rotation moves logical row
`_height - 1` onto slot `1`, which the first commit constructed, while the watermark stays
where the read-ahead left it.

On a buffer two columns wide whose height `H` is at least the read-ahead `R` plus two, a
newline on the bottom row rotates the ring once (committing `R + 2` slots) and a letter
written there lands in logical row `H - 1`, slot `1`.  The estimate is `R`, below that
row: `GetLastNonSpaceCharacter` reports a row above the letter and `SearchText` never hands
the letter's row to the engine (`writeAfterWrap_past_estimate`).
-/
import TerminalBuffer.Invariants

namespace TerminalBuffer

namespace TextBuffer

variable {b : TextBuffer}

/-- The first rotation of a buffer with nothing constructed and the ring at slot `1`, whose
height is at least the read-ahead `R` plus two: pruning finds no link, the read commits
slots `0 … R + 1`, each a blank row, and the first row moves to slot `2`. -/
theorem incrementCircularBuffer_of_uncommitted {R : Nat} (hr : b.rows = []) (hf : b.firstRow = 0)
    (hi : b.initialAttributes = {}) (hra : b.commitReadAheadRowCount = R) (hR : R + 2 ≤ b.height) :
    (b.incrementCircularBuffer {}).rows = List.replicate (R + 2) (Row.blank b.width {}) ∧
      (b.incrementCircularBuffer {}).firstRow = 1 := by
  have hX : ∀ s, b.slotRow s = Row.blank b.width {} := by simp [slotRow, hr, hi]
  have hp : b.pruneHyperlinks = b.touch 0 :=
    b.pruneHyperlinks_of_getHyperlinks_nil (List.eq_nil_iff_forall_not_mem.mpr fun k hk => by
      rw [getRowByOffset, hX, Row.mem_getHyperlinks_blank] at hk; exact hk.2.2 hk.2.1)
  have ho : b.rowOffset 0 = 1 := by simp [rowOffset_eq, hf]
  have hc : (b.touch 0).rows = List.replicate (R + 2) (Row.blank b.width {}) := by
    simp only [touch, ho, commit, committedRows, hr, hra, hi, Arena.commitRows]
    simp only [List.length_nil, Nat.not_lt_zero, if_false, List.nil_append, Nat.sub_zero]
    congr 1
    omega
  refine ⟨?_, ?_⟩
  · rw [rows_incrementCircularBuffer, hp, rows_modifyRow, touch_touch, hc, getRowByOffset_touch,
      getRowByOffset, hX]
    simp [Row.reset, Row.blank_cells_length]
  · rw [firstRow_incrementCircularBuffer, hf, if_neg (by omega)]
    rfl

/-- Writing a single-width `a` at the start of the bottom row of a buffer two columns wide
whose rows are blank and whose ring has turned once: the row count stays, the bottom row
is slot `1`, and it reads as the letter and a space. -/
theorem insertCharacter_after_rotation {R : Nat} (hr : b.rows = List.replicate (R + 2) (Row.blank 2 {}))
    (hf : b.firstRow = 1) (hw : b.width = 2) (hc : b.cursor.position = ⟨0, b.height - 1⟩) :
    (b.insertCharacter [0x61] .single {}).rows.length = R + 2 ∧
      (b.insertCharacter [0x61] .single {}).rowOffset (b.height - 1) = 1 ∧
      (b.insertCharacter [0x61] .single {}).getRowByOffset (b.height - 1) =
        insertIntoRow [0x61] .single {} 0 (Row.blank 2 {}) := by
  have ho : b.rowOffset (b.height - 1) = 1 := by
    rw [rowOffset_eq, hf, show (1 : Int) + (b.height - 1) = b.height by omega, Int.emod_self]
    rfl
  have hY : b.getRowByOffset (b.height - 1) = Row.blank 2 {} := by
    rw [getRowByOffset, ho, slotRow, hr, hw]
    simp
  unfold insertCharacter
  rw [b.prepareForDoubleByteSequence_of_ne (by decide)]
  dsimp only
  rw [hc]
  dsimp only
  generalize hd : b.modifyRow (b.height - 1) (insertIntoRow [0x61] .single {} 0) = d
  have rd : d.rows = (List.replicate (R + 2) (Row.blank 2 {})).set 1
      (insertIntoRow [0x61] .single {} 0 (Row.blank 2 {})) := by
    rw [← hd, rows_modifyRow, touch, ho, b.commit_of_lt (by rw [hr]; simp), hr, hY]
  have hYd : d.getRowByOffset (b.height - 1) = insertIntoRow [0x61] .single {} 0 (Row.blank 2 {}) := by
    rw [← hd, getRowByOffset_modifyRow_self, hY]
  have od : d.rowOffset (b.height - 1) = 1 := by rw [← hd]; exact ho
  have lwd : d.getLineWidth (b.height - 1) = 2 := by
    rw [getLineWidth, isDoubleWidthLine, hYd, ← hd, width_modifyRow, hw]
    rfl
  unfold incrementCursor
  rw [← hd, cursor_modifyRow, hc, hd]
  dsimp only
  rw [lwd, if_neg (by simp only [cursor_setCursorPosition]; omega)]
  have td : d.touch (b.height - 1) = d := by rw [touch, od]; exact d.commit_of_lt (by rw [rd]; simp)
  rw [td]
  exact ⟨by simp [setCursorPosition, rd], od, by simp [hYd]⟩

/-- The run the estimate misses: the cursor moved to the bottom row, a newline there, which
rotates the ring, and `a` written where the cursor lands. -/
def writeAfterWrap (b : TextBuffer) : TextBuffer :=
  ((b.setCursorPosition ⟨0, b.height - 1⟩).newlineCursor).insertCharacter [0x61] .single {}

/-- **The estimate misses the row the ring wrapped onto.**  For every read-ahead `R` and
every height `H ≥ R + 2`, the run `writeAfterWrap` from a fresh buffer two columns wide
is reachable and leaves the letter in logical row `H - 1`, which lies in slot `1`, below
the watermark of `R + 2` slots; the estimate is `R`.  So `GetLastNonSpaceCharacter`
reports a row above the letter, and every row range `SearchText` hands to the engine ends
at or above row `H - 1`. -/
theorem writeAfterWrap_past_estimate {R H : Nat} {b0 : TextBuffer} (hR : R + 2 ≤ H)
    (h : create ⟨2, H⟩ {} 1 false R 0 = some b0) :
    Reachable (writeAfterWrap b0) ∧
      (writeAfterWrap b0).estimateOffsetOfLastCommittedRow = R ∧
      (writeAfterWrap b0).rowOffset (H - 1) = 1 ∧
      ((writeAfterWrap b0).getRowByOffset (H - 1)).cells = [⟨[0x61], .single⟩, Cell.space] ∧
      ((writeAfterWrap b0).getLastNonSpaceCharacter none).2.y < H - 1 ∧
      ∀ rowBeg rowEnd a e, (writeAfterWrap b0).searchTextRows [0x61] rowBeg rowEnd = some (a, e) →
        e ≤ H - 1 := by
  obtain ⟨hw, hh, hr, hf, hi, hra, -⟩ := fields_of_create b0 h
  rw [show (max (2 : Int) 1).toNat = 2 by decide] at hw
  rw [show (max (H : Int) 1).toNat = H by omega] at hh
  have hreach : Reachable (writeAfterWrap b0) :=
    .step (.step (.step (.create h) (.setCursorPosition _) rfl) .newlineCursor rfl)
      (.insertCharacter [0x61] .single {}) rfl
  generalize hb1 : b0.setCursorPosition ⟨0, b0.height - 1⟩ = b1
  have hnl : b1.newlineCursor = b1.incrementCircularBuffer {} := by
    rw [b1.newlineCursor_of_bottom (by rw [← hb1]; rfl), ← hb1, setCursorPosition_setCursorPosition]
    rfl
  have hw1 : b1.width = 2 := hb1 ▸ hw
  have hh1 : b1.height = H := hb1 ▸ hh
  obtain ⟨r2, f2⟩ := incrementCircularBuffer_of_uncommitted (b := b1) (R := R) (hb1 ▸ hr) (hb1 ▸ hf)
    (hb1 ▸ hi) (hb1 ▸ hra) (by omega)
  rw [hw1] at r2
  obtain ⟨hlen, ho, hrow⟩ := insertCharacter_after_rotation r2 f2 (by simp [hw1]) (by simp [← hb1])
  unfold writeAfterWrap at hreach ⊢
  rw [hb1, hnl] at hreach ⊢
  simp only [height_incrementCircularBuffer, hh1] at hlen ho hrow
  have hest : (((b1.incrementCircularBuffer {}).insertCharacter [0x61] .single {})
      ).estimateOffsetOfLastCommittedRow = R := by
    unfold estimateOffsetOfLastCommittedRow; rw [hlen]; omega
  refine ⟨hreach, hest, ho, by rw [hrow]; rfl, ?_, fun rowBeg rowEnd a e hs => ?_⟩
  · have := y_getLastNonSpaceCharacter_le (((b1.incrementCircularBuffer {}).insertCharacter
      [0x61] .single {})) none
    omega
  · have := (searchTextRows_le _ hs).2
    omega

/-- A fresh buffer two columns wide and two rows high with no read-ahead. -/
def twoByTwo : TextBuffer := (create ⟨2, 2⟩ {} 1 false 0 0).get (by decide)

theorem writeAfterWrap_past_estimate_twoByTwo :
    0 + 2 ≤ 2 ∧ create ⟨2, 2⟩ {} 1 false 0 0 = some twoByTwo ∧
      Reachable (writeAfterWrap twoByTwo) ∧
      (writeAfterWrap twoByTwo).estimateOffsetOfLastCommittedRow = 0 ∧
      (writeAfterWrap twoByTwo).rowOffset (((2 : Nat) : Int) - 1) = 1 ∧
      ((writeAfterWrap twoByTwo).getRowByOffset (((2 : Nat) : Int) - 1)).cells =
        [⟨[0x61], .single⟩, Cell.space] ∧
      ((writeAfterWrap twoByTwo).getLastNonSpaceCharacter none).2.y < ((2 : Nat) : Int) - 1 ∧
      ∀ rowBeg rowEnd a e,
        (writeAfterWrap twoByTwo).searchTextRows [0x61] rowBeg rowEnd = some (a, e) →
          e ≤ ((2 : Nat) : Int) - 1 :=
  have h : create ⟨2, 2⟩ {} 1 false 0 0 = some twoByTwo := (Option.some_get _).symm
  ⟨by decide, h, writeAfterWrap_past_estimate (Nat.le_refl 2) h⟩

end TextBuffer

end TerminalBuffer
