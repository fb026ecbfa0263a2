/-
The hyperlink registry across a rotation.

A row refers to a hyperlink by the 16-bit id its attributes carry, and the id is only
meaningful while `_hyperlinkMap` has it as a key (`LinksResolve`).  `_PruneHyperlinks`
removes exactly the ids that the outgoing first row references and no other row does
(`mem_hyperlinkKeys_pruneHyperlinks`), so a rotation whose fill attributes carry no link
keeps every link resolvable (`linksResolve_incrementCircularBuffer`); `NewlineCursor`
rotates with the default attributes and is such a rotation.

`IncrementCircularBuffer(fillAttributes)` prunes first and only then resets the recycled
row in `fillAttributes`, and `_stream.cpp` passes the current attributes, which carry the
link of the text being written.  When the recycled row was the last one to reference that
link, the id is removed and then written into every cell of the new last row
(`incrementCircularBuffer_dangling_link`): the new row refers to a link the registry no
longer has.
-/
import TerminalBuffer.Invariants

namespace TerminalBuffer

namespace TextBuffer

/-- Every id a cell of a logical row carries is a key of `_hyperlinkMap`. -/
def LinksResolve (b : TextBuffer) : Prop :=
  ∀ y : Nat, y < b.height → ∀ h ∈ (b.getRowByOffset y).getHyperlinks, h ∈ b.hyperlinkKeys

instance (b : TextBuffer) : Decidable b.LinksResolve :=
  inferInstanceAs (Decidable (∀ y : Nat, y < b.height → _))

variable {b : TextBuffer}

/-! ### The rows after a rotation -/

/-- Within one turn of the ring, logical row `y` shares the slot of row `0` only at
`y = _height`. -/
theorem Inv.rowOffset_eq_rowOffset_zero (h : b.Inv) {y : Int} (hy : 0 < y ∧ y ≤ b.height) :
    b.rowOffset y = b.rowOffset 0 ↔ y = b.height := by
  have := h.firstRow_lt
  have := h.firstRow_nonneg
  rw [rowOffset_eq, rowOffset_eq, Int.add_zero, Int.emod_eq_of_lt h.firstRow_nonneg h.firstRow_lt]
  by_cases hlt : b.firstRow + y < b.height
  · rw [Int.emod_eq_of_lt (by omega) hlt]; omega
  · rw [show b.firstRow + y = b.firstRow + y - b.height + b.height * 1 by omega,
      Int.add_mul_emod_self_left, Int.emod_eq_of_lt (by omega) (by omega)]
    omega

/-- After a rotation logical row `y` reads as the old row `y + 1`, except the old first
row's slot, which reads as that row reset in the fill attributes. -/
theorem Inv.getRowByOffset_incrementCircularBuffer (h : b.Inv) (fill : TextAttribute) (y : Int) :
    (b.incrementCircularBuffer fill).getRowByOffset y =
      if b.rowOffset (y + 1) = b.rowOffset 0 then (b.getRowByOffset 0).reset fill
      else b.getRowByOffset (y + 1) := by
  unfold getRowByOffset
  rw [rowOffset_incrementCircularBuffer h]
  show (b.pruneHyperlinks.modifyRow 0 (·.reset fill)).slotRow _ = _
  rw [slotRow_modifyRow, b.frame_pruneHyperlinks.rowOffset]
  simp only [getRowByOffset, b.frame_pruneHyperlinks.rowOffset, slotRow_pruneHyperlinks]

@[simp] theorem hyperlinkKeys_incrementCircularBuffer (fill : TextAttribute) :
    (b.incrementCircularBuffer fill).hyperlinkKeys = b.pruneHyperlinks.hyperlinkKeys := by
  unfold hyperlinkKeys
  rw [← b.pruneHyperlinks.hyperlinkMap_modifyRow 0 (·.reset fill)]
  rfl

/-- A two-by-two buffer with a link registered as id `1` and `a` written in that link at
its top left: the first row is the only one that references the link. -/
def linkedLetter : TextBuffer :=
  (((create ⟨2, 2⟩ {} 1 false 0 0).get (by decide)).addHyperlinkToMap "u" 1).insertCharacter
    [0x61] .single { hyperlinkId := 1 }

theorem reachable_linkedLetter : Reachable linkedLetter :=
  .step (.step (.create (Option.some_get _).symm) (.addHyperlinkToMap "u" 1) rfl)
    (.insertCharacter [0x61] .single { hyperlinkId := 1 }) rfl

/-! ### What a rotation does to the registry -/

/-- **A rotation whose fill carries no link keeps every link resolvable.**  The rows that
stay are the old rows `1 … _height - 1`, whose ids pruning keeps, and the recycled row
carries no link. -/
theorem linksResolve_incrementCircularBuffer (h : b.Inv) (hl : b.LinksResolve)
    {fill : TextAttribute} (h0 : fill.hyperlinkId = 0) :
    (b.incrementCircularBuffer fill).LinksResolve := by
  intro y hy k hk
  rw [height_incrementCircularBuffer] at hy
  rw [h.getRowByOffset_incrementCircularBuffer] at hk
  rw [hyperlinkKeys_incrementCircularBuffer, mem_hyperlinkKeys_pruneHyperlinks]
  split at hk
  · simp only [Row.reset, Row.mem_getHyperlinks_blank, h0] at hk
    exact absurd hk.2.1 hk.2.2
  · rename_i hne
    have hy' : y + 1 < b.height := by
      rw [h.rowOffset_eq_rowOffset_zero ⟨by omega, by omega⟩] at hne; omega
    have hk' : k ∈ (b.getRowByOffset ((y + 1 : Nat) : Int)).getHyperlinks := by
      exact_mod_cast hk
    exact ⟨hl (y + 1) hy' k hk', fun _ => ⟨y + 1, by omega, by omega, hk⟩⟩

theorem linksResolve_incrementCircularBuffer_linkedLetter :
    linkedLetter.Inv ∧ linkedLetter.LinksResolve ∧ ({} : TextAttribute).hyperlinkId = 0 ∧
      (linkedLetter.incrementCircularBuffer {}).LinksResolve :=
  have hl : linkedLetter.LinksResolve := by decide
  ⟨reachable_linkedLetter.inv, hl, rfl,
    linksResolve_incrementCircularBuffer reachable_linkedLetter.inv hl rfl⟩

/-- **A rotation can unregister the link it writes.**  When the fill attributes carry a
link that the outgoing first row references and no other row does, `_PruneHyperlinks`
removes it from `_hyperlinkMap`, and the reset then writes it into every cell of the new
last row. -/
theorem incrementCircularBuffer_dangling_link (h : b.Inv) {fill : TextAttribute}
    (h0 : fill.hyperlinkId ≠ 0) (hrow : fill.hyperlinkId ∈ (b.getRowByOffset 0).getHyperlinks)
    (hothers : ∀ j : Int, 1 ≤ j → j < b.height →
      fill.hyperlinkId ∉ (b.getRowByOffset j).getHyperlinks) :
    fill.hyperlinkId ∈
        ((b.incrementCircularBuffer fill).getRowByOffset (b.height - 1)).getHyperlinks ∧
      fill.hyperlinkId ∉ (b.incrementCircularBuffer fill).hyperlinkKeys := by
  have hH := b.height_pos
  refine ⟨?_, by simpa using b.not_mem_hyperlinkKeys_pruneHyperlinks hrow hothers⟩
  rw [h.getRowByOffset_incrementCircularBuffer, Int.sub_add_cancel,
    if_pos ((h.rowOffset_eq_rowOffset_zero ⟨by omega, Int.le_refl _⟩).mpr rfl)]
  have hw : (b.getRowByOffset 0).cells.length = b.width := h.rowsFit _
  simp only [Row.reset, Row.mem_getHyperlinks_blank, hw, true_and]
  exact ⟨b.width_pos, h0⟩

theorem incrementCircularBuffer_dangling_link_linkedLetter :
    linkedLetter.Inv ∧ ({ hyperlinkId := 1 } : TextAttribute).hyperlinkId ≠ 0 ∧
      ({ hyperlinkId := 1 } : TextAttribute).hyperlinkId ∈
        (linkedLetter.getRowByOffset 0).getHyperlinks ∧
      (∀ j : Int, 1 ≤ j → j < linkedLetter.height →
        ({ hyperlinkId := 1 } : TextAttribute).hyperlinkId ∉
          (linkedLetter.getRowByOffset j).getHyperlinks) ∧
      ({ hyperlinkId := 1 } : TextAttribute).hyperlinkId ∈
        ((linkedLetter.incrementCircularBuffer { hyperlinkId := 1 }).getRowByOffset
          (linkedLetter.height - 1)).getHyperlinks ∧
      ({ hyperlinkId := 1 } : TextAttribute).hyperlinkId ∉
        (linkedLetter.incrementCircularBuffer { hyperlinkId := 1 }).hyperlinkKeys :=
  have hrow : ({ hyperlinkId := 1 } : TextAttribute).hyperlinkId ∈
      (linkedLetter.getRowByOffset 0).getHyperlinks := by decide
  have hothers : ∀ j : Int, 1 ≤ j → j < linkedLetter.height →
      ({ hyperlinkId := 1 } : TextAttribute).hyperlinkId ∉
        (linkedLetter.getRowByOffset j).getHyperlinks := by
    intro j h1 h2
    obtain rfl : j = 1 := by have : linkedLetter.height = 2 := rfl; omega
    decide
  ⟨reachable_linkedLetter.inv, by decide, hrow, hothers,
    incrementCircularBuffer_dangling_link reachable_linkedLetter.inv (by decide) hrow hothers⟩

/-- Rotating `linkedLetter` in the attributes of its link, as `_stream.cpp` does with the
current attributes, leaves a row that refers to an id the registry no longer has. -/
theorem incrementCircularBuffer_breaks_linksResolve :
    Reachable linkedLetter ∧ linkedLetter.LinksResolve ∧
      ¬ (linkedLetter.incrementCircularBuffer { hyperlinkId := 1 }).LinksResolve :=
  ⟨reachable_linkedLetter, by decide, by decide⟩

end TextBuffer

end TerminalBuffer
