/-
Stepping over glyphs, and selection rectangles.

A wide glyph takes two cells, its leading and its trailing half.  `GlyphsWhole` is the
layout every write keeps: a leading half is followed by a trailing half in its row, and a
trailing half follows a leading one.  Over such a layout `MoveToNextGlyph` steps from a cell
to the next glyph's start, over a trailing half when there is one.  `MoveToPreviousGlyph`
steps back one cell and then looks for a *leading* half to step over, which is never there:
the cell before a glyph's start is never a leading half.  So it steps back exactly one cell
(`moveToPreviousGlyph_of_start`), which lands on the trailing half of a wide glyph right
before the start (`moveToPreviousGlyph_lands_on_trailing`); stepping forward from there gives
the start back (`moveToGlyph_round_trips`).

`GetGlyphStart` and `GetGlyphEnd` look at one cell only: a trailing half steps back onto its
leading half, a leading half on onto its trailing half.  Over whole glyphs that is enough to
find both ends of the glyph a cell belongs to, from any of its cells
(`getGlyphStart_getGlyphEnd_bracket`).
-/
import TerminalBuffer.Viewport
import TerminalBuffer.Invariants

namespace TerminalBuffer

namespace Viewport

variable {v : Viewport}

/-- A walk past the last cell stops there and says so. -/
theorem walkInBounds_of_gt (hw : 0 < v.width) (hh : 0 < v.height) (pos : Point) {delta : Int}
    {allowEndExclusive : Bool} (h0 : 0 ≤ v.offset pos + delta)
    (h : v.cellCount - (if allowEndExclusive then 0 else 1) < v.offset pos + delta) :
    v.walkInBounds pos delta allowEndExclusive =
      (v.ofOffset (v.cellCount - if allowEndExclusive then 0 else 1), false) := by
  have hmw : max 0 v.width = v.width := by omega
  have hmh : max 0 v.height = v.height := by omega
  unfold walkInBounds
  simp only [hmw, hmh]
  unfold cellCount at h ⊢
  generalize (if allowEndExclusive then (0 : Int) else 1) = e at h ⊢
  have hc : clamp (v.width * (pos.y - v.top) + (pos.x - v.left) + delta) 0 (v.width * v.height - e) =
      v.width * v.height - e := by
    unfold offset at h0 h; unfold clamp; rw [if_neg (by omega), if_pos h]
  rw [hc]
  unfold offset at h
  simp only [ofOffset, Prod.mk.injEq, true_and, beq_eq_false_iff_ne, ne_eq]
  omega

/-- A position whose index is not `n` is not the position at index `n`. -/
theorem ofOffset_ne {n : Int} {pos : Point} (h : n ≠ v.offset pos) : v.ofOffset n ≠ pos :=
  fun he => h (by rw [← he, offset_ofOffset])

end Viewport

namespace TextBuffer

variable (b : TextBuffer)

/-- `GetCellDataAt(pos)`, by the cell it reads. -/
def getCellDataAt (pos : Point) : Cell := (b.getRowByOffset pos.y).cellAt pos.x.toNat

/-- Wide glyphs are whole: a leading half is followed by a trailing half in its row, and a
trailing half follows a leading one. -/
def GlyphsWhole : Prop :=
  ∀ y : Nat, y < b.height → ∀ x : Nat, x < b.width →
    ((b.getCellDataAt ⟨x, y⟩).dbcs = .leading →
      x + 1 < b.width ∧ (b.getCellDataAt ⟨x + 1, y⟩).dbcs = .trailing) ∧
    ((b.getCellDataAt ⟨x, y⟩).dbcs = .trailing →
      0 < x ∧ (b.getCellDataAt ⟨x - 1, y⟩).dbcs = .leading)

instance : Decidable b.GlyphsWhole :=
  inferInstanceAs (Decidable (∀ y : Nat, y < b.height → _))

/-- `MoveToNextGlyph(pos, allowExclusiveEnd, limitOptional)`: the position and whether it
moved.  The cell iterator's `++` is `IncrementInBounds(pos)`, which stops at the last cell. -/
def moveToNextGlyph (pos : Point) (allowExclusiveEnd : Bool) (limitOptional : Option Point) :
    Point × Bool :=
  let bufferSize := b.getSize
  let limit := limitOptional.getD bufferSize.endExclusive
  let distanceToLimit := bufferSize.compareInBounds pos limit
  if distanceToLimit ≥ 0 then (limit, false)
  else if allowExclusiveEnd = false ∧ distanceToLimit = -1 then (pos, false)
  else
    let iter := bufferSize.incrementInBounds pos false
    let success := iter.2
    let iter := if success = true ∧ (b.getCellDataAt iter.1).dbcs = .trailing then
      bufferSize.incrementInBounds iter.1 false else iter
    (iter.1, success)

/-- `MoveToPreviousGlyph(pos, limitOptional)`: the position and whether it moved. -/
def moveToPreviousGlyph (pos : Point) (limitOptional : Option Point) : Point × Bool :=
  let bufferSize := b.getSize
  let limit := limitOptional.getD bufferSize.endExclusive
  if bufferSize.compareInBounds pos limit > 0 then (limit, true)
  else
    let resultPos := bufferSize.decrementInBounds pos true
    let success := resultPos.2
    let resultPos := if resultPos.1 ≠ bufferSize.endExclusive ∧
        (b.getCellDataAt resultPos.1).dbcs = .leading then
      (bufferSize.decrementInBounds resultPos.1 true).1 else resultPos.1
    (resultPos, success)

/-- `GetGlyphStart(pos, limitOptional)`: a position past the limit is the limit; a trailing
half steps back onto its leading half. -/
def getGlyphStart (pos : Point) (limitOptional : Option Point) : Point :=
  let bufferSize := b.getSize
  let limit := limitOptional.getD bufferSize.endExclusive
  let resultPos := if bufferSize.compareInBounds pos limit > 0 then limit else pos
  if resultPos ≠ limit ∧ (b.getCellDataAt resultPos).dbcs = .trailing then
    (bufferSize.decrementInBounds resultPos true).1
  else resultPos

/-- `GetGlyphEnd(pos, accessibilityMode, limitOptional)`: a leading half steps onto its
trailing half, and `accessibilityMode` steps once more, to the exclusive end. -/
def getGlyphEnd (pos : Point) (accessibilityMode : Bool) (limitOptional : Option Point) : Point :=
  let bufferSize := b.getSize
  let limit := limitOptional.getD bufferSize.endExclusive
  let resultPos := if bufferSize.compareInBounds pos limit > 0 then limit else pos
  let resultPos := if resultPos ≠ limit ∧ (b.getCellDataAt resultPos).dbcs = .leading then
    (bufferSize.incrementInBounds resultPos true).1
  else resultPos
  if accessibilityMode then (bufferSize.incrementInBounds resultPos true).1 else resultPos

/-! ### The buffer's viewport -/

@[simp] theorem getSize_left : b.getSize.left = 0 := rfl

@[simp] theorem getSize_top : b.getSize.top = 0 := rfl

@[simp] theorem getSize_right : b.getSize.right = b.width - 1 := rfl

@[simp] theorem getSize_bottom : b.getSize.bottom = b.height - 1 := rfl

@[simp] theorem getSize_width : b.getSize.width = b.width := by
  simp [Viewport.width]

@[simp] theorem getSize_height : b.getSize.height = b.height := by
  simp [Viewport.height]

theorem getSize_cellCount : b.getSize.cellCount = b.width * b.height := by
  simp [Viewport.cellCount]

variable {b}

theorem getSize_width_pos : 0 < b.getSize.width := by
  have := b.width_pos; simp only [getSize_width]; omega

theorem getSize_height_pos : 0 < b.getSize.height := by
  have := b.height_pos; simp only [getSize_height]; omega

/-- One walk of the buffer's viewport that stays inside it. -/
theorem getSize_walkInBounds (pos : Point) {delta : Int} {allowEndExclusive : Bool}
    (h : 0 ≤ b.getSize.offset pos + delta ∧
      b.getSize.offset pos + delta ≤ b.getSize.cellCount - if allowEndExclusive then 0 else 1) :
    b.getSize.walkInBounds pos delta allowEndExclusive =
      (b.getSize.ofOffset (b.getSize.offset pos + delta), true) :=
  Viewport.walkInBounds_of_mem getSize_width_pos getSize_height_pos pos h

/-- The cell right of `p`, in its row, is the cell after it. -/
theorem ofOffset_succ {p : Point} (hp : b.getSize.InBounds p) (hx : p.x + 1 < b.width) :
    b.getSize.ofOffset (b.getSize.offset p + 1) = ⟨p.x + 1, p.y⟩ := by
  obtain ⟨h1, h2, -, -⟩ := hp
  simp only [getSize_left, getSize_right] at h1 h2
  have := @Viewport.ofOffset_offset b.getSize ⟨p.x + 1, p.y⟩
    (by simp only [getSize_left, getSize_right]; omega)
  rw [← this]
  congr 1
  simp only [Viewport.offset]; ring

/-- The cell left of `p`, in its row, is the cell before it. -/
theorem ofOffset_pred {p : Point} (hp : b.getSize.InBounds p) (hx : 0 < p.x) :
    b.getSize.ofOffset (b.getSize.offset p - 1) = ⟨p.x - 1, p.y⟩ := by
  obtain ⟨h1, h2, -, -⟩ := hp
  simp only [getSize_left, getSize_right] at h1 h2
  have := @Viewport.ofOffset_offset b.getSize ⟨p.x - 1, p.y⟩
    (by simp only [getSize_left, getSize_right]; omega)
  rw [← this]
  congr 1
  simp only [Viewport.offset]; ring

/-! ### Whole glyphs at a point -/

theorem GlyphsWhole.at (h : b.GlyphsWhole) {p : Point} (hp : b.getSize.InBounds p) :
    ((b.getCellDataAt p).dbcs = .leading →
      p.x + 1 < b.width ∧ (b.getCellDataAt ⟨p.x + 1, p.y⟩).dbcs = .trailing) ∧
    ((b.getCellDataAt p).dbcs = .trailing →
      0 < p.x ∧ (b.getCellDataAt ⟨p.x - 1, p.y⟩).dbcs = .leading) := by
  obtain ⟨h1, h2, h3, h4⟩ := hp
  simp only [getSize_left, getSize_right, getSize_top, getSize_bottom] at h1 h2 h3 h4
  have := h p.y.toNat (by omega) p.x.toNat (by omega)
  rw [Int.toNat_of_nonneg h1, Int.toNat_of_nonneg h3] at this
  obtain ⟨hl, ht⟩ := this
  exact ⟨fun h' => ⟨by have := (hl h').1; omega, (hl h').2⟩,
    fun h' => ⟨by have := (ht h').1; omega, (ht h').2⟩⟩

/-- The cell before a glyph's start is never a leading half. -/
theorem GlyphsWhole.not_leading_pred (h : b.GlyphsWhole) {p : Point} (hp : b.getSize.InBounds p)
    (hpos : 0 < b.getSize.offset p) (hstart : (b.getCellDataAt p).dbcs ≠ .trailing) :
    (b.getCellDataAt (b.getSize.ofOffset (b.getSize.offset p - 1))).dbcs ≠ .leading := by
  have hmem := Viewport.offset_mem hp
  have hq := @Viewport.inBounds_ofOffset b.getSize getSize_width_pos
    (b.getSize.offset p - 1) ⟨by omega, by omega⟩
  intro hl
  obtain ⟨hx, ht⟩ := (h.at hq).1 hl
  rw [← ofOffset_succ hq hx, Viewport.offset_ofOffset, Int.sub_add_cancel,
    Viewport.ofOffset_offset ⟨hp.1, hp.2.1⟩] at ht
  exact hstart ht

/-- A leading half's trailing half is the next cell. -/
theorem GlyphsWhole.trailing_succ (h : b.GlyphsWhole) {q : Point} (hq : b.getSize.InBounds q)
    (hlead : (b.getCellDataAt q).dbcs = .leading) :
    (b.getCellDataAt (b.getSize.ofOffset (b.getSize.offset q + 1))).dbcs = .trailing := by
  obtain ⟨hx, ht⟩ := (h.at hq).1 hlead
  rwa [ofOffset_succ hq hx]

/-- The cell after one that is not a leading half is never a trailing half. -/
theorem GlyphsWhole.not_trailing_succ (h : b.GlyphsWhole) {q : Point} (hq : b.getSize.InBounds q)
    (hroom : b.getSize.offset q + 1 < b.getSize.cellCount)
    (hnl : (b.getCellDataAt q).dbcs ≠ .leading) :
    (b.getCellDataAt (b.getSize.ofOffset (b.getSize.offset q + 1))).dbcs ≠ .trailing := by
  have hmem := Viewport.offset_mem hq
  have hr := @Viewport.inBounds_ofOffset b.getSize getSize_width_pos
    (b.getSize.offset q + 1) ⟨by omega, hroom⟩
  intro ht
  obtain ⟨hx, hl⟩ := (h.at hr).2 ht
  rw [← ofOffset_pred hr hx, Viewport.offset_ofOffset, Int.add_sub_cancel,
    Viewport.ofOffset_offset ⟨hq.1, hq.2.1⟩] at hl
  exact hnl hl

/-- A glyph's start other than the origin is past index `0`. -/
theorem offset_pos_of_ne_origin {p : Point} (hp : b.getSize.InBounds p) (hne : p ≠ b.getSize.origin) :
    0 < b.getSize.offset p := by
  have := (Viewport.offset_mem hp).1
  refine lt_of_le_of_ne this fun h0 => hne ?_
  refine Viewport.eq_of_offset_eq ⟨hp.1, hp.2.1⟩ ?_ (h0.symm.trans Viewport.offset_origin.symm)
  have := b.width_pos
  simp only [Viewport.origin, getSize_left, getSize_right]
  omega

/-! ### One step each way -/

/-- **`MoveToPreviousGlyph` steps back exactly one cell** from every glyph start but the
origin. -/
theorem moveToPreviousGlyph_of_start (h : b.GlyphsWhole) {p : Point} (hp : b.getSize.InBounds p)
    (hne : p ≠ b.getSize.origin) (hstart : (b.getCellDataAt p).dbcs ≠ .trailing) :
    b.moveToPreviousGlyph p none = (b.getSize.ofOffset (b.getSize.offset p - 1), true) := by
  have hmem := Viewport.offset_mem hp
  have hpos := offset_pos_of_ne_origin hp hne
  unfold moveToPreviousGlyph
  simp only [Option.getD_none]
  rw [if_neg (by rw [Viewport.compareInBounds_eq, Viewport.offset_endExclusive]; omega),
    Viewport.decrementInBounds, getSize_walkInBounds p ⟨by omega, by simp only [if_true]; omega⟩]
  dsimp only
  rw [if_neg fun hc => h.not_leading_pred hp hpos hstart hc.2]
  rfl

/-- `MoveToNextGlyph` from any cell but the last: one cell on, or two over a trailing half
when the buffer has a cell after it. -/
theorem moveToNextGlyph_eq {q : Point} (hq : b.getSize.InBounds q)
    (hroom : b.getSize.offset q + 1 < b.getSize.cellCount) (allowExclusiveEnd : Bool) :
    b.moveToNextGlyph q allowExclusiveEnd none =
      (if (b.getCellDataAt (b.getSize.ofOffset (b.getSize.offset q + 1))).dbcs = .trailing ∧
          b.getSize.offset q + 2 < b.getSize.cellCount then
        b.getSize.ofOffset (b.getSize.offset q + 2)
       else b.getSize.ofOffset (b.getSize.offset q + 1), true) := by
  have hmem := Viewport.offset_mem hq
  have hd : b.getSize.compareInBounds q b.getSize.endExclusive =
      b.getSize.offset q - b.getSize.cellCount := by
    rw [Viewport.compareInBounds_eq, Viewport.offset_endExclusive]
  unfold moveToNextGlyph
  simp only [Option.getD_none, hd]
  rw [if_neg (by omega), if_neg (fun hc => by omega), Viewport.incrementInBounds,
    getSize_walkInBounds q ⟨by omega, by simp only [Bool.false_eq_true, if_false]; omega⟩]
  dsimp only
  by_cases ht : (b.getCellDataAt (b.getSize.ofOffset (b.getSize.offset q + 1))).dbcs = .trailing
  · rw [if_pos ⟨rfl, ht⟩, Viewport.incrementInBounds]
    have ho := @Viewport.offset_ofOffset b.getSize (b.getSize.offset q + 1)
    by_cases h2 : b.getSize.offset q + 2 < b.getSize.cellCount
    · rw [getSize_walkInBounds _ ⟨by rw [ho]; omega,
        by rw [ho]; simp only [Bool.false_eq_true, if_false]; omega⟩, ho, if_pos ⟨ht, h2⟩,
        show b.getSize.offset q + 1 + 1 = b.getSize.offset q + 2 by omega]
    · rw [Viewport.walkInBounds_of_gt getSize_width_pos getSize_height_pos _ (by rw [ho]; omega)
        (by rw [ho]; simp only [Bool.false_eq_true, if_false]; omega)]
      simp only [Bool.false_eq_true, if_false]
      rw [if_neg fun hc => h2 hc.2, show b.getSize.cellCount - 1 = b.getSize.offset q + 1 by omega]
  · rw [if_neg fun hc => ht hc.2, if_neg fun hc => ht hc.1]

/-! ### Back and forth -/

/-- **Stepping back from a wide glyph's successor lands on its trailing half.**  From the
leading half `q` of a wide glyph with a cell after it, `MoveToNextGlyph` moves two cells to
a glyph start; `MoveToPreviousGlyph` from there moves back one cell only, onto the trailing
half, and not to `q`. -/
theorem moveToPreviousGlyph_lands_on_trailing (h : b.GlyphsWhole) {q : Point}
    (hq : b.getSize.InBounds q) (hlead : (b.getCellDataAt q).dbcs = .leading)
    (hroom : b.getSize.offset q + 2 < b.getSize.cellCount) (allowExclusiveEnd : Bool) :
    b.moveToNextGlyph q allowExclusiveEnd none =
        (b.getSize.ofOffset (b.getSize.offset q + 2), true) ∧
      (b.getCellDataAt (b.getSize.ofOffset (b.getSize.offset q + 2))).dbcs ≠ .trailing ∧
      b.moveToPreviousGlyph (b.getSize.ofOffset (b.getSize.offset q + 2)) none =
        (b.getSize.ofOffset (b.getSize.offset q + 1), true) ∧
      (b.getCellDataAt (b.getSize.ofOffset (b.getSize.offset q + 1))).dbcs = .trailing ∧
      b.getSize.ofOffset (b.getSize.offset q + 1) ≠ q := by
  have hmem := Viewport.offset_mem hq
  have ht := h.trailing_succ hq hlead
  have hr := @Viewport.inBounds_ofOffset b.getSize getSize_width_pos
    (b.getSize.offset q + 1) ⟨by omega, by omega⟩
  have hro := @Viewport.offset_ofOffset b.getSize (b.getSize.offset q + 1)
  have hstart : (b.getCellDataAt (b.getSize.ofOffset (b.getSize.offset q + 2))).dbcs ≠ .trailing := by
    have := h.not_trailing_succ hr (by rw [hro]; omega) (by rw [ht]; decide)
    rwa [hro, show b.getSize.offset q + 1 + 1 = b.getSize.offset q + 2 by omega] at this
  have hp := @Viewport.inBounds_ofOffset b.getSize getSize_width_pos
    (b.getSize.offset q + 2) ⟨by omega, hroom⟩
  refine ⟨?_, hstart, ?_, ht, Viewport.ofOffset_ne (by omega)⟩
  · rw [moveToNextGlyph_eq hq (by omega), if_pos ⟨ht, hroom⟩]
  · rw [moveToPreviousGlyph_of_start h hp
      (Viewport.ofOffset_ne (by rw [Viewport.offset_origin]; omega)) hstart,
      Viewport.offset_ofOffset, show b.getSize.offset q + 2 - 1 = b.getSize.offset q + 1 by omega]

/-- A buffer three columns wide and two rows high whose first row starts with a wide glyph. -/
def wideGlyphBuffer : TextBuffer :=
  ((((create ⟨3, 2⟩ {} 1 false 0 0).get (by decide)).insertCharacter [0x4E00] .leading
    {}).insertCharacter [0x4E00] .trailing {})

theorem moveToPreviousGlyph_lands_on_trailing_wideGlyphBuffer :
    Reachable wideGlyphBuffer ∧ wideGlyphBuffer.GlyphsWhole ∧
      wideGlyphBuffer.getSize.InBounds ⟨0, 0⟩ ∧
      (wideGlyphBuffer.getCellDataAt ⟨0, 0⟩).dbcs = .leading ∧
      wideGlyphBuffer.getSize.offset ⟨0, 0⟩ + 2 < wideGlyphBuffer.getSize.cellCount ∧
      (wideGlyphBuffer.moveToNextGlyph ⟨0, 0⟩ true none =
          (wideGlyphBuffer.getSize.ofOffset (wideGlyphBuffer.getSize.offset ⟨0, 0⟩ + 2), true) ∧
        (wideGlyphBuffer.getCellDataAt
          (wideGlyphBuffer.getSize.ofOffset (wideGlyphBuffer.getSize.offset ⟨0, 0⟩ + 2))).dbcs ≠
            .trailing ∧
        wideGlyphBuffer.moveToPreviousGlyph
            (wideGlyphBuffer.getSize.ofOffset (wideGlyphBuffer.getSize.offset ⟨0, 0⟩ + 2)) none =
          (wideGlyphBuffer.getSize.ofOffset (wideGlyphBuffer.getSize.offset ⟨0, 0⟩ + 1), true) ∧
        (wideGlyphBuffer.getCellDataAt
          (wideGlyphBuffer.getSize.ofOffset (wideGlyphBuffer.getSize.offset ⟨0, 0⟩ + 1))).dbcs =
            .trailing ∧
        wideGlyphBuffer.getSize.ofOffset (wideGlyphBuffer.getSize.offset ⟨0, 0⟩ + 1) ≠ ⟨0, 0⟩) :=
  have h : wideGlyphBuffer.GlyphsWhole := by decide
  have hq : wideGlyphBuffer.getSize.InBounds ⟨0, 0⟩ := by decide
  have hlead : (wideGlyphBuffer.getCellDataAt ⟨0, 0⟩).dbcs = .leading := by decide
  have hroom : wideGlyphBuffer.getSize.offset ⟨0, 0⟩ + 2 < wideGlyphBuffer.getSize.cellCount := by
    decide
  ⟨.step (.step (.create (Option.some_get _).symm) (.insertCharacter [0x4E00] .leading {}) rfl)
      (.insertCharacter [0x4E00] .trailing {}) rfl,
    h, hq, hlead, hroom, moveToPreviousGlyph_lands_on_trailing h hq hlead hroom true⟩

/-- **Stepping back and then forward gives a glyph's start back**: the step back is exactly
one cell.  So does stepping forward and then back from a narrow glyph. -/
theorem moveToGlyph_round_trips (h : b.GlyphsWhole) :
    (∀ p, b.getSize.InBounds p → p ≠ b.getSize.origin → (b.getCellDataAt p).dbcs ≠ .trailing →
      b.moveToPreviousGlyph p none = (b.getSize.ofOffset (b.getSize.offset p - 1), true) ∧
      ∀ allowExclusiveEnd,
        (b.moveToNextGlyph (b.moveToPreviousGlyph p none).1 allowExclusiveEnd none).1 = p) ∧
    (∀ q, b.getSize.InBounds q → (b.getCellDataAt q).dbcs = .single →
      b.getSize.offset q + 1 < b.getSize.cellCount → ∀ allowExclusiveEnd,
        (b.moveToPreviousGlyph (b.moveToNextGlyph q allowExclusiveEnd none).1 none).1 = q) := by
  constructor
  · intro p hp hne hs
    refine ⟨moveToPreviousGlyph_of_start h hp hne hs, fun allowExclusiveEnd => ?_⟩
    have hmem := Viewport.offset_mem hp
    have hpos := offset_pos_of_ne_origin hp hne
    have hr := @Viewport.inBounds_ofOffset b.getSize getSize_width_pos
      (b.getSize.offset p - 1) ⟨by omega, by omega⟩
    rw [moveToPreviousGlyph_of_start h hp hne hs,
      moveToNextGlyph_eq hr (by rw [Viewport.offset_ofOffset]; omega), Viewport.offset_ofOffset,
      Int.sub_add_cancel, Viewport.ofOffset_offset ⟨hp.1, hp.2.1⟩, if_neg fun hc => hs hc.1]
  · intro q hq hs hroom allowExclusiveEnd
    have hmem := Viewport.offset_mem hq
    have hn := h.not_trailing_succ hq hroom (by rw [hs]; decide)
    have hp := @Viewport.inBounds_ofOffset b.getSize getSize_width_pos
      (b.getSize.offset q + 1) ⟨by omega, hroom⟩
    rw [moveToNextGlyph_eq hq hroom, if_neg fun hc => hn hc.1]
    rw [moveToPreviousGlyph_of_start h hp
      (Viewport.ofOffset_ne (by rw [Viewport.offset_origin]; omega)) hn,
      Viewport.offset_ofOffset, Int.add_sub_cancel, Viewport.ofOffset_offset ⟨hq.1, hq.2.1⟩]

theorem moveToGlyph_round_trips_wideGlyphBuffer :
    wideGlyphBuffer.GlyphsWhole ∧
      (∀ p, wideGlyphBuffer.getSize.InBounds p → p ≠ wideGlyphBuffer.getSize.origin →
        (wideGlyphBuffer.getCellDataAt p).dbcs ≠ .trailing →
        wideGlyphBuffer.moveToPreviousGlyph p none =
          (wideGlyphBuffer.getSize.ofOffset (wideGlyphBuffer.getSize.offset p - 1), true) ∧
        ∀ allowExclusiveEnd,
          (wideGlyphBuffer.moveToNextGlyph (wideGlyphBuffer.moveToPreviousGlyph p none).1
            allowExclusiveEnd none).1 = p) ∧
      (∀ q, wideGlyphBuffer.getSize.InBounds q → (wideGlyphBuffer.getCellDataAt q).dbcs = .single →
        wideGlyphBuffer.getSize.offset q + 1 < wideGlyphBuffer.getSize.cellCount →
        ∀ allowExclusiveEnd, (wideGlyphBuffer.moveToPreviousGlyph
          (wideGlyphBuffer.moveToNextGlyph q allowExclusiveEnd none).1 none).1 = q) :=
  have h : wideGlyphBuffer.GlyphsWhole := by decide
  ⟨h, moveToGlyph_round_trips h⟩

/-! ### The glyph a cell belongs to -/

theorem inBounds_left {p : Point} (hp : b.getSize.InBounds p) (hx : 0 < p.x) :
    b.getSize.InBounds ⟨p.x - 1, p.y⟩ := by
  obtain ⟨h1, h2, h3, h4⟩ := hp
  exact ⟨by simp only [getSize_left]; omega, show p.x - 1 ≤ _ by omega, h3, h4⟩

theorem inBounds_right {p : Point} (hp : b.getSize.InBounds p) (hx : p.x + 1 < b.width) :
    b.getSize.InBounds ⟨p.x + 1, p.y⟩ := by
  obtain ⟨h1, h2, h3, h4⟩ := hp
  exact ⟨show _ ≤ p.x + 1 by omega, by simp only [getSize_right]; omega, h3, h4⟩

theorem ne_endExclusive {p : Point} (hp : b.getSize.InBounds p) : p ≠ b.getSize.endExclusive :=
  fun he => by have := (Viewport.offset_mem hp).2; rw [he, Viewport.offset_endExclusive] at this; omega

/-- Below the default limit `GetGlyphStart` keeps a cell and clamps nothing. -/
theorem clamp_of_inBounds {p : Point} (hp : b.getSize.InBounds p) :
    (if b.getSize.compareInBounds p b.getSize.endExclusive > 0 then b.getSize.endExclusive else p) =
      p := by
  have := (Viewport.offset_mem hp).2
  rw [if_neg (by rw [Viewport.compareInBounds_eq, Viewport.offset_endExclusive]; omega)]

/-- On a cell, `GetGlyphStart` is the cell itself or, from a trailing half, the cell to its
left. -/
theorem getGlyphStart_eq (h : b.GlyphsWhole) {p : Point} (hp : b.getSize.InBounds p) :
    b.getGlyphStart p none = if (b.getCellDataAt p).dbcs = .trailing then ⟨p.x - 1, p.y⟩ else p := by
  unfold getGlyphStart
  simp only [Option.getD_none, clamp_of_inBounds hp, ne_eq, ne_endExclusive hp, not_false_eq_true,
    true_and]
  split_ifs with ht
  · have hx := ((h.at hp).2 ht).1
    have := (Viewport.offset_mem (inBounds_left hp hx)).1
    rw [Viewport.offset_sub_x] at this
    rw [Viewport.decrementInBounds, getSize_walkInBounds p ⟨by omega, by
      have := (Viewport.offset_mem hp).2; simp only [if_true]; omega⟩]
    exact ofOffset_pred hp hx
  · rfl

/-- On a cell, `GetGlyphEnd` without `accessibilityMode` is the cell itself or, from a leading
half, the cell to its right. -/
theorem getGlyphEnd_eq (h : b.GlyphsWhole) {p : Point} (hp : b.getSize.InBounds p) :
    b.getGlyphEnd p false none = if (b.getCellDataAt p).dbcs = .leading then ⟨p.x + 1, p.y⟩ else p := by
  unfold getGlyphEnd
  simp only [Option.getD_none, clamp_of_inBounds hp, ne_eq, ne_endExclusive hp, not_false_eq_true,
    true_and, Bool.false_eq_true, if_false]
  split_ifs with hl
  · have := Viewport.offset_mem hp
    rw [Viewport.incrementInBounds, getSize_walkInBounds p ⟨by omega, by simp only [if_true]; omega⟩]
    exact ofOffset_succ hp ((h.at hp).1 hl).1
  · rfl

theorem inBounds_getGlyphEnd (h : b.GlyphsWhole) {p : Point} (hp : b.getSize.InBounds p) :
    b.getSize.InBounds (b.getGlyphEnd p false none) := by
  rw [getGlyphEnd_eq h hp]
  split_ifs with hl
  · exact inBounds_right hp ((h.at hp).1 hl).1
  · exact hp

/-- With `accessibilityMode`, `GetGlyphEnd` is one cell past the glyph's last cell. -/
theorem getGlyphEnd_true (h : b.GlyphsWhole) {p : Point} (hp : b.getSize.InBounds p) :
    b.getGlyphEnd p true none =
      b.getSize.ofOffset (b.getSize.offset (b.getGlyphEnd p false none) + 1) := by
  have := Viewport.offset_mem (inBounds_getGlyphEnd h hp)
  show (b.getSize.incrementInBounds (b.getGlyphEnd p false none) true).1 = _
  rw [Viewport.incrementInBounds, getSize_walkInBounds _ ⟨by omega, by simp only [if_true]; omega⟩]

/-- **`GetGlyphStart` and `GetGlyphEnd` bracket the glyph of a cell.**  On a buffer whose wide
glyphs are whole, for every cell `p`, the start and the end lie in `p`'s row around it, one
cell apart for a wide glyph and equal for a narrow one; the start is no trailing half and the
end no leading half; from either of them the two functions give the same start and end, each
leaving its own result where it is; and with `accessibilityMode` the end is the cell after the
last one. -/
theorem getGlyphStart_getGlyphEnd_bracket (h : b.GlyphsWhole) {p : Point} (hp : b.getSize.InBounds p) :
    (b.getGlyphStart p none).y = p.y ∧ (b.getGlyphEnd p false none).y = p.y ∧
      (b.getGlyphStart p none).x ≤ p.x ∧ p.x ≤ (b.getGlyphEnd p false none).x ∧
      (b.getGlyphEnd p false none).x - (b.getGlyphStart p none).x =
        (if (b.getCellDataAt p).dbcs = .single then 0 else 1) ∧
      (b.getCellDataAt (b.getGlyphStart p none)).dbcs ≠ .trailing ∧
      (b.getCellDataAt (b.getGlyphEnd p false none)).dbcs ≠ .leading ∧
      b.getGlyphStart (b.getGlyphEnd p false none) none = b.getGlyphStart p none ∧
      b.getGlyphEnd (b.getGlyphStart p none) false none = b.getGlyphEnd p false none ∧
      b.getGlyphStart (b.getGlyphStart p none) none = b.getGlyphStart p none ∧
      b.getGlyphEnd (b.getGlyphEnd p false none) false none = b.getGlyphEnd p false none ∧
      b.getGlyphEnd p true none =
        b.getSize.ofOffset (b.getSize.offset (b.getGlyphEnd p false none) + 1) := by
  have hs := getGlyphStart_eq h hp
  have he := getGlyphEnd_eq h hp
  rw [← getGlyphEnd_true h hp]
  obtain ⟨hlead, htrail⟩ := h.at hp
  cases hd : (b.getCellDataAt p).dbcs with
  | single =>
    rw [hd, if_neg (by decide)] at hs he
    rw [hs, he, hd, if_pos rfl]
    exact ⟨rfl, rfl, le_refl _, le_refl _, Int.sub_self _, by decide, by decide, by rw [hs], rfl,
      by rw [hs], by rw [he], rfl⟩
  | leading =>
    obtain ⟨hx, hq⟩ := hlead hd
    rw [hd, if_neg (by decide)] at hs
    rw [hd, if_pos rfl] at he
    rw [hs, he, hd, if_neg (by decide), getGlyphStart_eq h (inBounds_right hp hx), hq, if_pos rfl]
    exact ⟨rfl, rfl, le_refl _, Int.le_add_one (le_refl _), by simp, by decide, by decide,
      by simp, rfl, by rw [hs],
      by rw [getGlyphEnd_eq h (inBounds_right hp hx), hq, if_neg (by decide)], rfl⟩
  | trailing =>
    obtain ⟨hx, hq⟩ := htrail hd
    rw [hd, if_pos rfl] at hs
    rw [hd, if_neg (by decide)] at he
    rw [hs, he, hd, if_neg (by decide), getGlyphEnd_eq h (inBounds_left hp hx), hq, if_pos rfl]
    exact ⟨rfl, rfl, Int.sub_le_self _ (by decide), le_refl _, by simp, by decide, by decide, hs,
      by simp, by rw [getGlyphStart_eq h (inBounds_left hp hx), hq, if_neg (by decide)],
      by rw [he], rfl⟩

theorem getGlyphStart_getGlyphEnd_bracket_wideGlyphBuffer :
    wideGlyphBuffer.GlyphsWhole ∧ wideGlyphBuffer.getSize.InBounds ⟨1, 0⟩ ∧
      (wideGlyphBuffer.getGlyphStart ⟨1, 0⟩ none).y = 0 ∧
      (wideGlyphBuffer.getGlyphEnd ⟨1, 0⟩ false none).y = 0 ∧
      (wideGlyphBuffer.getGlyphStart ⟨1, 0⟩ none).x ≤ 1 ∧
      1 ≤ (wideGlyphBuffer.getGlyphEnd ⟨1, 0⟩ false none).x ∧
      (wideGlyphBuffer.getGlyphEnd ⟨1, 0⟩ false none).x -
          (wideGlyphBuffer.getGlyphStart ⟨1, 0⟩ none).x =
        (if (wideGlyphBuffer.getCellDataAt ⟨1, 0⟩).dbcs = .single then 0 else 1) ∧
      (wideGlyphBuffer.getCellDataAt (wideGlyphBuffer.getGlyphStart ⟨1, 0⟩ none)).dbcs ≠ .trailing ∧
      (wideGlyphBuffer.getCellDataAt (wideGlyphBuffer.getGlyphEnd ⟨1, 0⟩ false none)).dbcs ≠
        .leading ∧
      wideGlyphBuffer.getGlyphStart (wideGlyphBuffer.getGlyphEnd ⟨1, 0⟩ false none) none =
        wideGlyphBuffer.getGlyphStart ⟨1, 0⟩ none ∧
      wideGlyphBuffer.getGlyphEnd (wideGlyphBuffer.getGlyphStart ⟨1, 0⟩ none) false none =
        wideGlyphBuffer.getGlyphEnd ⟨1, 0⟩ false none ∧
      wideGlyphBuffer.getGlyphStart (wideGlyphBuffer.getGlyphStart ⟨1, 0⟩ none) none =
        wideGlyphBuffer.getGlyphStart ⟨1, 0⟩ none ∧
      wideGlyphBuffer.getGlyphEnd (wideGlyphBuffer.getGlyphEnd ⟨1, 0⟩ false none) false none =
        wideGlyphBuffer.getGlyphEnd ⟨1, 0⟩ false none ∧
      wideGlyphBuffer.getGlyphEnd ⟨1, 0⟩ true none =
        wideGlyphBuffer.getSize.ofOffset
          (wideGlyphBuffer.getSize.offset (wideGlyphBuffer.getGlyphEnd ⟨1, 0⟩ false none) + 1) :=
  have h : wideGlyphBuffer.GlyphsWhole := by decide
  have hp : wideGlyphBuffer.getSize.InBounds ⟨1, 0⟩ := by decide
  ⟨h, hp, getGlyphStart_getGlyphEnd_bracket h hp⟩

end TextBuffer

end TerminalBuffer
