/-
Modelled from the spec: walking a viewport cell by cell.

`Viewport` is not among the sources; its walks are written as `WalkInBounds` computes them.
A position is turned into its index in row-major order from the viewport's origin, moved by
`delta`, clamped into the viewport, or one cell further with `allowEndExclusive`, and turned
back.  `CompareInBounds` is the difference of two such indices.

Everything later is said about indices: `offset` is a position's index and `ofOffset` the
position at an index.  For a viewport with cells the two are inverse on the cells and on
`EndExclusive` (`ofOffset_offset`, `offset_ofOffset`), and a walk moves the index by `delta`
wherever that stays inside (`walkInBounds_of_mem`).
-/
import TerminalBuffer.Basic

namespace TerminalBuffer

namespace Viewport

variable (v : Viewport)

/-- `Width()`. -/
def width : Int := v.right - v.left + 1

/-- `Height()`. -/
def height : Int := v.bottom - v.top + 1

/-- `Origin()`. -/
def origin : Point := ⟨v.left, v.top⟩

/-- `EndExclusive()`: the cell after the last one, at the start of the row below. -/
def endExclusive : Point := ⟨v.left, v.bottom + 1⟩

/-- `BottomRightInclusive()`. -/
def bottomRightInclusive : Point := ⟨v.right, v.bottom⟩

/-- `IsInBounds(pos)`. -/
def InBounds (pos : Point) : Prop :=
  v.left ≤ pos.x ∧ pos.x ≤ v.right ∧ v.top ≤ pos.y ∧ pos.y ≤ v.bottom

instance (pos : Point) : Decidable (v.InBounds pos) := inferInstanceAs (Decidable (_ ∧ _))

/-- `CompareInBounds(first, second)`: how many cells `first` lies after `second`. -/
def compareInBounds (first second : Point) : Int :=
  (first.y - second.y) * v.width + (first.x - second.x)

/-- `WalkInBounds(pos, delta, allowEndExclusive)`: the position and whether it was not
clamped.  `offClamped` is never negative, where C++'s `%` and `/` are `Int.emod` and
`Int.ediv`. -/
def walkInBounds (pos : Point) (delta : Int) (allowEndExclusive : Bool) : Point × Bool :=
  let w := max 0 v.width
  let h := max 0 v.height
  let max := w * h - if allowEndExclusive then 0 else 1
  let off := w * (pos.y - v.top) + (pos.x - v.left) + delta
  let offClamped := clamp off 0 max
  (⟨offClamped % w + v.left, offClamped / w + v.top⟩, off == offClamped)

/-- `IncrementInBounds(pos, allowEndExclusive)`. -/
def incrementInBounds (pos : Point) (allowEndExclusive : Bool) : Point × Bool :=
  v.walkInBounds pos 1 allowEndExclusive

/-- `DecrementInBounds(pos, allowEndExclusive)`. -/
def decrementInBounds (pos : Point) (allowEndExclusive : Bool) : Point × Bool :=
  v.walkInBounds pos (-1) allowEndExclusive

/-- `IncrementInBoundsCircular(pos)`: from the last cell back to the origin. -/
def incrementInBoundsCircular (pos : Point) : Point × Bool :=
  if pos.x = v.right then
    if pos.y + 1 > v.bottom then (⟨v.left, v.top⟩, false) else (⟨v.left, pos.y + 1⟩, true)
  else (⟨pos.x + 1, pos.y⟩, true)

/-! ### Positions as indices -/

/-- A position's index in row-major order from the origin. -/
def offset (pos : Point) : Int := v.width * (pos.y - v.top) + (pos.x - v.left)

/-- The position at an index. -/
def ofOffset (n : Int) : Point := ⟨n % v.width + v.left, n / v.width + v.top⟩

/-- The cells of the viewport and `EndExclusive` are the indices `[0, width * height]`. -/
def cellCount : Int := v.width * v.height

variable {v}

theorem compareInBounds_eq (first second : Point) :
    v.compareInBounds first second = v.offset first - v.offset second := by
  unfold compareInBounds offset; ring

theorem offset_ofOffset (n : Int) : v.offset (v.ofOffset n) = n := by
  unfold offset ofOffset
  dsimp only
  rw [Int.add_sub_cancel, Int.add_sub_cancel]
  exact Int.ediv_add_emod n v.width

theorem ofOffset_offset {pos : Point} (hx : v.left ≤ pos.x ∧ pos.x ≤ v.right) :
    v.ofOffset (v.offset pos) = pos := by
  have hw : 0 < v.width := by unfold width; omega
  have hr : 0 ≤ pos.x - v.left ∧ pos.x - v.left < v.width := by unfold width; omega
  unfold ofOffset offset
  rw [Int.add_comm (v.width * _), Int.add_mul_emod_self_left, Int.emod_eq_of_lt hr.1 hr.2,
    Int.add_mul_ediv_left _ _ (Int.ne_of_gt hw), Int.ediv_eq_zero_of_lt hr.1 hr.2]
  cases pos
  simp only [Int.sub_add_cancel, Int.zero_add]

/-- Moving along a row moves the index by as many cells. -/
theorem offset_add_x (pos : Point) (d : Int) : v.offset ⟨pos.x + d, pos.y⟩ = v.offset pos + d := by
  simp only [offset]; ring

theorem offset_sub_x (pos : Point) (d : Int) : v.offset ⟨pos.x - d, pos.y⟩ = v.offset pos - d := by
  simp only [offset]; ring

/-- Row-major order is the order of the indices. -/
theorem offset_le_offset_iff {p q : Point} (hp : v.left ≤ p.x ∧ p.x ≤ v.right)
    (hq : v.left ≤ q.x ∧ q.x ≤ v.right) : v.offset p ≤ v.offset q ↔ p ≤ q := by
  have hw : v.width = v.right - v.left + 1 := rfl
  have hd : v.offset q - v.offset p = v.width * (q.y - p.y) + (q.x - p.x) := by
    simp only [offset]; ring
  show _ ↔ p.y < q.y ∨ (p.y = q.y ∧ p.x ≤ q.x)
  rcases lt_trichotomy p.y q.y with hy | hy | hy
  · have : v.width ≤ v.width * (q.y - p.y) := le_mul_of_one_le_right (by omega) (by omega)
    omega
  · rw [hy, Int.sub_self, Int.mul_zero] at hd
    omega
  · have : v.width * (q.y - p.y) ≤ -v.width := by
      rw [← mul_neg_one]; exact Int.mul_le_mul_of_nonneg_left (by omega) (by omega)
    omega

/-- Every index names a position in one of the viewport's columns. -/
theorem ofOffset_x_mem (hw : 0 < v.width) (n : Int) :
    v.left ≤ (v.ofOffset n).x ∧ (v.ofOffset n).x ≤ v.right := by
  have := Int.emod_nonneg n (Int.ne_of_gt hw)
  have := Int.emod_lt_of_pos n hw
  have hwd : v.width = v.right - v.left + 1 := rfl
  simp only [ofOffset]; omega

theorem ofOffset_le_ofOffset_iff (hw : 0 < v.width) {i j : Int} :
    v.ofOffset i ≤ v.ofOffset j ↔ i ≤ j := by
  rw [← offset_le_offset_iff (ofOffset_x_mem hw i) (ofOffset_x_mem hw j), offset_ofOffset,
    offset_ofOffset]

theorem offset_origin : v.offset v.origin = 0 := by simp [offset, origin]

theorem offset_endExclusive : v.offset v.endExclusive = v.cellCount := by
  simp only [offset, endExclusive, cellCount, height]; ring

theorem offset_bottomRightInclusive : v.offset v.bottomRightInclusive = v.cellCount - 1 := by
  simp only [offset, bottomRightInclusive, cellCount, height, width]; ring

/-- The cells are the indices `[0, width * height)`. -/
theorem offset_mem {pos : Point} (h : v.InBounds pos) : 0 ≤ v.offset pos ∧ v.offset pos < v.cellCount := by
  obtain ⟨h1, h2, h3, h4⟩ := h
  have hy : v.width * (pos.y - v.top) ≤ v.width * (v.height - 1) :=
    Int.mul_le_mul_of_nonneg_left (by unfold height; omega) (by unfold width; omega)
  have hy0 : 0 ≤ v.width * (pos.y - v.top) := Int.mul_nonneg (by unfold width; omega) (by omega)
  have hc : v.cellCount = v.width * (v.height - 1) + v.width := by unfold cellCount; ring
  unfold offset
  constructor
  · omega
  · rw [hc]; unfold width at *; omega

theorem inBounds_ofOffset (hw : 0 < v.width) {n : Int} (h : 0 ≤ n ∧ n < v.cellCount) :
    v.InBounds (v.ofOffset n) := by
  have hq : n / v.width < v.height := by
    rw [Int.ediv_lt_iff_lt_mul hw]; unfold cellCount at h; rw [Int.mul_comm]; exact h.2
  have hq0 : 0 ≤ n / v.width := Int.ediv_nonneg h.1 (Int.le_of_lt hw)
  have hr := Int.emod_nonneg n (Int.ne_of_gt hw)
  have hr' := Int.emod_lt_of_pos n hw
  have hwd : v.width = v.right - v.left + 1 := rfl
  have hhd : v.height = v.bottom - v.top + 1 := rfl
  unfold InBounds ofOffset
  dsimp only
  omega

/-- Two cells with one index are one cell. -/
theorem eq_of_offset_eq {p q : Point} (hp : v.left ≤ p.x ∧ p.x ≤ v.right)
    (hq : v.left ≤ q.x ∧ q.x ≤ v.right) (h : v.offset p = v.offset q) : p = q := by
  rw [← ofOffset_offset hp, ← ofOffset_offset hq, h]

/-- **A walk moves the index by `delta`** wherever that stays inside the viewport, or one
cell further with `allowEndExclusive`, and says it did. -/
theorem walkInBounds_of_mem (hw : 0 < v.width) (hh : 0 < v.height) (pos : Point) {delta : Int}
    {allowEndExclusive : Bool}
    (h : 0 ≤ v.offset pos + delta ∧
      v.offset pos + delta ≤ v.cellCount - if allowEndExclusive then 0 else 1) :
    v.walkInBounds pos delta allowEndExclusive = (v.ofOffset (v.offset pos + delta), true) := by
  have hmw : max 0 v.width = v.width := by omega
  have hmh : max 0 v.height = v.height := by omega
  unfold walkInBounds
  simp only [hmw, hmh]
  unfold cellCount at h
  generalize (if allowEndExclusive then (0 : Int) else 1) = e at h ⊢
  have hc : clamp (v.width * (pos.y - v.top) + (pos.x - v.left) + delta) 0 (v.width * v.height - e) =
      v.offset pos + delta := by
    unfold offset at h ⊢; unfold clamp; rw [if_neg (by omega), if_neg (by omega)]
  rw [hc]
  simp [ofOffset, offset]

/-- A walk that would leave the viewport stops at its edge and says so. -/
theorem walkInBounds_of_lt (hw : 0 < v.width) (hh : 0 < v.height) (pos : Point) {delta : Int}
    {allowEndExclusive : Bool} (h : v.offset pos + delta < 0) :
    v.walkInBounds pos delta allowEndExclusive = (v.origin, false) := by
  have hmw : max 0 v.width = v.width := by omega
  have hmh : max 0 v.height = v.height := by omega
  have hpos : 0 ≤ v.width * v.height := Int.mul_nonneg (by omega) (by omega)
  unfold walkInBounds
  simp only [hmw, hmh]
  have hc : clamp (v.width * (pos.y - v.top) + (pos.x - v.left) + delta) 0
      (v.width * v.height - if allowEndExclusive then 0 else 1) = 0 := by
    unfold offset at h; unfold clamp; rw [if_pos h]
  rw [hc]
  unfold offset at h
  simp only [Int.zero_emod, Int.zero_ediv, Int.zero_add, origin, Prod.mk.injEq, true_and]
  simp only [beq_eq_false_iff_ne, ne_eq]
  omega

end Viewport

end TerminalBuffer
