/-
The arrow keys: `NavigateCursor`.

`NavigateCursor(position, distance)` clamps the position into the buffer and runs a
do-while loop of at most `|distance|` passes.  To the left a pass steps to the start of
the glyph before the column or, at column `0`, to the last readable column of the row
above, and breaks at column `0` of the top row.  To the right a pass steps past the glyph
at the column, to the row's readable end at the latest, or from there to column `0` of
the row below, and breaks at the end of the last row.

The loop composes with itself: `n` passes and then `m` more are `n + m` passes, because a
pass that breaks leaves the position where it was, so the next pass breaks again
(`passes_add`).  Every pass keeps the row inside the buffer, and the loop makes at most
`|distance|` passes, fewer only when it breaks.  The column is another matter: to the
right the loop can stop one past a row's last readable column, which for a single-width
row is the buffer's width, and the clamp at the start of the next call moves it back.  So
`a` presses and then `b` presses of the same direction end where `a + b` presses do
exactly when the first call leaves the column inside the buffer (`navigateCursor_add`),
and `a` presses that end a row leave the next press on that row
(`navigateCursor_end_of_row`).
-/
import TerminalBuffer.Invariants

namespace TerminalBuffer

/-! ### The do-while loop -/

/-- A do-while loop of at most `n` passes of `pass`, stopping at the first pass that breaks
(`none`): the position it leaves and the number of passes it made, the breaking one
included. -/
def passes (pass : Point → Option Point) : Nat → Point → Point × Nat
  | 0, p => (p, 0)
  | n + 1, p =>
    match pass p with
    | none => (p, 1)
    | some q => ((passes pass n q).1, (passes pass n q).2 + 1)

variable {pass : Point → Option Point}

theorem passes_of_none {p : Point} (h : pass p = none) : ∀ n, (passes pass n p).1 = p
  | 0 => rfl
  | n + 1 => by simp only [passes, h]

/-- `n` passes and then `m` more are `n + m` passes. -/
theorem passes_add (n m : Nat) : ∀ p, (passes pass (n + m) p).1 = (passes pass m (passes pass n p).1).1 := by
  induction n with
  | zero => intro p; rw [Nat.zero_add]; rfl
  | succ n ih =>
    intro p
    rw [Nat.add_right_comm]
    cases h : pass p with
    | none => simp only [passes, h]; exact (passes_of_none h m).symm
    | some q => simp only [passes, h]; exact ih q

/-- The loop makes at most `n` passes, and stops short of `n` only at a pass that breaks. -/
theorem passes_snd : ∀ n p, (passes pass n p).2 ≤ n ∧
    ((passes pass n p).2 < n → pass (passes pass n p).1 = none)
  | 0, _ => ⟨le_rfl, fun h => absurd h (Nat.lt_irrefl 0)⟩
  | n + 1, p => by
    cases h : pass p with
    | none => simp only [passes, h]; exact ⟨by omega, fun _ => trivial⟩
    | some q =>
      simp only [passes, h]
      have := passes_snd n q
      exact ⟨by omega, fun hlt => this.2 (by omega)⟩

/-- What every pass keeps, the loop keeps. -/
theorem passes_inv {P : Point → Prop} (h : ∀ p q, P p → pass p = some q → P q) :
    ∀ n p, P p → P (passes pass n p).1
  | 0, _, hp => hp
  | n + 1, p, hp => by
    cases hq : pass p with
    | none => simpa only [passes, hq] using hp
    | some q => simpa only [passes, hq] using passes_inv h n q (h p q hp hq)

namespace TextBuffer

variable (b : TextBuffer)

/-! ### `NavigateCursor` -/

/-- One pass of the loop for `distance < 0`: the start of the previous glyph, or the last
readable column of the row above, or `break` at column `0` of the top row. -/
def leftPass (p : Point) : Option Point :=
  if p.x > 0 then some ⟨(b.getRowByOffset p.y).navigateToPrevious p.x, p.y⟩
  else if p.y ≤ 0 then none
  else some ⟨((b.getRowByOffset (p.y - 1)).getReadableColumnCount : Int) - 1, p.y - 1⟩

/-- One pass of the loop for `distance > 0`.  The source keeps `rowWidth` as the readable
column count of the row at `y`, updating it with `y`, which is what is read here. -/
def rightPass (p : Point) : Option Point :=
  if p.x < (b.getRowByOffset p.y).getReadableColumnCount then
    some ⟨(b.getRowByOffset p.y).navigateToNext p.x, p.y⟩
  else if p.y ≥ (b.height : Int) - 1 then none
  else some ⟨0, p.y + 1⟩

/-- The position clamped into the buffer, where `NavigateCursor` starts. -/
def clampPoint (position : Point) : Point :=
  ⟨clamp position.x 0 ((b.width : Int) - 1), clamp position.y 0 ((b.height : Int) - 1)⟩

/-- The loop of `NavigateCursor(position, distance)`: its position and the passes it made. -/
def navigateCursorLoop (position : Point) (distance : Int) : Point × Nat :=
  if distance < 0 then passes b.leftPass distance.natAbs (b.clampPoint position)
  else if distance > 0 then passes b.rightPass distance.natAbs (b.clampPoint position)
  else (b.clampPoint position, 0)

/-- `NavigateCursor(position, distance)`. -/
def navigateCursor (position : Point) (distance : Int) : Point :=
  (b.navigateCursorLoop position distance).1

/-! ### The row stays in the buffer -/

/-- The rows of the buffer. -/
def RowInside (p : Point) : Prop := 0 ≤ p.y ∧ p.y < b.height

theorem rowInside_clampPoint (position : Point) : b.RowInside (b.clampPoint position) := by
  have := b.height_pos
  have := clamp_mem (v := position.y) (show (0 : Int) ≤ (b.height : Int) - 1 by omega)
  exact ⟨this.1, by simp only [clampPoint]; omega⟩

theorem rowInside_leftPass {p q : Point} (hp : b.RowInside p) (h : b.leftPass p = some q) :
    b.RowInside q := by
  unfold leftPass at h
  split at h
  · cases h; exact hp
  · split at h
    · cases h
    · cases h; exact ⟨by dsimp only; omega, by dsimp only; have := hp.2; omega⟩

theorem rowInside_rightPass {p q : Point} (hp : b.RowInside p) (h : b.rightPass p = some q) :
    b.RowInside q := by
  unfold rightPass at h
  split at h
  · cases h; exact hp
  · split at h
    · cases h
    · cases h; exact ⟨by dsimp only; have := hp.1; omega, by dsimp only; omega⟩

theorem rowInside_navigateCursor (position : Point) (distance : Int) :
    b.RowInside (b.navigateCursor position distance) := by
  unfold navigateCursor navigateCursorLoop
  split
  · exact passes_inv (fun _ _ => b.rowInside_leftPass) _ _ (b.rowInside_clampPoint position)
  · split
    · exact passes_inv (fun _ _ => b.rowInside_rightPass) _ _ (b.rowInside_clampPoint position)
    · exact b.rowInside_clampPoint position

theorem navigateCursorLoop_snd_le (position : Point) (distance : Int) :
    (b.navigateCursorLoop position distance).2 ≤ distance.natAbs := by
  unfold navigateCursorLoop
  split
  · exact (passes_snd _ _).1
  · split
    · exact (passes_snd _ _).1
    · exact Nat.zero_le _

/-! ### Composition -/

theorem clampPoint_of_mem {p : Point} (hx : 0 ≤ p.x ∧ p.x < b.width) (hy : b.RowInside p) :
    b.clampPoint p = p := by
  obtain ⟨x, y⟩ := p
  obtain ⟨hy₀, hy₁⟩ := hy
  dsimp only at hx hy₀ hy₁
  simp only [clampPoint, Point.mk.injEq, clamp]
  constructor <;> split_ifs <;> omega

theorem navigateCursor_of_nonneg (position : Point) {d : Int} (hd : 0 ≤ d) :
    b.navigateCursor position d = (passes b.rightPass d.natAbs (b.clampPoint position)).1 := by
  unfold navigateCursor navigateCursorLoop
  rcases hd.lt_or_eq with hd | rfl
  · rw [if_neg (by omega), if_pos hd]
  · rfl

theorem navigateCursor_of_nonpos (position : Point) {d : Int} (hd : d ≤ 0) :
    b.navigateCursor position d = (passes b.leftPass d.natAbs (b.clampPoint position)).1 := by
  unfold navigateCursor navigateCursorLoop
  rcases hd.lt_or_eq with hd | rfl
  · rw [if_pos hd]
  · rfl

/-- The calls from a position the clamp keeps, over two distances of one direction, run one
loop over both. -/
theorem passes_natAbs_add {pass : Point → Option Point} {s : Point} {a c : Int}
    (hac : a.natAbs + c.natAbs = (a + c).natAbs) :
    (passes pass c.natAbs (passes pass a.natAbs s).1).1 = (passes pass (a + c).natAbs s).1 := by
  rw [← hac, passes_add]

/-- **The arrow keys compose when the column stays in the buffer.**  For every buffer and
position, and two distances of the same sign: if the first call leaves the column inside
the buffer, the second call from there ends where one call over both distances does.  For
every position and distance the row ends inside the buffer, and the loop makes at most
`|distance|` passes. -/
theorem navigateCursor_add {p : Point} {a c : Int} (hac : (0 ≤ a ∧ 0 ≤ c) ∨ (a ≤ 0 ∧ c ≤ 0))
    (hx : 0 ≤ (b.navigateCursor p a).x ∧ (b.navigateCursor p a).x < b.width) :
    b.navigateCursor (b.navigateCursor p a) c = b.navigateCursor p (a + c) ∧
      (∀ q d, 0 ≤ (b.navigateCursor q d).y ∧ (b.navigateCursor q d).y < b.height) ∧
      ∀ q d, (b.navigateCursorLoop q d).2 ≤ d.natAbs := by
  refine ⟨?_, b.rowInside_navigateCursor, b.navigateCursorLoop_snd_le⟩
  have hq := b.clampPoint_of_mem hx (b.rowInside_navigateCursor p a)
  rcases hac with ⟨ha, hc⟩ | ⟨ha, hc⟩
  · rw [b.navigateCursor_of_nonneg _ hc, hq, b.navigateCursor_of_nonneg p ha,
      b.navigateCursor_of_nonneg p (show 0 ≤ a + c by omega), passes_natAbs_add (by omega)]
  · rw [b.navigateCursor_of_nonpos _ hc, hq, b.navigateCursor_of_nonpos p ha,
      b.navigateCursor_of_nonpos p (show a + c ≤ 0 by omega), passes_natAbs_add (by omega)]

/-- The constructor's blank buffer, three columns wide and two rows high. -/
def threeByTwo : TextBuffer := (create ⟨3, 2⟩ {} 1 false 0 0).get (by decide)

theorem navigateCursor_add_threeByTwo :
    ((0 ≤ (1 : Int) ∧ 0 ≤ (1 : Int)) ∨ ((1 : Int) ≤ 0 ∧ (1 : Int) ≤ 0)) ∧
      (0 ≤ (threeByTwo.navigateCursor ⟨0, 0⟩ 1).x ∧
        (threeByTwo.navigateCursor ⟨0, 0⟩ 1).x < threeByTwo.width) ∧
      (threeByTwo.navigateCursor (threeByTwo.navigateCursor ⟨0, 0⟩ 1) 1 =
          threeByTwo.navigateCursor ⟨0, 0⟩ (1 + 1) ∧
        (∀ q d, 0 ≤ (threeByTwo.navigateCursor q d).y ∧
          (threeByTwo.navigateCursor q d).y < threeByTwo.height) ∧
        ∀ q d, (threeByTwo.navigateCursorLoop q d).2 ≤ d.natAbs) :=
  have hac : (0 ≤ (1 : Int) ∧ 0 ≤ (1 : Int)) ∨ ((1 : Int) ≤ 0 ∧ (1 : Int) ≤ 0) := by decide
  have hx : 0 ≤ (threeByTwo.navigateCursor ⟨0, 0⟩ 1).x ∧
      (threeByTwo.navigateCursor ⟨0, 0⟩ 1).x < threeByTwo.width := by decide
  ⟨hac, hx, threeByTwo.navigateCursor_add hac hx⟩

/-- **Presses that end a row strand the next call.**  In the blank buffer three columns
wide and two rows high, which the constructor makes, three presses of the right arrow from
`(0, 0)` stop on column `3`, the end of the row.  A fourth press, made as a second call,
starts from column `2`, where the clamp puts it, and ends on column `3` again, while four
presses in one call go on to the start of row `1`. -/
theorem navigateCursor_end_of_row :
    Reachable threeByTwo ∧ threeByTwo.navigateCursor ⟨0, 0⟩ 3 = ⟨3, 0⟩ ∧
      threeByTwo.navigateCursor ⟨3, 0⟩ 1 = ⟨3, 0⟩ ∧ threeByTwo.navigateCursor ⟨0, 0⟩ (3 + 1) = ⟨0, 1⟩ :=
  ⟨.create (Option.some_get _).symm, by decide, by decide, by decide⟩

end TextBuffer

end TerminalBuffer
