/-
Scrolling: what `ScrollRows` leaves in the rows, and what `ScrollMarks` leaves in the marks.

`ScrollRows(firstRow, size, delta)` copies the band `[firstRow, firstRow + size)` by `delta`
rows, one `GetMutableRowByOffset(y + delta).CopyFrom(GetRowByOffset(y))` at a time, upward
rows first when `delta < 0` and downward rows first otherwise.  Two facts make that a
`memmove`: no copy reads a row an earlier copy wrote, and no two copies write one row.  So
every destination row ends up as `CopyFrom` of its source as it was before the call, over
itself as it was before the call, and every other row of the buffer reads as before, for
every overlap and every `_firstRow` (`scrollRows_copies`).  `CopyFrom` is the row's own copy
and takes over what the row shows, not its double-byte padding flag
(`scrollRows_keeps_padding`).
-/
import TerminalBuffer.Invariants

namespace TerminalBuffer

namespace TextBuffer

variable (b : TextBuffer)

/-! ### One copy -/

@[simp] theorem rowOffset_touch (y : Int) : (b.touch y).rowOffset = b.rowOffset := rfl

/-- One copy of `ScrollRows` writes its destination's slot and leaves every other slot. -/
theorem getRowByOffset_scrollRowStep (y delta z : Int) :
    (b.scrollRowStep y delta).getRowByOffset z =
      if b.rowOffset z = b.rowOffset (y + delta) then
        (b.getRowByOffset (y + delta)).copyFrom (b.getRowByOffset y)
      else b.getRowByOffset z := by
  simp only [scrollRowStep, getRowByOffset_updateRow, getRowByOffset_touch,
    getRowByOffset_getMutableRowByOffset, rowOffset_touch, rowOffset_getMutableRowByOffset]

@[simp] theorem height_scrollRowStep (y delta : Int) : (b.scrollRowStep y delta).height = b.height :=
  rfl

/-- On the rows of the buffer, one copy writes exactly its destination. -/
theorem getRowByOffset_scrollRowStep_of_mem {y delta z : Int}
    (hd : 0 ≤ y + delta ∧ y + delta < b.height) (hz : 0 ≤ z ∧ z < b.height) :
    (b.scrollRowStep y delta).getRowByOffset z =
      if z = y + delta then (b.getRowByOffset (y + delta)).copyFrom (b.getRowByOffset y)
      else b.getRowByOffset z := by
  simp only [getRowByOffset_scrollRowStep, b.rowOffset_inj hz hd]

/-! ### The loop -/

/-- **The copies of `ScrollRows` form a `memmove`.**  After the `n` copies of a loop from row
`y` moving by `step`, each destination `y + step * i + delta` reads as `CopyFrom` of its source
`y + step * i` as it was before the loop, over itself as it was before the loop, and every
other row reads as before, provided every row the loop touches is a row of the buffer, no
copy reads a row an earlier one wrote, and no two copies write one row. -/
theorem getRowByOffset_scrollLoop (delta step : Int) :
    ∀ (n : Nat) (b : TextBuffer) (y : Int),
      (∀ i : Nat, i < n → (0 ≤ y + step * i ∧ y + step * i < b.height) ∧
        (0 ≤ y + step * i + delta ∧ y + step * i + delta < b.height)) →
      (∀ i j : Nat, i < j → j < n →
        y + step * j ≠ y + step * i + delta ∧ y + step * j + delta ≠ y + step * i + delta) →
      ∀ z : Int, 0 ≤ z → z < b.height →
        (scrollLoop delta step n b y).getRowByOffset z =
          if ∃ i < n, z = y + step * i + delta then
            (b.getRowByOffset z).copyFrom (b.getRowByOffset (z - delta))
          else b.getRowByOffset z := by
  intro n
  induction n with
  | zero => intro b y _ _ z _ _; simp [scrollLoop]
  | succ n ih =>
    intro b y hin hne z hz0 hzh
    -- the loop from `y + step` sees the rows from one place further on
    have hsh : ∀ i : Nat, y + step + step * i = y + step * ((i + 1 : Nat) : Int) := fun i => by
      push_cast; ring
    have hd0 := (hin 0 (by omega)).2
    simp only [Nat.cast_zero, mul_zero, add_zero] at hd0
    rw [scrollLoop, ih _ _ (fun i hi => by rw [hsh]; exact hin (i + 1) (by omega))
      (fun i j hij hj => by rw [hsh, hsh]; exact hne (i + 1) (j + 1) (by omega) (by omega)) z hz0
      (by rwa [height_scrollRowStep])]
    by_cases hlater : ∃ i < n, z = y + step + step * i + delta
    · obtain ⟨i, hi, rfl⟩ := hlater
      have hsrc := (hin (i + 1) (by omega)).1
      have hne0 := hne 0 (i + 1) (by omega) (by omega)
      simp only [Nat.cast_zero, mul_zero, add_zero] at hne0
      rw [if_pos ⟨i, hi, rfl⟩, if_pos ⟨i + 1, by omega, by rw [← hsh]⟩,
        getRowByOffset_scrollRowStep_of_mem _ hd0 ⟨hz0, hzh⟩,
        if_neg (by rw [hsh]; exact hne0.2),
        getRowByOffset_scrollRowStep_of_mem _ hd0 (by rw [hsh]; simpa using hsrc),
        if_neg (by rw [hsh]; simpa using hne0.1)]
    · rw [if_neg hlater, getRowByOffset_scrollRowStep_of_mem _ hd0 ⟨hz0, hzh⟩]
      by_cases hz : z = y + delta
      · rw [if_pos hz, if_pos ⟨0, by omega, by simpa using hz⟩, hz, add_sub_cancel_right]
      · rw [if_neg hz, if_neg]
        rintro ⟨i, hi, rfl⟩
        cases i with
        | zero => simp at hz
        | succ i => exact hlater ⟨i, by omega, by rw [hsh]⟩

/-! ### `ScrollRows` -/

/-- **`ScrollRows` is a `memmove` of rows.**  For every buffer, every band
`[firstRow, firstRow + size)` and every `delta ≠ 0` that keep the band and its image among
the rows of the buffer: each row `y + delta` of the image reads as `CopyFrom` of row `y` as
it was before the call, over row `y + delta` as it was before the call, and every other row
reads as before, whatever the overlap of the band and its image and whichever way it moves. -/
theorem scrollRows_copies {firstRow size delta : Int} (hsize : 0 ≤ size) (hdelta : delta ≠ 0)
    (hsrc : 0 ≤ firstRow ∧ firstRow + size ≤ b.height)
    (hdst : 0 ≤ firstRow + delta ∧ firstRow + size + delta ≤ b.height) :
    (∀ y, firstRow ≤ y → y < firstRow + size →
      (b.scrollRows firstRow size delta).getRowByOffset (y + delta) =
        (b.getRowByOffset (y + delta)).copyFrom (b.getRowByOffset y)) ∧
    ∀ z : Int, 0 ≤ z → z < b.height → (z < firstRow + delta ∨ firstRow + size + delta ≤ z) →
      (b.scrollRows firstRow size delta).getRowByOffset z = b.getRowByOffset z := by
  have hmax : max 0 size = size := max_eq_right hsize
  unfold scrollRows
  simp only [if_neg hdelta, hmax]
  split
  · -- upward: the copies run from the top of the band down
    have hl := getRowByOffset_scrollLoop delta 1 size.toNat b firstRow
      (fun i hi => by simp only [one_mul]; omega) (fun i j hij hj => by simp only [one_mul]; omega)
    refine ⟨fun y h1 h2 => ?_, fun z hz0 hzh hz => ?_⟩
    · rw [hl _ (by omega) (by omega), if_pos ⟨(y - firstRow).toNat, by omega, by
        simp only [one_mul]; omega⟩, add_sub_cancel_right]
    · rw [hl _ hz0 hzh, if_neg]
      rintro ⟨i, hi, rfl⟩
      simp only [one_mul] at hz
      omega
  · -- downward: the copies run from the bottom of the band up
    have hl := getRowByOffset_scrollLoop delta (-1) size.toNat b (firstRow + size - 1)
      (fun i hi => by simp only [neg_one_mul]; omega)
      (fun i j hij hj => by simp only [neg_one_mul]; omega)
    refine ⟨fun y h1 h2 => ?_, fun z hz0 hzh hz => ?_⟩
    · rw [hl _ (by omega) (by omega), if_pos ⟨(firstRow + size - 1 - y).toNat, by omega, by
        simp only [neg_one_mul]; omega⟩, add_sub_cancel_right]
    · rw [hl _ hz0 hzh, if_neg]
      rintro ⟨i, hi, rfl⟩
      simp only [neg_one_mul] at hz
      omega

/-- A buffer two columns wide and three rows high in which a wide glyph written at the end of
row `1` padded that row. -/
def paddedRowBuffer : TextBuffer :=
  (((create ⟨2, 3⟩ {} 1 false 0 0).get (by decide)).setCursorPosition ⟨1, 1⟩).insertCharacter
    [0x4E00] .leading {}

theorem scrollRows_copies_paddedRowBuffer :
    (0 : Int) ≤ 1 ∧ (-1 : Int) ≠ 0 ∧ ((0 : Int) ≤ 1 ∧ (1 : Int) + 1 ≤ paddedRowBuffer.height) ∧
      ((0 : Int) ≤ 1 + -1 ∧ (1 : Int) + 1 + -1 ≤ paddedRowBuffer.height) ∧
      ((∀ y, 1 ≤ y → y < 1 + 1 →
        (paddedRowBuffer.scrollRows 1 1 (-1)).getRowByOffset (y + -1) =
          (paddedRowBuffer.getRowByOffset (y + -1)).copyFrom (paddedRowBuffer.getRowByOffset y)) ∧
      ∀ z : Int, 0 ≤ z → z < paddedRowBuffer.height → (z < 1 + -1 ∨ 1 + 1 + -1 ≤ z) →
        (paddedRowBuffer.scrollRows 1 1 (-1)).getRowByOffset z = paddedRowBuffer.getRowByOffset z) :=
  have h1 : (0 : Int) ≤ 1 := by decide
  have h2 : (-1 : Int) ≠ 0 := by decide
  have h3 : (0 : Int) ≤ 1 ∧ (1 : Int) + 1 ≤ paddedRowBuffer.height := by decide
  have h4 : (0 : Int) ≤ 1 + -1 ∧ (1 : Int) + 1 + -1 ≤ paddedRowBuffer.height := by decide
  ⟨h1, h2, h3, h4, scrollRows_copies paddedRowBuffer h1 h2 h3 h4⟩

/-- **`CopyFrom` does not carry the padding flag.**  In `paddedRowBuffer`, which the
constructor and two operations reach, scrolling the padded row `1` up by one leaves row `0`
without the flag row `1` had, so row `0` does not hold exactly what row `1` held. -/
theorem scrollRows_keeps_padding :
    Reachable paddedRowBuffer ∧ (paddedRowBuffer.getRowByOffset 1).doubleBytePadded = true ∧
      (paddedRowBuffer.scrollRows 1 1 (-1)).getRowByOffset (1 + -1) ≠
        paddedRowBuffer.getRowByOffset 1 :=
  ⟨.step (.step (.create (Option.some_get _).symm) (.setCursorPosition _) rfl)
      (.insertCharacter [0x4E00] .leading {}) rfl, by decide, by decide⟩

end TextBuffer

/-! ### `ScrollMarks` -/

namespace ScrollMark

variable (m : ScrollMark) (delta : Int)

@[simp] theorem scroll_start : (m.scroll delta).start = ⟨m.start.x, m.start.y + delta⟩ := rfl

@[simp] theorem scroll_end : (m.scroll delta).«end» = m.«end» := rfl

@[simp] theorem scroll_commandEnd :
    (m.scroll delta).commandEnd = m.commandEnd.map fun p => ⟨p.x, p.y + delta⟩ := rfl

@[simp] theorem scroll_outputEnd :
    (m.scroll delta).outputEnd = m.outputEnd.map fun p => ⟨p.x, p.y + delta⟩ := rfl

@[simp] theorem scroll_category : (m.scroll delta).category = m.category := rfl

theorem scroll_scroll (c : Int) : (m.scroll delta).scroll c = m.scroll (delta + c) := by
  cases m
  simp only [scroll, Option.map_map, Function.comp_def, add_assoc]

end ScrollMark

namespace TextBuffer

variable (b : TextBuffer)

/-- **What `ScrollMarks` does.**  It keeps, in their order, exactly the marks whose start moved
by `delta` is a row of the buffer, and moves each one's start, command end and output end by
`delta` rows; nothing else of the buffer changes.  Two scrolls are one whenever the first
drops no mark. -/
theorem scrollMarks_spec (delta : Int) :
    b.scrollMarks delta = { b with marks := (b.marks.filter fun m =>
        0 ≤ m.start.y + delta ∧ m.start.y + delta < b.height).map (·.scroll delta) } ∧
      ∀ c, (∀ m ∈ b.marks, 0 ≤ m.start.y + delta ∧ m.start.y + delta < b.height) →
        (b.scrollMarks delta).scrollMarks c = b.scrollMarks (delta + c) := by
  have hkeep : ∀ (c : Int) (ms : List ScrollMark), (ms.map (·.scroll c)).filter
      (fun m => ¬ (m.start.y < 0 ∨ m.start.y ≥ (b.height : Int))) =
      (ms.filter fun m => 0 ≤ m.start.y + c ∧ m.start.y + c < b.height).map (·.scroll c) := by
    intro c ms
    rw [List.filter_map]
    congr 2
    funext m
    simp only [Function.comp_apply, ScrollMark.scroll_start, not_or, not_lt, not_le]
  refine ⟨by rw [scrollMarks, trimMarksOutsideBuffer, hkeep], fun c hall => ?_⟩
  -- the first scroll drops nothing, so the two moves compose mark by mark
  have hid : b.marks.filter (fun m => 0 ≤ m.start.y + delta ∧ m.start.y + delta < b.height) =
      b.marks := List.filter_eq_self.2 fun m hm => by simpa using hall m hm
  simp only [scrollMarks, trimMarksOutsideBuffer, hkeep]
  congr 1
  rw [hid, List.filter_map, List.map_map]
  congr 1
  · funext m
    exact m.scroll_scroll delta c
  · congr 1
    funext m
    simp only [Function.comp_apply, ScrollMark.scroll_start, add_assoc]

/-- **`CurrentCommand` after `ScrollMarks` reads the row the prompt's end was on.**  When the
current prompt's mark survives a scroll by `delta`, its start moves by `delta` rows but its
`end` stays, and `CurrentCommand` reads the row of that unmoved `end`. -/
theorem currentCommand_scrollMarks {delta : Int} {m : ScrollMark}
    (hlast : b.marks.getLast? = some m)
    (hkept : 0 ≤ m.start.y + delta ∧ m.start.y + delta < b.height) :
    (b.scrollMarks delta).marks.getLast? = some (m.scroll delta) ∧
      (m.scroll delta).start.y = m.start.y + delta ∧ (m.scroll delta).«end» = m.«end» ∧
      (b.scrollMarks delta).currentCommand =
        (b.getRowByOffset m.«end».y).getText m.«end».x b.cursor.position.x := by
  obtain ⟨l, hl⟩ : ∃ l, b.marks = l ++ [m] :=
    ⟨b.marks.dropLast, (List.dropLast_append_getLast? _ hlast).symm⟩
  have hmarks : (b.scrollMarks delta).marks.getLast? = some (m.scroll delta) := by
    rw [(b.scrollMarks_spec delta).1, hl, List.filter_append, List.map_append]
    simp only [List.filter_cons, List.filter_nil, hkept, and_self, decide_True, if_true,
      List.map_cons, List.map_nil, List.getLast?_concat]
  refine ⟨hmarks, rfl, rfl, ?_⟩
  rw [currentCommand, hmarks]
  rfl

/-- A mark for a prompt written on row `1`, its end at the row's start. -/
def promptMark : ScrollMark := ⟨⟨0, 1⟩, ⟨0, 1⟩, none, none, .prompt⟩

/-- A buffer three columns wide and two rows high with `xyz` written on row `0`, `ab` on
row `1` and `promptMark` made the current prompt. -/
def markedRowsBuffer : TextBuffer :=
  ((((((((create ⟨3, 2⟩ {} 1 false 0 0).get (by decide)).insertCharacter [0x78] .single
    {}).insertCharacter [0x79] .single {}).insertCharacter [0x7A] .single {}).insertCharacter
    [0x61] .single {}).insertCharacter [0x62] .single {}).startPromptMark promptMark)

theorem currentCommand_scrollMarks_markedRowsBuffer :
    Reachable markedRowsBuffer ∧ markedRowsBuffer.marks.getLast? = some promptMark ∧
      (0 ≤ promptMark.start.y + -1 ∧ promptMark.start.y + -1 < markedRowsBuffer.height) ∧
      ((markedRowsBuffer.scrollMarks (-1)).marks.getLast? = some (promptMark.scroll (-1)) ∧
        (promptMark.scroll (-1)).start.y = promptMark.start.y + -1 ∧
        (promptMark.scroll (-1)).«end» = promptMark.«end» ∧
        (markedRowsBuffer.scrollMarks (-1)).currentCommand =
          (markedRowsBuffer.getRowByOffset promptMark.«end».y).getText promptMark.«end».x
            markedRowsBuffer.cursor.position.x) ∧
      (markedRowsBuffer.scrollMarks (-1)).currentCommand = [0x61, 0x62] ∧
      (markedRowsBuffer.getRowByOffset (promptMark.«end».y + -1)).getText promptMark.«end».x
        markedRowsBuffer.cursor.position.x = [0x78, 0x79] :=
  have hlast : markedRowsBuffer.marks.getLast? = some promptMark := by decide
  have hkept : 0 ≤ promptMark.start.y + -1 ∧ promptMark.start.y + -1 < markedRowsBuffer.height := by
    decide
  ⟨.step (.step (.step (.step (.step (.step (.create (Option.some_get _).symm)
      (.insertCharacter _ _ _) rfl) (.insertCharacter _ _ _) rfl) (.insertCharacter _ _ _) rfl)
      (.insertCharacter _ _ _) rfl) (.insertCharacter _ _ _) rfl) (.startPromptMark _) rfl,
    hlast, hkept, markedRowsBuffer.currentCommand_scrollMarks hlast hkept, by decide, by decide⟩

end TextBuffer

end TerminalBuffer
