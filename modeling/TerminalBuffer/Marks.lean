/-
Scroll marks and the rows they start on.

`_marks` is an ordered list.  `StartPromptMark` appends the new current prompt, `AddMark`
puts a mark from the UI in front, and `SetCurrentPromptEnd`, `SetCurrentCommandEnd` and
`SetCurrentOutputEnd` change the last mark only, which is one operation with three
different updates (`modifyCurrentMark`).  `ScrollMarks(delta)` moves every mark by
`delta` rows and then drops those whose start left `[0, _height)`
(`_trimMarksOutsideBuffer`); `Reflow` copies the marks into the new buffer and drops the
same ones; `ClearMarksInRange` only ever drops marks.

`MarksInBounds` says every mark starts on a row of the buffer.  The two operations that
trim make it hold whatever the marks were before, the ones that drop marks or change the
last mark's ends keep it, and the two that add a mark keep it when that mark starts on a
row.  `ResizeTraditional` is the exception: it takes the marks over as they are and never
trims them, so the marks keep their bounds exactly when they all start above the new
bottom (`marksInBounds_resizeTraditional_iff`).
-/
import TerminalBuffer.Reflow
import TerminalBuffer.Resize

namespace TerminalBuffer

/-- One mark moved by `delta` rows, with the sub-regions it has; its `end` stays. -/
def ScrollMark.scroll (delta : Int) (m : ScrollMark) : ScrollMark :=
  { m with start := { m.start with y := m.start.y + delta },
           commandEnd := m.commandEnd.map fun p => { p with y := p.y + delta },
           outputEnd := m.outputEnd.map fun p => { p with y := p.y + delta } }

namespace TextBuffer

variable (b : TextBuffer)

/-- `ClearMarksInRange(start, end)`: drops every mark whose start or end lies in
`[start, end]`. -/
def clearMarksInRange (start «end» : Point) : TextBuffer :=
  { b with marks := b.marks.filter fun m =>
      ¬ ((m.start ≥ start ∧ m.start ≤ «end») ∨ (m.«end» ≥ start ∧ m.«end» ≤ «end»)) }

/-- `ClearAllMarks()`. -/
def clearAllMarks : TextBuffer := { b with marks := [] }

/-- `ScrollMarks(delta)`. -/
def scrollMarks (delta : Int) : TextBuffer :=
  trimMarksOutsideBuffer { b with marks := b.marks.map (·.scroll delta) }

/-- `StartPromptMark(m)`: the new mark is the current prompt. -/
def startPromptMark (m : ScrollMark) : TextBuffer := { b with marks := b.marks ++ [m] }

/-- `AddMark(m)`: a mark from the UI, in front of the others. -/
def addMark (m : ScrollMark) : TextBuffer := { b with marks := m :: b.marks }

/-- The last mark, the current prompt, changed by `f`; nothing without marks. -/
def modifyCurrentMark (f : ScrollMark → ScrollMark) : TextBuffer :=
  match b.marks.getLast? with
  | none => b
  | some curr => { b with marks := b.marks.dropLast ++ [f curr] }

/-- `SetCurrentPromptEnd(pos)`. -/
def setCurrentPromptEnd (pos : Point) : TextBuffer :=
  b.modifyCurrentMark fun curr => { curr with «end» := pos }

/-- `SetCurrentCommandEnd(pos)`. -/
def setCurrentCommandEnd (pos : Point) : TextBuffer :=
  b.modifyCurrentMark fun curr => { curr with commandEnd := some pos }

/-- `SetCurrentOutputEnd(pos, category)`. -/
def setCurrentOutputEnd (pos : Point) (category : MarkCategory) : TextBuffer :=
  b.modifyCurrentMark fun curr => { curr with outputEnd := some pos, category }

/-- `CurrentCommand()`: the text of the current prompt's row from the prompt's `end` to the
cursor's column, nothing without marks. -/
def currentCommand : List UInt16 :=
  match b.marks.getLast? with
  | none => []
  | some curr => (b.getRowByOffset curr.«end».y).getText curr.«end».x b.cursor.position.x

/-- Every mark starts on a row of the buffer. -/
def MarksInBounds : Prop := ∀ m ∈ b.marks, 0 ≤ m.start.y ∧ m.start.y < b.height

instance : Decidable b.MarksInBounds := inferInstanceAs (Decidable (∀ m ∈ b.marks, _))

variable {b}

/-- What the bound needs of a step: the height stays and every mark afterwards starts
where some mark started before. -/
theorem MarksInBounds.of_starts {b' : TextBuffer} (h : b.MarksInBounds) (hh : b'.height = b.height)
    (hm : ∀ m ∈ b'.marks, ∃ m₀ ∈ b.marks, m.start = m₀.start) : b'.MarksInBounds := by
  intro m hm'
  obtain ⟨m₀, hm₀, hs⟩ := hm m hm'
  rw [hh, hs]
  exact h m₀ hm₀

/-! ### Trimming -/

variable (b)

theorem marksInBounds_trimMarksOutsideBuffer : b.trimMarksOutsideBuffer.MarksInBounds := by
  intro m hm
  simp only [trimMarksOutsideBuffer, List.mem_filter, decide_eq_true_eq] at hm
  show 0 ≤ m.start.y ∧ m.start.y < b.height
  omega

theorem marksInBounds_scrollMarks (delta : Int) : (b.scrollMarks delta).MarksInBounds :=
  marksInBounds_trimMarksOutsideBuffer _

/-- `Reflow` trims the marks it copies, whatever they were. -/
theorem marksInBounds_reflow (newBuffer : TextBuffer) (lastCharacterViewport : Option Viewport)
    (positionInfo : Option PositionInformation) :
    (reflow b newBuffer lastCharacterViewport positionInfo).2.1.MarksInBounds :=
  marksInBounds_trimMarksOutsideBuffer _

variable {b}

/-! ### Dropping, changing and adding marks -/

theorem MarksInBounds.clearMarksInRange (h : b.MarksInBounds) (start «end» : Point) :
    (b.clearMarksInRange start «end»).MarksInBounds :=
  h.of_starts rfl fun m hm => ⟨m, List.mem_of_mem_filter hm, rfl⟩

theorem MarksInBounds.modifyCurrentMark (h : b.MarksInBounds) {f : ScrollMark → ScrollMark}
    (hf : ∀ m, (f m).start = m.start) : (b.modifyCurrentMark f).MarksInBounds := by
  unfold TextBuffer.modifyCurrentMark
  split
  · exact h
  · rename_i curr hcurr
    refine h.of_starts rfl fun m hm => ?_
    rcases List.mem_append.1 hm with hm | hm
    · exact ⟨m, List.dropLast_subset _ hm, rfl⟩
    · rw [List.mem_singleton.1 hm]
      exact ⟨curr, List.mem_of_getLast?_eq_some hcurr, hf curr⟩

theorem MarksInBounds.setCurrentPromptEnd (h : b.MarksInBounds) (pos : Point) :
    (b.setCurrentPromptEnd pos).MarksInBounds :=
  h.modifyCurrentMark fun _ => rfl

theorem MarksInBounds.setCurrentCommandEnd (h : b.MarksInBounds) (pos : Point) :
    (b.setCurrentCommandEnd pos).MarksInBounds :=
  h.modifyCurrentMark fun _ => rfl

theorem MarksInBounds.setCurrentOutputEnd (h : b.MarksInBounds) (pos : Point)
    (category : MarkCategory) : (b.setCurrentOutputEnd pos category).MarksInBounds :=
  h.modifyCurrentMark fun _ => rfl

theorem MarksInBounds.startPromptMark (h : b.MarksInBounds) {m : ScrollMark}
    (hm : 0 ≤ m.start.y ∧ m.start.y < b.height) : (b.startPromptMark m).MarksInBounds := by
  intro m' hm'
  rcases List.mem_append.1 hm' with hm' | hm'
  · exact h m' hm'
  · rw [List.mem_singleton.1 hm']; exact hm

theorem MarksInBounds.addMark (h : b.MarksInBounds) {m : ScrollMark}
    (hm : 0 ≤ m.start.y ∧ m.start.y < b.height) : (b.addMark m).MarksInBounds := by
  intro m' hm'
  rcases List.mem_cons.1 hm' with rfl | hm'
  · exact hm
  · exact h m' hm'

/-! ### The resize that does not trim -/

/-- `ResizeTraditional` keeps the marks and changes the height, so they keep their bounds
exactly when they all start above the new bottom. -/
theorem marksInBounds_resizeTraditional_iff (h : b.MarksInBounds) {newSize : Size}
    {b' : TextBuffer} (hb : b.resizeTraditional newSize = some b') :
    b'.MarksInBounds ↔ ∀ m ∈ b.marks, m.start.y < b'.height := by
  simp only [resizeTraditional, Option.map_eq_some'] at hb
  obtain ⟨_, _, rfl⟩ := hb
  exact ⟨fun h' m hm => (h' m hm).2, fun h' m hm => ⟨(h m hm).1, h' m hm⟩⟩

/-! ### The operations together -/

/-- **Every operation that moves, drops, changes or adds marks keeps them on the rows**, the
two that add a mark when it starts on a row. -/
theorem markOps_keep_marksInBounds (h : b.MarksInBounds) {m : ScrollMark}
    (hm : 0 ≤ m.start.y ∧ m.start.y < b.height) :
    (∀ delta, (b.scrollMarks delta).MarksInBounds) ∧
      (∀ newBuffer lastCharacterViewport positionInfo,
        (reflow b newBuffer lastCharacterViewport positionInfo).2.1.MarksInBounds) ∧
      (∀ start «end», (b.clearMarksInRange start «end»).MarksInBounds) ∧
      (∀ pos, (b.setCurrentPromptEnd pos).MarksInBounds) ∧
      (∀ pos, (b.setCurrentCommandEnd pos).MarksInBounds) ∧
      (∀ pos category, (b.setCurrentOutputEnd pos category).MarksInBounds) ∧
      (b.startPromptMark m).MarksInBounds ∧ (b.addMark m).MarksInBounds :=
  ⟨b.marksInBounds_scrollMarks, b.marksInBounds_reflow, h.clearMarksInRange,
    h.setCurrentPromptEnd, h.setCurrentCommandEnd, h.setCurrentOutputEnd, h.startPromptMark hm,
    h.addMark hm⟩

/-- A prompt mark that starts and ends at the start of row `y`. -/
def promptAt (y : Int) : ScrollMark := ⟨⟨0, y⟩, ⟨0, y⟩, none, none, .prompt⟩

/-- A two-by-two buffer with a prompt mark on its second row. -/
def markedBuffer : TextBuffer :=
  ((create ⟨2, 2⟩ {} 1 false 0 0).get (by decide)).startPromptMark (promptAt 1)

theorem markOps_keep_marksInBounds_markedBuffer :
    markedBuffer.MarksInBounds ∧ (0 ≤ (promptAt 0).start.y ∧ (promptAt 0).start.y < markedBuffer.height) ∧
      (∀ delta, (markedBuffer.scrollMarks delta).MarksInBounds) ∧
      (∀ newBuffer lastCharacterViewport positionInfo,
        (reflow markedBuffer newBuffer lastCharacterViewport positionInfo).2.1.MarksInBounds) ∧
      (∀ start «end», (markedBuffer.clearMarksInRange start «end»).MarksInBounds) ∧
      (∀ pos, (markedBuffer.setCurrentPromptEnd pos).MarksInBounds) ∧
      (∀ pos, (markedBuffer.setCurrentCommandEnd pos).MarksInBounds) ∧
      (∀ pos category, (markedBuffer.setCurrentOutputEnd pos category).MarksInBounds) ∧
      (markedBuffer.startPromptMark (promptAt 0)).MarksInBounds ∧
      (markedBuffer.addMark (promptAt 0)).MarksInBounds :=
  have h : markedBuffer.MarksInBounds := by decide
  have hm : 0 ≤ (promptAt 0).start.y ∧ (promptAt 0).start.y < markedBuffer.height := by decide
  ⟨h, hm, markOps_keep_marksInBounds h hm⟩

end TextBuffer

end TerminalBuffer
