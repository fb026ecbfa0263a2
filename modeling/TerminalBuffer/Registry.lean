/-
The ids `GetHyperlinkId` hands out.

A call without a custom id hands out `_currentHyperlinkId` and increments it.  A call with
one files the counter under the key `id + L"%" + to_wstring(til::hash(uri))` unless the key
is already filed, and hands out what the key is filed under.  After either, a counter that
wrapped to `0` is incremented once more.

Two facts are proved of it.

  * No call hands out `0` and the counter is never `0`, however many calls are made, from
    every buffer the operations reach (`IdsNonzero`).  Every other operation keeps the
    counter and at most removes custom ids (`RegistryShrinks`), `Reflow` included, which
    takes both over from the old buffer.
  * While the counter has not wrapped, the ids filed under custom ids are distinct and below
    the counter (`IdsFresh`), and then two calls hand out the same id exactly when they pass
    the same custom id, not empty, for URIs of the same hash.  The key is injective because
    the decimal digits after the last `%` hold no `%`, whatever the custom id holds
    (`customIdKey_inj`).

Freshness is a property of the buffer's history and not of the counter alone: once the
counter has wrapped, the ids filed before are at and above it again, and a call without a
custom id can hand out one of them (`getHyperlinkIds_collide_after_wrap`).
-/
import TerminalBuffer.Invariants
import TerminalBuffer.Export.Html

namespace TerminalBuffer

open Export

/-! ### The key -/

/-- A decimal number has no `%` in it. -/
theorem percent_not_mem_toString (n : Nat) : '%' ∉ (toString n).data := fun h => by
  have := mem_toString_digit (n := n) (b := '%'.toNat.toUInt8) (List.mem_map_of_mem _ h)
  revert this
  decide

/-- A list is cut at the first `a` into the part before it and the part after it. -/
theorem append_cons_cancel {α : Type} [DecidableEq α] {x₁ x₂ z₁ z₂ : List α} {a : α}
    (h₁ : a ∉ x₁) (h₂ : a ∉ x₂) (h : x₁ ++ a :: z₁ = x₂ ++ a :: z₂) : x₁ = x₂ ∧ z₁ = z₂ := by
  have ht : ∀ {x z : List α}, a ∉ x → (x ++ a :: z).takeWhile (· != a) = x ∧
      (x ++ a :: z).dropWhile (· != a) = a :: z := by
    intro x z hx
    have hx' : ∀ c ∈ x, (c != a) = true := fun c hc => by
      simpa using fun e : c = a => hx (e ▸ hc)
    simp [List.takeWhile_append_of_pos hx', List.dropWhile_append_of_pos hx']
  obtain ⟨t₁, d₁⟩ := ht (z := z₁) h₁
  obtain ⟨t₂, d₂⟩ := ht (z := z₂) h₂
  rw [h] at t₁ d₁
  exact ⟨t₁.symm.trans t₂, (List.cons.inj (d₁.symm.trans d₂)).2⟩

namespace TextBuffer

/-- The key of a custom id determines the custom id and the hash: read from the end, the
key is the hash's digits, then the `%` the digits never hold, then the custom id. -/
theorem customIdKey_inj {id₁ id₂ : String} {h₁ h₂ : UInt64} :
    customIdKey id₁ h₁ = customIdKey id₂ h₂ ↔ id₁ = id₂ ∧ h₁ = h₂ := by
  refine ⟨fun h => ?_, fun ⟨e₁, e₂⟩ => e₁ ▸ e₂ ▸ rfl⟩
  have hd := congrArg (fun s : String => s.data.reverse) h
  simp only [customIdKey, String.data_append, List.reverse_append] at hd
  obtain ⟨hn, hi⟩ := append_cons_cancel (percent_not_mem_toString _ ∘ List.mem_reverse.1)
    (percent_not_mem_toString _ ∘ List.mem_reverse.1) hd
  refine ⟨String.ext (List.reverse_inj.1 hi), UInt64.toNat.inj ?_⟩
  rw [← decimal_toString h₁.toNat, ← decimal_toString h₂.toNat, ascii, ascii, String.toList,
    String.toList, List.reverse_inj.1 hn]

/-! ### One call -/

/-- The counter after an id is handed out: `++_currentHyperlinkId`, and once more if that
wrapped it to `0`. -/
def nextHyperlinkId (c : UInt16) : UInt16 := if c + 1 = 0 then 1 else c + 1

theorem nextHyperlinkId_ne_zero (c : UInt16) : nextHyperlinkId c ≠ 0 := by
  unfold nextHyperlinkId
  split
  · decide
  · assumption

theorem toNat_nextHyperlinkId {c : UInt16} (h : c.toNat < 65535) :
    (nextHyperlinkId c).toNat = c.toNat + 1 := by
  have hc : (c + 1).toNat = c.toNat + 1 := by
    show (c.toBitVec + 1#16).toNat = _
    rw [BitVec.toNat_add]
    show (c.toNat + 1) % 65536 = _
    omega
  rw [nextHyperlinkId, if_neg fun e => by rw [e] at hc; simp at hc, hc]

/-- The counter goes up exactly when it does not wrap, that is below `65535`. -/
theorem le_toNat_nextHyperlinkId_iff (c : UInt16) :
    c.toNat ≤ (nextHyperlinkId c).toNat ↔ c.toNat < 65535 := by
  refine ⟨fun h => ?_, fun h => by rw [toNat_nextHyperlinkId h]; omega⟩
  by_contra hc
  have hlt : c.toNat < 65536 := c.toNat_lt_size
  obtain rfl : c = 65535 := UInt16.toNat.inj (by show c.toNat = 65535; omega)
  revert h
  decide

variable (b : TextBuffer) (hash : String → UInt64) (uri : String)

/-- A call without a custom id hands out the counter. -/
theorem getHyperlinkId_anonymous :
    b.getHyperlinkId hash uri "" =
      ({ b with currentHyperlinkId := nextHyperlinkId b.currentHyperlinkId }, b.currentHyperlinkId) := by
  simp only [getHyperlinkId, show "".isEmpty = true from rfl, if_true, nextHyperlinkId]
  split <;> rfl

variable {b hash uri} {id : String}

theorem isEmpty_eq_false (hid : id ≠ "") : id.isEmpty = false :=
  Bool.eq_false_iff.2 fun h => hid ((String.isEmpty_iff _).1 h)

/-- A call whose key is filed hands out what it is filed under and changes nothing. -/
theorem getHyperlinkId_of_lookup_some (hc : b.currentHyperlinkId ≠ 0) (hid : id ≠ "") {v : UInt16}
    (hl : b.hyperlinkCustomIdMap.lookup (customIdKey id (hash uri)) = some v) :
    b.getHyperlinkId hash uri id = (b, v) := by
  simp only [getHyperlinkId, isEmpty_eq_false hid, hl, Bool.false_eq_true, if_false, if_neg hc]

/-- A call whose key is not filed files the counter under it and hands it out. -/
theorem getHyperlinkId_of_lookup_none (hid : id ≠ "")
    (hl : b.hyperlinkCustomIdMap.lookup (customIdKey id (hash uri)) = none) :
    b.getHyperlinkId hash uri id =
      ({ b with hyperlinkCustomIdMap :=
          b.hyperlinkCustomIdMap ++ [(customIdKey id (hash uri), b.currentHyperlinkId)],
                currentHyperlinkId := nextHyperlinkId b.currentHyperlinkId },
        b.currentHyperlinkId) := by
  simp only [getHyperlinkId, isEmpty_eq_false hid, hl, Bool.false_eq_true, if_false, nextHyperlinkId]
  split <;> rfl

/-- What one call does, for a nonzero counter: the three cases above. -/
theorem getHyperlinkId_cases (hc : b.currentHyperlinkId ≠ 0) :
    (id = "" ∧ b.getHyperlinkId hash uri id =
        ({ b with currentHyperlinkId := nextHyperlinkId b.currentHyperlinkId }, b.currentHyperlinkId)) ∨
      (id ≠ "" ∧ ∃ v, b.hyperlinkCustomIdMap.lookup (customIdKey id (hash uri)) = some v ∧
        b.getHyperlinkId hash uri id = (b, v)) ∨
      (id ≠ "" ∧ b.hyperlinkCustomIdMap.lookup (customIdKey id (hash uri)) = none ∧
        b.getHyperlinkId hash uri id =
          ({ b with hyperlinkCustomIdMap :=
              b.hyperlinkCustomIdMap ++ [(customIdKey id (hash uri), b.currentHyperlinkId)],
                    currentHyperlinkId := nextHyperlinkId b.currentHyperlinkId },
            b.currentHyperlinkId)) := by
  by_cases hid : id = ""
  · subst hid
    exact .inl ⟨rfl, getHyperlinkId_anonymous b hash uri⟩
  · cases hl : b.hyperlinkCustomIdMap.lookup (customIdKey id (hash uri)) with
    | some v => exact .inr (.inl ⟨hid, v, rfl, getHyperlinkId_of_lookup_some hc hid hl⟩)
    | none => exact .inr (.inr ⟨hid, rfl, getHyperlinkId_of_lookup_none hid hl⟩)

theorem mem_of_lookup_eq_some {l : List (String × UInt16)} {k : String} {v : UInt16}
    (h : l.lookup k = some v) : (k, v) ∈ l := by
  obtain ⟨l₁, l₂, rfl, -⟩ := List.lookup_eq_some_iff.1 h
  simp

/-! ### What the other operations do to the registry -/

/-- `b'` has `b`'s counter and files a sublist of `b`'s custom ids. -/
structure RegistryShrinks (b b' : TextBuffer) : Prop where
  counter : b'.currentHyperlinkId = b.currentHyperlinkId
  filed : List.Sublist b'.hyperlinkCustomIdMap b.hyperlinkCustomIdMap

variable (b)

theorem RegistryShrinks.refl : RegistryShrinks b b := ⟨rfl, .refl _⟩

theorem RegistryShrinks.trans {b₁ b₂ b₃ : TextBuffer} (h₁ : RegistryShrinks b₁ b₂)
    (h₂ : RegistryShrinks b₂ b₃) : RegistryShrinks b₁ b₃ :=
  ⟨h₂.counter.trans h₁.counter, h₂.filed.trans h₁.filed⟩

theorem registryShrinks_touch (y : Int) : RegistryShrinks b (b.touch y) := ⟨rfl, .refl _⟩

theorem registryShrinks_setCursorPosition (p : Point) : RegistryShrinks b (b.setCursorPosition p) :=
  ⟨rfl, .refl _⟩

theorem registryShrinks_updateRow (y : Int) (f : Row → Row) : RegistryShrinks b (b.updateRow y f) :=
  ⟨rfl, .refl _⟩

theorem registryShrinks_getMutableRowByOffset (y : Int) :
    RegistryShrinks b (b.getMutableRowByOffset y) :=
  ⟨rfl, .refl _⟩

theorem registryShrinks_modifyRow (y : Int) (f : Row → Row) : RegistryShrinks b (b.modifyRow y f) :=
  ⟨rfl, .refl _⟩

/-- `RemoveHyperlinkFromMap` erases at most one entry. -/
theorem eraseFirstWithValue_sublist (id : UInt16) :
    ∀ l : List (String × UInt16), List.Sublist (eraseFirstWithValue l id) l
  | [] => .slnil
  | p :: l => by
    unfold eraseFirstWithValue
    split
    · exact .cons _ (.refl _)
    · exact (eraseFirstWithValue_sublist id l).cons₂ _

theorem registryShrinks_foldl_remove (ids : List UInt16) :
    ∀ b : TextBuffer, RegistryShrinks b (ids.foldl removeHyperlinkFromMap b) := by
  induction ids with
  | nil => exact RegistryShrinks.refl
  | cons id ids ih =>
    exact fun b => (show RegistryShrinks b (b.removeHyperlinkFromMap id) from
      ⟨rfl, eraseFirstWithValue_sublist id _⟩).trans (ih _)

theorem registryShrinks_pruneScan (total : Int) :
    ∀ fuel (b : TextBuffer) i refs, RegistryShrinks b (pruneScan total fuel b i refs).1 := by
  intro fuel
  induction fuel with
  | zero => exact fun b _ _ => .refl b
  | succ fuel ih =>
    intro b i refs
    unfold pruneScan
    split
    · dsimp only
      split
      · exact b.registryShrinks_touch i
      · exact (b.registryShrinks_touch i).trans (ih _ _ _)
    · exact .refl b

theorem registryShrinks_pruneHyperlinks : RegistryShrinks b b.pruneHyperlinks := by
  unfold pruneHyperlinks
  dsimp only
  split
  · exact b.registryShrinks_touch 0
  · exact (b.registryShrinks_touch 0).trans
      ((registryShrinks_pruneScan _ _ _ _ _).trans (registryShrinks_foldl_remove _ _))

theorem registryShrinks_incrementCircularBuffer (fill : TextAttribute) :
    RegistryShrinks b (b.incrementCircularBuffer fill) := by
  have h := b.registryShrinks_pruneHyperlinks.trans (registryShrinks_modifyRow _ 0 (·.reset fill))
  unfold incrementCircularBuffer
  generalize b.pruneHyperlinks.modifyRow 0 (·.reset fill) = b' at h ⊢
  exact h.trans ⟨rfl, .refl _⟩

theorem registryShrinks_newlineCursor : RegistryShrinks b b.newlineCursor := by
  unfold newlineCursor
  dsimp only
  split
  · exact ((b.registryShrinks_setCursorPosition _).trans (registryShrinks_setCursorPosition _ _)).trans
      (registryShrinks_incrementCircularBuffer _ _)
  · exact b.registryShrinks_setCursorPosition _

theorem registryShrinks_incrementCursor : RegistryShrinks b b.incrementCursor := by
  have h := (b.registryShrinks_touch b.cursor.position.y).trans
    (registryShrinks_setCursorPosition _ ⟨b.cursor.position.x + 1, b.cursor.position.y⟩)
  unfold incrementCursor
  dsimp only
  split
  · exact h.trans ((registryShrinks_modifyRow _ _ _).trans (registryShrinks_newlineCursor _))
  · exact h

theorem registryShrinks_insertCharacter (chars : List UInt16) (d : DbcsAttribute)
    (attr : TextAttribute) : RegistryShrinks b (b.insertCharacter chars d attr) := by
  have hp : RegistryShrinks b (b.prepareForDoubleByteSequence d) := by
    unfold prepareForDoubleByteSequence
    split
    · dsimp only
      split
      · exact (b.registryShrinks_touch _).trans
          ((registryShrinks_modifyRow _ _ _).trans (registryShrinks_incrementCursor _))
      · exact b.registryShrinks_touch _
    · exact .refl b
  exact hp.trans ((registryShrinks_modifyRow _ _ _).trans (registryShrinks_incrementCursor _))

theorem registryShrinks_setCurrentLineRendition (lr : LineRendition) (fill : TextAttribute) :
    RegistryShrinks b (b.setCurrentLineRendition lr fill) := by
  have h1 := b.registryShrinks_getMutableRowByOffset b.cursor.position.y
  unfold setCurrentLineRendition
  dsimp only
  split
  · have h2 := h1.trans (registryShrinks_updateRow _ b.cursor.position.y
      fun r => { r with lineRendition := lr, wrapForced := false })
    split
    · exact h2.trans ((registryShrinks_updateRow _ _ _).trans (registryShrinks_setCursorPosition _ _))
    · exact h2
  · exact h1

theorem registryShrinks_scrollRowStep (y delta : Int) :
    RegistryShrinks b (b.scrollRowStep y delta) := by
  unfold scrollRowStep
  exact ((b.registryShrinks_getMutableRowByOffset (y + delta)).trans (registryShrinks_touch _ y)).trans
    (registryShrinks_updateRow _ _ _)

theorem registryShrinks_scrollLoop (delta step : Int) :
    ∀ n (b : TextBuffer) y, RegistryShrinks b (scrollLoop delta step n b y)
  | 0, b, _ => .refl b
  | n + 1, b, y => (b.registryShrinks_scrollRowStep y delta).trans
      (registryShrinks_scrollLoop delta step n _ _)

theorem registryShrinks_scrollRows (firstRow size delta : Int) :
    RegistryShrinks b (b.scrollRows firstRow size delta) := by
  unfold scrollRows
  split
  · exact .refl b
  · dsimp only
    split <;> exact registryShrinks_scrollLoop _ _ _ _ _

theorem registryShrinks_modifyCurrentMark (f : ScrollMark → ScrollMark) :
    RegistryShrinks b (b.modifyCurrentMark f) := by
  unfold modifyCurrentMark
  split <;> exact ⟨rfl, .refl _⟩

theorem registryShrinks_backUp (top : Int) :
    ∀ fuel (b : TextBuffer) x y, RegistryShrinks b (backUp top fuel b x y).1
  | 0, b, _, _ => .refl b
  | fuel + 1, b, x, y => by
    unfold backUp
    split
    · exact (b.registryShrinks_touch _).trans (registryShrinks_backUp top fuel _ _ _)
    · exact .refl b

theorem registryShrinks_getLastNonSpaceCharacter (v : Option Viewport) :
    RegistryShrinks b (b.getLastNonSpaceCharacter v).1 :=
  (b.registryShrinks_touch _).trans (registryShrinks_backUp _ _ _ _ _)

end TextBuffer

/-! The walk of `Reflow` reads the old buffer and writes only the new one. -/

namespace ReflowState

open TextBuffer

variable (s : ReflowState)

@[simp] theorem oldBuffer_wrapLine (newWidth : Int) : (s.wrapLine newWidth).oldBuffer = s.oldBuffer := by
  unfold wrapLine; split <;> rfl

@[simp] theorem oldBuffer_resetRevisited (newHeight : Int) :
    (s.resetRevisited newHeight).oldBuffer = s.oldBuffer := by
  unfold resetRevisited; split <;> rfl

@[simp] theorem oldBuffer_markViewportTops : s.markViewportTops.oldBuffer = s.oldBuffer := rfl

@[simp] theorem oldBuffer_storeRow (row : Row) : (s.storeRow row).oldBuffer = s.oldBuffer := rfl

@[simp] theorem oldBuffer_placeCursor (row : Row) (column : Int) :
    (s.placeCursor row column).oldBuffer = s.oldBuffer := rfl

section Walk

variable (oldCursorPos : Point) (newWidth newHeight : Int)

theorem oldBuffer_copyPass (oldRow : Row) (oldRowLimit oldX : Int) :
    (s.copyPass oldCursorPos newWidth newHeight oldRow oldRowLimit oldX).1.oldBuffer = s.oldBuffer := by
  unfold copyPass
  dsimp only
  split
  · exact s.oldBuffer_wrapLine newWidth
  · split <;> simp only [oldBuffer_markViewportTops, oldBuffer_placeCursor, oldBuffer_storeRow,
      oldBuffer_resetRevisited, oldBuffer_wrapLine]

theorem oldBuffer_copyRow (oldRow : Row) (oldRowLimit : Int) :
    ∀ fuel s oldX, (copyRow oldCursorPos newWidth newHeight oldRow oldRowLimit fuel s oldX).oldBuffer =
      s.oldBuffer
  | 0, _, _ => rfl
  | fuel + 1, s, oldX => by
    have h := s.oldBuffer_copyPass oldCursorPos newWidth newHeight oldRow oldRowLimit oldX
    unfold copyRow
    split
    · rename_i s' heq
      rw [heq] at h
      exact h
    · rename_i s' oldX' heq
      rw [heq] at h
      split
      · exact (oldBuffer_copyRow oldRow oldRowLimit fuel s' oldX').trans h
      · exact h

theorem oldBuffer_walkRow :
    (s.walkRow oldCursorPos newWidth newHeight).oldBuffer = s.oldBuffer.touch s.oldY := by
  unfold walkRow copyOtherRendition copySingleWidth copyWholeRow
  dsimp only
  split
  · split <;> split <;> simp only [oldBuffer_markViewportTops, oldBuffer_placeCursor]
  · split <;> simp only [oldBuffer_copyRow]

theorem registryShrinks_walk (oldHeight : Int) {b : TextBuffer} :
    ∀ fuel s, RegistryShrinks b s.oldBuffer →
      RegistryShrinks b (walk oldCursorPos newWidth newHeight oldHeight fuel s).oldBuffer
  | 0, _, h => h
  | fuel + 1, s, h => by
    unfold walk
    split
    · refine registryShrinks_walk oldHeight fuel _ ?_
      show RegistryShrinks b (s.walkRow oldCursorPos newWidth newHeight).oldBuffer
      rw [oldBuffer_walkRow]
      exact h.trans (s.oldBuffer.registryShrinks_touch _)
    · exact h

end Walk

theorem registryShrinks_copyAttributes (newWidth newHeight initializedRowsEnd : Int)
    {b : TextBuffer} : ∀ fuel s, RegistryShrinks b s.oldBuffer →
      RegistryShrinks b (copyAttributes newWidth newHeight initializedRowsEnd fuel s).oldBuffer
  | 0, _, h => h
  | fuel + 1, s, h => by
    unfold copyAttributes
    split
    · exact registryShrinks_copyAttributes _ _ _ fuel _ (h.trans (s.oldBuffer.registryShrinks_touch _))
    · exact h

end ReflowState

namespace TextBuffer

/-- `Reflow` takes the registry over from the old buffer, whose reads only commit rows. -/
theorem registryShrinks_reflow (old new : TextBuffer) (lcv : Option Viewport)
    (pi : Option PositionInformation) : RegistryShrinks old (reflow old new lcv pi).2.1 := by
  have h : RegistryShrinks old (reflowWalk old new lcv pi).oldBuffer := by
    unfold reflowWalk
    exact ReflowState.registryShrinks_copyAttributes _ _ _ _ _
      (ReflowState.registryShrinks_walk _ _ _ _ _ _ (old.registryShrinks_getLastNonSpaceCharacter lcv))
  rw [reflow_snd_fst]
  generalize reflowWalk old new lcv pi = s at h
  exact h.trans ⟨rfl, .refl _⟩

theorem registryShrinks_modifyRows (f : Row → Row) :
    ∀ (b : TextBuffer) (top : Int) (n : Nat), RegistryShrinks b (b.modifyRows f top n)
  | _, _, 0 => .refl _
  | b, top, n + 1 => (b.registryShrinks_modifyRow top f).trans (registryShrinks_modifyRows f _ _ n)

variable {b : TextBuffer}

/-- `FillRect` writes rows only. -/
theorem registryShrinks_fillRect {b' : TextBuffer} {isGlyphFullWidth : List UInt16 → Bool}
    {rect : Rect} {fill : List UInt16} {attributes : TextAttribute}
    (hb : b.fillRect isGlyphFullWidth rect fill attributes = some b') : RegistryShrinks b b' := by
  unfold fillRect at hb
  split at hb
  · cases hb; exact .refl _
  · obtain ⟨sp, -, rfl⟩ := Option.map_eq_some'.1 hb
    refine RegistryShrinks.trans ?_ (registryShrinks_modifyRows _ _ _ _)
    exact ⟨rfl, .refl _⟩

/-- **Every operation but `GetHyperlinkId` keeps the counter and files no new custom id.** -/
theorem registryShrinks_apply {b' : TextBuffer} (op : Op) (hop : op.apply b = some b')
    (hne : ∀ hash uri id, op ≠ .getHyperlinkId hash uri id) : RegistryShrinks b b' := by
  cases op with
  | resizeTraditional newSize =>
    simp only [Op.apply, resizeTraditional, Option.map_eq_some'] at hop
    obtain ⟨_, _, rfl⟩ := hop
    exact ⟨rfl, .refl _⟩
  | reflow newSize seed lcv pi =>
    simp only [Op.apply, Option.map_eq_some'] at hop
    obtain ⟨nb, -, rfl⟩ := hop
    exact registryShrinks_reflow b nb lcv pi
  | getHyperlinkId hash uri id => exact absurd rfl (hne hash uri id)
  | getRowByOffset y => cases hop; exact b.registryShrinks_touch y
  | setCursorPosition p => cases hop; exact b.registryShrinks_setCursorPosition p
  | incrementCircularBuffer fill => cases hop; exact b.registryShrinks_incrementCircularBuffer fill
  | newlineCursor => cases hop; exact b.registryShrinks_newlineCursor
  | incrementCursor => cases hop; exact b.registryShrinks_incrementCursor
  | insertCharacter chars d attr => cases hop; exact b.registryShrinks_insertCharacter chars d attr
  | setCurrentLineRendition lr fill => cases hop; exact b.registryShrinks_setCurrentLineRendition lr fill
  | scrollRows firstRow size delta => cases hop; exact b.registryShrinks_scrollRows firstRow size delta
  | reset | addHyperlinkToMap | scrollMarks | clearMarksInRange | clearAllMarks | startPromptMark
    | addMark => cases hop; exact ⟨rfl, .refl _⟩
  | setCurrentPromptEnd | setCurrentCommandEnd | setCurrentOutputEnd =>
    cases hop; exact b.registryShrinks_modifyCurrentMark _
  | fillRect => exact registryShrinks_fillRect hop
  | write => cases hop; exact ⟨rfl, .refl _⟩

/-! ### The invariants -/

/-- The counter and every id filed under a custom id are nonzero. -/
structure IdsNonzero (b : TextBuffer) : Prop where
  counter : b.currentHyperlinkId ≠ 0
  filed : ∀ p ∈ b.hyperlinkCustomIdMap, p.2 ≠ 0

/-- The registry before the counter wraps: the ids filed under custom ids are distinct,
nonzero and below the counter. -/
structure IdsFresh (b : TextBuffer) : Prop where
  counter : b.currentHyperlinkId ≠ 0
  distinct : (b.hyperlinkCustomIdMap.map (·.2)).Nodup
  filed : ∀ p ∈ b.hyperlinkCustomIdMap, 0 < p.2.toNat ∧ p.2.toNat < b.currentHyperlinkId.toNat

theorem IdsNonzero.of_shrinks {b' : TextBuffer} (h : b.IdsNonzero) (hs : RegistryShrinks b b') :
    b'.IdsNonzero :=
  ⟨hs.counter ▸ h.counter, fun p hp => h.filed p (hs.filed.subset hp)⟩

theorem IdsFresh.of_shrinks {b' : TextBuffer} (h : b.IdsFresh) (hs : RegistryShrinks b b') :
    b'.IdsFresh :=
  ⟨hs.counter ▸ h.counter, h.distinct.sublist (hs.filed.map _),
    fun p hp => hs.counter ▸ h.filed p (hs.filed.subset hp)⟩

/-- The constructor starts the counter at `1` with no custom ids. -/
theorem idsFresh_create {size : Size} {attr : TextAttribute} {cursorSize : Nat} {active : Bool}
    {readAhead : Nat} {seed : UInt64} (h : create size attr cursorSize active readAhead seed = some b) :
    b.IdsFresh := by
  unfold create at h
  dsimp only at h
  split at h
  · cases h
    exact ⟨show (1 : UInt16) ≠ 0 by decide, List.nodup_nil, fun _ h => absurd h (List.not_mem_nil _)⟩
  · cases h

theorem IdsFresh.idsNonzero (h : b.IdsFresh) : b.IdsNonzero :=
  ⟨h.counter, fun p hp => by have := (h.filed p hp).1; exact fun e => by simp [e] at this⟩

/-- One call keeps the ids nonzero and hands out a nonzero id. -/
theorem IdsNonzero.getHyperlinkId (h : b.IdsNonzero) (hash : String → UInt64) (uri id : String) :
    (b.getHyperlinkId hash uri id).1.IdsNonzero ∧ (b.getHyperlinkId hash uri id).2 ≠ 0 := by
  rcases @getHyperlinkId_cases b hash uri id h.counter with
    ⟨-, heq⟩ | ⟨-, w, hl, heq⟩ | ⟨-, -, heq⟩ <;> rw [heq]
  · exact ⟨⟨nextHyperlinkId_ne_zero _, h.filed⟩, h.counter⟩
  · exact ⟨h, h.filed _ (mem_of_lookup_eq_some hl)⟩
  · refine ⟨⟨nextHyperlinkId_ne_zero _, fun p hp => ?_⟩, h.counter⟩
    rcases List.mem_append.1 hp with hp | hp
    · exact h.filed p hp
    · rw [List.mem_singleton.1 hp]; exact h.counter

/-- One call keeps the ids fresh when it does not wrap the counter. -/
theorem IdsFresh.getHyperlinkId (h : b.IdsFresh) {hash : String → UInt64} {uri id : String}
    (hw : b.currentHyperlinkId.toNat ≤ (b.getHyperlinkId hash uri id).1.currentHyperlinkId.toNat) :
    (b.getHyperlinkId hash uri id).1.IdsFresh := by
  rcases @getHyperlinkId_cases b hash uri id h.counter with
    ⟨-, heq⟩ | ⟨-, w, -, heq⟩ | ⟨-, hl, heq⟩ <;> rw [heq] at hw ⊢
  · have hn := toNat_nextHyperlinkId ((le_toNat_nextHyperlinkId_iff _).1 hw)
    refine ⟨nextHyperlinkId_ne_zero _, h.distinct, fun p hp => ?_⟩
    have := h.filed p hp
    exact ⟨this.1, by dsimp only; omega⟩
  · exact h
  · have hn := toNat_nextHyperlinkId ((le_toNat_nextHyperlinkId_iff _).1 hw)
    have hc : 0 < b.currentHyperlinkId.toNat :=
      Nat.pos_of_ne_zero fun e => h.counter (UInt16.toNat.inj e)
    refine ⟨nextHyperlinkId_ne_zero _, ?_, fun p hp => ?_⟩
    · rw [List.map_append, List.nodup_append]
      refine ⟨h.distinct, List.nodup_singleton _, fun x hx hy => ?_⟩
      obtain ⟨p, hp, rfl⟩ := List.mem_map.1 hx
      rw [List.map_singleton, List.mem_singleton] at hy
      have := (h.filed p hp).2
      rw [hy] at this
      exact Nat.lt_irrefl _ this
    · dsimp only
      rcases List.mem_append.1 hp with hp | hp
      · have := h.filed p hp; omega
      · rw [List.mem_singleton.1 hp]; dsimp only; omega

/-- **The registry invariant holds of every reachable buffer.** -/
theorem Reachable.idsNonzero (h : Reachable b) : b.IdsNonzero := by
  induction h with
  | create h => exact (idsFresh_create h).idsNonzero
  | step _ op hop ih =>
    by_cases hg : ∃ hash uri id, op = .getHyperlinkId hash uri id
    · obtain ⟨hash, uri, id, rfl⟩ := hg
      cases hop
      exact (ih.getHyperlinkId hash uri id).1
    · exact ih.of_shrinks (registryShrinks_apply op hop fun hash uri id e => hg ⟨hash, uri, id, e⟩)

/-! ### A run of calls -/

/-- `GetHyperlinkId` called with each `(uri, id)` in turn: the buffer left and the ids handed
out. -/
def getHyperlinkIds (hash : String → UInt64) : TextBuffer → List (String × String) →
    TextBuffer × List UInt16
  | b, [] => (b, [])
  | b, (uri, id) :: calls =>
    let r := b.getHyperlinkId hash uri id
    let rs := getHyperlinkIds hash r.1 calls
    (rs.1, r.2 :: rs.2)

/-- No call of the run lowers the counter: the counter does not wrap during the run. -/
def NoWrap (hash : String → UInt64) (b : TextBuffer) (calls : List (String × String)) : Prop :=
  ∀ k < calls.length, (getHyperlinkIds hash b (calls.take k)).1.currentHyperlinkId.toNat ≤
    (getHyperlinkIds hash b (calls.take (k + 1))).1.currentHyperlinkId.toNat

instance (hash : String → UInt64) (b : TextBuffer) (calls : List (String × String)) :
    Decidable (NoWrap hash b calls) :=
  inferInstanceAs (Decidable (∀ k < calls.length, _))

variable {hash : String → UInt64}

theorem getHyperlinkIds_cons (uri id : String) (calls : List (String × String)) :
    getHyperlinkIds hash b ((uri, id) :: calls) =
      ((getHyperlinkIds hash (b.getHyperlinkId hash uri id).1 calls).1,
        (b.getHyperlinkId hash uri id).2 :: (getHyperlinkIds hash (b.getHyperlinkId hash uri id).1 calls).2) :=
  rfl

theorem NoWrap.cons {uri id : String} {calls : List (String × String)}
    (h : NoWrap hash b ((uri, id) :: calls)) :
    b.currentHyperlinkId.toNat ≤ (b.getHyperlinkId hash uri id).1.currentHyperlinkId.toNat ∧
      NoWrap hash (b.getHyperlinkId hash uri id).1 calls :=
  ⟨h 0 (Nat.succ_pos _), fun k hk => h (k + 1) (Nat.succ_lt_succ hk)⟩

theorem Reachable.getHyperlinkIds (h : Reachable b) :
    ∀ calls, Reachable (getHyperlinkIds hash b calls).1 := by
  intro calls
  induction calls generalizing b with
  | nil => exact h
  | cons c calls ih => exact ih (.step h (.getHyperlinkId hash c.1 c.2) rfl)

/-- Over any run, from a buffer whose ids are nonzero, the ids stay nonzero and no call hands
out `0`. -/
theorem IdsNonzero.getHyperlinkIds (h : b.IdsNonzero) :
    ∀ calls, (getHyperlinkIds hash b calls).1.IdsNonzero ∧ ∀ v ∈ (getHyperlinkIds hash b calls).2, v ≠ 0 := by
  intro calls
  induction calls generalizing b with
  | nil => exact ⟨h, fun _ hv => absurd hv (List.not_mem_nil _)⟩
  | cons c calls ih =>
    obtain ⟨h₁, hv₁⟩ := h.getHyperlinkId hash c.1 c.2
    obtain ⟨hf, hv⟩ := ih h₁
    exact ⟨hf, fun v hv' => (List.mem_cons.1 hv').elim (· ▸ hv₁) (hv v)⟩

/-! ### An id handed out earlier -/

/-- The key a call files its id under: none without a custom id. -/
def callKey (hash : String → UInt64) (uri id : String) : Option String :=
  if id = "" then none else some (customIdKey id (hash uri))

/-- What the registry still holds of an id `v` handed out earlier by a call with key `key`: `v`
is below the counter, filed under `key`, and filed under no other key. -/
structure Holds (b : TextBuffer) (v : UInt16) (key : Option String) : Prop where
  lt : v.toNat < b.currentHyperlinkId.toNat
  filed : ∀ K, key = some K → b.hyperlinkCustomIdMap.lookup K = some v
  only : ∀ p ∈ b.hyperlinkCustomIdMap, p.2 = v → key = some p.1

theorem Holds.counter_ne_zero {v : UInt16} {key : Option String} (h : b.Holds v key) :
    b.currentHyperlinkId ≠ 0 := fun e => by
  have := h.lt
  rw [e] at this
  exact Nat.not_lt_zero _ this

theorem ne_of_toNat_lt {v c : UInt16} (h : v.toNat < c.toNat) : c ≠ v := fun e => by
  rw [e] at h
  exact Nat.lt_irrefl _ h

/-- A later call that does not wrap keeps what the registry holds of `v`, and hands out `v`
exactly when it passes a custom id whose key is `key`. -/
theorem Holds.getHyperlinkId {v : UInt16} {key : Option String} (h : b.Holds v key)
    {uri id : String}
    (hw : b.currentHyperlinkId.toNat ≤ (b.getHyperlinkId hash uri id).1.currentHyperlinkId.toNat) :
    (b.getHyperlinkId hash uri id).1.Holds v key ∧
      ((b.getHyperlinkId hash uri id).2 = v ↔ id ≠ "" ∧ key = some (customIdKey id (hash uri))) := by
  rcases @getHyperlinkId_cases b hash uri id h.counter_ne_zero with
    ⟨hid, heq⟩ | ⟨hid, w, hl, heq⟩ | ⟨hid, hl, heq⟩ <;> rw [heq] at hw ⊢
  · have hn := toNat_nextHyperlinkId ((le_toNat_nextHyperlinkId_iff _).1 hw)
    refine ⟨⟨by dsimp only; have := h.lt; omega, h.filed, h.only⟩, ?_⟩
    exact iff_of_false (ne_of_toNat_lt h.lt) fun hk => hk.1 hid
  · refine ⟨h, fun e => ⟨hid, h.only _ (mem_of_lookup_eq_some hl) e⟩, fun hk => ?_⟩
    exact Option.some.inj (hl.symm.trans (h.filed _ hk.2))
  · have hn := toNat_nextHyperlinkId ((le_toNat_nextHyperlinkId_iff _).1 hw)
    refine ⟨⟨by dsimp only; have := h.lt; omega, fun K hK => ?_, fun p hp e => ?_⟩, ?_⟩
    · simp only [List.lookup_append, h.filed K hK, Option.or_some]
    · rcases List.mem_append.1 hp with hp | hp
      · exact h.only p hp e
      · rw [List.mem_singleton.1 hp] at e
        exact absurd e (ne_of_toNat_lt h.lt)
    · refine iff_of_false (ne_of_toNat_lt h.lt) fun hk => ?_
      rw [h.filed _ hk.2] at hl
      exact Option.some_ne_none _ hl

/-- Right after a call that does not wrap, from fresh ids, the registry holds the id it
handed out under its key. -/
theorem IdsFresh.holds_getHyperlinkId (h : b.IdsFresh) {uri id : String}
    (hw : b.currentHyperlinkId.toNat ≤ (b.getHyperlinkId hash uri id).1.currentHyperlinkId.toNat) :
    (b.getHyperlinkId hash uri id).1.Holds (b.getHyperlinkId hash uri id).2 (callKey hash uri id) := by
  rcases @getHyperlinkId_cases b hash uri id h.counter with
    ⟨hid, heq⟩ | ⟨hid, w, hl, heq⟩ | ⟨hid, hl, heq⟩ <;> rw [heq] at hw ⊢ <;>
    simp only [callKey, hid, if_true, if_false]
  · have hn := toNat_nextHyperlinkId ((le_toNat_nextHyperlinkId_iff _).1 hw)
    refine ⟨by dsimp only; omega, fun K hK => absurd hK (Option.noConfusion), fun p hp e => ?_⟩
    exact absurd e (ne_of_toNat_lt (h.filed p hp).2).symm
  · have hm := mem_of_lookup_eq_some hl
    refine ⟨(h.filed _ hm).2, fun K hK => Option.some.inj hK ▸ hl, fun p hp e => ?_⟩
    rw [List.inj_on_of_nodup_map h.distinct hp hm e]
  · have hn := toNat_nextHyperlinkId ((le_toNat_nextHyperlinkId_iff _).1 hw)
    refine ⟨by dsimp only; omega, fun K hK => ?_, fun p hp e => ?_⟩
    · rw [← Option.some.inj hK]
      simp only [List.lookup_append, hl, Option.none_or, List.lookup_cons_self]
    · rcases List.mem_append.1 hp with hp | hp
      · exact absurd e (ne_of_toNat_lt (h.filed p hp).2).symm
      · rw [List.mem_singleton.1 hp]

/-- Over a run that does not wrap, the registry keeps holding `v`, and the `j`-th call hands
out `v` exactly when it passes a custom id whose key is `key`. -/
theorem Holds.getHyperlinkIds {v : UInt16} {key : Option String} :
    ∀ (calls : List (String × String)) (b : TextBuffer), b.Holds v key → NoWrap hash b calls →
      ∀ (j : Nat) uri id, calls[j]? = some (uri, id) →
        ((getHyperlinkIds hash b calls).2[j]? = some v ↔
          id ≠ "" ∧ key = some (customIdKey id (hash uri)))
  | [], _, _, _, _, _, _, hj => absurd hj (by simp)
  | (uri', id') :: calls, b, h, hw, j, uri, id, hj => by
    obtain ⟨hw₁, hw'⟩ := hw.cons
    obtain ⟨h₁, hv⟩ := h.getHyperlinkId hw₁
    rw [getHyperlinkIds_cons]
    cases j with
    | zero =>
      rw [List.getElem?_cons_zero, Option.some_inj, Prod.mk.injEq] at hj
      obtain ⟨rfl, rfl⟩ := hj
      rw [List.getElem?_cons_zero, Option.some_inj]
      exact hv
    | succ j =>
      rw [List.getElem?_cons_succ] at hj ⊢
      exact Holds.getHyperlinkIds calls _ h₁ hw' j uri id hj

/-- The ids handed out over a run that does not wrap, from fresh ids: the `i`-th and the
`j`-th are equal exactly when both calls pass the same custom id, not empty, for URIs of the
same hash. -/
theorem IdsFresh.getHyperlinkIds_eq_iff :
    ∀ (calls : List (String × String)) (b : TextBuffer), b.IdsFresh → NoWrap hash b calls →
      ∀ (i j : Nat) uri₁ id₁ uri₂ id₂, i < j → calls[i]? = some (uri₁, id₁) →
        calls[j]? = some (uri₂, id₂) →
        ((getHyperlinkIds hash b calls).2[i]? = (getHyperlinkIds hash b calls).2[j]? ↔
          id₁ ≠ "" ∧ id₁ = id₂ ∧ hash uri₁ = hash uri₂)
  | [], _, _, _, _, _, _, _, _, _, _, hi, _ => absurd hi (by simp)
  | (uri, id) :: calls, b, h, hw, i, j, uri₁, id₁, uri₂, id₂, hij, hi, hj => by
    obtain ⟨hw₁, hw'⟩ := hw.cons
    obtain ⟨j, rfl⟩ : ∃ j', j = j' + 1 := ⟨j - 1, by omega⟩
    rw [getHyperlinkIds_cons, List.getElem?_cons_succ]
    rw [List.getElem?_cons_succ] at hj
    cases i with
    | zero =>
      rw [List.getElem?_cons_zero, Option.some_inj, Prod.mk.injEq] at hi
      obtain ⟨rfl, rfl⟩ := hi
      have hv := (h.holds_getHyperlinkId hw₁).getHyperlinkIds calls _ hw' j uri₂ id₂ hj
      rw [List.getElem?_cons_zero, eq_comm, hv, callKey]
      by_cases hid : id = ""
      · simp [hid]
      · rw [if_neg hid, Option.some_inj, customIdKey_inj]
        constructor
        · rintro ⟨-, e₁, e₂⟩; exact ⟨hid, e₁, e₂⟩
        · rintro ⟨-, e₁, e₂⟩; exact ⟨e₁ ▸ hid, e₁, e₂⟩
    | succ i =>
      rw [List.getElem?_cons_succ] at hi ⊢
      exact IdsFresh.getHyperlinkIds_eq_iff calls _ (h.getHyperlinkId hw₁) hw' i j uri₁ id₁ uri₂ id₂
        (by omega) hi hj

/-! ### The ids, over every run -/

/-- **The ids `GetHyperlinkId` hands out.**  From every reachable buffer and over every run of
calls, however long, the counter is never `0`, every id filed under a custom id is not `0`,
and no call hands out `0`.  From a buffer whose
ids are fresh and over every run that does not wrap the counter, the `i`-th and the `j`-th
call hand out the same id exactly when both pass the same custom id, not empty, for URIs of
the same hash.  The key of a custom id determines the custom id and the hash. -/
theorem getHyperlinkIds_unique (hash : String → UInt64) {b : TextBuffer} (hb : Reachable b) :
    (∀ calls, (getHyperlinkIds hash b calls).1.currentHyperlinkId ≠ 0 ∧
        (∀ p ∈ (getHyperlinkIds hash b calls).1.hyperlinkCustomIdMap, p.2 ≠ 0) ∧
        ∀ v ∈ (getHyperlinkIds hash b calls).2, v ≠ 0) ∧
      (b.IdsFresh → ∀ calls, NoWrap hash b calls →
        ∀ (i j : Nat) uri₁ id₁ uri₂ id₂, i < j → calls[i]? = some (uri₁, id₁) →
          calls[j]? = some (uri₂, id₂) →
          ((getHyperlinkIds hash b calls).2[i]? = (getHyperlinkIds hash b calls).2[j]? ↔
            id₁ ≠ "" ∧ id₁ = id₂ ∧ hash uri₁ = hash uri₂)) ∧
      ∀ id₁ id₂ h₁ h₂, customIdKey id₁ h₁ = customIdKey id₂ h₂ ↔ id₁ = id₂ ∧ h₁ = h₂ :=
  ⟨fun calls => ⟨(hb.idsNonzero.getHyperlinkIds calls).1.counter,
      (hb.idsNonzero.getHyperlinkIds calls).1.filed, (hb.idsNonzero.getHyperlinkIds calls).2⟩,
    fun hf calls hw => IdsFresh.getHyperlinkIds_eq_iff calls b hf hw,
    fun _ _ _ _ => customIdKey_inj⟩

theorem getHyperlinkIds_unique_oneByOne :
    Reachable oneByOne ∧
      ((∀ calls, (getHyperlinkIds (fun _ => 0) oneByOne calls).1.currentHyperlinkId ≠ 0 ∧
          (∀ p ∈ (getHyperlinkIds (fun _ => 0) oneByOne calls).1.hyperlinkCustomIdMap, p.2 ≠ 0) ∧
          ∀ v ∈ (getHyperlinkIds (fun _ => 0) oneByOne calls).2, v ≠ 0) ∧
        (oneByOne.IdsFresh → ∀ calls, NoWrap (fun _ => 0) oneByOne calls →
          ∀ (i j : Nat) uri₁ id₁ uri₂ id₂, i < j → calls[i]? = some (uri₁, id₁) →
            calls[j]? = some (uri₂, id₂) →
            ((getHyperlinkIds (fun _ => 0) oneByOne calls).2[i]? =
                (getHyperlinkIds (fun _ => 0) oneByOne calls).2[j]? ↔
              id₁ ≠ "" ∧ id₁ = id₂ ∧ (fun _ => (0 : UInt64)) uri₁ = (fun _ => (0 : UInt64)) uri₂)) ∧
        ∀ id₁ id₂ h₁ h₂, customIdKey id₁ h₁ = customIdKey id₂ h₂ ↔ id₁ = id₂ ∧ h₁ = h₂) :=
  have hb : Reachable oneByOne := .create (Option.some_get _).symm
  ⟨hb, getHyperlinkIds_unique (fun _ => 0) hb⟩

/-! ### After the counter wraps -/

theorem getHyperlinkIds_append (xs ys : List (String × String)) :
    ∀ b : TextBuffer, (getHyperlinkIds hash b (xs ++ ys)).1 =
      (getHyperlinkIds hash (getHyperlinkIds hash b xs).1 ys).1 := by
  induction xs with
  | nil => exact fun _ => rfl
  | cons c xs ih => exact fun b => ih _

/-- `n` calls without a custom id that keep the counter below `2^16` advance it by `n` and
change nothing else. -/
theorem getHyperlinkIds_anonymous (uri : String) :
    ∀ (n : Nat) (b : TextBuffer), b.currentHyperlinkId.toNat + n < 65536 →
      (getHyperlinkIds hash b (List.replicate n (uri, ""))).1 =
        { b with currentHyperlinkId := UInt16.ofNat (b.currentHyperlinkId.toNat + n) }
  | 0, b, _ => by
    rw [Nat.add_zero, UInt16.toNat.inj (UInt16.toNat_ofNat_of_lt b.currentHyperlinkId.toNat_lt_size)]
    rfl
  | n + 1, b, hn => by
    have hc := toNat_nextHyperlinkId (c := b.currentHyperlinkId) (by omega)
    rw [List.replicate_succ, getHyperlinkIds_cons, getHyperlinkId_anonymous,
      getHyperlinkIds_anonymous uri n _ (by dsimp only; omega)]
    dsimp only
    rw [hc, Nat.add_assoc, Nat.add_comm 1 n]

/-- Calls without a custom id that bring the counter to `2^16` wrap it to `1`. -/
theorem getHyperlinkIds_anonymous_wrap (uri : String) (n : Nat) (b : TextBuffer)
    (hn : b.currentHyperlinkId.toNat + n = 65536) :
    (getHyperlinkIds hash b (List.replicate n (uri, ""))).1 = { b with currentHyperlinkId := 1 } := by
  have hlt : b.currentHyperlinkId.toNat < 65536 := b.currentHyperlinkId.toNat_lt_size
  obtain ⟨m, rfl⟩ : ∃ m, n = m + 1 := ⟨n - 1, by omega⟩
  have hwrap : nextHyperlinkId (UInt16.ofNat (b.currentHyperlinkId.toNat + m)) = 1 := by
    rw [show b.currentHyperlinkId.toNat + m = 65535 by omega]
    decide
  rw [List.replicate_succ', getHyperlinkIds_append, getHyperlinkIds_anonymous uri m b (by omega),
    getHyperlinkIds_cons, getHyperlinkId_anonymous]
  dsimp only [getHyperlinkIds]
  rw [hwrap]

/-- The constructor's one-cell buffer with custom id `a` of URI `u` filed under id `1` and
the counter at `1`, as the calls below leave it. -/
def wrappedBuffer (hash : String → UInt64) : TextBuffer :=
  { oneByOne with hyperlinkCustomIdMap := [(customIdKey "a" (hash "u"), 1)], currentHyperlinkId := 1 }

/-- A call with custom id `a`, which files id `1`, and then calls without a custom id up to
the wrap leave `wrappedBuffer`. -/
theorem getHyperlinkIds_wrap (n : Nat) (hn : 2 + n = 65536) :
    (getHyperlinkIds hash oneByOne (("u", "a") :: List.replicate n ("u", ""))).1 = wrappedBuffer hash := by
  have h0 : oneByOne.hyperlinkCustomIdMap = [] := rfl
  rw [getHyperlinkIds_cons, getHyperlinkId_of_lookup_none (by decide) (by rw [h0]; rfl),
    getHyperlinkIds_anonymous_wrap _ _ _ hn]
  rfl

/-- Ids collide once the counter has wrapped, for every hash of URIs: a call with custom id
`a` and 65534 calls without one take the constructor's one-cell buffer to `wrappedBuffer`,
where `a`'s id `1` is filed and the counter is back at `1`.  Of the two calls that follow,
neither wraps the counter; the first passes no custom id and the second passes `a`, and both
hand out `1`. -/
theorem getHyperlinkIds_wrap_collides (hash : String → UInt64) :
    (getHyperlinkIds hash oneByOne (("u", "a") :: List.replicate 65534 ("u", ""))).1 =
        wrappedBuffer hash ∧
      Reachable (wrappedBuffer hash) ∧ (wrappedBuffer hash).currentHyperlinkId = 1 ∧
      NoWrap hash (wrappedBuffer hash) [("u", ""), ("u", "a")] ∧
      (getHyperlinkIds hash (wrappedBuffer hash) [("u", ""), ("u", "a")]).2 = [1, 1] := by
  have hw := @getHyperlinkIds_wrap hash 65534 rfl
  have e₁ : (wrappedBuffer hash).getHyperlinkId hash "u" "" =
      ({ wrappedBuffer hash with currentHyperlinkId := 2 }, 1) := getHyperlinkId_anonymous _ _ _
  have e₂ : ({ wrappedBuffer hash with currentHyperlinkId := 2 } : TextBuffer).getHyperlinkId hash "u" "a" =
      ({ wrappedBuffer hash with currentHyperlinkId := 2 }, 1) :=
    getHyperlinkId_of_lookup_some (show (2 : UInt16) ≠ 0 by decide) (by decide) List.lookup_cons_self
  refine ⟨hw, hw ▸ (Reachable.create (Option.some_get _).symm : Reachable oneByOne).getHyperlinkIds _,
    rfl, fun k hk => ?_, by rw [getHyperlinkIds_cons, e₁, getHyperlinkIds_cons, e₂]; rfl⟩
  rcases k with _ | _ | k
  · show (wrappedBuffer hash).currentHyperlinkId.toNat ≤
      ((wrappedBuffer hash).getHyperlinkId hash "u" "").1.currentHyperlinkId.toNat
    rw [e₁]
    exact show (1 : UInt16).toNat ≤ (2 : UInt16).toNat by decide
  · show ((wrappedBuffer hash).getHyperlinkId hash "u" "").1.currentHyperlinkId.toNat ≤
      (((wrappedBuffer hash).getHyperlinkId hash "u" "").1.getHyperlinkId hash "u" "a").1.currentHyperlinkId.toNat
    rw [e₁, e₂]
  · exact absurd hk (by simp)

/-- **Ids collide once the counter has wrapped.**  With every URI hashed to `0`: a call with
custom id `a` and 65534 calls without one reach `wrappedBuffer`, where `a`'s id `1` is filed
and the counter is back at `1`; the next two calls wrap nothing, and the one without a custom
id and the one with `a` both hand out `1`. -/
theorem getHyperlinkIds_collide_after_wrap :
    (getHyperlinkIds (fun _ => 0) oneByOne (("u", "a") :: List.replicate 65534 ("u", ""))).1 =
        wrappedBuffer (fun _ => 0) ∧
      Reachable (wrappedBuffer (fun _ => 0)) ∧ (wrappedBuffer (fun _ => 0)).currentHyperlinkId = 1 ∧
      NoWrap (fun _ => 0) (wrappedBuffer (fun _ => 0)) [("u", ""), ("u", "a")] ∧
      (getHyperlinkIds (fun _ => 0) (wrappedBuffer (fun _ => 0)) [("u", ""), ("u", "a")]).2 = [1, 1] :=
  getHyperlinkIds_wrap_collides _

end TextBuffer

end TerminalBuffer
