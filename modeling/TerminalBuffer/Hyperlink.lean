/-
The hyperlink registry.

`_hyperlinkMap` maps a 16-bit id to its URI; `_hyperlinkCustomIdMap` maps an explicit
id, suffixed with `%` and the decimal hash of the URI, to the numeric id handed out for
it; `_currentHyperlinkId` is the next id to hand out, skipping `0` when it wraps.  Both
maps are association lists whose order stands for the unordered maps' iteration order,
which the standard leaves open: nothing below depends on it.

`_PruneHyperlinks` runs before the ring rotates.  It collects the ids the outgoing first
row references, scans the other rows until every one of them has been seen, and removes
the ids nobody else references.  `RemoveHyperlinkFromMap` erases an id from the first map
and the first entry of the second map that maps to it, then stops: the registry is only
cleaned completely while no two custom ids share a numeric id, and once the counter has
wrapped they can (`removeHyperlinkFromMap_leaves_duplicate`).
-/
import TerminalBuffer.Buffer

namespace TerminalBuffer

/-- `map[k] = v` on an association list. -/
def assocSet {α β : Type} [DecidableEq α] : List (α × β) → α → β → List (α × β)
  | [], k, v => [(k, v)]
  | p :: l, k, v => if p.1 = k then (k, v) :: l else p :: assocSet l k v

/-- `map.erase(k)`. -/
def assocErase {α β : Type} [DecidableEq α] (l : List (α × β)) (k : α) : List (α × β) :=
  l.filter (·.1 != k)

/-- The loop of `RemoveHyperlinkFromMap` over `_hyperlinkCustomIdMap`: erase the first
entry mapping to `id`, then `break`. -/
def eraseFirstWithValue : List (String × UInt16) → UInt16 → List (String × UInt16)
  | [], _ => []
  | p :: l, id => if p.2 = id then l else p :: eraseFirstWithValue l id

namespace TextBuffer

variable (b : TextBuffer)

/-- `AddHyperlinkToMap(uri, id)`. -/
def addHyperlinkToMap (uri : String) (id : UInt16) : TextBuffer :=
  { b with hyperlinkMap := assocSet b.hyperlinkMap id uri }

/-- The key `GetHyperlinkId` files a custom id under: `id + L"%" + to_wstring(hash)`. -/
def customIdKey (id : String) (hash : UInt64) : String := id ++ "%" ++ toString hash.toNat

/-- `GetHyperlinkId(uri, id)`, for a URI hash `hash` (`til::hash`, not in the sources). -/
def getHyperlinkId (hash : String → UInt64) (uri id : String) : TextBuffer × UInt16 :=
  let (numericId, b') :=
    if id.isEmpty then (b.currentHyperlinkId, { b with currentHyperlinkId := b.currentHyperlinkId + 1 })
    else
      let newId := customIdKey id (hash uri)
      match b.hyperlinkCustomIdMap.lookup newId with
      | some existing => (existing, b)
      | none => (b.currentHyperlinkId,
          { b with hyperlinkCustomIdMap := b.hyperlinkCustomIdMap ++ [(newId, b.currentHyperlinkId)],
                   currentHyperlinkId := b.currentHyperlinkId + 1 })
  let b' := if b'.currentHyperlinkId = 0 then { b' with currentHyperlinkId := 1 } else b'
  (b', numericId)

/-- `RemoveHyperlinkFromMap(id)`. -/
def removeHyperlinkFromMap (id : UInt16) : TextBuffer :=
  { b with hyperlinkMap := assocErase b.hyperlinkMap id,
           hyperlinkCustomIdMap := eraseFirstWithValue b.hyperlinkCustomIdMap id }

/-- `CopyHyperlinkMaps(other)`. -/
def copyHyperlinkMaps (other : TextBuffer) : TextBuffer :=
  { b with hyperlinkMap := other.hyperlinkMap, hyperlinkCustomIdMap := other.hyperlinkCustomIdMap,
           currentHyperlinkId := other.currentHyperlinkId }

/-- The scan of `_PruneHyperlinks` over rows `i, i + 1, …` below `total`, dropping from `refs`
every id a row references and stopping once `refs` is empty.  Each row read commits. -/
def pruneScan (total : Int) : Nat → TextBuffer → Int → List UInt16 → TextBuffer × List UInt16
  | 0, b, _, refs => (b, refs)
  | fuel + 1, b, i, refs =>
    if i < total then
      let refs' := refs.filter (· ∉ (b.getRowByOffset i).getHyperlinks)
      if refs'.isEmpty then (b.touch i, refs') else pruneScan total fuel (b.touch i) (i + 1) refs'
    else (b, refs)

/-- `_PruneHyperlinks()`. -/
def pruneHyperlinks : TextBuffer :=
  let hyperlinks := (b.getRowByOffset 0).getHyperlinks.eraseDups
  let b := b.touch 0
  if hyperlinks.isEmpty then b
  else
    let r := pruneScan b.height b.height b 1 hyperlinks
    r.2.foldl removeHyperlinkFromMap r.1

/-! ### Pruning touches only rows and the registry -/

theorem frame_removeHyperlinkFromMap (id : UInt16) : Frame b (b.removeHyperlinkFromMap id) :=
  ⟨rfl, rfl, rfl, rfl, rfl, rfl, rfl, rfl, rfl⟩

theorem frame_foldl_remove (ids : List UInt16) :
    ∀ b : TextBuffer, Frame b (ids.foldl removeHyperlinkFromMap b) := by
  induction ids with
  | nil => exact Frame.refl
  | cons id ids ih => exact fun b => (b.frame_removeHyperlinkFromMap id).trans (ih _)

theorem frame_pruneScan (total : Int) :
    ∀ fuel (b : TextBuffer) i refs, Frame b (pruneScan total fuel b i refs).1 := by
  intro fuel
  induction fuel with
  | zero => intro b _ _; exact Frame.refl b
  | succ fuel ih =>
    intro b i refs
    unfold pruneScan
    split
    · dsimp only
      split
      · exact b.frame_touch i
      · exact (b.frame_touch i).trans (ih _ _ _)
    · exact Frame.refl b

theorem frame_pruneHyperlinks : Frame b b.pruneHyperlinks := by
  unfold pruneHyperlinks
  dsimp only
  split
  · exact b.frame_touch 0
  · exact (b.frame_touch 0).trans ((frame_pruneScan _ _ _ _ _).trans (frame_foldl_remove _ _))

/-! ### Pruning reads rows and writes none -/

@[simp] theorem slotRow_removeHyperlinkFromMap (id : UInt16) :
    (b.removeHyperlinkFromMap id).slotRow = b.slotRow := rfl

theorem slotRow_foldl_remove (ids : List UInt16) :
    ∀ b : TextBuffer, (ids.foldl removeHyperlinkFromMap b).slotRow = b.slotRow := by
  induction ids with
  | nil => exact fun _ => rfl
  | cons id ids ih => exact fun b => (ih _).trans (b.slotRow_removeHyperlinkFromMap id)

theorem slotRow_touch (y : Int) : (b.touch y).slotRow = b.slotRow := funext (b.slotRow_commit _)

theorem slotRow_pruneScan (total : Int) :
    ∀ fuel (b : TextBuffer) i refs, (pruneScan total fuel b i refs).1.slotRow = b.slotRow := by
  intro fuel
  induction fuel with
  | zero => exact fun _ _ _ => rfl
  | succ fuel ih =>
    intro b i refs
    unfold pruneScan
    split
    · dsimp only
      split
      · exact b.slotRow_touch i
      · exact (ih _ _ _).trans (b.slotRow_touch i)
    · rfl

theorem slotRow_pruneHyperlinks : b.pruneHyperlinks.slotRow = b.slotRow := by
  unfold pruneHyperlinks
  dsimp only
  split
  · exact b.slotRow_touch 0
  · exact ((slotRow_foldl_remove _ _).trans (slotRow_pruneScan _ _ _ _ _)).trans (b.slotRow_touch 0)

theorem pruneHyperlinks_of_getHyperlinks_nil (h : (b.getRowByOffset 0).getHyperlinks = []) :
    b.pruneHyperlinks = b.touch 0 := by
  simp only [pruneHyperlinks, h]
  rfl

/-! ### What pruning removes -/

/-- `eraseDups` keeps every element: the set `_PruneHyperlinks` builds from the first row's
ids holds exactly those ids. -/
theorem mem_eraseDups_loop {α : Type} [BEq α] [LawfulBEq α] (a : α) :
    ∀ as bs : List α, a ∈ List.eraseDups.loop as bs ↔ a ∈ as ∨ a ∈ bs
  | [], bs => by simp [List.eraseDups.loop]
  | x :: as, bs => by
    unfold List.eraseDups.loop
    split
    · rename_i hx
      rw [mem_eraseDups_loop a as bs]
      simp only [List.elem_eq_mem, decide_eq_true_eq] at hx
      simp only [List.mem_cons]
      constructor
      · rintro (h | h)
        · exact .inl (.inr h)
        · exact .inr h
      · rintro ((rfl | h) | h)
        · exact .inr hx
        · exact .inl h
        · exact .inr h
    · rw [mem_eraseDups_loop a as (x :: bs)]
      simp only [List.mem_cons]
      tauto

theorem mem_eraseDups {α : Type} [BEq α] [LawfulBEq α] {a : α} {l : List α} :
    a ∈ l.eraseDups ↔ a ∈ l := by
  simp [List.eraseDups, mem_eraseDups_loop]

/-- The scan keeps every id that no row it reads references. -/
theorem mem_pruneScan {h : UInt16} (total : Int) :
    ∀ fuel (b : TextBuffer) i refs, h ∈ refs →
      (∀ j, i ≤ j → j < total → h ∉ (b.getRowByOffset j).getHyperlinks) →
      h ∈ (pruneScan total fuel b i refs).2 := by
  intro fuel
  induction fuel with
  | zero => exact fun _ _ _ hr _ => hr
  | succ fuel ih =>
    intro b i refs hr hj
    unfold pruneScan
    split
    · rename_i hi
      have hr' : h ∈ refs.filter (· ∉ (b.getRowByOffset i).getHyperlinks) := by
        simp only [List.mem_filter, decide_eq_true_eq]
        exact ⟨hr, hj i (Int.le_refl i) hi⟩
      dsimp only
      split
      · exact hr'
      · refine ih _ _ _ hr' fun j hij hjt => ?_
        rw [getRowByOffset_touch]
        exact hj j (by omega) hjt
    · exact hr

/-- With fuel for every row left, the scan keeps only ids that no row it reads references. -/
theorem not_referenced_of_mem_pruneScan {h : UInt16} (total : Int) :
    ∀ (fuel : Nat) (b : TextBuffer) i refs, total - i ≤ fuel → h ∈ (pruneScan total fuel b i refs).2 →
      h ∈ refs ∧ ∀ j, i ≤ j → j < total → h ∉ (b.getRowByOffset j).getHyperlinks := by
  intro fuel
  induction fuel with
  | zero => exact fun _ i _ hf hr => ⟨hr, fun j hij hjt => absurd hf (by omega)⟩
  | succ fuel ih =>
    intro b i refs hf hr
    unfold pruneScan at hr
    split at hr
    · have hm : ∀ {x}, x ∈ refs.filter (· ∉ (b.getRowByOffset i).getHyperlinks) →
          x ∈ refs ∧ x ∉ (b.getRowByOffset i).getHyperlinks := by simp
      dsimp only at hr
      split at hr
      · rename_i he
        exact absurd (List.isEmpty_iff.mp he ▸ hr) (List.not_mem_nil h)
      · obtain ⟨hr', hrows⟩ := ih _ _ _ (by omega) hr
        refine ⟨(hm hr').1, fun j hij hjt => ?_⟩
        by_cases hji : j = i
        · exact hji ▸ (hm hr').2
        · simpa using hrows j (by omega) hjt
    · exact ⟨hr, fun j hij hjt => absurd hij (by omega)⟩

/-- The ids `_hyperlinkMap` holds. -/
def hyperlinkKeys : List UInt16 := b.hyperlinkMap.map (·.1)

@[simp] theorem hyperlinkKeys_touch (y : Int) : (b.touch y).hyperlinkKeys = b.hyperlinkKeys := rfl

theorem hyperlinkKeys_pruneScan (total : Int) :
    ∀ fuel (b : TextBuffer) i refs,
      (pruneScan total fuel b i refs).1.hyperlinkKeys = b.hyperlinkKeys := by
  intro fuel
  induction fuel with
  | zero => exact fun _ _ _ => rfl
  | succ fuel ih =>
    intro b i refs
    unfold pruneScan
    split
    · dsimp only
      split
      · rfl
      · exact ih _ _ _
    · rfl

@[simp] theorem mem_hyperlinkKeys_removeHyperlinkFromMap {h id : UInt16} :
    h ∈ (b.removeHyperlinkFromMap id).hyperlinkKeys ↔ h ∈ b.hyperlinkKeys ∧ h ≠ id := by
  simp only [hyperlinkKeys, removeHyperlinkFromMap, assocErase, List.mem_map, List.mem_filter,
    bne_iff_ne, ne_eq]
  constructor
  · rintro ⟨p, ⟨hp, hne⟩, rfl⟩; exact ⟨⟨p, hp, rfl⟩, hne⟩
  · rintro ⟨⟨p, hp, rfl⟩, hne⟩; exact ⟨p, ⟨hp, hne⟩, rfl⟩

theorem mem_hyperlinkKeys_foldl_remove {h : UInt16} (ids : List UInt16) :
    ∀ b : TextBuffer, h ∈ (ids.foldl removeHyperlinkFromMap b).hyperlinkKeys ↔
      h ∈ b.hyperlinkKeys ∧ h ∉ ids := by
  induction ids with
  | nil => simp
  | cons id ids ih =>
    intro b
    rw [List.foldl_cons, ih, mem_hyperlinkKeys_removeHyperlinkFromMap, List.mem_cons, and_assoc]
    simp only [not_or]

/-- **What pruning removes.**  An id is a key of `_hyperlinkMap` after `_PruneHyperlinks`
exactly when it was one before and, if the outgoing first row references it, so does some
other row of the buffer: the scan's early exit never leaves a referenced id behind. -/
theorem mem_hyperlinkKeys_pruneHyperlinks {h : UInt16} :
    h ∈ b.pruneHyperlinks.hyperlinkKeys ↔ h ∈ b.hyperlinkKeys ∧
      (h ∈ (b.getRowByOffset 0).getHyperlinks →
        ∃ j : Int, 1 ≤ j ∧ j < b.height ∧ h ∈ (b.getRowByOffset j).getHyperlinks) := by
  unfold pruneHyperlinks
  dsimp only
  split
  · rename_i he
    have hr : h ∉ (b.getRowByOffset 0).getHyperlinks := fun hr =>
      List.not_mem_nil h (List.isEmpty_iff.mp he ▸ mem_eraseDups.mpr hr)
    simp [hr]
  · rw [mem_hyperlinkKeys_foldl_remove, hyperlinkKeys_pruneScan, hyperlinkKeys_touch]
    refine and_congr_right fun _ => ⟨fun hn hr => ?_, fun hex hm => ?_⟩
    · refine Classical.byContradiction fun hno => hn (mem_pruneScan _ _ _ _ _
        (mem_eraseDups.mpr hr) fun j hj hjt hjr => hno ⟨j, hj, hjt, ?_⟩)
      simpa using hjr
    · obtain ⟨hr, hrows⟩ := not_referenced_of_mem_pruneScan _ _ _ _ _
        (by rw [height_touch]; omega) hm
      obtain ⟨j, hj, hjt, hjr⟩ := hex (mem_eraseDups.mp hr)
      exact hrows j hj hjt (by simpa using hjr)

/-- **A pruned id is gone.**  An id the outgoing first row references and no other row of
the buffer does is no longer a key of `_hyperlinkMap` after `_PruneHyperlinks`. -/
theorem not_mem_hyperlinkKeys_pruneHyperlinks {h : UInt16}
    (hrow : h ∈ (b.getRowByOffset 0).getHyperlinks)
    (hothers : ∀ j : Int, 1 ≤ j → j < b.height → h ∉ (b.getRowByOffset j).getHyperlinks) :
    h ∉ b.pruneHyperlinks.hyperlinkKeys := fun hk =>
  let ⟨j, hj, hjt, hjr⟩ := (b.mem_hyperlinkKeys_pruneHyperlinks.mp hk).2 hrow
  hothers j hj hjt hjr

/-! ### What removal leaves behind -/

/-- When two custom ids map to `id`, erasing the first entry for `id` leaves the other. -/
theorem eraseFirstWithValue_keeps {l : List (String × UInt16)} {id : UInt16} {k₁ k₂ : String}
    (hk : k₁ ≠ k₂) (h₁ : (k₁, id) ∈ l) (h₂ : (k₂, id) ∈ l) :
    ∃ k, (k, id) ∈ eraseFirstWithValue l id := by
  induction l with
  | nil => simp at h₁
  | cons p l ih =>
    unfold eraseFirstWithValue
    split
    · rcases List.mem_cons.mp h₁ with e₁ | e₁ <;> rcases List.mem_cons.mp h₂ with e₂ | e₂
      · exact absurd (Prod.mk.inj (e₁.trans e₂.symm)).1 hk
      · exact ⟨k₂, e₂⟩
      · exact ⟨k₁, e₁⟩
      · exact ⟨k₁, e₁⟩
    · rename_i hp
      have n₁ : (k₁, id) ≠ p := fun e => hp (by rw [← e])
      have n₂ : (k₂, id) ≠ p := fun e => hp (by rw [← e])
      obtain ⟨k, hk'⟩ := ih (List.mem_of_ne_of_mem n₁ h₁) (List.mem_of_ne_of_mem n₂ h₂)
      exact ⟨k, List.mem_cons_of_mem _ hk'⟩

/-- When two custom ids map to `id`, one of them is still there after removing `id`. -/
theorem removeHyperlinkFromMap_leaves_duplicate {id : UInt16} {k₁ k₂ : String} (hk : k₁ ≠ k₂)
    (h₁ : (k₁, id) ∈ b.hyperlinkCustomIdMap) (h₂ : (k₂, id) ∈ b.hyperlinkCustomIdMap) :
    ∃ k, (k, id) ∈ (b.removeHyperlinkFromMap id).hyperlinkCustomIdMap :=
  eraseFirstWithValue_keeps hk h₁ h₂

/-- A buffer whose custom ids `a` and `b` were both handed numeric id `1`, as they are once
the counter has wrapped. -/
def twoCustomIds : TextBuffer :=
  { (create ⟨1, 1⟩ {} 1 false 0 0).get (by decide) with
    hyperlinkCustomIdMap := [("a", 1), ("b", 1)] }

theorem removeHyperlinkFromMap_leaves_duplicate_twoCustomIds :
    "a" ≠ "b" ∧ ("a", (1 : UInt16)) ∈ twoCustomIds.hyperlinkCustomIdMap ∧
      ("b", (1 : UInt16)) ∈ twoCustomIds.hyperlinkCustomIdMap ∧
      ∃ k, (k, (1 : UInt16)) ∈ (twoCustomIds.removeHyperlinkFromMap 1).hyperlinkCustomIdMap :=
  have hk : "a" ≠ "b" := by decide
  have h₁ : ("a", (1 : UInt16)) ∈ twoCustomIds.hyperlinkCustomIdMap := by decide
  have h₂ : ("b", (1 : UInt16)) ∈ twoCustomIds.hyperlinkCustomIdMap := by decide
  ⟨hk, h₁, h₂, twoCustomIds.removeHyperlinkFromMap_leaves_duplicate hk h₁ h₂⟩

end TextBuffer

end TerminalBuffer
