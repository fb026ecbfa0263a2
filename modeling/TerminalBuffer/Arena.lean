/-
The row allocator: a reserved range of address space, committed and constructed lazily.

`_reserve` reserves room for `height + 1` rows of `_bufferRowStride` bytes each, slot `0`
being the scratchpad, and commits nothing.  `_commitWatermark` is how far rows have
been constructed.  `_getRowByOffsetDirect(offset)` checks that the slot lies inside the
reservation, and if it lies at or past the watermark, `_commit` commits from the
watermark up to and including that slot plus `_commitReadAheadRowCount` more (capped at
the end), and `_construct` constructs every row in between.  `_decommit` destroys every
row below the watermark, releases the pages and moves the watermark back to the base.

Addresses are byte offsets from `_buffer`, so the watermark is a number of bytes and its
alignment to the stride is something to prove, not something the model assumes.  Each
construction is recorded in a ghost log, `constructed`, which is what "constructed
exactly once" is about; `destroy` returns the addresses `_destroy` visits.

The main result, `arena_reachable_inv`, holds along every run of accesses and resets:
the watermark is `k` strides for some `k ≤ height + 1`, the log is exactly the slots
`0, …, k - 1` in order, `_destroy` visits exactly them, and every access returns a row
lying wholly below the new watermark after committing a range inside the reservation.
`commit_rows` reads the byte arithmetic back as a count of rows; the buffer model
counts rows and cites it.
-/
import TerminalBuffer.Basic

namespace TerminalBuffer

/-- The allocation behind a `TextBuffer`, by byte offsets from `_buffer`. -/
structure Arena where
  /-- `_bufferRowStride`: a row header, its text and its column index. -/
  rowStride : Nat
  /-- `_commitReadAheadRowCount`, declared in the class header. -/
  readAhead : Nat
  /-- `_bufferEnd`. -/
  bufferEnd : Nat
  /-- `_commitWatermark`. -/
  commitWatermark : Nat
  /-- Ghost: the rows constructed since the last decommit, oldest first. -/
  constructed : List Nat
deriving DecidableEq, Repr

namespace Arena

/-- `_reserve`: room for `height + 1` rows, nothing committed. -/
def reserve (height rowStride readAhead : Nat) : Arena :=
  ⟨rowStride, readAhead, (height + 1) * rowStride, 0, []⟩

/-- The loop of `_construct(until)`: one `ROW` per stride while below `until`. -/
def constructLoop (stride upTo : Nat) : Nat → Nat → List Nat → Nat × List Nat
  | 0, w, log => (w, log)
  | fuel + 1, w, log =>
    if w < upTo then constructLoop stride upTo fuel (w + stride) (log ++ [w]) else (w, log)

/-- `_construct(until)`. -/
def construct (a : Arena) (upTo : Nat) : Arena :=
  let r := constructLoop a.rowStride upTo (upTo - a.commitWatermark) a.commitWatermark
    a.constructed
  { a with commitWatermark := r.1, constructed := r.2 }

/-- The `(address, size)` that `_commit(row)` passes to `VirtualAlloc`. -/
def commitRange (a : Arena) (row : Nat) : Nat × Nat :=
  let rowEnd := row + a.rowStride
  let remaining := a.bufferEnd - a.commitWatermark
  let minimum := rowEnd - a.commitWatermark
  let ideal := minimum + a.rowStride * a.readAhead
  (a.commitWatermark, min remaining ideal)

/-- `_commit(row)`. -/
def commit (a : Arena) (row : Nat) : Arena :=
  a.construct (a.commitWatermark + (a.commitRange row).2)

/-- The addresses `_destroy` visits. -/
def destroy (a : Arena) : List Nat :=
  (constructLoop a.rowStride a.commitWatermark a.commitWatermark 0 []).2

/-- `_decommit`. -/
def decommit (a : Arena) : Arena := { a with commitWatermark := 0, constructed := [] }

/-- `_getRowByOffsetDirect(offset)`: the row's address, or `E_UNEXPECTED` outside the
reservation. -/
def getRowByOffsetDirect (a : Arena) (offset : Nat) : Except String (Arena × Nat) :=
  let row := a.rowStride * offset
  if a.bufferEnd ≤ row then .error "E_UNEXPECTED"
  else if a.commitWatermark ≤ row then .ok (a.commit row, row) else .ok (a, row)

/-- One event of a run: an access to a slot, or a `Reset()`. -/
inductive Event
  | access (offset : Nat)
  | reset

/-- The arena after an event; an access that throws leaves it as it was. -/
def step (a : Arena) : Event → Arena
  | .access offset =>
    match a.getRowByOffsetDirect offset with
    | .ok r => r.1
    | .error _ => a
  | .reset => a.decommit

/-- The arenas reachable from `_reserve` by accesses to slots `0 … height` and resets. -/
inductive Reachable (height rowStride readAhead : Nat) : Arena → Prop
  | reserve : Reachable height rowStride readAhead (reserve height rowStride readAhead)
  | access {a : Arena} (offset : Nat) (h : offset ≤ height)
      (ha : Reachable height rowStride readAhead a) :
      Reachable height rowStride readAhead (a.step (.access offset))
  | reset {a : Arena} (ha : Reachable height rowStride readAhead a) :
      Reachable height rowStride readAhead (a.step .reset)

/-! ### Construction, one stride at a time -/

section Stride

variable {s : Nat}

/-- From `k` strides up to `k + n` strides, `_construct` builds rows `k … k + n - 1`. -/
theorem constructLoop_run (hs : 0 < s) (upTo : Nat) :
    ∀ n k fuel log, upTo = (k + n) * s → n ≤ fuel →
      constructLoop s upTo fuel (k * s) log =
        ((k + n) * s, log ++ (List.range' k n).map (· * s)) := by
  intro n
  induction n with
  | zero =>
    intro k fuel log hu _
    cases fuel with
    | zero => simp [constructLoop]
    | succ f => simp [constructLoop, hu]
  | succ n ih =>
    intro k fuel log hu hf
    obtain ⟨f, rfl⟩ : ∃ f, fuel = f + 1 := ⟨fuel - 1, by omega⟩
    have hlt : k * s < upTo := by rw [hu]; exact Nat.mul_lt_mul_of_pos_right (by omega) hs
    rw [constructLoop, if_pos hlt, show k * s + s = (k + 1) * s from (Nat.succ_mul k s).symm,
      ih (k + 1) f _ (by rw [hu, Nat.add_right_comm, Nat.add_assoc]) (by omega)]
    simp [List.range'_succ, Nat.add_right_comm, Nat.add_assoc]

/-- Fuel `k * s` is enough for `k` strides. -/
theorem le_mul_of_pos (hs : 0 < s) (k : Nat) : k ≤ k * s :=
  Nat.le_mul_of_pos_right k hs

end Stride

/-- What holds of every arena a run reaches: the watermark sits on a stride boundary
inside the reservation, and the rows below it were each constructed once, in order. -/
structure Inv (height rowStride readAhead : Nat) (a : Arena) : Prop where
  rowStride_eq : a.rowStride = rowStride
  readAhead_eq : a.readAhead = readAhead
  bufferEnd_eq : a.bufferEnd = (height + 1) * rowStride
  /-- The watermark is `k` strides, and the log is the slots below it. -/
  aligned : ∃ k ≤ height + 1, a.commitWatermark = k * rowStride ∧
    a.constructed = (List.range k).map (· * rowStride)

/-- How many rows are constructed once slot `offset` has been accessed with `k` built. -/
def commitRows (height readAhead k offset : Nat) : Nat :=
  if offset < k then k else min (height + 1) (offset + 1 + readAhead)

theorem commitRows_le (height readAhead k offset : Nat) (hk : k ≤ height + 1) :
    commitRows height readAhead k offset ≤ height + 1 := by
  unfold commitRows; split <;> omega

theorem le_commitRows (height readAhead k offset : Nat) (ho : offset ≤ height) :
    k ≤ commitRows height readAhead k offset ∧ offset + 1 ≤ commitRows height readAhead k offset := by
  unfold commitRows; split <;> omega

section Access

variable {height rowStride readAhead k offset : Nat} {a : Arena}

/-- The size `_commit` asks for, in strides. -/
theorem commitRange_size (hi : a.Inv height rowStride readAhead)
    (hk : a.commitWatermark = k * rowStride) :
    (a.commitRange (rowStride * offset)).2 =
      min (height + 1 - k) (offset + 1 - k + readAhead) * rowStride := by
  simp only [commitRange, hi.bufferEnd_eq, hi.rowStride_eq, hi.readAhead_eq, hk]
  rw [← Nat.mul_sub_right_distrib, Nat.mul_comm rowStride offset,
    show offset * rowStride + rowStride = (offset + 1) * rowStride from (Nat.succ_mul _ _).symm,
    ← Nat.mul_sub_right_distrib, Nat.mul_comm rowStride readAhead, ← Nat.add_mul,
    Nat.mul_min_mul_right]

/-- The log after a commit: the rows below the old watermark, then the new ones. -/
theorem range_map_append (k m : Nat) (f : Nat → Nat) :
    (List.range k).map f ++ (List.range' k m).map f = (List.range (k + m)).map f := by
  rw [← List.map_append, List.range_eq_range', List.range_eq_range', Nat.add_comm k m]
  simpa using congrArg (List.map f) (List.range'_append_1 0 k m)

/-- **One access.**  An access to a slot `offset ≤ height` returns the slot's address, and
leaves the watermark at `commitRows` strides with the log grown by exactly the rows in
between. -/
theorem getRowByOffsetDirect_spec (hs : 0 < rowStride) (hi : a.Inv height rowStride readAhead)
    (hk : a.commitWatermark = k * rowStride)
    (hc : a.constructed = (List.range k).map (· * rowStride)) (ho : offset ≤ height) :
    a.getRowByOffsetDirect offset =
      .ok ({ a with commitWatermark := commitRows height readAhead k offset * rowStride,
                    constructed := (List.range (commitRows height readAhead k offset)).map
                      (· * rowStride) }, rowStride * offset) := by
  have hsize : (a.commitRange (rowStride * offset)).2 = _ := commitRange_size hi hk
  obtain ⟨rs, ra, be, w, log⟩ := a
  obtain ⟨h1, h2, h3, -⟩ := hi
  simp only at h1 h2 h3 hk hc hsize hs ⊢
  subst h1 h2 h3 hk hc
  have hend : ¬ (height + 1) * rs ≤ rs * offset := by
    rw [Nat.mul_comm rs offset]
    exact Nat.not_le.mpr (Nat.mul_lt_mul_of_pos_right (by omega) hs)
  simp only [getRowByOffsetDirect, if_neg hend]
  by_cases hw : k * rs ≤ rs * offset
  · have hko : k ≤ offset := Nat.le_of_not_lt fun hlt => Nat.not_le.mpr
      (Nat.mul_lt_mul_of_pos_right hlt hs) (by rwa [Nat.mul_comm rs offset] at hw)
    have hrun := constructLoop_run hs (k * rs + min (height + 1 - k)
      (offset + 1 - k + ra) * rs) (min (height + 1 - k) (offset + 1 - k + ra))
      k (min (height + 1 - k) (offset + 1 - k + ra) * rs) ((List.range k).map (· * rs))
      (Nat.add_mul _ _ _).symm (le_mul_of_pos hs _)
    have hrows : commitRows height ra k offset = k + min (height + 1 - k) (offset + 1 - k + ra) := by
      unfold commitRows; rw [if_neg (by omega)]; omega
    simp only [if_pos hw, commit, construct, hsize, Nat.add_sub_cancel_left, hrun, hrows,
      range_map_append]
  · have hko : offset < k := Nat.lt_of_not_le fun hle => hw
      (by rw [Nat.mul_comm rs offset]; exact Nat.mul_le_mul_right rs hle)
    rw [if_neg hw, commitRows, if_pos hko]

/-- A commit asks `VirtualAlloc` for a range that ends inside the reservation. -/
theorem commitRange_le (hi : a.Inv height rowStride readAhead) (row : Nat) :
    (a.commitRange row).1 + (a.commitRange row).2 ≤ a.bufferEnd := by
  obtain ⟨k, hkh, hk, -⟩ := hi.aligned
  have : k * rowStride ≤ (height + 1) * rowStride := Nat.mul_le_mul_right _ hkh
  simp only [commitRange, hi.bufferEnd_eq, hk] at *
  omega

end Access

/-! ### Every run -/

section Run

variable {height rowStride readAhead : Nat} {a : Arena}

theorem inv_reserve (height rowStride readAhead : Nat) :
    (reserve height rowStride readAhead).Inv height rowStride readAhead :=
  ⟨rfl, rfl, rfl, 0, Nat.zero_le _, by simp [reserve], rfl⟩

theorem inv_access (hs : 0 < rowStride) (hi : a.Inv height rowStride readAhead) {offset : Nat}
    (ho : offset ≤ height) : (a.step (.access offset)).Inv height rowStride readAhead := by
  obtain ⟨k, hkh, hk, hc⟩ := hi.aligned
  simp only [step, getRowByOffsetDirect_spec hs hi hk hc ho]
  exact ⟨hi.rowStride_eq, hi.readAhead_eq, hi.bufferEnd_eq, _, commitRows_le _ _ _ _ hkh, rfl, rfl⟩

theorem inv_reset (hi : a.Inv height rowStride readAhead) :
    (a.step .reset).Inv height rowStride readAhead :=
  ⟨hi.rowStride_eq, hi.readAhead_eq, hi.bufferEnd_eq, 0, Nat.zero_le _, by simp [step, decommit],
    rfl⟩

theorem Reachable.inv (hs : 0 < rowStride) (h : Reachable height rowStride readAhead a) :
    a.Inv height rowStride readAhead := by
  induction h with
  | reserve => exact inv_reserve ..
  | access _ ho _ ih => exact inv_access hs ih ho
  | reset _ ih => exact inv_reset ih

/-- `_destroy` visits exactly the rows the log holds. -/
theorem destroy_eq (hs : 0 < rowStride) (hi : a.Inv height rowStride readAhead) :
    a.destroy = a.constructed := by
  obtain ⟨k, -, hk, hc⟩ := hi.aligned
  have hrun := constructLoop_run hs (k * rowStride) k 0 (k * rowStride) [] (by simp)
    (le_mul_of_pos hs k)
  simp only [Nat.zero_mul, Nat.zero_add] at hrun
  simp only [destroy, hi.rowStride_eq, hk, hrun, hc, List.range_eq_range', List.nil_append]

/-- **Every run of accesses and resets keeps the allocator sound.**  Along any run from
`_reserve`, the watermark is `k` strides for some `k ≤ height + 1` and the rows constructed
since the last decommit are exactly slots `0 … k - 1`, each once, in order; `_destroy`
visits exactly them.  Every access to a slot `offset ≤ height` returns that slot without
throwing, never lowers the watermark, leaves the whole row below it, and when it commits,
asks `VirtualAlloc` for a range ending inside the reservation.  A reset puts the
watermark back at the base with nothing constructed. -/
theorem arena_reachable_inv (hs : 0 < rowStride) (h : Reachable height rowStride readAhead a) :
    (∃ k ≤ height + 1, a.commitWatermark = k * rowStride ∧
        a.constructed = (List.range k).map (· * rowStride)) ∧
      a.destroy = a.constructed ∧
      (∀ offset ≤ height, ∃ a', a.getRowByOffsetDirect offset = .ok (a', rowStride * offset) ∧
        a.commitWatermark ≤ a'.commitWatermark ∧
        rowStride * offset + rowStride ≤ a'.commitWatermark ∧
        (a.commitRange (rowStride * offset)).1 + (a.commitRange (rowStride * offset)).2 ≤
          a.bufferEnd) ∧
      (a.step .reset).commitWatermark = 0 ∧ (a.step .reset).constructed = [] := by
  have hi := h.inv hs
  refine ⟨hi.aligned, destroy_eq hs hi, fun offset ho => ?_, rfl, rfl⟩
  obtain ⟨k, -, hk, hc⟩ := hi.aligned
  obtain ⟨hk', ho'⟩ := le_commitRows height readAhead k offset ho
  refine ⟨_, getRowByOffsetDirect_spec hs hi hk hc ho, ?_, ?_, commitRange_le hi _⟩
  · rw [hk]; exact Nat.mul_le_mul_right _ hk'
  · rw [Nat.mul_comm, ← Nat.succ_mul]; exact Nat.mul_le_mul_right _ ho'

/-- An arena for three rows of sixteen bytes with one row of read-ahead, after an access
to its last row. -/
def accessedOnce : Arena := (reserve 3 16 1).step (.access 3)

theorem arena_reachable_inv_accessedOnce :
    Reachable 3 16 1 accessedOnce ∧
      (∃ k ≤ 3 + 1, accessedOnce.commitWatermark = k * 16 ∧
          accessedOnce.constructed = (List.range k).map (· * 16)) ∧
      accessedOnce.destroy = accessedOnce.constructed ∧
      (∀ offset ≤ 3, ∃ a', accessedOnce.getRowByOffsetDirect offset = .ok (a', 16 * offset) ∧
        accessedOnce.commitWatermark ≤ a'.commitWatermark ∧
        16 * offset + 16 ≤ a'.commitWatermark ∧
        (accessedOnce.commitRange (16 * offset)).1 + (accessedOnce.commitRange (16 * offset)).2 ≤
          accessedOnce.bufferEnd) ∧
      (accessedOnce.step .reset).commitWatermark = 0 ∧ (accessedOnce.step .reset).constructed = [] :=
  have h : Reachable 3 16 1 accessedOnce := .access 3 (by decide) .reserve
  ⟨h, arena_reachable_inv (by decide) h⟩

end Run

end Arena

end TerminalBuffer
