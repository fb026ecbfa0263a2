/-
How much text fits into a number of columns.

`FitTextIntoColumns(chars, columnLimit, columns)` counts the code units of `chars` that fit
into `columnLimit` columns and sets `columns` to the columns they use.  It first runs over
ASCII, a column a code unit, up to the limit; at the first other code unit it goes on one
glyph at a time, a valid surrogate pair as one glyph and any other surrogate measured as
U+FFFD, a column each and a second where `IsGlyphFullWidth` says so.  When a glyph does not
fit it reports the whole limit as used, so that the caller wraps, even where a column was
left over.  The comment on the function says `ROW`'s writes of a `RowWriteState` follow the
same rule.

The spec reads the function by units (`units`, `unitColumns`): it returns the code units
of the longest run of leading units whose columns fit, and the columns of the whole text
or the whole limit.  `fitTextIntoColumns_spec` proves the model computes exactly that,
for every text, unpaired surrogates included, every limit and every `IsGlyphFullWidth`.
The longest run is `Fits`, a statement about the list of widths alone, and what a second
call on the rest of the text adds is read off it (`Fits.append`).
-/
import TerminalBuffer.Export.Runs

namespace TerminalBuffer

open Export (isHighSurrogate isLowSurrogate)

/-- `til::is_surrogate`. -/
def isSurrogate (u : UInt16) : Bool := isHighSurrogate u || isLowSurrogate u

/-- `UNICODE_REPLACEMENT`. -/
def unicodeReplacement : UInt16 := 0xFFFD

section Fit

/-! `IsGlyphFullWidth`, of `GlyphWidth.hpp`, is not among the sources: it is a parameter. -/

variable (isGlyphFullWidth : List UInt16 → Bool)

/-- The second column a glyph takes where `IsGlyphFullWidth` says so. -/
def extraColumn (glyph : List UInt16) : Nat := if isGlyphFullWidth glyph then 1 else 0

/-- One turn of the slow path at `c`, with `tail` after it: the code units it advances over
and the columns it counts. -/
def measureGlyph (c : UInt16) (tail : List UInt16) : Nat × Nat :=
  if c.toNat < 0x80 then (1, 1)
  else if isSurrogate c then
    match tail with
    | d :: _ =>
      if isHighSurrogate c && isLowSurrogate d then (2, 1 + extraColumn isGlyphFullWidth [c, d])
      else (1, 1 + extraColumn isGlyphFullWidth [unicodeReplacement])
    | [] => (1, 1 + extraColumn isGlyphFullWidth [unicodeReplacement])
  else (1, 1 + extraColumn isGlyphFullWidth [c])

/-- The ASCII fast path: the code units below `0x80` at the start of the text, at most `n`. -/
def asciiRun : Nat → List UInt16 → Nat
  | 0, _ => 0
  | _, [] => 0
  | n + 1, c :: cs => if c.toNat < 0x80 then asciiRun n cs + 1 else 0

/-- The slow path's `for (;;)` from `it`, the rest of the text, with `consumed = it - beg`
and `col` columns counted: the count it returns and `columns`.  `size` is `chars.size()`. -/
def slowPath (columnLimit size : Nat) : List UInt16 → Nat → Nat → Nat × Nat
  | [], consumed, col => (consumed, col)
  | [c], consumed, col =>
    let g := measureGlyph isGlyphFullWidth c []
    if col + g.2 > columnLimit then (consumed, columnLimit) else (size, col + g.2)
  | c :: d :: rest, consumed, col =>
    let g := measureGlyph isGlyphFullWidth c (d :: rest)
    if col + g.2 > columnLimit then (consumed, columnLimit)
    else if g.1 = 2 then
      if rest = [] then (size, col + g.2)
      else slowPath columnLimit size rest (consumed + 2) (col + g.2)
    else slowPath columnLimit size (d :: rest) (consumed + 1) (col + g.2)

/-- `FitTextIntoColumns(chars, columnLimit, columns)`: the code units that fit, and
`columns`, which is never negative. -/
def fitTextIntoColumns (chars : List UInt16) (columnLimit : Int) : Nat × Nat :=
  let columnLimit := (max 0 columnLimit).toNat
  let asciiEnd := min chars.length columnLimit
  let dist := asciiRun asciiEnd chars
  if dist = asciiEnd then (dist, dist)
  else slowPath isGlyphFullWidth columnLimit chars.length (chars.drop dist) dist dist

/-! ### The spec's reading -/

/-- The spec's units: a valid surrogate pair is one unit, any other code unit is one. -/
def units : List UInt16 → List (List UInt16)
  | [] => []
  | [c] => [[c]]
  | c :: d :: rest =>
    if isHighSurrogate c && isLowSurrogate d then [c, d] :: units rest else [c] :: units (d :: rest)

/-- The spec's columns of a unit: one below `0x80`, else one more where `IsGlyphFullWidth`
says so, an unpaired surrogate measured as U+FFFD. -/
def unitColumns (u : List UInt16) : Nat :=
  match u with
  | [c] =>
    if c.toNat < 0x80 then 1
    else if isSurrogate c then 1 + extraColumn isGlyphFullWidth [unicodeReplacement]
    else 1 + extraColumn isGlyphFullWidth [c]
  | _ => 1 + extraColumn isGlyphFullWidth u

/-- The columns of a whole text, unit by unit. -/
def textColumns (t : List UInt16) : Nat := ((units t).map (unitColumns isGlyphFullWidth)).sum

example : units [0x61, 0xD83D, 0xDE00, 0xDC00] = [[0x61], [0xD83D, 0xDE00], [0xDC00]] := by decide

/-! ### The longest run that fits -/

/-- `k` is the largest number of leading widths that sum to at most `L`. -/
def Fits (ws : List Nat) (L k : Nat) : Prop :=
  k ≤ ws.length ∧ (ws.take k).sum ≤ L ∧ ∀ j ≤ ws.length, (ws.take j).sum ≤ L → j ≤ k

theorem fits_nil (L : Nat) : Fits [] L 0 := ⟨le_refl _, by simp, fun _ hj _ => hj⟩

theorem Fits.cons {ws : List Nat} {L k w : Nat} (hw : w ≤ L) (h : Fits ws (L - w) k) :
    Fits (w :: ws) L (k + 1) := by
  refine ⟨by simpa using h.1, ?_, fun j hj hs => ?_⟩
  · have := h.2.1
    simp only [List.take_succ_cons, List.sum_cons]
    omega
  · cases j with
    | zero => omega
    | succ j =>
      simp only [List.take_succ_cons, List.sum_cons, List.length_cons] at hs hj
      have := h.2.2 j (by omega) (by omega)
      omega

theorem fits_cons_zero {ws : List Nat} {L w : Nat} (hw : L < w) : Fits (w :: ws) L 0 := by
  refine ⟨Nat.zero_le _, by simp, fun j _ hs => ?_⟩
  cases j with
  | zero => rfl
  | succ j => simp only [List.take_succ_cons, List.sum_cons] at hs; omega

theorem Fits.unique {ws : List Nat} {L k₁ k₂ : Nat} (h₁ : Fits ws L k₁) (h₂ : Fits ws L k₂) :
    k₁ = k₂ :=
  Nat.le_antisymm (h₂.2.2 k₁ h₁.1 h₁.2.1) (h₁.2.2 k₂ h₂.1 h₂.2.1)

/-- `m` columns of one each in front. -/
theorem Fits.ones {ws : List Nat} {L k m : Nat} (hm : m ≤ L) (h : Fits ws (L - m) k) :
    Fits (List.replicate m 1 ++ ws) L (m + k) := by
  induction m generalizing L with
  | zero => simpa using h
  | succ m ih =>
    have := @Fits.cons (List.replicate m 1 ++ ws) L (m + k) 1 (by omega)
      (ih (L := L - 1) (by omega) (by rwa [Nat.sub_sub, Nat.add_comm 1 m]))
    rwa [List.replicate_succ, List.cons_append, Nat.add_right_comm]

/-- **A first run that used its whole limit, or every width, then the longest run of what
is left, is the longest run under the two limits together.** -/
theorem Fits.append {ws : List Nat} {L₁ L₂ k₁ k₂ : Nat} (h₁ : Fits ws L₁ k₁)
    (hfull : k₁ = ws.length ∨ (ws.take k₁).sum = L₁) (h₂ : Fits (ws.drop k₁) L₂ k₂) :
    Fits ws (L₁ + L₂) (k₁ + k₂) := by
  have hlen := h₂.1
  rw [List.length_drop] at hlen
  have hsum : ∀ j, (ws.take (k₁ + j)).sum = (ws.take k₁).sum + ((ws.drop k₁).take j).sum := by
    intro j; rw [List.take_add, List.sum_append]
  have := h₁.1
  refine ⟨by omega, by rw [hsum]; have := h₁.2.1; have := h₂.2.1; omega, fun j hj hs => ?_⟩
  by_cases hj₁ : j ≤ k₁
  · omega
  · obtain ⟨j', rfl⟩ := Nat.exists_eq_add_of_le (Nat.le_of_not_le hj₁)
    rcases hfull with hk | hk
    · omega
    · rw [hsum, hk] at hs
      have := h₂.2.2 j' (by rw [List.length_drop]; omega) (by omega)
      omega

/-! ### Units, one at a time -/

theorem units_cons_of_pair {c d : UInt16} (h : (isHighSurrogate c && isLowSurrogate d) = true)
    (rest : List UInt16) : units (c :: d :: rest) = [c, d] :: units rest := by
  rw [units, if_pos h]

theorem units_cons_of_not_pair {c : UInt16} {tail : List UInt16}
    (h : ∀ d rest, tail = d :: rest → (isHighSurrogate c && isLowSurrogate d) = false) :
    units (c :: tail) = [c] :: units tail := by
  cases tail with
  | nil => rfl
  | cons d rest => rw [units, if_neg (by simp [h d rest rfl])]

theorem ge_of_isHighSurrogate {c : UInt16} (h : isHighSurrogate c = true) : 0x80 ≤ c.toNat := by
  simp only [Export.isHighSurrogate, Bool.and_eq_true, decide_eq_true_eq] at h
  omega

theorem isHighSurrogate_of_lt {c : UInt16} (h : c.toNat < 0x80) : isHighSurrogate c = false := by
  simp only [Export.isHighSurrogate, Bool.and_eq_false_iff, decide_eq_false_iff_not]
  omega

theorem measureGlyph_of_pair {c d : UInt16} (h : (isHighSurrogate c && isLowSurrogate d) = true)
    (rest : List UInt16) :
    measureGlyph isGlyphFullWidth c (d :: rest) = (2, unitColumns isGlyphFullWidth [c, d]) := by
  obtain ⟨hh, hl⟩ := Bool.and_eq_true_iff.1 h
  simp only [measureGlyph, isSurrogate, hh, hl, Bool.true_or, Bool.and_self, if_true,
    if_neg (Nat.not_lt.2 (ge_of_isHighSurrogate hh)), unitColumns]

theorem measureGlyph_of_not_pair {c : UInt16} {tail : List UInt16}
    (h : ∀ d rest, tail = d :: rest → (isHighSurrogate c && isLowSurrogate d) = false) :
    measureGlyph isGlyphFullWidth c tail = (1, unitColumns isGlyphFullWidth [c]) := by
  have hu : unitColumns isGlyphFullWidth [c] = if c.toNat < 0x80 then 1
      else if isSurrogate c then 1 + extraColumn isGlyphFullWidth [unicodeReplacement]
      else 1 + extraColumn isGlyphFullWidth [c] := rfl
  rw [hu]
  unfold measureGlyph
  split_ifs with h1 h2
  · rfl
  · cases tail with
    | nil => rfl
    | cons d rest => simp only [h d rest rfl, Bool.false_eq_true, if_false]
  · rfl

/-- Every unit takes a column at least. -/
theorem one_le_unitColumns (u : List UInt16) : 1 ≤ unitColumns isGlyphFullWidth u := by
  unfold unitColumns; split
  · split_ifs <;> omega
  · omega

theorem unitColumns_of_lt {c : UInt16} (h : c.toNat < 0x80) : unitColumns isGlyphFullWidth [c] = 1 :=
  if_pos h

/-- ASCII in front splits off one unit a code unit. -/
theorem units_append_of_ascii {a : List UInt16} (h : ∀ c ∈ a, c.toNat < 0x80) (t : List UInt16) :
    units (a ++ t) = a.map (fun c => [c]) ++ units t := by
  induction a with
  | nil => rfl
  | cons c a ih =>
    rw [List.cons_append, units_cons_of_not_pair fun d rest _ => by
      simp [isHighSurrogate_of_lt (h c (List.mem_cons_self c a))],
      ih fun x hx => h x (List.mem_cons_of_mem c hx), List.map_cons, List.cons_append]

/-! ### The two paths -/

/-- **The slow path takes the longest run of units that fits into the columns left.** -/
theorem slowPath_spec (L size : Nat) :
    ∀ (t : List UInt16) (consumed col : Nat), t ≠ [] → col ≤ L → size = consumed + t.length →
      ∃ k, Fits ((units t).map (unitColumns isGlyphFullWidth)) (L - col) k ∧
        (slowPath isGlyphFullWidth L size t consumed col).1 =
          consumed + (((units t).take k).map List.length).sum ∧
        (slowPath isGlyphFullWidth L size t consumed col).2 =
          if k = (units t).length then col + textColumns isGlyphFullWidth t else L
  | [], _, _, h, _, _ => absurd rfl h
  | [c], consumed, col, _, hcol, hsize => by
    have hg : measureGlyph isGlyphFullWidth c [] = (1, unitColumns isGlyphFullWidth [c]) :=
      measureGlyph_of_not_pair _ fun _ _ h => nomatch h
    simp only [slowPath, hg, textColumns, units, List.map_cons, List.map_nil, List.sum_cons,
      List.sum_nil, List.length_cons, List.length_nil] at hsize ⊢
    split_ifs with hover
    · exact ⟨0, fits_cons_zero (by omega), by simp, by simp⟩
    · exact ⟨1, Fits.cons (by omega) (fits_nil _), by simp [hsize], by simp⟩
  | c :: d :: rest, consumed, col, _, hcol, hsize => by
    simp only [List.length_cons] at hsize
    by_cases hp : (isHighSurrogate c && isLowSurrogate d) = true
    · have hg := measureGlyph_of_pair isGlyphFullWidth hp rest
      simp only [slowPath, hg, textColumns, units_cons_of_pair hp, List.map_cons, List.sum_cons,
        List.length_cons, if_true]
      split_ifs with hover hrest
      · exact ⟨0, fits_cons_zero (by omega), by simp, by simp⟩
      · subst hrest
        exact ⟨1, Fits.cons (by omega) (fits_nil _), by simp [units, hsize], by simp [units]⟩
      · obtain ⟨k, hk, h1, h2⟩ := slowPath_spec L size rest (consumed + 2)
          (col + unitColumns isGlyphFullWidth [c, d]) hrest (by omega) (by omega)
        refine ⟨k + 1, Fits.cons (by omega) (by rwa [Nat.sub_sub]), ?_, ?_⟩
        · rw [h1]; simp only [List.take_succ_cons, List.map_cons, List.sum_cons, List.length_cons,
            List.length_nil]; omega
        · rw [h2, textColumns]; simp only [Nat.add_right_cancel_iff]; split_ifs <;> omega
    · have hg : measureGlyph isGlyphFullWidth c (d :: rest) = (1, unitColumns isGlyphFullWidth [c]) :=
        measureGlyph_of_not_pair _ fun _ _ h => by cases h; exact Bool.eq_false_iff.2 hp
      have hu := @units_cons_of_not_pair c (d :: rest) fun _ _ h => by
        cases h; exact Bool.eq_false_iff.2 hp
      simp only [slowPath, hg, textColumns, hu, List.map_cons, List.sum_cons, List.length_cons,
        if_neg (show ¬ (1 : Nat) = 2 by decide)]
      split_ifs with hover
      · exact ⟨0, fits_cons_zero (by omega), by simp, by simp⟩
      · obtain ⟨k, hk, h1, h2⟩ := slowPath_spec L size (d :: rest) (consumed + 1)
          (col + unitColumns isGlyphFullWidth [c]) (List.cons_ne_nil _ _) (by omega)
          (by simp only [List.length_cons]; omega)
        refine ⟨k + 1, Fits.cons (by omega) (by rwa [Nat.sub_sub]), ?_, ?_⟩
        · rw [h1]; simp only [List.take_succ_cons, List.map_cons, List.sum_cons, List.length_cons,
            List.length_nil]; omega
        · rw [h2, textColumns]; simp only [Nat.add_right_cancel_iff]; split_ifs <;> omega

/-- The fast path counts ASCII only, and stops short of the limit and the text only at a code
unit that is not ASCII. -/
theorem asciiRun_spec : ∀ (n : Nat) (s : List UInt16),
    asciiRun n s ≤ n ∧ asciiRun n s ≤ s.length ∧ (∀ c ∈ s.take (asciiRun n s), c.toNat < 0x80) ∧
      (asciiRun n s < n → asciiRun n s < s.length →
        ∃ c rest, s.drop (asciiRun n s) = c :: rest ∧ 0x80 ≤ c.toNat)
  | 0, s => by simp [asciiRun]
  | n + 1, [] => by simp [asciiRun]
  | n + 1, c :: cs => by
    obtain ⟨ih1, ih2, ih3, ih4⟩ := asciiRun_spec n cs
    by_cases hc : c.toNat < 0x80
    · simp only [asciiRun, if_pos hc, List.take_succ_cons, List.drop_succ_cons, List.length_cons,
        List.mem_cons, forall_eq_or_imp]
      exact ⟨by omega, by omega, ⟨hc, ih3⟩, fun h h' => ih4 (by omega) (by omega)⟩
    · simp only [asciiRun, if_neg hc]
      exact ⟨Nat.zero_le _, Nat.zero_le _, by simp, fun _ _ => ⟨c, cs, rfl, by omega⟩⟩

/-- ASCII in front: a column a code unit. -/
theorem map_unitColumns_of_ascii {a : List UInt16} (h : ∀ c ∈ a, c.toNat < 0x80) :
    (a.map (fun c => [c])).map (unitColumns isGlyphFullWidth) = List.replicate a.length 1 := by
  induction a with
  | nil => rfl
  | cons c a ih =>
    rw [List.map_cons, List.map_cons, unitColumns_of_lt isGlyphFullWidth (h c (List.mem_cons_self c a)),
      ih fun x hx => h x (List.mem_cons_of_mem c hx), List.length_cons, List.replicate_succ]

theorem textColumns_append_of_ascii {a : List UInt16} (h : ∀ c ∈ a, c.toNat < 0x80)
    (t : List UInt16) :
    textColumns isGlyphFullWidth (a ++ t) = a.length + textColumns isGlyphFullWidth t := by
  rw [textColumns, units_append_of_ascii h, List.map_append, List.sum_append,
    map_unitColumns_of_ascii isGlyphFullWidth h]
  simp [textColumns]

theorem sum_take_length_append_of_ascii (a : List UInt16) (us : List (List UInt16)) (k : Nat) :
    (((a.map (fun c => [c]) ++ us).take (a.length + k)).map List.length).sum =
      a.length + ((us.take k).map List.length).sum := by
  rw [← List.length_map a (fun c => [c]), List.take_append, List.map_append, List.sum_append]
  simp [Function.comp_def]

/-- A text that starts with ASCII, split after it: its units' columns, their count, and the
code units of its first units. -/
theorem units_split_of_ascii {a : List UInt16} (h : ∀ c ∈ a, c.toNat < 0x80) (t : List UInt16) :
    (units (a ++ t)).map (unitColumns isGlyphFullWidth) =
        List.replicate a.length 1 ++ (units t).map (unitColumns isGlyphFullWidth) ∧
      (units (a ++ t)).length = a.length + (units t).length ∧
      ∀ k, (((units (a ++ t)).take (a.length + k)).map List.length).sum =
        a.length + (((units t).take k).map List.length).sum := by
  rw [units_append_of_ascii h]
  exact ⟨by rw [List.map_append, map_unitColumns_of_ascii isGlyphFullWidth h], by simp,
    sum_take_length_append_of_ascii a (units t)⟩

/-- **`FitTextIntoColumns` is the spec's reading of it.**  It returns the code units of the
longest run of leading units that fits into `max(0, columnLimit)` columns, and reports the
columns of the whole text when that run is the whole text and the whole limit otherwise. -/
theorem fitTextIntoColumns_spec (chars : List UInt16) (columnLimit : Int) :
    ∃ k, Fits ((units chars).map (unitColumns isGlyphFullWidth)) (max 0 columnLimit).toNat k ∧
      (fitTextIntoColumns isGlyphFullWidth chars columnLimit).1 =
        (((units chars).take k).map List.length).sum ∧
      (fitTextIntoColumns isGlyphFullWidth chars columnLimit).2 =
        if k = (units chars).length then textColumns isGlyphFullWidth chars
        else (max 0 columnLimit).toNat := by
  obtain ⟨hle, hle', hascii, hstop⟩ := asciiRun_spec (min chars.length (max 0 columnLimit).toNat) chars
  unfold fitTextIntoColumns
  dsimp only
  generalize (max 0 columnLimit).toNat = L at hle hle' hascii hstop ⊢
  generalize hd : asciiRun (min chars.length L) chars = d at hle hle' hascii hstop ⊢
  have hdl : (chars.take d).length = d := List.length_take_of_le (by omega)
  obtain ⟨hws, hlen, htake⟩ := units_split_of_ascii isGlyphFullWidth hascii (chars.drop d)
  have hcols := textColumns_append_of_ascii isGlyphFullWidth hascii (chars.drop d)
  rw [List.take_append_drop, hdl] at hws hlen htake hcols
  split_ifs with heq
  · by_cases hall : chars.length ≤ L
    · have hdrop : chars.drop d = [] := List.drop_eq_nil_of_le (by omega)
      refine ⟨d + 0, ?_, ?_, ?_⟩
      · rw [hws, hdrop]; exact Fits.ones (by omega) (fits_nil _)
      · rw [htake]; simp
      · rw [hlen, hcols, hdrop]; simp [textColumns, units]
    · obtain ⟨c, rest, hcr⟩ : ∃ c rest, chars.drop d = c :: rest :=
        List.exists_cons_of_ne_nil (by rw [ne_eq, List.drop_eq_nil_iff]; omega)
      have hne : units (chars.drop d) ≠ [] := by
        rw [hcr]; cases rest <;> simp only [units] <;> (try split_ifs) <;> simp
      obtain ⟨u, us, hu⟩ := List.exists_cons_of_ne_nil hne
      refine ⟨d + 0, ?_, ?_, ?_⟩
      · rw [hws, hu, List.map_cons]
        exact Fits.ones (by omega) (fits_cons_zero (by have := one_le_unitColumns isGlyphFullWidth u; omega))
      · rw [htake]; simp
      · rw [if_neg (by rw [hlen, hu]; simp)]
        exact heq.trans (Nat.min_eq_right (Nat.le_of_lt (Nat.lt_of_not_le hall)))
  · obtain ⟨c, rest, hcr, -⟩ := hstop (by omega) (by omega)
    obtain ⟨k, hk, h1, h2⟩ := slowPath_spec isGlyphFullWidth L chars.length (chars.drop d) d d
      (by rw [hcr]; exact List.cons_ne_nil _ _) (by omega) (by rw [List.length_drop]; omega)
    refine ⟨d + k, ?_, by rw [h1, htake], ?_⟩
    · rw [hws]; exact Fits.ones (by omega) hk
    · rw [h2, hlen, hcols]; simp only [Nat.add_left_cancel_iff]

/-! ### Where a run of units ends -/

/-- The code units of the first `k` units start the text, and the rest of it splits into
the other units. -/
theorem units_drop_sum_take :
    ∀ (chars : List UInt16) (k : Nat),
      units (chars.drop (((units chars).take k).map List.length).sum) = (units chars).drop k
  | [], _ => by simp [units]
  | [_], 0 => rfl
  | [_], _ + 1 => by simp [units]
  | _ :: _ :: _, 0 => rfl
  | c :: d :: rest, k + 1 => by
    by_cases hp : (isHighSurrogate c && isLowSurrogate d) = true
    · rw [units_cons_of_pair hp, List.take_succ_cons, List.map_cons, List.sum_cons, List.drop_succ_cons]
      show units (([c, d] ++ rest).drop ([c, d].length + _)) = _
      rw [List.drop_append]
      exact units_drop_sum_take rest k
    · rw [units_cons_of_not_pair fun _ _ h => by cases h; exact Bool.eq_false_iff.2 hp,
        List.take_succ_cons, List.map_cons, List.sum_cons, List.drop_succ_cons]
      show units (([c] ++ d :: rest).drop ([c].length + _)) = _
      rw [List.drop_append]
      exact units_drop_sum_take (d :: rest) k

theorem units_take_sum_take :
    ∀ (chars : List UInt16) (k : Nat),
      units (chars.take (((units chars).take k).map List.length).sum) = (units chars).take k
  | [], _ => by simp [units]
  | [_], 0 => rfl
  | [_], _ + 1 => by simp [units]
  | _ :: _ :: _, 0 => rfl
  | c :: d :: rest, k + 1 => by
    by_cases hp : (isHighSurrogate c && isLowSurrogate d) = true
    · rw [units_cons_of_pair hp, List.take_succ_cons, List.map_cons, List.sum_cons]
      show units (([c, d] ++ rest).take ([c, d].length + _)) = _
      rw [List.take_append, List.cons_append, List.cons_append, List.nil_append, units_cons_of_pair hp,
        units_take_sum_take rest k]
    · have hne : ∀ d' rest', d :: rest = d' :: rest' → (isHighSurrogate c && isLowSurrogate d') = false :=
        fun _ _ h => by cases h; exact Bool.eq_false_iff.2 hp
      rw [units_cons_of_not_pair hne, List.take_succ_cons, List.map_cons, List.sum_cons]
      show units (([c] ++ d :: rest).take ([c].length + _)) = _
      rw [List.take_append, List.singleton_append, units_cons_of_not_pair, units_take_sum_take (d :: rest) k]
      intro d' rest' h
      cases hm : (((units (d :: rest)).take k).map List.length).sum with
      | zero => rw [hm] at h; cases h
      | succ m => rw [hm, List.take_succ_cons] at h; exact hne d' _ (by cases h; rfl)

/-- The units are the text, cut up. -/
theorem sum_map_length_units : ∀ t : List UInt16, ((units t).map List.length).sum = t.length
  | [] => rfl
  | [_] => rfl
  | c :: d :: rest => by
    by_cases hp : (isHighSurrogate c && isLowSurrogate d) = true
    · rw [units_cons_of_pair hp, List.map_cons, List.sum_cons, sum_map_length_units rest]
      simp only [List.length_cons, List.length_nil]; omega
    · rw [units_cons_of_not_pair fun _ _ h => by cases h; exact Bool.eq_false_iff.2 hp, List.map_cons,
        List.sum_cons, sum_map_length_units (d :: rest)]
      simp only [List.length_cons, List.length_nil]; omega

theorem length_pos_of_mem_units : ∀ {t : List UInt16} {u : List UInt16}, u ∈ units t → 0 < u.length
  | [], _, h => by simp [units] at h
  | [_], _, h => by simp only [units, List.mem_singleton] at h; subst h; simp
  | c :: d :: rest, u, h => by
    by_cases hp : (isHighSurrogate c && isLowSurrogate d) = true
    · rw [units_cons_of_pair hp, List.mem_cons] at h
      rcases h with rfl | h
      · simp
      · exact length_pos_of_mem_units h
    · rw [units_cons_of_not_pair fun _ _ h => by cases h; exact Bool.eq_false_iff.2 hp,
        List.mem_cons] at h
      rcases h with rfl | h
      · simp
      · exact length_pos_of_mem_units h

theorem units_ne_nil {t : List UInt16} (h : t ≠ []) : units t ≠ [] := by
  intro hu
  have := sum_map_length_units t
  rw [hu] at this
  exact h (List.length_eq_zero.1 this.symm)

theorem unitColumns_le_two (u : List UInt16) : unitColumns isGlyphFullWidth u ≤ 2 := by
  unfold unitColumns extraColumn; split <;> split_ifs <;> omega

/-- `columns` never passes the limit. -/
theorem fitTextIntoColumns_snd_le (chars : List UInt16) (columnLimit : Int) :
    (fitTextIntoColumns isGlyphFullWidth chars columnLimit).2 ≤ (max 0 columnLimit).toNat := by
  obtain ⟨k, hk, -, h2⟩ := fitTextIntoColumns_spec isGlyphFullWidth chars columnLimit
  rw [h2]
  split_ifs with hall
  · have := hk.2.1
    rwa [hall, List.take_of_length_le (by simp)] at this
  · exact le_refl _

/-- The count never passes the text. -/
theorem fitTextIntoColumns_fst_le (chars : List UInt16) (columnLimit : Int) :
    (fitTextIntoColumns isGlyphFullWidth chars columnLimit).1 ≤ chars.length := by
  obtain ⟨k, -, h1, -⟩ := fitTextIntoColumns_spec isGlyphFullWidth chars columnLimit
  have := sum_map_length_units chars
  rw [← List.take_append_drop k (units chars), List.map_append, List.sum_append] at this
  omega

/-- A text and a limit that are not empty use a column at least: the first glyph, or, when it
does not fit, the whole limit. -/
theorem fitTextIntoColumns_snd_pos {chars : List UInt16} (hne : chars ≠ []) {columnLimit : Int}
    (hL : 0 < columnLimit) : 0 < (fitTextIntoColumns isGlyphFullWidth chars columnLimit).2 := by
  obtain ⟨k, -, -, h2⟩ := fitTextIntoColumns_spec isGlyphFullWidth chars columnLimit
  obtain ⟨u, us, hu⟩ := List.exists_cons_of_ne_nil (units_ne_nil hne)
  have := one_le_unitColumns isGlyphFullWidth u
  rw [h2]
  split_ifs
  · simp only [textColumns, hu, List.map_cons, List.sum_cons]; omega
  · omega

/-- A first unit wider than the limit: nothing fits and the whole limit is reported. -/
theorem fitTextIntoColumns_of_lt_head {chars : List UInt16} {columnLimit : Int} {u : List UInt16}
    {us : List (List UInt16)} (hu : units chars = u :: us)
    (hlt : (max 0 columnLimit).toNat < unitColumns isGlyphFullWidth u) :
    fitTextIntoColumns isGlyphFullWidth chars columnLimit = (0, (max 0 columnLimit).toNat) := by
  obtain ⟨k, hk, h1, h2⟩ := fitTextIntoColumns_spec isGlyphFullWidth chars columnLimit
  rw [hu, List.map_cons] at hk
  obtain rfl := hk.unique (fits_cons_zero hlt)
  rw [hu, if_neg (by simp)] at h2
  exact Prod.ext h1 h2

/-- Nothing taken from a text means its first unit did not fit. -/
theorem fitTextIntoColumns_fst_eq_zero {chars : List UInt16} {columnLimit : Int} (hne : chars ≠ [])
    (h0 : (fitTextIntoColumns isGlyphFullWidth chars columnLimit).1 = 0) :
    ∃ u us, units chars = u :: us ∧ (max 0 columnLimit).toNat < unitColumns isGlyphFullWidth u := by
  obtain ⟨u, us, hu⟩ := List.exists_cons_of_ne_nil (units_ne_nil hne)
  refine ⟨u, us, hu, Nat.lt_of_not_le fun hle => ?_⟩
  obtain ⟨k, hk, h1, -⟩ := fitTextIntoColumns_spec isGlyphFullWidth chars columnLimit
  have hpos := length_pos_of_mem_units (hu ▸ List.mem_cons_self u us)
  have h1k : 1 ≤ k := hk.2.2 1 (by simp [hu]) (by simpa [hu] using hle)
  obtain ⟨k, rfl⟩ := Nat.exists_eq_add_of_le' h1k
  rw [hu, List.take_succ_cons, List.map_cons, List.sum_cons] at h1
  omega

/-! ### The spec's reading, and two calls -/

/-- **`FitTextIntoColumns` by units.**  For every text, unpaired surrogates included, every
limit and every `IsGlyphFullWidth`: the count it returns is the code units of the largest
number `k` of leading units whose columns fit into `max(0, columnLimit)`, and `columns` is
the width of the whole text when those are all of it, and the limit otherwise.  So a pair is
never split, and after a first call with `L₁` that wasted no column, a second call on the
rest with `L₂` takes what one call with `L₁ + L₂` takes. -/
theorem fitTextIntoColumns_eq_units (chars : List UInt16) (columnLimit : Int) :
    (∃ k ≤ (units chars).length,
      (fitTextIntoColumns isGlyphFullWidth chars columnLimit).1 =
          (((units chars).take k).map List.length).sum ∧
        (((units chars).take k).map (unitColumns isGlyphFullWidth)).sum ≤
          (max 0 columnLimit).toNat ∧
        (∀ j ≤ (units chars).length,
          (((units chars).take j).map (unitColumns isGlyphFullWidth)).sum ≤
            (max 0 columnLimit).toNat → j ≤ k) ∧
        (fitTextIntoColumns isGlyphFullWidth chars columnLimit).2 =
          if k = (units chars).length then textColumns isGlyphFullWidth chars
          else (max 0 columnLimit).toNat) ∧
    ∀ L₁ L₂ : Nat,
      (fitTextIntoColumns isGlyphFullWidth chars L₁).2 =
          textColumns isGlyphFullWidth (chars.take (fitTextIntoColumns isGlyphFullWidth chars L₁).1) →
        (fitTextIntoColumns isGlyphFullWidth chars L₁).1 +
            (fitTextIntoColumns isGlyphFullWidth
              (chars.drop (fitTextIntoColumns isGlyphFullWidth chars L₁).1) L₂).1 =
          (fitTextIntoColumns isGlyphFullWidth chars (L₁ + L₂ : Nat)).1 := by
  have hL : ∀ L : Nat, (max 0 (L : Int)).toNat = L := fun L => by omega
  refine ⟨?_, fun L₁ L₂ hwaste => ?_⟩
  · obtain ⟨k, hk, h1, h2⟩ := fitTextIntoColumns_spec isGlyphFullWidth chars columnLimit
    refine ⟨k, by simpa using hk.1, h1, by rw [List.map_take]; exact hk.2.1, fun j hj hs => ?_, h2⟩
    exact hk.2.2 j (by simpa using hj) (by rwa [← List.map_take])
  · obtain ⟨k₁, hk₁, a₁, b₁⟩ := fitTextIntoColumns_spec isGlyphFullWidth chars L₁
    obtain ⟨k₂, hk₂, a₂, -⟩ := fitTextIntoColumns_spec isGlyphFullWidth
      (chars.drop (fitTextIntoColumns isGlyphFullWidth chars L₁).1) L₂
    obtain ⟨k, hk, a, -⟩ := fitTextIntoColumns_spec isGlyphFullWidth chars (L₁ + L₂ : Nat)
    rw [hL] at hk₁ hk₂ hk b₁
    rw [a₁, units_drop_sum_take, List.map_drop] at hk₂
    rw [a₁, textColumns, units_take_sum_take, List.map_take] at hwaste
    rw [a₂, a₁, units_drop_sum_take, a, hk.unique (hk₁.append ?_ hk₂), List.take_add, List.map_append,
      List.sum_append]
    by_cases hall : k₁ = (units chars).length
    · exact .inl (by simpa using hall)
    · rw [if_neg hall] at b₁
      exact .inr (hwaste.symm.trans b₁)

theorem fitTextIntoColumns_eq_units_twoLetters :
    fitTextIntoColumns (fun _ => false) [0x61, 0x62] 1 =
        (1, textColumns (fun _ => false) ([0x61, 0x62].take 1)) ∧
      (fitTextIntoColumns (fun _ => false) [0x61, 0x62] (1 : Nat)).1 +
          (fitTextIntoColumns (fun _ => false)
            ([0x61, 0x62].drop (fitTextIntoColumns (fun _ => false) [0x61, 0x62] (1 : Nat)).1)
            (1 : Nat)).1 =
        (fitTextIntoColumns (fun _ => false) [0x61, 0x62] (1 + 1 : Nat)).1 :=
  ⟨by decide, (fitTextIntoColumns_eq_units (fun _ => false) [0x61, 0x62] 0).2 1 1 (by decide)⟩

end Fit

end TerminalBuffer
