/-
Selection export: the loop `GenHTML` and `GenRTF` share.

Both walk the rows of a `TextAndColor`, write a separator before every row but the first,
and walk each row's code units up to its first CR or LF.  A change of the color pair
flushes the units accumulated since the last flush (`writeAccumulatedChars`) and then
writes the new colors; the last unit of a row flushes the rest.  The colors in force carry
over from one row to the next.  The two exporters differ only in what they write, so the
loop is modelled once, `exportRows`, with the three writers as a `Sink`; it keeps
`hasWrittenAnyText` for both, although only `GenHTML` reads it.

What the loop writes is described by a list of `Piece`s (`rowsPieces`): per row, its
maximal runs of constant colors, each run preceded by its colors when they differ from
the ones in force.  `exportRows_eq` says the loop writes exactly those pieces, in order,
for every input whose colors are as long as its text, and ends with the colors of the
last unit in force (`rowsColors`).  What an exporter's document says is then read off the
pieces, one piece at a time.
-/
import TerminalBuffer.Basic

namespace TerminalBuffer

namespace Export

/-- `COLORREF`: `0x00BBGGRR`. -/
abbrev Colorref := UInt32

/-- `TextAndColor`: for each row, its UTF-16 code units and each unit's colors. -/
structure TextAndColor where
  text : List (List UInt16)
  fgAttr : List (List Colorref)
  bkAttr : List (List Colorref)
deriving DecidableEq, Repr

/-- Every row's colors are at least as long as its text, so no `.at` throws. -/
def TextAndColor.WellFormed (rows : TextAndColor) : Prop :=
  ∀ i < rows.text.length, (rows.text.getD i []).length ≤ (rows.fgAttr.getD i []).length ∧
    (rows.text.getD i []).length ≤ (rows.bkAttr.getD i []).length

/-- The bytes of an ASCII literal. -/
def ascii (s : String) : List UInt8 := s.toList.map fun c => c.toNat.toUInt8

/-- `GetRValue`, `GetGValue`, `GetBValue`: the low three bytes of a `COLORREF`. -/
def getRValue (c : Colorref) : Nat := c.toNat % 256

def getGValue (c : Colorref) : Nat := c.toNat / 256 % 256

def getBValue (c : Colorref) : Nat := c.toNat / 65536 % 256

/-- A UTF-16 high surrogate. -/
def isHighSurrogate (u : UInt16) : Bool := 0xD800 ≤ u.toNat && u.toNat < 0xDC00

/-- A UTF-16 low surrogate. -/
def isLowSurrogate (u : UInt16) : Bool := 0xDC00 ≤ u.toNat && u.toNat < 0xE000

/-- The UTF-8 bytes of a code point below `0x110000`. -/
def utf8Encode (cp : Nat) : List UInt8 :=
  if cp < 0x80 then [cp.toUInt8]
  else if cp < 0x800 then [(0xC0 + cp / 64).toUInt8, (0x80 + cp % 64).toUInt8]
  else if cp < 0x10000 then
    [(0xE0 + cp / 4096).toUInt8, (0x80 + cp / 64 % 64).toUInt8, (0x80 + cp % 64).toUInt8]
  else [(0xF0 + cp / 262144).toUInt8, (0x80 + cp / 4096 % 64).toUInt8,
    (0x80 + cp / 64 % 64).toUInt8, (0x80 + cp % 64).toUInt8]

/-- A code unit on its own: itself, or `U+FFFD` for a surrogate without its partner. -/
def loneScalar (u : UInt16) : Nat :=
  if isHighSurrogate u || isLowSurrogate u then 0xFFFD else u.toNat

/-- The code point a high and a low surrogate stand for. -/
def pairScalar (hi lo : UInt16) : Nat := 0x10000 + (hi.toNat - 0xD800) * 1024 + (lo.toNat - 0xDC00)

/-- Modelled from the spec: `ConvertToA(CP_UTF8, text)`, that is `WideCharToMultiByte`,
which pairs surrogates and writes `U+FFFD` for one without its partner. -/
def convertToUtf8 : List UInt16 → List UInt8
  | [] => []
  | [u] => utf8Encode (loneScalar u)
  | u :: v :: rest =>
    if isHighSurrogate u && isLowSurrogate v then utf8Encode (pairScalar u v) ++ convertToUtf8 rest
    else utf8Encode (loneScalar u) ++ convertToUtf8 (v :: rest)

/-- What the loop writes, given by each exporter. -/
structure Sink (σ : Type) where
  /-- Before every row but the first. -/
  rowBreak : σ → σ
  /-- The code units of a run, as `writeAccumulatedChars` hands them over. -/
  text : List UInt16 → σ → σ
  /-- On a change of colors: `hasWrittenAnyText`, then the new foreground and background. -/
  colors : Bool → Colorref → Colorref → σ → σ

/-- The loop's variables: the builder, `fgColor`, `bkColor` and `hasWrittenAnyText`. -/
structure LoopState (σ : Type) where
  out : σ
  fgColor : Option Colorref
  bkColor : Option Colorref
  hasWrittenAnyText : Bool

/-- `'\r'` or `'\n'`. -/
def isLineBreak (c : UInt16) : Bool := c == 0x0D || c == 0x0A

section Loop

variable {σ : Type} (snk : Sink σ)

/-- `writeAccumulatedChars(includeCurrent)`: the units from `startOffset` up to `col`, and
the one at `col` if asked, then `startOffset = col`. -/
def writeAccumulatedChars (text : List UInt16) (col startOffset : Nat) (includeCurrent : Bool)
    (st : LoopState σ) : LoopState σ × Nat :=
  if col ≥ startOffset then
    ({ st with out := snk.text ((text.drop startOffset).take
        (col - startOffset + if includeCurrent then 1 else 0)) st.out }, col)
  else (st, startOffset)

/-- The column loop of one row from column `col`; `none` where `.at` throws.  `fuel` bounds
the iterations left, `text.length` from the first column. -/
def exportCols (text : List UInt16) (fgs bks : List Colorref) :
    Nat → Nat → Nat → LoopState σ → Option (LoopState σ)
  | 0, _, _, st => some st
  | fuel + 1, col, startOffset, st =>
    if col < text.length then
      if isLineBreak (text.getD col 0) then
        some (writeAccumulatedChars snk text col startOffset false st).1
      else
        match fgs[col]?, bks[col]? with
        | some fg, some bk =>
          let colorChanged := st.fgColor != some fg || st.bkColor != some bk
          let st := { st with fgColor := some fg, bkColor := some bk }
          let (st, startOffset) :=
            if colorChanged then
              let (st, startOffset) := writeAccumulatedChars snk text col startOffset false st
              ({ st with out := snk.colors st.hasWrittenAnyText fg bk st.out }, startOffset)
            else (st, startOffset)
          let st := { st with hasWrittenAnyText := true }
          let (st, startOffset) :=
            if col = text.length - 1 then writeAccumulatedChars snk text col startOffset true st
            else (st, startOffset)
          exportCols text fgs bks fuel (col + 1) startOffset st
        | _, _ => none
    else some st

/-- The row loop from row `row` on, `texts` being the rows still to go. -/
def exportRows (rows : TextAndColor) : List (List UInt16) → Nat → LoopState σ →
    Option (LoopState σ)
  | [], _, st => some st
  | text :: rest, row, st =>
    let st := if row ≠ 0 then { st with out := snk.rowBreak st.out } else st
    (exportCols snk text (rows.fgAttr.getD row []) (rows.bkAttr.getD row []) text.length 0 0
      st).bind (exportRows rows rest (row + 1))

end Loop

/-! ### What the loop writes -/

/-- One thing the loop writes. -/
inductive Piece
  | rowBreak
  | colors (hasWrittenAnyText : Bool) (fg bk : Colorref)
  | text (units : List UInt16)
deriving DecidableEq, Repr

/-- Writing one piece. -/
def Piece.apply {σ : Type} (snk : Sink σ) : Piece → σ → σ
  | .rowBreak => snk.rowBreak
  | .colors hw fg bk => snk.colors hw fg bk
  | .text u => snk.text u

/-- A row's code units from column `col` up to its first CR or LF, each with its colors. -/
def unitsFrom (text : List UInt16) (fgs bks : List Colorref) (col : Nat) :
    List (UInt16 × Colorref × Colorref) :=
  ((text.drop col).takeWhile (!isLineBreak ·)).zip ((fgs.drop col).zip (bks.drop col))

/-- The runs of a row's units: `cur` is the colors in force and `run` the units written in
them and not yet flushed. -/
def runPieces : Option (Colorref × Colorref) → List UInt16 → List (UInt16 × Colorref × Colorref) →
    List Piece
  | _, run, [] => [.text run]
  | cur, run, (u, fg, bk) :: rest =>
    if cur = some (fg, bk) then runPieces cur (run ++ [u]) rest
    else .text run :: .colors cur.isSome fg bk :: runPieces (some (fg, bk)) [u] rest

/-- The colors in force after a row's units. -/
def lastColors : Option (Colorref × Colorref) → List (UInt16 × Colorref × Colorref) →
    Option (Colorref × Colorref)
  | cur, [] => cur
  | _, (_, fg, bk) :: rest => lastColors (some (fg, bk)) rest

/-- The pieces of the rows from row `row` on. -/
def rowsPieces (rows : TextAndColor) : Nat → List (List UInt16) → Option (Colorref × Colorref) →
    List Piece
  | _, [], _ => []
  | row, text :: rest, cur =>
    let units := unitsFrom text (rows.fgAttr.getD row []) (rows.bkAttr.getD row []) 0
    (if row ≠ 0 then [.rowBreak] else []) ++ runPieces cur [] units ++
      rowsPieces rows (row + 1) rest (lastColors cur units)

/-- The colors in force after the rows from row `row` on. -/
def rowsColors (rows : TextAndColor) : Nat → List (List UInt16) → Option (Colorref × Colorref) →
    Option (Colorref × Colorref)
  | _, [], cur => cur
  | row, text :: rest, cur =>
    rowsColors rows (row + 1) rest
      (lastColors cur (unitsFrom text (rows.fgAttr.getD row []) (rows.bkAttr.getD row []) 0))

/-! ### The loop writes the pieces -/

/-- The loop's colors are `cur`, and `hasWrittenAnyText` says whether any are. -/
def LoopState.InForce {σ : Type} (st : LoopState σ) (cur : Option (Colorref × Colorref)) : Prop :=
  st.fgColor = cur.map (·.1) ∧ st.bkColor = cur.map (·.2) ∧ st.hasWrittenAnyText = cur.isSome

section Units

variable {text : List UInt16} {fgs bks : List Colorref} {col : Nat}

theorem unitsFrom_of_le (h : text.length ≤ col) : unitsFrom text fgs bks col = [] := by
  simp [unitsFrom, List.drop_eq_nil_of_le h]

theorem unitsFrom_of_lineBreak (hcol : col < text.length) (h : isLineBreak text[col] = true) :
    unitsFrom text fgs bks col = [] := by
  rw [unitsFrom, List.drop_eq_getElem_cons hcol, List.takeWhile_cons, h]
  rfl

theorem unitsFrom_cons (hcol : col < text.length) (hf : col < fgs.length) (hb : col < bks.length)
    (h : isLineBreak text[col] = false) :
    unitsFrom text fgs bks col =
      (text[col], fgs[col], bks[col]) :: unitsFrom text fgs bks (col + 1) := by
  rw [unitsFrom, List.drop_eq_getElem_cons hcol, List.drop_eq_getElem_cons hf,
    List.drop_eq_getElem_cons hb, List.takeWhile_cons, h]
  rfl

/-- Extending the accumulated run by the unit at `col`. -/
theorem take_drop_succ {so : Nat} (hso : so ≤ col) (hcol : col < text.length) :
    (text.drop so).take (col + 1 - so) = (text.drop so).take (col - so) ++ [text[col]] := by
  rw [show col + 1 - so = col - so + 1 by omega, List.take_succ, List.getElem?_drop,
    show so + (col - so) = col by omega, List.getElem?_eq_getElem hcol]
  rfl

end Units

section Proofs

variable {σ : Type} (snk : Sink σ) {text : List UInt16} {fgs bks : List Colorref}

theorem exportCols_of_le {col : Nat} (h : text.length ≤ col) (fuel so : Nat) (st : LoopState σ) :
    exportCols snk text fgs bks fuel col so st = some st := by
  cases fuel with
  | zero => rfl
  | succ fuel => simp only [exportCols, if_neg (Nat.not_lt.mpr h)]

theorem writeAccumulatedChars_of_le {col so : Nat} (h : so ≤ col) (inc : Bool)
    (st : LoopState σ) :
    writeAccumulatedChars snk text col so inc st =
      ({ st with out := snk.text ((text.drop so).take (col - so + if inc then 1 else 0)) st.out },
        col) :=
  if_pos h

/-- One iteration on a unit that is no line break. -/
theorem exportCols_succ {col so : Nat} (hcol : col < text.length)
    (hlb : isLineBreak text[col] = false) (hf : col < fgs.length) (hb : col < bks.length)
    (hso : so ≤ col) (fuel : Nat) (st : LoopState σ) :
    exportCols snk text fgs bks (fuel + 1) col so st =
      let changed := st.fgColor != some fgs[col] || st.bkColor != some bks[col]
      let out := if changed then snk.colors st.hasWrittenAnyText fgs[col] bks[col]
        (snk.text ((text.drop so).take (col - so)) st.out) else st.out
      let so := if changed then col else so
      let out := if col = text.length - 1 then snk.text ((text.drop so).take (col - so + 1)) out
        else out
      exportCols snk text fgs bks fuel (col + 1) (if col = text.length - 1 then col else so)
        ⟨out, some fgs[col], some bks[col], true⟩ := by
  have hgetD : text.getD col 0 = text[col] := by simp [hcol]
  simp only [exportCols, if_pos hcol, hgetD, hlb, Bool.false_eq_true, if_false,
    List.getElem?_eq_getElem hf, List.getElem?_eq_getElem hb]
  cases (st.fgColor != some fgs[col] || st.bkColor != some bks[col]) <;>
    simp only [Bool.false_eq_true, if_false, if_true, writeAccumulatedChars_of_le snk hso,
      writeAccumulatedChars_of_le snk (Nat.le_refl col), Nat.add_zero] <;>
    split <;> rfl

theorem exportCols_lineBreak {col so : Nat} (hcol : col < text.length)
    (hlb : isLineBreak text[col] = true) (hso : so ≤ col) (fuel : Nat) (st : LoopState σ) :
    exportCols snk text fgs bks (fuel + 1) col so st =
      some { st with out := snk.text ((text.drop so).take (col - so)) st.out } := by
  have hgetD : text.getD col 0 = text[col] := by simp [hcol]
  simp only [exportCols, if_pos hcol, hgetD, hlb, if_true, writeAccumulatedChars_of_le snk hso]
  rfl

/-- **One row.**  From a column inside the row with the run since `so` not yet flushed, the
column loop writes the run's pieces and leaves the colors of the last unit in force. -/
theorem exportCols_eq (hf : text.length ≤ fgs.length) (hb : text.length ≤ bks.length) :
    ∀ fuel col so (st : LoopState σ) cur, col < text.length → text.length - col ≤ fuel →
      so ≤ col → st.InForce cur →
      ∃ st', exportCols snk text fgs bks fuel col so st = some st' ∧
        st'.InForce (lastColors cur (unitsFrom text fgs bks col)) ∧
        st'.out = (runPieces cur ((text.drop so).take (col - so)) (unitsFrom text fgs bks col)).foldl
          (fun o p => p.apply snk o) st.out := by
  intro fuel
  induction fuel with
  | zero => intro col _ _ _ hcol hfuel; omega
  | succ fuel ih =>
    intro col so st cur hcol hfuel hso hin
    cases hlb : isLineBreak text[col]
    case true =>
      rw [exportCols_lineBreak snk hcol hlb hso, unitsFrom_of_lineBreak hcol hlb]
      exact ⟨_, rfl, hin, rfl⟩
    case false =>
      have hfc : col < fgs.length := by omega
      have hbc : col < bks.length := by omega
      rw [exportCols_succ snk hcol hlb hfc hbc hso, unitsFrom_cons hcol hfc hbc hlb]
      obtain ⟨hfg, hbg, hhw⟩ := hin
      by_cases hc : cur = some (fgs[col], bks[col])
      · -- no change: the run grows by one
        subst hc
        have hch : (st.fgColor != some fgs[col] || st.bkColor != some bks[col]) = false := by
          simp [hfg, hbg]
        simp only [hch, Bool.false_eq_true, if_false, runPieces, if_true, lastColors]
        by_cases hlast : col = text.length - 1
        · simp only [if_pos hlast]
          refine ⟨_, exportCols_of_le snk (by omega) _ _ _, ?_, ?_⟩
          · rw [unitsFrom_of_le (by omega), lastColors]; exact ⟨rfl, rfl, rfl⟩
          · rw [unitsFrom_of_le (by omega), runPieces, ← take_drop_succ hso hcol,
              show col - so + 1 = col + 1 - so by omega]
            rfl
        · simp only [if_neg hlast]
          obtain ⟨st', h1, h2, h3⟩ := ih (col + 1) so ⟨st.out, some fgs[col], some bks[col], true⟩
            (some (fgs[col], bks[col])) (by omega) (by omega) (by omega) ⟨rfl, rfl, rfl⟩
          exact ⟨st', h1, h2, by rw [h3, take_drop_succ hso hcol]⟩
      · -- a change: flush the run, write the colors, start a run at this unit
        have hch : (st.fgColor != some fgs[col] || st.bkColor != some bks[col]) = true := by
          cases cur with
          | none => simp [hfg]
          | some c =>
            have hne : c ≠ (fgs[col], bks[col]) := fun e => hc (by rw [e])
            simp only [hfg, hbg, Option.map_some', bne_iff_ne, ne_eq, Option.some.injEq,
              Bool.or_eq_true]
            by_contra hno
            exact hne (Prod.ext (not_not.mp (not_or.mp hno).1) (not_not.mp (not_or.mp hno).2))
        simp only [hch, if_true, runPieces, if_neg hc, lastColors, List.foldl, Piece.apply, hhw]
        by_cases hlast : col = text.length - 1
        · simp only [if_pos hlast]
          refine ⟨_, exportCols_of_le snk (by omega) _ _ _, ?_, ?_⟩
          · rw [unitsFrom_of_le (by omega), lastColors]; exact ⟨rfl, rfl, rfl⟩
          · rw [unitsFrom_of_le (by omega), runPieces, Nat.sub_self, Nat.zero_add,
              List.drop_eq_getElem_cons hcol]
            rfl
        · simp only [if_neg hlast]
          obtain ⟨st', h1, h2, h3⟩ := ih (col + 1) col
            ⟨snk.colors cur.isSome fgs[col] bks[col] (snk.text ((text.drop so).take (col - so))
              st.out), some fgs[col], some bks[col], true⟩
            (some (fgs[col], bks[col])) (by omega) (by omega) (by omega) ⟨rfl, rfl, rfl⟩
          refine ⟨st', h1, h2, ?_⟩
          rw [h3, take_drop_succ (Nat.le_refl col) hcol, Nat.sub_self, List.take_zero,
            List.nil_append]
          rfl

/-- **The loop writes the pieces.**  For every input whose colors are as long as its text,
and every writer that writes nothing for an empty run, the loop from row `row` with the
colors `cur` in force does not throw, writes `rowsPieces`, in order, and leaves the colors
of the last unit in force. -/
theorem exportRows_eq (rows : TextAndColor) (hwf : rows.WellFormed)
    (hempty : ∀ o, snk.text [] o = o) :
    ∀ (texts : List (List UInt16)) row (st : LoopState σ) cur, texts = rows.text.drop row →
      st.InForce cur →
      ∃ st', exportRows snk rows texts row st = some st' ∧
        st'.InForce (rowsColors rows row texts cur) ∧
        st'.out = (rowsPieces rows row texts cur).foldl (fun o p => p.apply snk o) st.out := by
  intro texts
  induction texts with
  | nil => intro _ st _ _ hin; exact ⟨st, rfl, hin, rfl⟩
  | cons text rest ih =>
    intro row st cur htexts hin
    have hrow : row < rows.text.length := by
      by_contra h
      rw [List.drop_eq_nil_of_le (by omega)] at htexts
      cases htexts
    rw [List.drop_eq_getElem_cons hrow, List.cons.injEq] at htexts
    obtain ⟨htext, hrest⟩ := htexts
    have hlen := hwf row hrow
    rw [List.getD_eq_getElem?_getD, List.getElem?_eq_getElem hrow, Option.getD_some, ← htext] at hlen
    generalize hst1 : (if row ≠ 0 then { st with out := snk.rowBreak st.out } else st) = st1
    have hin1 : st1.InForce cur := by rw [← hst1]; split <;> exact hin
    have hout1 : st1.out = (if row ≠ 0 then [Piece.rowBreak] else []).foldl
        (fun o p => p.apply snk o) st.out := by
      rw [← hst1]; split <;> rfl
    by_cases hempty' : text.length = 0
    · have hcols : exportCols snk text (rows.fgAttr.getD row []) (rows.bkAttr.getD row [])
          text.length 0 0 st1 = some st1 :=
        exportCols_of_le snk (by omega : text.length ≤ 0) text.length 0 st1
      obtain ⟨st', h1, hin', h2⟩ := ih (row + 1) st1 cur hrest hin1
      refine ⟨st', ?_, ?_, ?_⟩
      · simp only [exportRows, hst1, hcols, Option.some_bind, h1]
      · rwa [rowsColors, unitsFrom_of_le (by omega), lastColors]
      · rw [h2, rowsPieces, unitsFrom_of_le (by omega), lastColors, List.foldl_append,
          List.foldl_append, runPieces, List.foldl, List.foldl, Piece.apply, hempty, hout1]
    · obtain ⟨st2, h1, h2, h3⟩ := exportCols_eq snk hlen.1 hlen.2 text.length 0 0 st1 cur
        (by omega) (by omega) (Nat.le_refl 0) hin1
      obtain ⟨st', h4, hin', h5⟩ := ih (row + 1) st2 _ hrest h2
      refine ⟨st', ?_, hin', ?_⟩
      · simp only [exportRows, hst1, h1, Option.some_bind, h4]
      · rw [h5, h3, rowsPieces, List.foldl_append, List.foldl_append, hout1]
        rfl

end Proofs

end Export

end TerminalBuffer
