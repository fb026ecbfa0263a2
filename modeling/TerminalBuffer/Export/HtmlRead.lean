/-
What a reader of the HTML document `GenHTML` writes takes from it.

`HtmlReader` reads bytes as an HTML tokenizer does at the level the document needs: a tag
runs from `<` to the first `>` outside a double-quoted attribute value, `&lt;`, `&gt;`
and `&amp;` are the characters they name, and every other byte is text.  Of the tags it
acts on three: `<BR>` ends a row, `<SPAN STYLE="…">` opens a span with that style and
`</SPAN>` closes it; opening a span inside another, or closing one when none is open, is
recorded as `malformed`.  Each byte of text is kept with the style of the span it lies in.

What the document should read as is `styledRow`: a row's text up to its first CR or LF,
in UTF-8, each byte in the style `GenHTML` gives its character's colors.  The two can
differ, because `writeAccumulatedChars` converts each run to UTF-8 on its own: when the
colors change between the two halves of a surrogate pair, each half is converted without
its partner and comes out as `U+FFFD`.  And the font's name is written into the `DIV`'s
quoted `STYLE` as it is, so a double quote in it ends the attribute early and what follows
it is read as markup (`genHTML_fragment_misreads`).

For every input whose colors are as long as its text, whose surrogate pairs have one color
pair each, whose font name has no double quote and whose document has fewer than `10^10`
bytes, the document is a `CF_HTML` document whose header a reader takes at its word, and
its fragment reads as `styledRow` for every row, with every span closed and none nested
(`genHTML_cfHtml`).  The proof reads the fragment one piece of `rowsPieces` at a time
(`read_htmlPiece_*`), a row's runs by induction over its units (`read_runPieces`), and the
rows by induction over the rows (`read_rowsPieces`).
-/
import TerminalBuffer.Export.Html

namespace TerminalBuffer

namespace Export

/-! ### The reader -/

/-- Where the reader is inside a token. -/
inductive HtmlLex
  | text
  /-- Inside a tag: the bytes since `<`, and whether a quoted attribute value is open. -/
  | tag (bytes : List UInt8) (quoted : Bool)
  /-- Inside a character reference: the bytes since `&`. -/
  | entity (name : List UInt8)
deriving DecidableEq, Repr

/-- A byte of text, with the style of the span it lies in. -/
abbrev StyledByte := UInt8 × Option (List UInt8)

/-- A reader of the documents `GenHTML` writes. -/
structure HtmlReader where
  lex : HtmlLex
  /-- The style of the open span. -/
  span : Option (List UInt8)
  /-- A span was opened inside another, or closed when none was open. -/
  malformed : Bool
  rows : List (List StyledByte)
  cur : List StyledByte
deriving DecidableEq, Repr

namespace HtmlReader

/-- Before the first byte. -/
def init : HtmlReader := ⟨.text, none, false, [], []⟩

/-- The value of a `STYLE="…"` attribute. -/
def styleValue (attrs : List UInt8) : List UInt8 :=
  if attrs.take 7 = ascii "STYLE=\"" then (attrs.drop 7).takeWhile (· != 0x22) else []

/-- Text, in the style of the open span. -/
def emit (r : HtmlReader) (bs : List UInt8) : HtmlReader :=
  { r with cur := r.cur ++ bs.map fun b => (b, r.span) }

/-- A whole tag: `<BR>` ends the row, `<SPAN …>` opens a span and `</SPAN>` closes it; the
reader takes nothing from any other tag. -/
def endTag (r : HtmlReader) (tag : List UInt8) : HtmlReader :=
  if tag = ascii "BR" then { r with lex := .text, rows := r.rows ++ [r.cur], cur := [] }
  else if tag = ascii "/SPAN" then
    { r with lex := .text, span := none, malformed := r.malformed || r.span.isNone }
  else if tag.take 5 = ascii "SPAN " then
    { r with lex := .text, span := some (styleValue (tag.drop 5)),
             malformed := r.malformed || r.span.isSome }
  else { r with lex := .text }

/-- A character reference: `&lt;`, `&gt;` and `&amp;` are the characters they name; any
other is kept as it stands. -/
def entityBytes (name : List UInt8) : List UInt8 :=
  if name = ascii "lt" then [0x3C]
  else if name = ascii "gt" then [0x3E]
  else if name = ascii "amp" then [0x26]
  else 0x26 :: name ++ [0x3B]

/-- One byte. -/
def step (r : HtmlReader) (b : UInt8) : HtmlReader :=
  match r.lex with
  | .text =>
    if b = 0x3C then { r with lex := .tag [] false }
    else if b = 0x26 then { r with lex := .entity [] }
    else r.emit [b]
  | .tag bytes quoted =>
    if b = 0x3E ∧ quoted = false then r.endTag bytes
    else { r with lex := .tag (bytes ++ [b]) (if b = 0x22 then !quoted else quoted) }
  | .entity name =>
    if b = 0x3B then { r.emit (entityBytes name) with lex := .text }
    else { r with lex := .entity (name ++ [b]) }

end HtmlReader

/-- The reader after a document. -/
def readHtml (doc : List UInt8) : HtmlReader := doc.foldl HtmlReader.step HtmlReader.init

/-- The rows a reader takes from a document: each a list of bytes with their styles. -/
def decodeHtml (doc : List UInt8) : List (List StyledByte) :=
  (readHtml doc).rows ++ [(readHtml doc).cur]

/-! ### What the document should read as -/

/-- `convertToUtf8` of a row's units, each byte with the colors of its character; a pair
takes the colors of its high surrogate. -/
def coloredUtf8 : List (UInt16 × Colorref × Colorref) → List (UInt8 × Colorref × Colorref)
  | [] => []
  | [(u, c)] => (utf8Encode (loneScalar u)).map (·, c)
  | (u, c) :: (v, d) :: rest =>
    if isHighSurrogate u && isLowSurrogate v then
      (utf8Encode (pairScalar u v)).map (·, c) ++ coloredUtf8 rest
    else (utf8Encode (loneScalar u)).map (·, c) ++ coloredUtf8 ((v, d) :: rest)

/-- The style `GenHTML` gives a color pair. -/
def styleOf (c : Colorref × Colorref) : List UInt8 := spanStyle c.1 c.2

/-- A byte in the style of its colors. -/
def styled (x : UInt8 × Colorref × Colorref) : StyledByte := (x.1, some (styleOf x.2))

/-- Row `i` as the document should read: its text up to the first CR or LF in UTF-8, each
byte in the style of its character's colors. -/
def styledRow (rows : TextAndColor) (i : Nat) : List StyledByte :=
  (coloredUtf8 (unitsFrom (rows.text.getD i []) (rows.fgAttr.getD i []) (rows.bkAttr.getD i [])
    0)).map styled

/-- A high surrogate followed by a low one has its colors. -/
def SharedPair (x y : UInt16 × Colorref × Colorref) : Prop :=
  isHighSurrogate x.1 = true → isLowSurrogate y.1 = true → x.2 = y.2

instance : DecidableRel SharedPair := fun x y =>
  inferInstanceAs (Decidable (isHighSurrogate x.1 = true → isLowSurrogate y.1 = true → x.2 = y.2))

/-- `SharedPair` between every two neighbours, as a test. -/
def sharedPairs : List (UInt16 × Colorref × Colorref) → Bool
  | x :: y :: rest => decide (SharedPair x y) && sharedPairs (y :: rest)
  | _ => true

theorem sharedPairs_iff (l : List (UInt16 × Colorref × Colorref)) :
    sharedPairs l = true ↔ l.Chain' SharedPair := by
  induction l using sharedPairs.induct with
  | case1 x y rest ih =>
    simp only [sharedPairs, Bool.and_eq_true, decide_eq_true_eq, ih, List.chain'_cons]
  | case2 l h =>
    match l, h with
    | [], _ => simp [sharedPairs]
    | [x], _ => simp [sharedPairs]
    | _ :: _ :: _, h => exact absurd rfl (h _ _ _)

instance (l : List (UInt16 × Colorref × Colorref)) : Decidable (l.Chain' SharedPair) :=
  decidable_of_iff _ (sharedPairs_iff l)

/-- In the part of every row that is exported, each surrogate pair has one color pair. -/
def TextAndColor.PairsShareColors (rows : TextAndColor) : Prop :=
  ∀ i < rows.text.length,
    (unitsFrom (rows.text.getD i []) (rows.fgAttr.getD i []) (rows.bkAttr.getD i []) 0).Chain'
      SharedPair

instance (rows : TextAndColor) : Decidable rows.PairsShareColors :=
  inferInstanceAs (Decidable (∀ i < rows.text.length, _))

instance (rows : TextAndColor) : Decidable rows.WellFormed :=
  inferInstanceAs (Decidable (∀ i < rows.text.length, _))

/-! ### UTF-8 of runs -/

section Utf8

theorem map_fst_map_pair (l : List UInt8) (c : Colorref × Colorref) :
    (l.map (·, c)).map Prod.fst = l := by
  simp [Function.comp_def]

theorem map_fst_coloredUtf8 (xs : List (UInt16 × Colorref × Colorref)) :
    (coloredUtf8 xs).map Prod.fst = convertToUtf8 (xs.map Prod.fst) := by
  induction xs using coloredUtf8.induct with
  | case1 => rfl
  | case2 u c => exact map_fst_map_pair _ c
  | case3 u c v d rest h ih =>
    rw [coloredUtf8, if_pos h, List.map_append, map_fst_map_pair, ih, List.map_cons, List.map_cons,
      convertToUtf8, if_pos h]
  | case4 u c v d rest h ih =>
    rw [coloredUtf8, if_neg h, List.map_append, map_fst_map_pair, ih, List.map_cons, List.map_cons,
      List.map_cons, convertToUtf8, if_neg h]

/-- A run in one color pair is its UTF-8 in that pair. -/
theorem coloredUtf8_map (run : List UInt16) (c : Colorref × Colorref) :
    coloredUtf8 (run.map (·, c)) = (convertToUtf8 run).map (·, c) := by
  induction run using convertToUtf8.induct with
  | case1 => rfl
  | case2 u => rfl
  | case3 u v rest h ih =>
    simp only [List.map_cons, coloredUtf8, convertToUtf8, if_pos h, ih, List.map_append]
  | case4 u v rest h ih =>
    simp only [List.map_cons, coloredUtf8, convertToUtf8, if_neg h, List.map_append] at ih ⊢
    rw [ih]

/-- Two runs convert on their own when no surrogate pair straddles them. -/
theorem coloredUtf8_append (xs ys : List (UInt16 × Colorref × Colorref))
    (h : ∀ x ∈ xs.getLast?, ∀ y ∈ ys.head?,
      isHighSurrogate x.1 = true → isLowSurrogate y.1 = true → False) :
    coloredUtf8 (xs ++ ys) = coloredUtf8 xs ++ coloredUtf8 ys := by
  induction xs using coloredUtf8.induct with
  | case1 => rfl
  | case2 u c =>
    cases ys with
    | nil => rw [List.append_nil]; exact (List.append_nil _).symm
    | cons y ys =>
      obtain ⟨v, d⟩ := y
      have hp : (isHighSurrogate u && isLowSurrogate v) = false := by
        rw [Bool.eq_false_iff, ne_eq, Bool.and_eq_true]
        exact fun e => h (u, c) rfl (v, d) rfl e.1 e.2
      simp only [List.singleton_append, coloredUtf8, hp, Bool.false_eq_true, if_false]
  | case3 u c v d rest hp ih =>
    simp only [List.cons_append, coloredUtf8, if_pos hp, List.append_assoc, List.append_eq]
    rw [ih fun x hx => h x (List.mem_getLast?_cons (List.mem_getLast?_cons hx))]
  | case4 u c v d rest hp ih =>
    simp only [List.cons_append, coloredUtf8, if_neg hp, List.append_assoc, List.append_eq]
    rw [← List.cons_append, ih fun x hx => h x (List.mem_getLast?_cons hx)]

end Utf8

/-! ### Reading, token by token -/

namespace HtmlReader

variable {r : HtmlReader}

@[simp] theorem lex_emit (bs : List UInt8) : (r.emit bs).lex = r.lex := rfl
@[simp] theorem span_emit (bs : List UInt8) : (r.emit bs).span = r.span := rfl
@[simp] theorem malformed_emit (bs : List UInt8) : (r.emit bs).malformed = r.malformed := rfl
@[simp] theorem rows_emit (bs : List UInt8) : (r.emit bs).rows = r.rows := rfl

theorem emit_emit (bs cs : List UInt8) : (r.emit bs).emit cs = r.emit (bs ++ cs) := by
  simp [emit]

/-- Text is read as the bytes it escapes. -/
theorem foldl_escapeHtml (h : r.lex = .text) (s : List UInt8) :
    (escapeHtml s).foldl step r = r.emit s := by
  induction s generalizing r with
  | nil => simp [escapeHtml, emit]
  | cons c s ih =>
    have hc : (if c = 0x3C then ascii "&lt;" else if c = 0x3E then ascii "&gt;"
        else if c = 0x26 then ascii "&amp;" else [c]).foldl step r = r.emit [c] := by
      obtain ⟨lex, span, m, rows, cur⟩ := r
      cases h
      by_cases h1 : c = 0x3C
      · subst h1; rfl
      by_cases h2 : c = 0x3E
      · subst h2; rfl
      by_cases h3 : c = 0x26
      · subst h3; rfl
      simp only [if_neg h1, if_neg h2, if_neg h3, List.foldl, step, emit]
    rw [escapeHtml, List.flatMap_cons, List.foldl_append, ← escapeHtml, hc, ih ((lex_emit _).trans h), emit_emit]
    rfl

/-- Inside a tag, bytes other than a double quote, and other than `>` outside a quoted
value, are kept for the tag. -/
theorem foldl_tag {bytes : List UInt8} {quoted : Bool} (h : r.lex = .tag bytes quoted)
    (s : List UInt8) (hq : ∀ b ∈ s, b ≠ 0x22) (hgt : quoted = false → ∀ b ∈ s, b ≠ 0x3E) :
    s.foldl step r = { r with lex := .tag (bytes ++ s) quoted } := by
  induction s generalizing r bytes with
  | nil => obtain ⟨lex, span, m, rows, cur⟩ := r; cases h; simp
  | cons b s ih =>
    have hb : r.step b = { r with lex := .tag (bytes ++ [b]) quoted } := by
      have h1 : ¬(b = 0x3E ∧ quoted = false) := fun ⟨e, hq'⟩ => hgt hq' b (.head _) e
      simp only [step, h, if_neg h1, if_neg (hq b (.head _))]
    rw [List.foldl_cons, hb, ih rfl (fun x hx => hq x (.tail _ hx))
      (fun e x hx => hgt e x (.tail _ hx))]
    simp

theorem endTag_span {tag : List UInt8} (hs : tag.take 5 = ascii "SPAN ") :
    r.endTag tag = { r with lex := .text, span := some (styleValue (tag.drop 5)),
                            malformed := r.malformed || r.span.isSome } := by
  have h1 : tag ≠ ascii "BR" := by rintro rfl; exact absurd hs (by decide)
  have h2 : tag ≠ ascii "/SPAN" := by rintro rfl; exact absurd hs (by decide)
  simp only [endTag, if_neg h1, if_neg h2, if_pos hs]

theorem endTag_other {tag : List UInt8} (hs : tag.take 5 ≠ ascii "SPAN ")
    (h1 : tag.take 5 ≠ ascii "BR") (h2 : tag.take 5 ≠ ascii "/SPAN") :
    r.endTag tag = { r with lex := .text } := by
  have h1' : tag ≠ ascii "BR" := fun e => h1 (by rw [e]; rfl)
  have h2' : tag ≠ ascii "/SPAN" := fun e => h2 (by rw [e]; rfl)
  simp only [endTag, if_neg h1', if_neg h2', if_neg hs]

/-- A tag whose name is followed by one double-quoted attribute value ends where the
value's closing quote is followed by `>`. -/
theorem foldl_quotedTag (h : r.lex = .text) {name : List UInt8}
    (hn : ∀ b ∈ name, b ≠ 0x22 ∧ b ≠ 0x3E) {v : List UInt8} (hv : ∀ b ∈ v, b ≠ 0x22) :
    ([0x3C] ++ name ++ [0x22] ++ v ++ [0x22, 0x3E]).foldl step r =
      r.endTag (name ++ [0x22] ++ v ++ [0x22]) := by
  have h0 : r.step 0x3C = { r with lex := .tag [] false } := by simp only [step, h]; rfl
  have h1 := @foldl_tag { r with lex := .tag [] false } [] false rfl name (fun b hb => (hn b hb).1)
    (fun _ b hb => (hn b hb).2)
  have h2 := @foldl_tag { r with lex := .tag (name ++ [0x22]) true } (name ++ [0x22]) true rfl v hv
    (nomatch ·)
  simp only [List.foldl_append, List.foldl_cons, List.foldl_nil, h0, h1]
  rw [show ({ r with lex := .tag ([] ++ name) false } : HtmlReader).step 0x22 =
    { r with lex := .tag (name ++ [0x22]) true } by simp only [step]; rfl, h2]
  simp only [step]
  rfl

/-- `<BR>` ends the row. -/
theorem foldl_br (h : r.lex = .text) :
    (ascii "<BR>").foldl step r = { r with rows := r.rows ++ [r.cur], cur := [] } := by
  obtain ⟨lex, span, m, rows, cur⟩ := r
  cases h
  rfl

/-- `</SPAN>` closes the open span. -/
theorem foldl_spanClose (h : r.lex = .text) :
    (ascii "</SPAN>").foldl step r =
      { r with span := none, malformed := r.malformed || r.span.isNone } := by
  obtain ⟨lex, span, m, rows, cur⟩ := r
  cases h
  rfl

/-- The fragment's comments and the `DIV`'s end are tags the reader takes nothing from. -/
theorem foldl_startFragment (h : r.lex = .text) :
    (ascii "<!--StartFragment -->").foldl step r = r := by
  obtain ⟨lex, span, m, rows, cur⟩ := r
  cases h
  rfl

theorem foldl_fragmentEnd (h : r.lex = .text) :
    (ascii "</DIV>" ++ ascii "<!--EndFragment -->").foldl step r = r := by
  obtain ⟨lex, span, m, rows, cur⟩ := r
  cases h
  rfl

end HtmlReader

/-! ### No double quote inside a style -/

section Quotes

theorem toNat_toUInt8 (n : Nat) : n.toUInt8.toNat = n % 256 := rfl

theorem hexDigit_ne_quote : ∀ n, n < 16 → hexDigit n ≠ 0x22 := by decide

theorem quote_not_mem_colorToHexString (c : Colorref) : 0x22 ∉ colorToHexString c := by
  simp only [colorToHexString, List.mem_append, List.mem_flatMap, List.mem_cons,
    List.mem_singleton, List.not_mem_nil, or_false, not_or, not_exists, not_and]
  refine ⟨by decide, fun v hv => ?_⟩
  have hv : v < 256 := by
    rcases hv with rfl | rfl | rfl <;> exact Nat.mod_lt _ (by decide)
  exact ⟨fun e => hexDigit_ne_quote _ (by omega) e.symm,
    fun e => hexDigit_ne_quote _ (Nat.mod_lt _ (by decide)) e.symm⟩

theorem quote_not_mem_spanStyle (fg bk : Colorref) : 0x22 ∉ spanStyle fg bk := by
  have := quote_not_mem_colorToHexString fg
  have := quote_not_mem_colorToHexString bk
  simp only [spanStyle, List.mem_append, not_or]
  exact ⟨⟨⟨⟨⟨by decide, ‹_›⟩, by decide⟩, by decide⟩, ‹_›⟩, by decide⟩

/-- Only the code point `"` encodes to a byte `"`. -/
theorem eq_quote_of_mem_utf8Encode {cp : Nat} (hcp : cp < 0x110000) (hb : 0x22 ∈ utf8Encode cp) :
    cp = 0x22 := by
  have key : ∀ n : Nat, (0x22 : UInt8) = n.toUInt8 → n % 256 = 34 := fun n e => by
    rw [← toNat_toUInt8, ← e]
    rfl
  unfold utf8Encode at hb
  split_ifs at hb
  · have := key _ (List.mem_singleton.mp hb)
    omega
  all_goals
    simp only [List.mem_cons, List.mem_singleton, List.not_mem_nil, or_false] at hb
  · rcases hb with hb | hb <;> have := key _ hb <;> omega
  · rcases hb with hb | hb | hb <;> have := key _ hb <;> omega
  · rcases hb with hb | hb | hb | hb <;> have := key _ hb <;> omega

theorem loneScalar_lt (u : UInt16) : loneScalar u < 0x110000 := by
  have := u.toNat_lt
  unfold loneScalar
  split <;> omega

theorem loneScalar_ne_quote {u : UInt16} (hu : u ≠ 0x22) : loneScalar u ≠ 0x22 := by
  unfold loneScalar
  split
  · decide
  · exact fun e => hu (UInt16.toNat.inj e)

theorem pairScalar_bounds {u v : UInt16} (h : (isHighSurrogate u && isLowSurrogate v) = true) :
    0x10000 ≤ pairScalar u v ∧ pairScalar u v < 0x110000 := by
  simp only [Bool.and_eq_true, isHighSurrogate, isLowSurrogate, decide_eq_true_eq] at h
  unfold pairScalar
  omega

/-- A name without a double quote has none in its UTF-8. -/
theorem quote_not_mem_convertToUtf8 {units : List UInt16} (h : 0x22 ∉ units) :
    0x22 ∉ convertToUtf8 units := by
  induction units using convertToUtf8.induct with
  | case1 => simp [convertToUtf8]
  | case2 u =>
    exact fun hb => loneScalar_ne_quote (fun e => h (by simp [e]))
      (eq_quote_of_mem_utf8Encode (loneScalar_lt u) hb)
  | case3 u v rest hp ih =>
    rw [convertToUtf8, if_pos hp, List.mem_append, not_or]
    have := pairScalar_bounds hp
    exact ⟨fun hb => by have := eq_quote_of_mem_utf8Encode this.2 hb; omega,
      ih fun e => h (.tail _ (.tail _ e))⟩
  | case4 u v rest hp ih =>
    rw [convertToUtf8, if_neg hp, List.mem_append, not_or]
    exact ⟨fun hb => loneScalar_ne_quote (fun e => h (by simp [e]))
      (eq_quote_of_mem_utf8Encode (loneScalar_lt u) hb), ih fun e => h (.tail _ e)⟩

theorem quote_not_mem_toString (n : Int) : 0x22 ∉ ascii (toString n) := by
  have hnat : ∀ m : Nat, 0x22 ∉ ascii (toString m) := fun m hm => by
    have := mem_toString_digit hm
    exact absurd this (by decide)
  cases n with
  | ofNat m => exact hnat m
  | negSucc m =>
    show 0x22 ∉ ascii ("-" ++ toString (m + 1))
    rw [ascii, String.toList, String.data_append, List.map_append, List.mem_append, not_or]
    exact ⟨by decide, hnat (m + 1)⟩

theorem quote_not_mem_divStyle {fontFaceName : List UInt16} (h : 0x22 ∉ fontFaceName)
    (fontHeightPoints : Int) (backgroundColor : Colorref) :
    0x22 ∉ divStyle fontHeightPoints fontFaceName backgroundColor := by
  have := quote_not_mem_colorToHexString backgroundColor
  have := quote_not_mem_convertToUtf8 h
  have := quote_not_mem_toString fontHeightPoints
  simp only [divStyle, List.mem_append, not_or]
  refine ⟨⟨⟨⟨⟨⟨⟨⟨⟨⟨⟨⟨⟨⟨⟨by decide, by decide⟩, by decide⟩, ‹_›⟩, by decide⟩, by decide⟩, by decide⟩,
    ‹_›⟩, by decide⟩, by decide⟩, by decide⟩, ‹_›⟩, by decide⟩, by decide⟩, by decide⟩, by decide⟩

end Quotes

/-! ### Reading, piece by piece -/

namespace HtmlReader

variable {r : HtmlReader}

theorem styleValue_quoted {v : List UInt8} (hv : 0x22 ∉ v) :
    styleValue (ascii "STYLE=" ++ [0x22] ++ v ++ [0x22]) = v := by
  have ht : ∀ x ∈ v, (x != 0x22) = true := fun x hx => bne_iff_ne.mpr fun e => hv (e ▸ hx)
  have e : ascii "STYLE=" ++ [0x22] ++ v ++ [0x22] = ascii "STYLE=\"" ++ (v ++ [0x22]) := by
    simp only [List.append_assoc]
    rfl
  rw [e, styleValue, List.take_left' (show (ascii "STYLE=\"").length = 7 from rfl),
    if_pos (Eq.refl (ascii "STYLE=\"")), List.drop_left' (show (ascii "STYLE=\"").length = 7 from rfl),
    List.takeWhile_append_of_pos ht, show [(0x22 : UInt8)].takeWhile (· != 0x22) = [] from rfl,
    List.append_nil]

/-- The `SPAN` that opens a run takes the run's style. -/
theorem foldl_spanOpen (h : r.lex = .text) (fg bk : Colorref) :
    (ascii "<SPAN STYLE=\"" ++ spanStyle fg bk ++ ascii "\">").foldl step r =
      { r with span := some (spanStyle fg bk), malformed := r.malformed || r.span.isSome } := by
  have hq := quote_not_mem_spanStyle fg bk
  have e : ascii "<SPAN STYLE=\"" ++ spanStyle fg bk ++ ascii "\">" =
      [0x3C] ++ ascii "SPAN STYLE=" ++ [0x22] ++ spanStyle fg bk ++ [0x22, 0x3E] := rfl
  have ht : (ascii "SPAN STYLE=" ++ [0x22] ++ spanStyle fg bk ++ [0x22]).take 5 = ascii "SPAN " := by
    rw [List.append_assoc, List.append_assoc, List.take_append_of_le_length (by decide)]
    rfl
  have hd : (ascii "SPAN STYLE=" ++ [0x22] ++ spanStyle fg bk ++ [0x22]).drop 5 =
      ascii "STYLE=" ++ [0x22] ++ spanStyle fg bk ++ [0x22] := by
    rw [List.append_assoc, List.append_assoc, List.drop_append_of_le_length (by decide)]
    rfl
  rw [e, foldl_quotedTag h (by decide) (fun b hb e => hq (e ▸ hb)), endTag_span ht, hd,
    styleValue_quoted hq]
  obtain ⟨lex, span, m, rows, cur⟩ := r
  cases h
  rfl

/-- The `DIV` is a tag the reader takes nothing from, once its style holds no double
quote. -/
theorem foldl_divOpen (h : r.lex = .text) {style : List UInt8} (hq : 0x22 ∉ style) :
    (ascii "<DIV STYLE=\"" ++ style ++ ascii "\">").foldl step r = r := by
  have e : ascii "<DIV STYLE=\"" ++ style ++ ascii "\">" =
      [0x3C] ++ ascii "DIV STYLE=" ++ [0x22] ++ style ++ [0x22, 0x3E] := rfl
  have ht : (ascii "DIV STYLE=" ++ [0x22] ++ style ++ [0x22]).take 5 = ascii "DIV S" := by
    rw [List.append_assoc, List.append_assoc, List.take_append_of_le_length (by decide)]
    rfl
  rw [e, foldl_quotedTag h (by decide) (fun b hb e => hq (e ▸ hb)),
    endTag_other (by rw [ht]; decide) (by rw [ht]; decide) (by rw [ht]; decide)]
  obtain ⟨lex, span, m, rows, cur⟩ := r
  cases h
  rfl

theorem foldl_htmlPiece_rowBreak (h : r.lex = .text) :
    (htmlPiece .rowBreak).foldl step r = { r with rows := r.rows ++ [r.cur], cur := [] } :=
  foldl_br h

theorem foldl_htmlPiece_text (h : r.lex = .text) (u : List UInt16) :
    (htmlPiece (.text u)).foldl step r = r.emit (convertToUtf8 u) :=
  foldl_escapeHtml h _

/-- A change of colors closes the open span, if any, and opens one in the new colors. -/
theorem foldl_htmlPiece_colors (h : r.lex = .text) {hw : Bool} (hs : r.span.isSome = hw)
    (hm : r.malformed = false) (fg bk : Colorref) :
    (htmlPiece (.colors hw fg bk)).foldl step r = { r with span := some (spanStyle fg bk) } := by
  have e : htmlPiece (.colors hw fg bk) = (if hw then ascii "</SPAN>" else []) ++
      (ascii "<SPAN STYLE=\"" ++ spanStyle fg bk ++ ascii "\">") := by
    simp only [htmlPiece, Piece.apply, htmlSink, List.nil_append, List.append_assoc]
  rw [e, List.foldl_append]
  obtain ⟨lex, span, m, rows, cur⟩ := r
  cases h
  cases hm
  cases hw
  · rw [if_neg Bool.false_ne_true, List.foldl_nil, foldl_spanOpen rfl]
    simp_all
  · rw [if_pos rfl, foldl_spanClose rfl, foldl_spanOpen rfl]
    simp_all

/-- The units of the run in progress, in the colors in force. -/
def pending : Option (Colorref × Colorref) → List UInt16 → List (UInt16 × Colorref × Colorref)
  | some c, run => run.map (·, c)
  | none, _ => []

@[simp] theorem pending_nil (cur : Option (Colorref × Colorref)) : pending cur [] = [] := by
  cases cur <;> rfl

theorem mem_pending {cur : Option (Colorref × Colorref)} {run : List UInt16}
    {x : UInt16 × Colorref × Colorref} (hx : x ∈ pending cur run) : cur = some x.2 := by
  cases cur with
  | none => cases hx
  | some c =>
    obtain ⟨u, -, rfl⟩ := List.mem_map.mp hx
    rfl

/-- The text of a run lies in the span of the colors in force. -/
theorem emit_pending {cur : Option (Colorref × Colorref)} {run : List UInt16}
    (hs : r.span = cur.map styleOf) (hrun : cur = none → run = []) :
    r.emit (convertToUtf8 run) =
      { r with cur := r.cur ++ (coloredUtf8 (pending cur run)).map styled } := by
  cases cur with
  | none => rw [hrun rfl]; rfl
  | some c =>
    simp only [emit, pending, coloredUtf8_map, hs, List.map_map]
    rfl

/-- **A row's runs.**  From the colors `cur` in force and the run `run` written in them and
not yet flushed, reading the pieces of the units `units` adds their UTF-8 to the row, each
byte in the style of its colors, and leaves the last unit's colors open. -/
theorem foldl_runPieces (units : List (UInt16 × Colorref × Colorref)) :
    ∀ cur run (r : HtmlReader), r.lex = .text → r.span = cur.map styleOf → r.malformed = false →
      (cur = none → run = []) → (pending cur run ++ units).Chain' SharedPair →
      ((runPieces cur run units).flatMap htmlPiece).foldl step r =
        { r with span := (lastColors cur units).map styleOf,
                 cur := r.cur ++ (coloredUtf8 (pending cur run ++ units)).map styled } := by
  induction units with
  | nil =>
    intro cur run r h hs _ hrun _
    rw [runPieces, List.flatMap_cons, List.flatMap_nil, List.append_nil, foldl_htmlPiece_text h,
      emit_pending hs hrun, lastColors, List.append_nil, ← hs]
  | cons x rest ih =>
    obtain ⟨u, fg, bk⟩ := x
    intro cur run r h hs hm hrun hch
    rw [runPieces]
    split
    · -- the same colors: the run grows
      rename_i hc
      subst hc
      have e : pending (some (fg, bk)) (run ++ [u]) ++ rest =
          pending (some (fg, bk)) run ++ (u, fg, bk) :: rest := by
        simp [pending]
      rw [ih _ (run ++ [u]) r h hs hm (nomatch ·) (e ▸ hch), e, lastColors]
    · -- a change: the run is written, then the new colors, then a run from this unit
      rename_i hc
      have hch' := List.chain'_append.mp hch
      have hb : ∀ x ∈ (pending cur run).getLast?, ∀ y ∈ ((u, fg, bk) :: rest).head?,
          isHighSurrogate x.1 = true → isLowSurrogate y.1 = true → False := by
        intro x hx y hy hh hl
        obtain rfl : y = (u, fg, bk) := (Option.mem_some_iff.mp hy).symm
        exact hc ((mem_pending (List.mem_of_mem_getLast? hx)).trans
          (congrArg some (hch'.2.2 x hx _ hy hh hl)))
      have hs' : (r.emit (convertToUtf8 run)).span.isSome = cur.isSome := by
        rw [span_emit, hs]
        cases cur <;> rfl
      rw [List.flatMap_cons, List.flatMap_cons, List.foldl_append, List.foldl_append,
        foldl_htmlPiece_text h, @foldl_htmlPiece_colors (r.emit (convertToUtf8 run)) h _ hs' hm _ _,
        ih (some (fg, bk)) [u] { r.emit (convertToUtf8 run) with span := some (spanStyle fg bk) } h
          rfl hm (nomatch ·) hch'.2.1, emit_pending hs hrun,
        coloredUtf8_append _ _ hb, lastColors]
      simp only [pending, List.map_cons, List.map_nil, List.singleton_append, List.map_append,
        List.append_assoc]

end HtmlReader

/-! ### Reading the fragment -/

section Fragment

variable {rows : TextAndColor}

open HtmlReader

theorem styledRow_eq {row : Nat} {text : List UInt16} {rest : List (List UInt16)}
    (h : text :: rest = rows.text.drop row) :
    (coloredUtf8 (unitsFrom text (rows.fgAttr.getD row []) (rows.bkAttr.getD row []) 0)).map
      styled = styledRow rows row ∧ row < rows.text.length ∧ rows.text.getD row [] = text ∧
      rest = rows.text.drop (row + 1) := by
  have hrow : row < rows.text.length := by
    by_contra hc
    rw [List.drop_eq_nil_of_le (by omega)] at h
    cases h
  rw [List.drop_eq_getElem_cons hrow, List.cons.injEq] at h
  have ht : rows.text.getD row [] = text := by
    rw [List.getD_eq_getElem?_getD, List.getElem?_eq_getElem hrow, Option.getD_some, h.1]
  exact ⟨by rw [styledRow, ht], hrow, ht, h.2⟩

/-- **The rows after the first.**  From row `row ≥ 1` on, with the rows before it read and
the colors `cur` in force, reading the rows' pieces reads each row as `styledRow`. -/
theorem foldl_rowsPieces (hp : rows.PairsShareColors) (texts : List (List UInt16)) :
    ∀ row (r : HtmlReader) cur, texts = rows.text.drop row → 0 < row → r.lex = .text →
      r.span = cur.map styleOf → r.malformed = false →
      r.rows ++ [r.cur] = (List.range row).map (styledRow rows) →
      ∃ r', ((rowsPieces rows row texts cur).flatMap htmlPiece).foldl step r = r' ∧
        r'.lex = .text ∧ r'.span = (rowsColors rows row texts cur).map styleOf ∧
        r'.malformed = false ∧ r'.rows ++ [r'.cur] = (List.range (row + texts.length)).map
          (styledRow rows) := by
  induction texts with
  | nil => intro row r cur _ _ h hs hm hd; exact ⟨r, rfl, h, hs, hm, hd⟩
  | cons text rest ih =>
    intro row r cur htexts hpos h hs hm hd
    obtain ⟨hstyled, hrow, htext, hrest⟩ := styledRow_eq htexts
    have hch := hp row hrow
    rw [htext] at hch
    rw [rowsPieces, if_pos (Nat.pos_iff_ne_zero.mp hpos), List.flatMap_append, List.flatMap_append,
      List.foldl_append, List.foldl_append, List.flatMap_singleton, foldl_htmlPiece_rowBreak h,
      foldl_runPieces _ cur [] { r with rows := r.rows ++ [r.cur], cur := [] } h hs hm (fun _ => rfl)
        (by cases cur <;> simpa [pending] using hch),
      rowsColors, List.length_cons, Nat.add_comm rest.length 1, ← Nat.add_assoc]
    refine ih (row + 1) _ _ hrest (Nat.succ_pos _) ?_ ?_ ?_ ?_
    · exact h
    · rfl
    · exact hm
    rw [List.range_succ, List.map_append, ← hd, List.map_singleton, ← hstyled]
    simp only [pending_nil, List.nil_append, List.append_assoc]

/-- **The fragment's rows.**  Reading the pieces of all rows from the start reads every row as
`styledRow` and leaves the last colors' span open. -/
theorem foldl_allRowsPieces (hp : rows.PairsShareColors) :
    ∃ r', ((rowsPieces rows 0 rows.text none).flatMap htmlPiece).foldl step init = r' ∧
      r'.lex = .text ∧ r'.span = (rowsColors rows 0 rows.text none).map styleOf ∧
      r'.malformed = false ∧
      r'.rows ++ [r'.cur] = (List.range (max 1 rows.text.length)).map (styledRow rows) := by
  cases htexts : rows.text with
  | nil =>
    refine ⟨init, rfl, rfl, rfl, rfl, ?_⟩
    show [[]] = [styledRow rows 0]
    rw [styledRow, htexts]
    rfl
  | cons text rest =>
    obtain ⟨hstyled, hrow, htext, hrest⟩ :=
      styledRow_eq (show text :: rest = rows.text.drop 0 by rw [htexts]; rfl)
    have hch := hp 0 hrow
    rw [htext] at hch
    rw [rowsPieces, if_neg (by decide), List.nil_append, List.flatMap_append, List.foldl_append,
      foldl_runPieces _ none [] init rfl rfl rfl (fun _ => rfl) (by simpa [pending] using hch),
      rowsColors, List.length_cons, Nat.max_eq_right (by omega), Nat.zero_add,
      Nat.add_comm rest.length 1]
    refine foldl_rowsPieces hp rest 1 _ _ hrest Nat.one_pos ?_ ?_ ?_ ?_
    · rfl
    · rfl
    · rfl
    show _ = [styledRow rows 0]
    rw [← hstyled]
    rfl

/-- The bytes of `styledRow` are the UTF-8 of the row's text up to its first CR or LF. -/
theorem map_fst_styledRow (hwf : rows.WellFormed) {i : Nat} (hi : i < rows.text.length) :
    (styledRow rows i).map Prod.fst =
      convertToUtf8 ((rows.text.getD i []).takeWhile (!isLineBreak ·)) := by
  have hl := hwf i hi
  have hlen : ((rows.text.getD i []).takeWhile (!isLineBreak ·)).length ≤
      ((rows.fgAttr.getD i []).zip (rows.bkAttr.getD i [])).length := by
    have : ((rows.text.getD i []).takeWhile (!isLineBreak ·)).length ≤ (rows.text.getD i []).length :=
      (List.takeWhile_prefix _).length_le
    simp only [List.length_zip]
    omega
  rw [styledRow, List.map_map, show Prod.fst ∘ styled = Prod.fst from rfl, map_fst_coloredUtf8,
    unitsFrom, List.drop_zero, List.drop_zero, List.drop_zero, List.map_fst_zip _ _ hlen]

/-- **The fragment reads as the rows.**  Given a font name without a double quote and
surrogate pairs of one color pair each, the fragment `GenHTML` writes reads as `styledRow` for
every row, with every span closed and none opened inside another. -/
theorem readHtml_htmlFragment (hp : rows.PairsShareColors) {fontFaceName : List UInt16}
    (hfont : 0x22 ∉ fontFaceName) (fontHeightPoints : Int) (backgroundColor : Colorref) :
    ∃ r', readHtml (htmlFragment rows fontHeightPoints fontFaceName backgroundColor) = r' ∧
      r'.span = none ∧ r'.malformed = false ∧
      r'.rows ++ [r'.cur] = (List.range (max 1 rows.text.length)).map (styledRow rows) := by
  obtain ⟨r', h1, h2, h3, h4, h5⟩ := foldl_allRowsPieces hp
  have hstart : (ascii "<!--StartFragment -->").foldl step init = init := foldl_startFragment rfl
  have hdiv : (ascii "\">").foldl step ((divStyle fontHeightPoints fontFaceName
      backgroundColor).foldl step ((ascii "<DIV STYLE=\"").foldl step init)) = init := by
    have h : (ascii "<DIV STYLE=\"" ++ divStyle fontHeightPoints fontFaceName backgroundColor ++
        ascii "\">").foldl step init = init :=
      foldl_divOpen rfl (quote_not_mem_divStyle hfont fontHeightPoints backgroundColor)
    simpa only [List.foldl_append] using h
  have hclose : (if (rowsColors rows 0 rows.text none).isSome then ascii "</SPAN>" else []).foldl
      step r' = { r' with span := none } := by
    obtain ⟨lex, span, m, rows', cur⟩ := r'
    cases h2
    cases h4
    cases hc : rowsColors rows 0 rows.text none <;> simp only [hc] at h3 <;> subst h3
    · rfl
    · simp only [Option.isSome_some, if_true]
      exact (foldl_spanClose rfl).trans rfl
  have hend : (ascii "<!--EndFragment -->").foldl step ((ascii "</DIV>").foldl step
      { r' with span := none }) = { r' with span := none } := by
    have h : (ascii "</DIV>" ++ ascii "<!--EndFragment -->").foldl step { r' with span := none } =
        { r' with span := none } := foldl_fragmentEnd h2
    simpa only [List.foldl_append] using h
  refine ⟨{ r' with span := none }, ?_, rfl, h4, h5⟩
  simp only [readHtml, htmlFragment, List.foldl_append]
  rw [hstart, hdiv, h1, hclose, hend]

end Fragment

/-! ### The document -/

/-- **The `CF_HTML` layout.**  A document of fewer than `10^10` bytes laid out as `GenHTML` lays
one out around a fragment has a 157-byte header whose offsets point at the HTML, at the
fragment and at the selection, and a reader takes the fragment back out of it. -/
theorem cfHtml_layout {frag out : List UInt8}
    (hg : out = clipHeader 157 (157 + (htmlHeader ++ frag ++ htmlFooter).length) 192
        (157 + (htmlHeader ++ frag ++ htmlFooter).length - 14) ++ (htmlHeader ++ frag ++ htmlFooter))
    (hsize : out.length < 10 ^ 10) :
    out = clipHeader 157 out.length 192 (out.length - 14) ++ htmlHeader ++ frag ++ htmlFooter ∧
      (clipHeader 157 out.length 192 (out.length - 14)).length = 157 ∧
      headerOffsets out = [some 157, some out.length, some 192, some (out.length - 14), some 192,
        some (out.length - 14)] ∧
      fragmentOf out = frag := by
  have hhead : htmlHeader.length = 35 := rfl
  have hL : (htmlHeader ++ frag ++ htmlFooter).length = frag.length + 49 := by
    simp only [List.length_append, hhead, show htmlFooter.length = 14 from rfl]; omega
  rw [hL] at hg
  have hlen := congrArg List.length hg
  rw [List.length_append, hL] at hlen
  have := le_length_clipHeader 157 (157 + (frag.length + 49)) 192 (157 + (frag.length + 49) - 14)
  have e : 157 + (frag.length + 49) = out.length := by
    rw [length_clipHeader (by norm_num) (by omega) (by norm_num) (by omega)] at hlen; omega
  rw [e] at hg
  have h157 : (clipHeader 157 out.length 192 (out.length - 14)).length = 157 :=
    length_clipHeader (by norm_num) hsize (by norm_num) (by omega)
  have hv : headerOffsets out = [some 157, some out.length, some 192, some (out.length - 14),
      some 192, some (out.length - 14)] := by
    conv_lhs => rw [hg]
    exact headerOffsets_clipHeader _
  have hdoc : out = clipHeader 157 out.length 192 (out.length - 14) ++ htmlHeader ++ frag ++
      htmlFooter := by
    conv_lhs => rw [hg]
    simp only [List.append_assoc]
  refine ⟨hdoc, h157, hv, ?_⟩
  -- the fragment starts after the header and `htmlHeader`, and ends before `htmlFooter`
  have hd : out.drop 192 = frag ++ htmlFooter := by
    conv_lhs => rw [hdoc]
    rw [List.append_assoc, List.append_assoc, ← List.append_assoc _ htmlHeader]
    exact List.drop_left' (by rw [List.length_append, h157, hhead])
  simp only [headerOffsets, List.map_cons, List.map_nil, List.cons.injEq] at hv
  simp only [fragmentOf, hv.2.2.1, hv.2.2.2.1]
  rw [hd, List.take_left' (by omega)]

/-- **`GenHTML` writes a `CF_HTML` document whose fragment reads as the rows.**  For every
input whose colors are as long as its text and whose surrogate pairs have one color pair
each, every font name without a double quote, and every document shorter than `10^10`
bytes: the header is 157 bytes, and a reader of it finds `StartHTML` where `<!DOCTYPE>`
starts, `EndHTML` at the end, and the fragment and the selection exactly between `<BODY>`
and `</BODY>`.  The fragment closes every span and opens none inside another, and reads as
`styledRow` for every row: the UTF-8 of the row's text up to its first CR or LF, each byte
in the span of its character's colors. -/
theorem genHTML_cfHtml (rows : TextAndColor) (fontHeightPoints : Int) (fontFaceName : List UInt16)
    (backgroundColor : Colorref) (out : List UInt8) (hwf : rows.WellFormed)
    (hpairs : rows.PairsShareColors) (hfont : 0x22 ∉ fontFaceName)
    (hout : genHTML rows fontHeightPoints fontFaceName backgroundColor = out)
    (hsize : out.length < 10 ^ 10) :
    out = clipHeader 157 out.length 192 (out.length - 14) ++ htmlHeader ++ fragmentOf out ++
        htmlFooter ∧
      (clipHeader 157 out.length 192 (out.length - 14)).length = 157 ∧
      headerOffsets out = [some 157, some out.length, some 192, some (out.length - 14), some 192,
        some (out.length - 14)] ∧
      (readHtml (fragmentOf out)).span = none ∧ (readHtml (fragmentOf out)).malformed = false ∧
      decodeHtml (fragmentOf out) = (List.range (max 1 rows.text.length)).map (styledRow rows) ∧
      ∀ i < rows.text.length, (styledRow rows i).map Prod.fst =
        convertToUtf8 ((rows.text.getD i []).takeWhile (!isLineBreak ·)) := by
  obtain ⟨r', hr', hspan, hmal, hrows⟩ :=
    readHtml_htmlFragment hpairs hfont fontHeightPoints backgroundColor
  obtain ⟨hdoc, h157, hv, hfrag⟩ :=
    cfHtml_layout (hout.symm.trans (genHTML_eq rows hwf fontHeightPoints fontFaceName backgroundColor))
      hsize
  rw [hfrag, decodeHtml, hr']
  exact ⟨hdoc, h157, hv, hspan, hmal, hrows, fun i hi => map_fst_styledRow hwf hi⟩

/-- Two rows: `a` and `<` in two foregrounds, then `b` in the second. -/
def twoRuns : TextAndColor := ⟨[[0x61, 0x3C], [0x62]], [[1, 2], [2]], [[0, 0], [0]]⟩

/-- `GenHTML`'s document for `twoRuns`. -/
def twoRunsHtml : List UInt8 := genHTML twoRuns 10 [0x46] 0

theorem genHTML_cfHtml_twoRuns :
    twoRuns.WellFormed ∧ twoRuns.PairsShareColors ∧ (0x22 : UInt16) ∉ [0x46] ∧
      genHTML twoRuns 10 [0x46] 0 = twoRunsHtml ∧ twoRunsHtml.length < 10 ^ 10 ∧
      (twoRunsHtml = clipHeader 157 twoRunsHtml.length 192 (twoRunsHtml.length - 14) ++ htmlHeader ++
          fragmentOf twoRunsHtml ++ htmlFooter ∧
        (clipHeader 157 twoRunsHtml.length 192 (twoRunsHtml.length - 14)).length = 157 ∧
        headerOffsets twoRunsHtml = [some 157, some twoRunsHtml.length, some 192,
          some (twoRunsHtml.length - 14), some 192, some (twoRunsHtml.length - 14)] ∧
        (readHtml (fragmentOf twoRunsHtml)).span = none ∧
        (readHtml (fragmentOf twoRunsHtml)).malformed = false ∧
        decodeHtml (fragmentOf twoRunsHtml) =
          (List.range (max 1 twoRuns.text.length)).map (styledRow twoRuns) ∧
        ∀ i < twoRuns.text.length, (styledRow twoRuns i).map Prod.fst =
          convertToUtf8 ((twoRuns.text.getD i []).takeWhile (!isLineBreak ·))) :=
  have hsize : twoRunsHtml.length < 10 ^ 10 := by set_option maxRecDepth 20000 in decide
  ⟨by decide, by decide, by decide, rfl, hsize,
    genHTML_cfHtml twoRuns 10 [0x46] 0 twoRunsHtml (by decide) (by decide) (by decide) rfl hsize⟩

/-! ### Where the reading fails -/

/-- One row holding `U+1F600` as its two surrogates, the high one in foreground `1` and the
low one in foreground `2`. -/
def splitPair : TextAndColor := ⟨[[0xD83D, 0xDE00]], [[1, 2]], [[0, 0]]⟩

/-- One row holding `a`. -/
def letterA : TextAndColor := ⟨[[0x61]], [[0]], [[0]]⟩

/-- A font name that ends the `DIV`'s style and opens a span: `"><SPAN STYLE="x`. -/
def quotingFont : List UInt16 :=
  [0x22, 0x3E, 0x3C, 0x53, 0x50, 0x41, 0x4E, 0x20, 0x53, 0x54, 0x59, 0x4C, 0x45, 0x3D, 0x22, 0x78]

/-- `GenHTML` converts the two runs of `splitPair` to UTF-8 one at a time, each surrogate
without its partner: the document reads as two `U+FFFD`, not as the UTF-8 of `U+1F600`.
And the font name `quotingFont`, written into the `DIV`'s style as it is, opens a span that
the first run's span then opens inside. -/
theorem genHTML_fragment_misreads :
    splitPair.text.map List.length = splitPair.fgAttr.map List.length ∧
      splitPair.text.map List.length = splitPair.bkAttr.map List.length ∧
      (genHTML splitPair 10 [0x46] 0).length < 10 ^ 10 ∧
      (decodeHtml (fragmentOf (genHTML splitPair 10 [0x46] 0))).map (·.map Prod.fst) =
        [[0xEF, 0xBF, 0xBD, 0xEF, 0xBF, 0xBD]] ∧
      splitPair.text.map (fun t => convertToUtf8 (t.takeWhile (!isLineBreak ·))) =
        [[0xF0, 0x9F, 0x98, 0x80]] ∧
      (genHTML letterA 10 quotingFont 0).length < 10 ^ 10 ∧
      (readHtml (fragmentOf (genHTML letterA 10 quotingFont 0))).malformed = true := by
  set_option maxRecDepth 20000 in decide

end Export

end TerminalBuffer
