/-
The HTML exporter and the clipboard header it puts in front.

`GenHTML` writes a boilerplate head ending in `<BODY>`, the fragment comment, a `DIV`
whose `STYLE` carries the background color, the font's name and its size, and then the
loop of `Runs`: `<BR>` between rows, on a change of colors a `</SPAN>` when anything was
written before and a `SPAN` whose `STYLE` declares the new colors, and the UTF-8 of each
run with `<`, `>` and `&` escaped.  It closes the last `SPAN`, the `DIV`, the fragment
comment, and `</BODY></HTML>`.

In front of that it puts a `CF_HTML` header: `Version:0.9` and six lines `Name:` followed
by a byte offset that `std::setw(10)` pads with zeros.  The offsets are computed before
the header is written, on the promise that it is 157 bytes long, which holds exactly when
each offset has at most ten digits (`length_clipHeader`).  A reader of the header takes
each line's digits as a decimal (`headerValue`), and reads back the offsets the header
was written with (`headerOffsets_clipHeader`).
-/
import TerminalBuffer.Export.Runs

namespace TerminalBuffer

namespace Export

/-! ### The document -/

/-- An upper-case hexadecimal digit. -/
def hexDigit (n : Nat) : UInt8 := if n < 10 then (0x30 + n).toUInt8 else (0x37 + n).toUInt8

/-- Modelled from the spec: `Utils::ColorToHexString(color)`, `#` and the red, green and
blue bytes, each as two upper-case hexadecimal digits. -/
def colorToHexString (c : Colorref) : List UInt8 :=
  ascii "#" ++ [getRValue c, getGValue c, getBValue c].flatMap fun v =>
    [hexDigit (v / 16), hexDigit (v % 16)]

/-- The escaping `writeAccumulatedChars` applies to the UTF-8 of a run. -/
def escapeHtml (s : List UInt8) : List UInt8 :=
  s.flatMap fun c =>
    if c = 0x3C then ascii "&lt;"
    else if c = 0x3E then ascii "&gt;"
    else if c = 0x26 then ascii "&amp;"
    else [c]

/-- The `STYLE` of a run's `SPAN`: its foreground as `color`, its background as
`background-color`. -/
def spanStyle (fg bk : Colorref) : List UInt8 :=
  ascii "color:" ++ colorToHexString fg ++ ascii ";" ++ ascii "background-color:" ++
    colorToHexString bk ++ ascii ";"

/-- What `GenHTML` writes into `htmlBuilder` in the loop. -/
def htmlSink : Sink (List UInt8) where
  rowBreak := fun o => o ++ ascii "<BR>"
  text := fun u o => o ++ escapeHtml (convertToUtf8 u)
  colors := fun hasWrittenAnyText fg bk o =>
    o ++ ((if hasWrittenAnyText then ascii "</SPAN>" else []) ++ ascii "<SPAN STYLE=\"" ++
      spanStyle fg bk ++ ascii "\">")

/-- `htmlHeader`. -/
def htmlHeader : List UInt8 := ascii "<!DOCTYPE><HTML><HEAD></HEAD><BODY>"

/-- `HtmlFooter`. -/
def htmlFooter : List UInt8 := ascii "</BODY></HTML>"

/-- The `STYLE` of the `DIV` that holds the fragment. -/
def divStyle (fontHeightPoints : Int) (fontFaceName : List UInt16) (backgroundColor : Colorref) :
    List UInt8 :=
  ascii "display:inline-block;" ++ ascii "white-space:pre;" ++ ascii "background-color:" ++
    colorToHexString backgroundColor ++ ascii ";" ++ ascii "font-family:" ++ ascii "\x27" ++
    convertToUtf8 fontFaceName ++ ascii "\x27," ++ ascii "monospace;" ++ ascii "font-size:" ++
    ascii (toString fontHeightPoints) ++ ascii "pt;" ++ ascii "padding:" ++ ascii (toString 4) ++
    ascii "px;"

/-- `std::setw(10)` with `std::setfill('0')` before a `size_t`: its decimal digits, padded
with zeros to ten. -/
def pad10 (n : Nat) : List UInt8 :=
  List.replicate (10 - (toString n).length) 0x30 ++ ascii (toString n)

/-- `clipHeaderBuilder`: the version and the six offsets. -/
def clipHeader (htmlStartPos htmlEndPos fragStartPos fragEndPos : Nat) : List UInt8 :=
  ascii "Version:0.9\r\n" ++
    ascii "StartHTML:" ++ pad10 htmlStartPos ++ ascii "\r\n" ++
    ascii "EndHTML:" ++ pad10 htmlEndPos ++ ascii "\r\n" ++
    ascii "StartFragment:" ++ pad10 fragStartPos ++ ascii "\r\n" ++
    ascii "EndFragment:" ++ pad10 fragEndPos ++ ascii "\r\n" ++
    ascii "StartSelection:" ++ pad10 fragStartPos ++ ascii "\r\n" ++
    ascii "EndSelection:" ++ pad10 fragEndPos ++ ascii "\r\n"

/-- `GenHTML(rows, fontHeightPoints, fontFaceName, backgroundColor)`; the empty string where
an exception is caught. -/
def genHTML (rows : TextAndColor) (fontHeightPoints : Int) (fontFaceName : List UInt16)
    (backgroundColor : Colorref) : List UInt8 :=
  let html := htmlHeader ++ ascii "<!--StartFragment -->" ++ ascii "<DIV STYLE=\"" ++
    divStyle fontHeightPoints fontFaceName backgroundColor ++ ascii "\">"
  match exportRows htmlSink rows rows.text 0 ⟨html, none, none, false⟩ with
  | some st =>
    let html := st.out ++ (if st.hasWrittenAnyText then ascii "</SPAN>" else []) ++
      ascii "</DIV>" ++ ascii "<!--EndFragment -->" ++ htmlFooter
    let clipboardHeaderSize := 157
    let htmlStartPos := clipboardHeaderSize
    let htmlEndPos := clipboardHeaderSize + html.length
    let fragStartPos := clipboardHeaderSize + htmlHeader.length
    let fragEndPos := htmlEndPos - htmlFooter.length
    clipHeader htmlStartPos htmlEndPos fragStartPos fragEndPos ++ html
  | none => []

/-! ### A reader of the header -/

/-- The value of a run of decimal digits. -/
def decimal (ds : List UInt8) : Nat := ds.foldl (fun v d => 10 * v + (d.toNat - 0x30)) 0

/-- The value a line gives the field `name`: the digits after `name:`, up to the CR. -/
def fieldValue (name : String) (line : List UInt8) : Option Nat :=
  if (ascii name ++ ascii ":").isPrefixOf line then
    some (decimal ((line.drop (name.length + 1)).takeWhile (· != 0x0D)))
  else none

/-- What a reader of the clipboard header takes as a field's value: the one the first line
that starts with `name:` gives. -/
def headerValue (doc : List UInt8) (name : String) : Option Nat :=
  (doc.splitOn 0x0A).findSome? (fieldValue name)

/-- The six offsets a reader finds in a document's header. -/
def headerOffsets (doc : List UInt8) : List (Option Nat) :=
  ["StartHTML", "EndHTML", "StartFragment", "EndFragment", "StartSelection", "EndSelection"].map
    (headerValue doc)

/-- The bytes a reader takes as the fragment: from `StartFragment` up to `EndFragment`. -/
def fragmentOf (doc : List UInt8) : List UInt8 :=
  match headerValue doc "StartFragment", headerValue doc "EndFragment" with
  | some s, some e => (doc.drop s).take (e - s)
  | _, _ => []

/-! ### Decimal digits -/

section Digits

@[simp] theorem length_ascii (s : String) : (ascii s).length = s.length := List.length_map _ _

theorem decimal_foldl (ds : List UInt8) (v : Nat) :
    ds.foldl (fun v d => 10 * v + (d.toNat - 0x30)) v = v * 10 ^ ds.length + decimal ds := by
  induction ds generalizing v with
  | nil => simp [decimal]
  | cons d ds ih =>
    simp only [decimal, List.foldl_cons, List.length_cons]
    rw [ih, ih, Nat.pow_succ]
    ring

theorem decimal_append (xs ys : List UInt8) :
    decimal (xs ++ ys) = decimal xs * 10 ^ ys.length + decimal ys := by
  rw [decimal, List.foldl_append, decimal_foldl]
  rfl

theorem decimal_replicate_zero (k : Nat) : decimal (List.replicate k 0x30) = 0 := by
  induction k with
  | zero => rfl
  | succ k ih => rw [List.replicate_succ', decimal_append, ih]; rfl

/-- The byte of a character `Nat.toDigits` writes. -/
def digitByte (c : Char) : UInt8 := c.toNat.toUInt8

theorem digit_digitChar : ∀ k, k < 10 → (digitByte (Nat.digitChar k)).toNat - 0x30 = k ∧
    0x30 ≤ (digitByte (Nat.digitChar k)).toNat ∧ (digitByte (Nat.digitChar k)).toNat ≤ 0x39 := by
  decide

/-- `Nat.toDigitsCore` writes the digits of `n` in front of `ds`, given fuel above `n`. -/
theorem decimal_toDigitsCore (f : Nat) :
    ∀ n (ds : List Char), n < f →
      decimal ((Nat.toDigitsCore 10 f n ds).map digitByte) =
        n * 10 ^ ds.length + decimal (ds.map digitByte) ∧
      ∀ c ∈ Nat.toDigitsCore 10 f n ds, c ∈ ds ∨ ∃ k < 10, c = Nat.digitChar k := by
  induction f with
  | zero => intro n _ h; omega
  | succ f ih =>
    intro n ds hn
    have hd := digit_digitChar (n % 10) (Nat.mod_lt _ (by decide))
    have hcons : decimal ((Nat.digitChar (n % 10) :: ds).map digitByte) =
        n % 10 * 10 ^ ds.length + decimal (ds.map digitByte) := by
      rw [List.map_cons, ← List.singleton_append, decimal_append, List.length_map]
      simp only [decimal, List.foldl, hd.1, Nat.mul_zero, Nat.zero_add]
    simp only [Nat.toDigitsCore]
    split
    · rename_i h0
      refine ⟨by rw [hcons, Nat.mod_eq_of_lt (by omega)], fun c hc => ?_⟩
      rcases List.mem_cons.mp hc with rfl | hc
      · exact .inr ⟨_, Nat.mod_lt _ (by decide), rfl⟩
      · exact .inl hc
    · rename_i h0
      obtain ⟨h1, h2⟩ := ih (n / 10) _ (by omega)
      refine ⟨?_, fun c hc => ?_⟩
      · rw [h1, hcons, List.length_cons, Nat.pow_succ]
        conv_rhs => rw [← Nat.div_add_mod n 10]
        ring
      rcases h2 c hc with hc | hc
      · rcases List.mem_cons.mp hc with rfl | hc
        · exact .inr ⟨_, Nat.mod_lt _ (by decide), rfl⟩
        · exact .inl hc
      · exact .inr hc

theorem ascii_toString (n : Nat) : ascii (toString n) = (Nat.toDigits 10 n).map digitByte := rfl

theorem decimal_toString (n : Nat) : decimal (ascii (toString n)) = n := by
  rw [ascii_toString, Nat.toDigits, (decimal_toDigitsCore _ n [] (Nat.lt_succ_self n)).1]
  simp [decimal]

/-- Every byte of a number's decimal digits is a digit. -/
theorem mem_toString_digit {n : Nat} {b : UInt8} (hb : b ∈ ascii (toString n)) :
    0x30 ≤ b.toNat ∧ b.toNat ≤ 0x39 := by
  rw [ascii_toString, List.mem_map] at hb
  obtain ⟨c, hc, rfl⟩ := hb
  rcases (decimal_toDigitsCore _ n [] (Nat.lt_succ_self n)).2 c hc with hc | ⟨k, hk, rfl⟩
  · cases hc
  · exact (digit_digitChar k hk).2

theorem mem_pad10_digit {n : Nat} {b : UInt8} (hb : b ∈ pad10 n) : 0x30 ≤ b.toNat ∧ b.toNat ≤ 0x39 := by
  rcases List.mem_append.mp hb with hb | hb
  · rw [List.eq_of_mem_replicate hb]; decide
  · exact mem_toString_digit hb

theorem decimal_pad10 (n : Nat) : decimal (pad10 n) = n := by
  rw [pad10, decimal_append, decimal_replicate_zero, Nat.zero_mul, Nat.zero_add, decimal_toString]

theorem length_pad10 {n : Nat} (h : n < 10 ^ 10) : (pad10 n).length = 10 := by
  have := Nat.repr_length n 10 (by decide) h
  simp only [pad10, List.length_append, List.length_replicate, length_ascii]
  change 10 - (Nat.repr n).length + (Nat.repr n).length = 10
  omega

theorem le_length_pad10 (n : Nat) : 10 ≤ (pad10 n).length := by
  simp only [pad10, List.length_append, List.length_replicate, length_ascii]
  omega

end Digits

/-! ### The header -/

section Header

variable {a b c d : Nat}

theorem length_clipHeader_eq (a b c d : Nat) :
    (clipHeader a b c d).length =
      97 + (pad10 a).length + (pad10 b).length + 2 * (pad10 c).length + 2 * (pad10 d).length := by
  simp only [clipHeader, List.length_append, length_ascii, String.length, String.toList,
    List.length_cons, List.length_nil]
  omega

/-- The header is 157 bytes when every offset has at most ten digits. -/
theorem length_clipHeader (ha : a < 10 ^ 10) (hb : b < 10 ^ 10) (hc : c < 10 ^ 10)
    (hd : d < 10 ^ 10) : (clipHeader a b c d).length = 157 := by
  rw [length_clipHeader_eq, length_pad10 ha, length_pad10 hb, length_pad10 hc, length_pad10 hd]

/-- The header is never shorter than 157 bytes. -/
theorem le_length_clipHeader (a b c d : Nat) : 157 ≤ (clipHeader a b c d).length := by
  have := le_length_pad10 a
  have := le_length_pad10 b
  have := le_length_pad10 c
  have := le_length_pad10 d
  rw [length_clipHeader_eq]
  omega

/-- Every byte of the header but its line ends is no LF. -/
theorem ne_lf_of_mem_pad10 {n : Nat} {x : UInt8} (hx : x ∈ pad10 n) : x ≠ 0x0A := by
  have := mem_pad10_digit hx
  rintro rfl
  exact absurd this (by decide)

/-- A header line, as a reader splits it off: the name, the colon, the digits and the CR. -/
def headerLine (name : String) (v : Nat) : List UInt8 := ascii name ++ ascii ":" ++ pad10 v ++ ascii "\r"

theorem splitOn_line {l : List UInt8} (h : ∀ x ∈ l, x ≠ 0x0A) (rest : List UInt8) :
    (l ++ 0x0A :: rest).splitOn 0x0A = l :: rest.splitOn 0x0A :=
  List.splitOnP_first _ l (fun x hx hp => h x hx (beq_iff_eq.mp hp)) _ (by decide) rest

theorem splitOn_headerLine (name : String) (hname : ∀ x ∈ ascii name, x ≠ 0x0A) (v : Nat)
    (rest : List UInt8) :
    (headerLine name v ++ 0x0A :: rest).splitOn 0x0A = headerLine name v :: rest.splitOn 0x0A :=
  splitOn_line (fun x hx => by
    simp only [headerLine, List.mem_append] at hx
    rcases hx with ((hx | hx) | hx) | hx
    · exact hname x hx
    · simp [ascii] at hx; subst hx; decide
    · exact ne_lf_of_mem_pad10 hx
    · simp [ascii] at hx; subst hx; decide) rest

/-- A reader splits the header into its seven lines. -/
theorem splitOn_clipHeader (rest : List UInt8) :
    (clipHeader a b c d ++ rest).splitOn 0x0A =
      ascii "Version:0.9\r" :: headerLine "StartHTML" a :: headerLine "EndHTML" b ::
        headerLine "StartFragment" c :: headerLine "EndFragment" d ::
        headerLine "StartSelection" c :: headerLine "EndSelection" d :: rest.splitOn 0x0A := by
  have e : clipHeader a b c d ++ rest = ascii "Version:0.9\r" ++ 0x0A :: (headerLine "StartHTML" a ++
      0x0A :: (headerLine "EndHTML" b ++ 0x0A :: (headerLine "StartFragment" c ++ 0x0A ::
      (headerLine "EndFragment" d ++ 0x0A :: (headerLine "StartSelection" c ++ 0x0A ::
      (headerLine "EndSelection" d ++ 0x0A :: rest)))))) := by
    simp only [clipHeader, headerLine, List.append_assoc]
    rfl
  rw [e, splitOn_line (by decide), splitOn_headerLine _ (by decide), splitOn_headerLine _ (by decide),
    splitOn_headerLine _ (by decide), splitOn_headerLine _ (by decide),
    splitOn_headerLine _ (by decide), splitOn_headerLine _ (by decide)]

/-- A line gives its own field the value written on it. -/
theorem fieldValue_headerLine (name : String) (v : Nat) :
    fieldValue name (headerLine name v) = some v := by
  have e : headerLine name v = (ascii name ++ ascii ":") ++ (pad10 v ++ ascii "\r") := by
    simp only [headerLine, List.append_assoc]
  have hp : (ascii name ++ ascii ":").isPrefixOf (headerLine name v) = true :=
    List.isPrefixOf_iff_prefix.mpr ⟨_, e.symm⟩
  have hd : (headerLine name v).drop (name.length + 1) = pad10 v ++ ascii "\r" := by
    rw [e]
    exact List.drop_left' (by rw [List.length_append, length_ascii]; rfl)
  have ht : (pad10 v ++ ascii "\r").takeWhile (· != 0x0D) = pad10 v := by
    rw [List.takeWhile_append_of_pos (fun x hx => by
      have := mem_pad10_digit hx
      exact bne_iff_ne.mpr (by rintro rfl; exact absurd this (by decide))),
      show (ascii "\r").takeWhile (· != (0x0D : UInt8)) = [] from rfl, List.append_nil]
  rw [fieldValue, if_pos hp, hd, ht, decimal_pad10]

/-- **The header reads back.**  A reader of the header finds each offset it was written
with, whatever follows it. -/
theorem headerOffsets_clipHeader (rest : List UInt8) :
    headerOffsets (clipHeader a b c d ++ rest) = [some a, some b, some c, some d, some c, some d] := by
  simp only [headerOffsets, headerValue, List.map_cons, List.map_nil, splitOn_clipHeader,
    List.findSome?_cons, fieldValue_headerLine]
  rfl

end Header

/-! ### The document, piece by piece -/

/-- The bytes `GenHTML` writes for one piece. -/
def htmlPiece (p : Piece) : List UInt8 := p.apply htmlSink []

/-- What `GenHTML` writes between `<BODY>` and `</BODY>`: the fragment comment, the `DIV`,
the pieces of the rows, the last `SPAN`'s end when one was opened, the `DIV`'s end and the
fragment's closing comment. -/
def htmlFragment (rows : TextAndColor) (fontHeightPoints : Int) (fontFaceName : List UInt16)
    (backgroundColor : Colorref) : List UInt8 :=
  ascii "<!--StartFragment -->" ++ ascii "<DIV STYLE=\"" ++
    divStyle fontHeightPoints fontFaceName backgroundColor ++ ascii "\">" ++
    (rowsPieces rows 0 rows.text none).flatMap htmlPiece ++
    (if (rowsColors rows 0 rows.text none).isSome then ascii "</SPAN>" else []) ++
    ascii "</DIV>" ++ ascii "<!--EndFragment -->"

theorem apply_htmlSink (p : Piece) (o : List UInt8) : p.apply htmlSink o = o ++ htmlPiece p := by
  cases p <;> simp [Piece.apply, htmlSink, htmlPiece]

theorem foldl_htmlSink (ps : List Piece) (o : List UInt8) :
    ps.foldl (fun o p => p.apply htmlSink o) o = o ++ ps.flatMap htmlPiece := by
  induction ps generalizing o with
  | nil => simp
  | cons p ps ih => rw [List.foldl_cons, ih, apply_htmlSink, List.flatMap_cons, List.append_assoc]

/-- **What `GenHTML` returns.**  For every input whose colors are as long as its text, the
document is the header with the offsets of the HTML that follows it, the boilerplate head,
the fragment and the footer. -/
theorem genHTML_eq (rows : TextAndColor) (hwf : rows.WellFormed) (fontHeightPoints : Int)
    (fontFaceName : List UInt16) (backgroundColor : Colorref) :
    genHTML rows fontHeightPoints fontFaceName backgroundColor =
      clipHeader 157 (157 + (htmlHeader ++ htmlFragment rows fontHeightPoints fontFaceName
          backgroundColor ++ htmlFooter).length) 192
        (157 + (htmlHeader ++ htmlFragment rows fontHeightPoints fontFaceName
          backgroundColor ++ htmlFooter).length - 14) ++
        (htmlHeader ++ htmlFragment rows fontHeightPoints fontFaceName backgroundColor ++
          htmlFooter) := by
  obtain ⟨st, hst, hin, hout⟩ := exportRows_eq htmlSink rows hwf
    (fun o => by simp [htmlSink, escapeHtml, convertToUtf8]) rows.text 0
    ⟨htmlHeader ++ ascii "<!--StartFragment -->" ++ ascii "<DIV STYLE=\"" ++
      divStyle fontHeightPoints fontFaceName backgroundColor ++ ascii "\">", none, none, false⟩
    none (by simp) ⟨rfl, rfl, rfl⟩
  have hhtml : st.out ++ (if st.hasWrittenAnyText then ascii "</SPAN>" else []) ++
      ascii "</DIV>" ++ ascii "<!--EndFragment -->" ++ htmlFooter =
      htmlHeader ++ htmlFragment rows fontHeightPoints fontFaceName backgroundColor ++
        htmlFooter := by
    rw [hout, foldl_htmlSink, hin.2.2]
    simp only [htmlFragment, List.append_assoc]
  simp only [genHTML, hst, hhtml]
  rfl

end Export

end TerminalBuffer
