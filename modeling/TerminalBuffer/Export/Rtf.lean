/-
The RTF exporter, and what a reader of the document it declares makes of it.

`GenRTF` writes a header, a font table holding the font's name, a color table it builds
as colors come up (`getColorTableIndex`: a new color gets the next index, index `0` is
left to the default color), and the content, in which `_AppendRTFText` writes ASCII as it
is with `\`, `{` and `}` escaped and every other code unit as `\uN?`.

The content opens with `\uc4`: from there on a reader takes four fallback characters after
every `\uN`, a control word counting as one.  `_AppendRTFText` writes one.  `RtfReader` is
a reader for what `GenRTF` writes that follows those rules: it skips the font and color
tables, keeps `\\`, `\{`, `\}` and plain characters, reads `\line` as a row break, and
after `\uN` keeps the unit and skips as many fallback characters as the last `\ucN` says.
On a row holding `é` and then `abcd` it keeps `é` and `d`: the three characters after every
non-ASCII unit are lost (`genRTF_skips_text`).
-/
import TerminalBuffer.Export.Runs

namespace TerminalBuffer

namespace Export

/-- `til::bit_cast<int16_t>(codeUnit)`. -/
def toInt16 (u : UInt16) : Int := if u.toNat < 32768 then u.toNat else (u.toNat : Int) - 65536

/-- `_AppendRTFText(contentBuilder, text)`. -/
def appendRTFText (text : List UInt16) : List UInt8 :=
  text.flatMap fun codeUnit =>
    if codeUnit ≤ 127 then
      if codeUnit = 0x5C ∨ codeUnit = 0x7B ∨ codeUnit = 0x7D then [0x5C, codeUnit.toUInt8]
      else [codeUnit.toUInt8]
    else ascii "\\u" ++ ascii (toString (toInt16 codeUnit)) ++ ascii "?"

/-- The color table as `GenRTF` builds it: `colorMap` and `colorTableBuilder`. -/
structure ColorTable where
  colorMap : List (Colorref × Nat)
  builder : List UInt8
deriving DecidableEq, Repr

/-- `getColorTableIndex(color)`: the color's index, entering it with the next index and
appending its `\redR\greenG\blueB;` entry when it is new. -/
def getColorTableIndex (color : Colorref) (t : ColorTable) : ColorTable × Nat :=
  match t.colorMap.lookup color with
  | some i => (t, i)
  | none =>
    let i := t.colorMap.length + 1
    (⟨t.colorMap ++ [(color, i)], t.builder ++ ascii "\\red" ++ ascii (toString (getRValue color)) ++
      ascii "\\green" ++ ascii (toString (getGValue color)) ++ ascii "\\blue" ++
      ascii (toString (getBValue color)) ++ ascii ";"⟩, i)

/-- What `GenRTF` writes into `contentBuilder`, with the color table it grows. -/
def rtfSink : Sink (List UInt8 × ColorTable) where
  rowBreak := fun (c, t) => (c ++ ascii "\\line ", t)
  text := fun u (c, t) => (c ++ appendRTFText u, t)
  colors := fun _ fg bk (c, t) =>
    let (t, ib) := getColorTableIndex bk t
    let (t, i) := getColorTableIndex fg t
    (c ++ ascii "\\chshdng0\\chcbpat" ++ ascii (toString ib) ++ ascii "\\cf" ++ ascii (toString i) ++
      ascii " ", t)

/-- `GenRTF(rows, fontHeightPoints, fontFaceName, backgroundColor)`; the empty string where
an exception is caught. -/
def genRTF (rows : TextAndColor) (fontHeightPoints : Int) (fontFaceName : List UInt16)
    (backgroundColor : Colorref) : List UInt8 :=
  let table : ColorTable := ⟨[], ascii "\x7b\\colortbl ;"⟩
  let content := ascii "\\viewkind4\\uc4" ++ ascii "\\pard\\slmult1\\f0\\fs" ++
    ascii (toString (2 * fontHeightPoints)) ++ ascii "\\chshdng0\\chcbpat"
  let (table, i) := getColorTableIndex backgroundColor table
  let content := content ++ ascii (toString i) ++ ascii " "
  match exportRows rtfSink rows rows.text 0 ⟨(content, table), none, none, false⟩ with
  | some st =>
    ascii "\x7b" ++ ascii "\\rtf1\\ansi\\ansicpg1252\\deff0\\nouicompat" ++
      ascii "\x7b\\fonttbl\x7b\\f0\\fmodern\\fcharset0 " ++ convertToUtf8 fontFaceName ++
      ascii ";\x7d\x7d" ++ st.out.2.builder ++ ascii "\x7d" ++ st.out.1 ++ ascii "\x7d"
  | none => []

/-! ### A reader -/

/-- Where the reader is inside a token. -/
inductive RtfLex
  | plain
  | backslash
  /-- A control word: its letters, whether a `-` came, and its digits so far. -/
  | word (name : List UInt8) (negative : Bool) (digits : Option Nat)
deriving DecidableEq, Repr

/-- A reader of the documents `GenRTF` writes, by the rules they declare. -/
structure RtfReader where
  lex : RtfLex
  depth : Nat
  /-- The depth below which a destination group is being skipped. -/
  skipping : Option Nat
  /-- The last token opened a group, so a destination word may follow. -/
  groupStart : Bool
  /-- The last `\ucN`. -/
  uc : Nat
  /-- Fallback characters still to skip. -/
  pending : Nat
  rows : List (List UInt16)
  cur : List UInt16
deriving DecidableEq, Repr

namespace RtfReader

/-- Before the first byte: `\uc1` is RTF's default. -/
def init : RtfReader := ⟨.plain, 0, none, false, 1, 0, [], []⟩

/-- A character of the text: skipped inside a destination or as a fallback, kept otherwise. -/
def char (r : RtfReader) (c : UInt16) : RtfReader :=
  if r.skipping.isSome then r
  else if r.pending > 0 then { r with pending := r.pending - 1 }
  else { r with cur := r.cur ++ [c] }

/-- A control word or symbol with its parameter. -/
def word (r : RtfReader) (name : List UInt8) (param : Option Int) : RtfReader :=
  if r.groupStart ∧ (name = ascii "fonttbl" ∨ name = ascii "colortbl") then
    { r with skipping := some (r.depth - 1) }
  else if r.skipping.isSome then r
  else if r.pending > 0 then { r with pending := r.pending - 1 }
  else if name = ascii "line" then { r with rows := r.rows ++ [r.cur], cur := [] }
  else if name = ascii "uc" then { r with uc := (param.getD 1).toNat }
  else if name = ascii "u" then
    { r with cur := r.cur ++ [((param.getD 0) % 65536).toNat.toUInt16], pending := r.uc }
  else r

/-- A byte outside any control word. -/
def plainByte (r : RtfReader) (b : UInt8) : RtfReader :=
  if b = 0x5C then { r with lex := .backslash }
  else if b = 0x7B then { r with depth := r.depth + 1, groupStart := true }
  else if b = 0x7D then
    { r with depth := r.depth - 1, groupStart := false,
             skipping := if r.skipping = some (r.depth - 1) then none else r.skipping }
  else if b = 0x0D ∨ b = 0x0A then r
  else { r.char b.toNat.toUInt16 with groupStart := false }

/-- An ASCII letter. -/
def isLetter (b : UInt8) : Bool := (0x61 ≤ b && b ≤ 0x7A) || (0x41 ≤ b && b ≤ 0x5A)

/-- An ASCII digit. -/
def isDigit (b : UInt8) : Bool := 0x30 ≤ b && b ≤ 0x39

/-- One byte.  A control word ends at the first byte that cannot continue it; a space
there belongs to the word, any other byte is read on its own. -/
def step (r : RtfReader) (b : UInt8) : RtfReader :=
  match r.lex with
  | .plain => r.plainByte b
  | .backslash =>
    if isLetter b then { r with lex := .word [b] false none }
    else if b = 0x5C ∨ b = 0x7B ∨ b = 0x7D then
      { r.char b.toNat.toUInt16 with lex := .plain, groupStart := false }
    else { r.word [b] none with lex := .plain, groupStart := false }
  | .word name negative digits =>
    if isLetter b ∧ ¬negative ∧ digits = none then { r with lex := .word (name ++ [b]) false none }
    else if b = 0x2D ∧ ¬negative ∧ digits = none then { r with lex := .word name true none }
    else if isDigit b then
      { r with lex := .word name negative (some (digits.getD 0 * 10 + (b.toNat - 0x30))) }
    else
      let param := digits.map fun d => if negative then -(d : Int) else d
      let r := { r.word name param with lex := .plain, groupStart := false }
      if b = 0x20 then r else r.plainByte b

end RtfReader

/-- The rows a reader takes from a document. -/
def decodeRtf (doc : List UInt8) : List (List UInt16) :=
  let r := doc.foldl RtfReader.step RtfReader.init
  r.rows ++ [r.cur]

/-! ### Text after a non-ASCII unit is lost -/

/-- One row: `é`, then `abcd`, all in color `0`. -/
def accented : TextAndColor := ⟨[[0xE9, 0x61, 0x62, 0x63, 0x64]], [[0, 0, 0, 0, 0]], [[0, 0, 0, 0, 0]]⟩

/-- Read by the rules the document declares, `GenRTF`'s output for `accented` holds `é` and
`d`: `\u233?` is followed by `abcd`, and `\uc4` makes the reader skip `?`, `a`, `b`, `c`. -/
theorem genRTF_skips_text :
    decodeRtf (genRTF accented 10 [0x46] 0) = [[0xE9, 0x64]] ∧
      decodeRtf (genRTF accented 10 [0x46] 0) ≠
        accented.text.map (·.takeWhile (!isLineBreak ·)) := by
  set_option maxRecDepth 20000 in decide

end Export

end TerminalBuffer
