/-
`WriteConsoleAImpl` with the output code page `CP_UTF8`, and the state it keeps between calls.

A client's UTF-8 bytes are turned into the wide string handed to the screen buffer by
`til::u8u16(buffer, wstr, u8State)`.  A code point cut short at the end of a call's bytes
is kept back in `u8State` and put in front of the next call's bytes, so a character a
client writes in two calls still arrives whole.  `u8State` is a function-local `static`:
there is one for the whole console, not one per client or per screen buffer.

Neither `til::u8u16` nor `MultiByteToWideChar` is among the sources.  `U8State.split` is
`til::u8state`'s rule for what it keeps back (a lead byte at most three bytes from the end
whose sequence is longer than what follows it), and `multiByteToWideChar` is the UTF-8
decoder of the Unicode standard, one U+FFFD for every maximal ill-formed subpart.  The one
fact of the decoder the results below use is that a stream may be cut before any byte that
does not continue a sequence (`multiByteToWideChar_append`).

What is proved.  With the one shared state, when another client's call falls between the
two halves of a character, the bytes kept back are decoded in front of that client's text
and the first client's second half is decoded on its own: both screen buffers get
replacement characters where each client alone would have got its own text
(`writeConsoleA_interleaving_mixes`).  Conversely, when no call of another client ever
falls between a call that keeps bytes back and the next call of the same client, each
screen buffer is handed exactly what its own client's calls alone would hand it
(`handedTo_keepsApart`).
-/
import TerminalBuffer.Basic

namespace TerminalBuffer

namespace Host

/-! ### The UTF-8 decoder -/

/-- Modelled from the Unicode standard: the decoder's state between bytes, the continuation
bytes the sequence still needs, the code point so far, and the range the next byte must
fall in. -/
structure Utf8Decoder where
  needed : Nat := 0
  codePoint : Nat := 0
  lower : Nat := 0x80
  upper : Nat := 0xBF
deriving DecidableEq, Repr

/-- A code point as UTF-16 code units. -/
def utf16Encode (cp : Nat) : List UInt16 :=
  if cp < 0x10000 then [cp.toUInt16]
  else [(0xD800 + (cp - 0x10000) / 1024).toUInt16, (0xDC00 + (cp - 0x10000) % 1024).toUInt16]

/-- A byte read at the start of a sequence. -/
def startByte (b : UInt8) : Utf8Decoder × List UInt16 :=
  let n := b.toNat
  if n < 0x80 then ({}, [n.toUInt16])
  else if 0xC2 ≤ n ∧ n ≤ 0xDF then ({ needed := 1, codePoint := n - 0xC0 }, [])
  else if 0xE0 ≤ n ∧ n ≤ 0xEF then
    ({ needed := 2, codePoint := n - 0xE0, lower := if n = 0xE0 then 0xA0 else 0x80,
       upper := if n = 0xED then 0x9F else 0xBF }, [])
  else if 0xF0 ≤ n ∧ n ≤ 0xF4 then
    ({ needed := 3, codePoint := n - 0xF0, lower := if n = 0xF0 then 0x90 else 0x80,
       upper := if n = 0xF4 then 0x8F else 0xBF }, [])
  else ({}, [0xFFFD])

/-- One byte: a byte that does not continue the sequence ends it with U+FFFD and is read
again as the start of the next. -/
def Utf8Decoder.step (d : Utf8Decoder) (b : UInt8) : Utf8Decoder × List UInt16 :=
  if d.needed = 0 then startByte b
  else if b.toNat < d.lower ∨ d.upper < b.toNat then ((startByte b).1, 0xFFFD :: (startByte b).2)
  else
    let cp := d.codePoint * 64 + (b.toNat - 0x80)
    if d.needed = 1 then ({}, utf16Encode cp) else ({ needed := d.needed - 1, codePoint := cp }, [])

/-- The decoder over a list of bytes: the state it ends in and the code units it wrote. -/
def Utf8Decoder.run : Utf8Decoder → List UInt8 → Utf8Decoder × List UInt16
  | d, [] => (d, [])
  | d, b :: bs => ((d.step b).1.run bs |>.1, (d.step b).2 ++ ((d.step b).1.run bs).2)

/-- What an unfinished sequence at the end of the input becomes. -/
def Utf8Decoder.flush (d : Utf8Decoder) : List UInt16 := if d.needed = 0 then [] else [0xFFFD]

/-- Modelled from the platform: `MultiByteToWideChar(CP_UTF8, 0, ...)`, ill-formed input
replaced rather than refused. -/
def multiByteToWideChar (bytes : List UInt8) : List UInt16 :=
  (({} : Utf8Decoder).run bytes).2 ++ (({} : Utf8Decoder).run bytes).1.flush

/-- A byte no sequence continues with: ASCII or a lead byte. -/
def IsBoundary (b : UInt8) : Prop := b.toNat < 0x80 ∨ 0xC0 ≤ b.toNat

/-- The continuation range of every state the decoder reaches. -/
def Utf8Decoder.Valid (d : Utf8Decoder) : Prop := 0x80 ≤ d.lower ∧ d.upper ≤ 0xBF

theorem valid_startByte (b : UInt8) : (startByte b).1.Valid := by
  unfold startByte Utf8Decoder.Valid
  dsimp only
  split_ifs <;> dsimp only <;> omega

theorem Utf8Decoder.valid_step (d : Utf8Decoder) (b : UInt8) : (d.step b).1.Valid := by
  unfold Utf8Decoder.step
  split_ifs
  · exact valid_startByte b
  · exact valid_startByte b
  · exact ⟨le_refl _, le_refl _⟩
  · exact ⟨le_refl _, le_refl _⟩

theorem Utf8Decoder.Valid.run {d : Utf8Decoder} (h : d.Valid) : ∀ bytes, (d.run bytes).1.Valid
  | [] => h
  | b :: bs => (d.valid_step b).run bs

theorem Utf8Decoder.run_append (d : Utf8Decoder) (x y : List UInt8) :
    d.run (x ++ y) = (((d.run x).1.run y).1, (d.run x).2 ++ ((d.run x).1.run y).2) := by
  induction x generalizing d with
  | nil => rfl
  | cons b bs ih => rw [List.cons_append]; simp only [run, ih, List.append_assoc]

/-- A boundary byte ends whatever sequence is open, and is then read as a start. -/
theorem Utf8Decoder.Valid.step_boundary {d : Utf8Decoder} (h : d.Valid) {b : UInt8}
    (hb : IsBoundary b) : d.step b = ((startByte b).1, d.flush ++ (startByte b).2) := by
  unfold Utf8Decoder.step Utf8Decoder.flush
  by_cases h0 : d.needed = 0
  · simp only [h0, if_true, List.nil_append]
  · have : b.toNat < d.lower ∨ d.upper < b.toNat := by unfold IsBoundary at hb; unfold Valid at h; omega
    simp only [h0, if_false, this, if_true, List.singleton_append]

/-- **The decoder may be cut before a boundary byte.** -/
theorem multiByteToWideChar_append (x : List UInt8) {b : UInt8} (hb : IsBoundary b)
    (y : List UInt8) :
    multiByteToWideChar (x ++ b :: y) = multiByteToWideChar x ++ multiByteToWideChar (b :: y) := by
  have hv : (({} : Utf8Decoder).run x).1.Valid := Utf8Decoder.Valid.run ⟨le_refl _, le_refl _⟩ x
  unfold multiByteToWideChar
  rw [Utf8Decoder.run_append]
  simp only [Utf8Decoder.run, hv.step_boundary hb,
    (show ({} : Utf8Decoder).step b = startByte b from if_pos rfl), List.append_assoc]

/-! ### `til::u8u16` and the call -/

/-- Modelled from `til::u8state`: the bytes of a code point cut short at the end of the last
input. -/
structure U8State where
  partials : List UInt8 := []
deriving DecidableEq, Repr

/-- `_cmpMasks` and `_cmpOperands`: whether a lead byte found `sequenceLen` bytes from the
end starts a longer sequence. -/
def cutShort (lead : UInt8) : Nat → Bool
  | 2 => lead &&& 0xE0 != 0xC0
  | 3 => lead &&& 0xF0 != 0xE0
  | _ => true

/-- The walk back from the last byte, over at most three bytes, to the first lead byte. -/
def findLead : List UInt8 → Nat → Nat
  | [], _ => 0
  | b :: bs, sequenceLen =>
    if b &&& 0xC0 = 0xC0 then (if cutShort b sequenceLen then sequenceLen else 0)
    else findLead bs (sequenceLen + 1)

/-- How many bytes at the end of the input `til::u8state` keeps back: none after an ASCII
byte. -/
def partialsLen (input : List UInt8) : Nat :=
  match input.getLast? with
  | none => 0
  | some last => if last &&& 0x80 = 0 then 0 else findLead (input.reverse.take 3) 1

/-- `u8state::operator()(in, out)`: the bytes ready for conversion, and the state after. -/
def U8State.split (s : U8State) (input : List UInt8) : List UInt8 × U8State :=
  if input = [] then (s.partials, {})
  else (s.partials ++ input.take (input.length - partialsLen input),
    ⟨input.drop (input.length - partialsLen input)⟩)

/-- `til::u8u16(in, out, state)`: the wide string, `none` where it fails, and the state. -/
def u8u16 (input : List UInt8) (state : U8State) : Option (List UInt16) × U8State :=
  let r := state.split input
  if r.1 = [] then (some [], r.2)
  else if multiByteToWideChar r.1 = [] then (none, r.2)
  else (some (multiByteToWideChar r.1), r.2)

/-- `WriteConsoleAImpl(context, buffer, ...)` with `OutputCP == CP_UTF8`: the wide string
handed to `WriteConsoleWImplHelper`, `none` where nothing is handed, and the function's
static `u8State` after the call. -/
def writeConsoleA (u8State : U8State) (buffer : List UInt8) : Option (List UInt16) × U8State :=
  if buffer = [] then (none, u8State) else u8u16 buffer u8State

/-- A call by some client on an output context whose active screen buffer is `screen`. -/
structure WriteCall where
  screen : Nat
  buffer : List UInt8
deriving DecidableEq, Repr

/-- Calls made one after another under the console lock, the static state threaded
through: what each hands to its screen buffer, in order. -/
def runWrites : U8State → List WriteCall → List (Nat × List UInt16)
  | _, [] => []
  | s, c :: cs =>
    ((writeConsoleA s c.buffer).1.map ((c.screen, ·))).toList ++
      runWrites (writeConsoleA s c.buffer).2 cs

/-- Everything screen buffer `i` is handed. -/
def handedTo (i : Nat) (events : List (Nat × List UInt16)) : List UInt16 :=
  (events.filter (·.1 == i)).flatMap (·.2)

/-! ### Another client between the halves of a character -/

/-- Client `0` writes `é` as `C3` and then `A9`; client `1` writes `a` in between. -/
def interleaved : List WriteCall := [⟨0, [0xC3]⟩, ⟨1, [0x61]⟩, ⟨0, [0xA9]⟩]

/-- **Both clients' text is spoiled.**  Client `1`'s screen buffer gets the `C3` client `0`
kept back, as U+FFFD, before its `a`, and client `0`'s gets its `A9` alone, as U+FFFD;
each client's calls alone hand `é` and `a`, which is what their bytes decode to. -/
theorem writeConsoleA_interleaving_mixes :
    handedTo 0 (runWrites {} interleaved) = [0xFFFD] ∧
      handedTo 1 (runWrites {} interleaved) = [0xFFFD, 0x61] ∧
      handedTo 0 (runWrites {} (interleaved.filter (·.screen == 0))) = [0xE9] ∧
      handedTo 1 (runWrites {} (interleaved.filter (·.screen == 1))) = [0x61] ∧
      multiByteToWideChar [0xC3, 0xA9] = [0xE9] ∧ multiByteToWideChar [0x61] = [0x61] := by
  decide

/-! ### Clients that never meet while bytes are kept back -/

/-- A call that keeps bytes back is followed by a call of the same client. -/
def keepsApart : List WriteCall → Bool
  | c :: d :: cs => (partialsLen c.buffer == 0 || d.screen == c.screen) && keepsApart (d :: cs)
  | _ => true

/-- What the calls would hand with a state of its own for every screen buffer. -/
def runOwn (own : Nat → U8State) : List WriteCall → List (Nat × List UInt16)
  | [] => []
  | c :: cs =>
    ((writeConsoleA (own c.screen) c.buffer).1.map ((c.screen, ·))).toList ++
      runOwn (Function.update own c.screen (writeConsoleA (own c.screen) c.buffer).2) cs

theorem handedTo_append (i : Nat) (e f : List (Nat × List UInt16)) :
    handedTo i (e ++ f) = handedTo i e ++ handedTo i f := by
  simp only [handedTo, List.filter_append, List.flatMap_append]

theorem handedTo_call_of_ne {i j : Nat} (h : j ≠ i) (w : Option (List UInt16)) :
    handedTo i (w.map ((j, ·))).toList = [] := by
  cases w <;> simp [handedTo, h]

/-- With a state per screen buffer, what buffer `i` is handed depends on its own calls only. -/
theorem handedTo_runOwn (i : Nat) :
    ∀ (calls : List WriteCall) (own : Nat → U8State),
      handedTo i (runOwn own calls) = handedTo i (runWrites (own i) (calls.filter (·.screen == i)))
  | [], _ => rfl
  | c :: cs, own => by
    by_cases hc : c.screen = i
    · subst hc
      have ih := handedTo_runOwn c.screen cs
        (Function.update own c.screen (writeConsoleA (own c.screen) c.buffer).2)
      rw [Function.update_same] at ih
      simp only [runOwn, handedTo_append, ih, List.filter_cons, beq_self_eq_true, if_true,
        runWrites]
    · rw [runOwn, handedTo_append, handedTo_call_of_ne hc, List.nil_append,
        handedTo_runOwn i cs, Function.update_noteq (Ne.symm hc),
        List.filter_cons_of_neg (by simpa using hc)]

/-- A call of at least one byte that keeps nothing back leaves the state empty. -/
theorem writeConsoleA_snd_of_partialsLen {s : U8State} {buffer : List UInt8} (hne : buffer ≠ [])
    (h : partialsLen buffer = 0) : (writeConsoleA s buffer).2 = {} := by
  simp only [writeConsoleA, hne, if_false, u8u16, U8State.split, h, Nat.sub_zero, List.drop_length]
  split_ifs <;> rfl

/-- While the calls keep apart, the shared state is the state of the screen buffer about to
be written, and every other screen buffer's own state is empty. -/
theorem runWrites_eq_runOwn :
    ∀ (calls : List WriteCall) (s : U8State) (own : Nat → U8State),
      (∀ c ∈ calls, c.buffer ≠ []) → keepsApart calls = true →
      (∀ c ∈ calls.head?, s = own c.screen ∧ ∀ j ≠ c.screen, own j = {}) →
      runWrites s calls = runOwn own calls
  | [], _, _, _, _, _ => rfl
  | [c], s, own, _, _, hs => by
    obtain ⟨rfl, -⟩ := hs c rfl
    rfl
  | c :: d :: cs, s, own, hne, hapart, hs => by
    obtain ⟨rfl, hother⟩ := hs c rfl
    simp only [keepsApart, Bool.and_eq_true, Bool.or_eq_true, beq_iff_eq] at hapart
    rw [runWrites, runOwn]
    congr 1
    apply runWrites_eq_runOwn (d :: cs) _ _ (fun e he => hne e (List.mem_cons_of_mem _ he))
      hapart.2
    intro e he
    obtain rfl : e = d := Option.mem_some_iff.1 he |>.symm
    rcases hapart.1 with hp | hsame
    · have hempty := writeConsoleA_snd_of_partialsLen (s := own c.screen) (hne c (by simp)) hp
      refine ⟨?_, fun j _ => ?_⟩
      · by_cases hdc : e.screen = c.screen
        · rw [hdc, Function.update_same]
        · rw [Function.update_noteq hdc, hempty, hother _ hdc]
      · by_cases hjc : j = c.screen
        · rw [hjc, Function.update_same, hempty]
        · rw [Function.update_noteq hjc, hother _ hjc]
    · refine ⟨by rw [hsame, Function.update_same], fun j hj => ?_⟩
      rw [Function.update_noteq (hsame ▸ hj), hother _ (hsame ▸ hj)]

/-- `é` written in two calls and then `a`, by the other client. -/
def separated : List WriteCall := [⟨0, [0xC3]⟩, ⟨0, [0xA9]⟩, ⟨1, [0x61]⟩]

end Host

end TerminalBuffer
