/-
`WriteConsoleAImpl` with a double-byte output code page, and the lead byte it keeps in the
screen buffer between calls.

A call converts its bytes with `MultiByteToWideChar`.  When they end in the first byte of a
double-byte character, `CheckBisectStringA` says so, and the byte is kept back in the screen
buffer's `WriteConsoleDbcsLeadByte[0]` and counted as read.  The next call on that screen
buffer puts it in front of its own first byte, if that byte is at least `0x20`, converts the
pair with `ConvertToW`, and counts one byte fewer.  `WriteConsoleWImplHelper` writes all of
the wide string when the write does not wait, so `read` is `GetALengthFromW` of all of it.

None of the code page's functions is among the sources.  `DbcsCodePage` takes what the call
uses of them as parameters, together with what makes the code page a double-byte one, and
the conversion is the pairing scan of such a code page (`decode`): a lead byte and the byte
after it are one character, every other byte is one.

What is proved.  Take a stream in which every lead byte is followed by a trail byte of at
least `0x20`, small enough for one call's `int` arithmetic, and a screen buffer that keeps no
lead byte.  One call hands on the stream's conversion and reads every byte; and however the
stream is cut into calls, the calls all complete, hand on that same text between them, and
each reads the bytes it was given (`writeConsoleA_split`).

The size condition is needed.  `mbPtrLength` is an `int` and is set to twice the number of
units converted, so on a 64-bit build a call whose bytes convert to `2^30` units or more asks
`wstr.resize` for more than it can hold and fails (`writeConsoleA_overflow`): `2^30` bytes of
`a` fail as one call and go through as two (`writeConsoleA_split_overflows`).
-/
import TerminalBuffer.Host.WriteConsole

namespace TerminalBuffer

namespace Host

/-- Modelled from the platform: what `WriteConsoleAImpl` uses of a double-byte output code
page.  `isLead` is `IsDBCSLeadByteEx`; `single` and `pair` are what `MultiByteToWideChar`
makes of a byte on its own and of a lead byte with the byte after it; `aLength` is the number
of bytes a UTF-16 unit converts back to, which `GetALengthFromW` adds up.  No lead byte is `0`,
and a character converts back to as many bytes as it was made of. -/
structure DbcsCodePage where
  isLead : UInt8 → Bool
  single : UInt8 → UInt16
  pair : UInt8 → UInt8 → UInt16
  aLength : UInt16 → Nat
  isLead_zero : isLead 0 = false
  aLength_single : ∀ c, isLead c = false → aLength (single c) = 1
  aLength_pair : ∀ l t, isLead l = true → 0x20 ≤ t.toNat → aLength (pair l t) = 2

namespace DbcsCodePage

variable (cp : DbcsCodePage)

/-! ### The pairing scan -/

/-- The scan from the lead byte left over from earlier bytes, if any: the UTF-16 units of the
characters the bytes complete, and the lead byte left without its trail byte at the end. -/
def decode : Option UInt8 → List UInt8 → List UInt16 × Option UInt8
  | pending, [] => ([], pending)
  | some lead, c :: rest =>
    let r := decode none rest
    (cp.pair lead c :: r.1, r.2)
  | none, c :: rest =>
    if cp.isLead c then decode (some c) rest
    else
      let r := decode none rest
      (cp.single c :: r.1, r.2)

/-- Every trail byte the scan meets is at least `0x20`. -/
def trailsOk : Option UInt8 → List UInt8 → Bool
  | _, [] => true
  | some _, c :: rest => decide (0x20 ≤ c.toNat) && trailsOk none rest
  | none, c :: rest => trailsOk (if cp.isLead c then some c else none) rest

/-- A well-formed stream: every lead byte is followed by a trail byte of at least `0x20`. -/
def WellFormed (bytes : List UInt8) : Prop :=
  cp.trailsOk none bytes = true ∧ (cp.decode none bytes).2 = none

instance (bytes : List UInt8) : Decidable (cp.WellFormed bytes) :=
  inferInstanceAs (Decidable (_ ∧ _))

/-! ### The platform functions the call uses -/

/-- `MultiByteToWideChar(codepage, 0, ...)`: the characters the bytes make. -/
def multiByteToWideChar (bytes : List UInt8) : List UInt16 := (cp.decode none bytes).1

/-- `ConvertToW(codepage, ...)`. -/
def convertToW (bytes : List UInt8) : List UInt16 := cp.multiByteToWideChar bytes

/-- `GetALengthFromW(codepage, ...)`: the bytes the wide string converts back to. -/
def getALengthFromW (wstr : List UInt16) : Nat := (wstr.map cp.aLength).sum

/-- `CheckBisectStringA(pchBuf, cbBuf, ...)`: whether the bytes end in a lead byte with no
byte after it, pairing each lead byte with the next byte from the start. -/
def checkBisectStringA : List UInt8 → Bool
  | [] => false
  | [c] => cp.isLead c
  | c :: d :: rest =>
    if cp.isLead c then checkBisectStringA rest else checkBisectStringA (d :: rest)

/-! ### The call -/

/-- The bytes left once a lead byte at their end is kept back, the byte kept
(`WriteConsoleDbcsLeadByte[0]`, `0` for none) and `leadByteCaptured`. -/
def captureLeadByte (mbPtr : List UInt8) : List UInt8 × UInt8 × Bool :=
  if mbPtr ≠ [] ∧ cp.checkBisectStringA mbPtr = true then (mbPtr.dropLast, mbPtr.getLastD 0, true)
  else (mbPtr, 0, false)

/-- `WriteConsoleAImpl(context, buffer, read, ...)` with a double-byte `OutputCP`, on a screen
buffer whose `WriteConsoleDbcsLeadByte[0]` is `leadByte`, for a write that does not wait: the
lead byte the screen buffer keeps, the wide string handed to `WriteConsoleWImplHelper`, and
`read`.  `none` where the call does not complete: the byte count is no `int` (`SizeTToInt`),
the completed pair is not one unit (`FAIL_FAST_IF`), or twice the converted length overflows
the `int` it is stored in, so that `wstr.resize` is asked for more than it can hold. -/
def writeConsoleA (leadByte : UInt8) (buffer : List UInt8) : Option (UInt8 × List UInt16 × Nat) :=
  if buffer = [] then some (leadByte, [], 0)
  else if 2147483647 < buffer.length then none
  else
    let leadByteConsumed := leadByte ≠ 0 ∧ 0x20 ≤ (buffer.headD 0).toNat
    let wFromComplemented := cp.convertToW [leadByte, buffer.headD 0]
    if leadByteConsumed ∧ wFromComplemented.length ≠ 1 then none
    else
      let captured := cp.captureLeadByte (if leadByteConsumed then buffer.tail else buffer)
      let converted := cp.multiByteToWideChar captured.1
      if 2147483647 < 2 * converted.length then none
      else
        let wstr := (if leadByteConsumed then wFromComplemented else []) ++ converted
        some (captured.2.1, wstr,
          cp.getALengthFromW wstr + captured.2.2.toNat - (decide leadByteConsumed).toNat)

/-- Calls one after another on one screen buffer, none of which waits: the lead byte kept at
the end and, per call, the wide string handed on and `read`; `none` if a call does not
complete. -/
def writeConsoleACalls : UInt8 → List (List UInt8) → Option (UInt8 × List (List UInt16 × Nat))
  | leadByte, [] => some (leadByte, [])
  | leadByte, buffer :: buffers =>
    (cp.writeConsoleA leadByte buffer).bind fun r =>
      (writeConsoleACalls r.1 buffers).map fun rs => (rs.1, (r.2.1, r.2.2) :: rs.2)

/-! ### The scan cut in two -/

variable {cp}

@[simp] theorem decode_nil (p : Option UInt8) : cp.decode p [] = ([], p) := by cases p <;> rfl

@[simp] theorem decode_some_cons (l c : UInt8) (rest : List UInt8) :
    cp.decode (some l) (c :: rest) = (cp.pair l c :: (cp.decode none rest).1, (cp.decode none rest).2) :=
  rfl

@[simp] theorem decode_none_cons (c : UInt8) (rest : List UInt8) :
    cp.decode none (c :: rest) =
      if cp.isLead c then cp.decode (some c) rest
      else (cp.single c :: (cp.decode none rest).1, (cp.decode none rest).2) :=
  rfl

@[simp] theorem trailsOk_nil (p : Option UInt8) : cp.trailsOk p [] = true := by cases p <;> rfl

@[simp] theorem trailsOk_some_cons (l c : UInt8) (rest : List UInt8) :
    cp.trailsOk (some l) (c :: rest) = (decide (0x20 ≤ c.toNat) && cp.trailsOk none rest) :=
  rfl

@[simp] theorem trailsOk_none_cons (c : UInt8) (rest : List UInt8) :
    cp.trailsOk none (c :: rest) = cp.trailsOk (if cp.isLead c then some c else none) rest :=
  rfl

/-- No lead byte is left over before the first byte. -/
theorem isLead_of_mem_none : ∀ l ∈ (none : Option UInt8), cp.isLead l :=
  fun _ h => absurd h (Option.not_mem_none _)

theorem isLead_of_mem_some {c : UInt8} (hc : cp.isLead c) : ∀ l ∈ some c, cp.isLead l :=
  fun _ h => Option.mem_some_iff.1 h ▸ hc

theorem decode_append (p : Option UInt8) (xs ys : List UInt8) :
    cp.decode p (xs ++ ys) =
      ((cp.decode p xs).1 ++ (cp.decode (cp.decode p xs).2 ys).1,
        (cp.decode (cp.decode p xs).2 ys).2) := by
  induction xs generalizing p with
  | nil => simp
  | cons c xs ih =>
    cases p with
    | some l => simp [ih]
    | none => simp only [List.cons_append, decode_none_cons]; split <;> simp [ih]

theorem trailsOk_append (p : Option UInt8) (xs ys : List UInt8) :
    cp.trailsOk p (xs ++ ys) = (cp.trailsOk p xs && cp.trailsOk (cp.decode p xs).2 ys) := by
  induction xs generalizing p with
  | nil => simp
  | cons c xs ih =>
    cases p with
    | some l => simp [ih, Bool.and_assoc]
    | none => simp only [List.cons_append, trailsOk_none_cons, decode_none_cons]; split <;> simp [ih]

/-- The byte the scan is left with is a lead byte. -/
theorem isLead_of_decode {p : Option UInt8} (hp : ∀ l ∈ p, cp.isLead l) :
    ∀ xs, ∀ l ∈ (cp.decode p xs).2, cp.isLead l
  | [] => by simpa using hp
  | c :: rest => by
    cases p with
    | some _ => exact isLead_of_decode isLead_of_mem_none rest
    | none =>
      rw [decode_none_cons]
      split
      · exact isLead_of_decode (isLead_of_mem_some ‹_›) rest
      · exact isLead_of_decode isLead_of_mem_none rest

theorem checkBisectStringA_eq (xs : List UInt8) :
    cp.checkBisectStringA xs = (cp.decode none xs).2.isSome := by
  induction xs using checkBisectStringA.induct cp with
  | case1 => rfl
  | case2 c => simp only [checkBisectStringA, decode_none_cons]; split <;> simp_all
  | case3 c d rest h ih => simp [checkBisectStringA, h, ih]
  | case4 c d rest h ih => simp [checkBisectStringA, h, ih]

/-- A scan that ends on a lead byte ends on the last byte, and without it ends on nothing. -/
theorem decode_dropLast {xs : List UInt8} {l : UInt8} (h : (cp.decode none xs).2 = some l) :
    xs.getLastD 0 = l ∧ cp.decode none xs.dropLast = ((cp.decode none xs).1, none) := by
  rcases List.eq_nil_or_concat xs with rfl | ⟨init, x, rfl⟩
  · cases h
  rw [List.concat_eq_append, decode_append] at h ⊢
  rw [List.getLastD_eq_getLast?, List.getLast?_concat, List.dropLast_concat]
  cases hi : (cp.decode none init).2 with
  | some l' => simp [hi] at h
  | none =>
    simp only [hi, decode_none_cons, decode_nil] at h ⊢
    split at h <;> simp_all [Prod.ext_iff]

/-- Bytes none of which is a lead byte are one character each, and have no trail byte. -/
theorem decode_of_forall_not_isLead :
    ∀ {xs : List UInt8}, (∀ c ∈ xs, cp.isLead c = false) →
      cp.decode none xs = (xs.map cp.single, none) ∧ cp.trailsOk none xs = true
  | [], _ => ⟨rfl, rfl⟩
  | c :: rest, h => by
    obtain ⟨hd, ht⟩ := decode_of_forall_not_isLead fun c hc => h c (List.mem_cons_of_mem _ hc)
    have hc := h c (List.mem_cons_self _ _)
    simp [hc, hd, ht]

/-! ### What one call reads -/

@[simp] theorem getALengthFromW_nil : cp.getALengthFromW [] = 0 := rfl

@[simp] theorem getALengthFromW_cons (u : UInt16) (w : List UInt16) :
    cp.getALengthFromW (u :: w) = cp.aLength u + cp.getALengthFromW w := by
  simp [getALengthFromW]

@[simp] theorem getALengthFromW_append (w w' : List UInt16) :
    cp.getALengthFromW (w ++ w') = cp.getALengthFromW w + cp.getALengthFromW w' := by
  simp [getALengthFromW]

/-- **The bytes of the characters a scan completes.**  They are the bytes scanned, with the
lead byte it started from and less the one it is left with. -/
theorem getALengthFromW_decode {p : Option UInt8} (hp : ∀ l ∈ p, cp.isLead l) :
    ∀ xs, cp.trailsOk p xs = true →
      cp.getALengthFromW (cp.decode p xs).1 + (cp.decode p xs).2.isSome.toNat =
        xs.length + p.isSome.toNat
  | [], _ => by simp
  | c :: rest, ht => by
    cases p with
    | some l =>
      simp only [trailsOk_some_cons, Bool.and_eq_true, decide_eq_true_eq] at ht
      have ih := getALengthFromW_decode isLead_of_mem_none rest ht.2
      simp only [decode_some_cons, getALengthFromW_cons, cp.aLength_pair l c (hp l rfl) ht.1,
        Option.isSome_none, Option.isSome_some, Bool.toNat_false, Bool.toNat_true,
        List.length_cons] at ih ⊢
      omega
    | none =>
      rw [trailsOk_none_cons] at ht
      rw [decode_none_cons]
      by_cases hc : cp.isLead c
      · rw [if_pos hc] at ht ⊢
        have ih := getALengthFromW_decode (isLead_of_mem_some hc) rest ht
        simp only [Option.isSome_some, Option.isSome_none, Bool.toNat_true, Bool.toNat_false,
          List.length_cons] at ih ⊢
        omega
      · rw [if_neg hc] at ht ⊢
        have ih := getALengthFromW_decode isLead_of_mem_none rest ht
        simp only [getALengthFromW_cons, cp.aLength_single c (by simpa using hc),
          Option.isSome_none, Bool.toNat_false, List.length_cons] at ih ⊢
        omega

/-- `CheckBisectStringA` keeps back exactly the byte the scan is left with, and what it
leaves converts to the characters the scan completes. -/
theorem captureLeadByte_spec (mbPtr : List UInt8) :
    cp.multiByteToWideChar (cp.captureLeadByte mbPtr).1 = (cp.decode none mbPtr).1 ∧
      (cp.captureLeadByte mbPtr).2.1 = (cp.decode none mbPtr).2.getD 0 ∧
      (cp.captureLeadByte mbPtr).2.2 = (cp.decode none mbPtr).2.isSome := by
  unfold captureLeadByte
  cases h : (cp.decode none mbPtr).2 with
  | none => simp [checkBisectStringA_eq, h, multiByteToWideChar]
  | some l =>
    have hne : mbPtr ≠ [] := by rintro rfl; cases h
    obtain ⟨hl, hd⟩ := decode_dropLast h
    simp only [checkBisectStringA_eq, h, Option.isSome_some, ne_eq, hne, not_false_eq_true,
      and_self, if_true, multiByteToWideChar, hd, hl, Option.getD_some]

/-- **One call.**  On a screen buffer that keeps the lead byte the scan of the earlier bytes is
left with, a call whose bytes go on from there and fit its `int` arithmetic hands on the
characters they complete, keeps the lead byte their scan is left with, and reads every byte. -/
theorem writeConsoleA_eq {p : Option UInt8} (hp : ∀ l ∈ p, cp.isLead l) {buffer : List UInt8}
    (ht : cp.trailsOk p buffer = true) (hlen : buffer.length ≤ 2147483647)
    (hw : 2 * (cp.decode p buffer).1.length ≤ 2147483647) :
    cp.writeConsoleA (p.getD 0) buffer =
      some ((cp.decode p buffer).2.getD 0, (cp.decode p buffer).1, buffer.length) := by
  rcases buffer with _ | ⟨first, rest⟩
  · simp [writeConsoleA]
  have hacc := getALengthFromW_decode hp _ ht
  cases p with
  | none =>
    obtain ⟨h1, h2, h3⟩ := cp.captureLeadByte_spec (first :: rest)
    generalize cp.decode none (first :: rest) = d at *
    simp only [Option.isSome_none, Bool.toNat_false, Nat.add_zero] at hacc
    simp only [writeConsoleA, Option.getD_none, ne_eq, not_true_eq_false, false_and, if_false,
      reduceCtorEq, decide_False, Bool.toNat_false, List.nil_append, h1, h2, h3,
      not_lt.2 hlen, not_lt.2 hw, Nat.sub_zero, hacc]
  | some l =>
    have hl : l ≠ 0 := fun h => by simp [h, cp.isLead_zero] at hp
    simp only [trailsOk_some_cons, Bool.and_eq_true, decide_eq_true_eq] at ht
    have hpair : cp.convertToW [l, first] = [cp.pair l first] := by
      simp [convertToW, multiByteToWideChar, hp l rfl]
    obtain ⟨h1, h2, h3⟩ := cp.captureLeadByte_spec rest
    simp only [decode_some_cons, List.length_cons] at hacc hw hlen ⊢
    generalize cp.decode none rest = d at *
    simp only [getALengthFromW_cons, cp.aLength_pair l first (hp l rfl) ht.1, Option.isSome_some,
      Bool.toNat_true, List.length_cons] at hacc
    simp only [writeConsoleA, Option.getD_some, List.headD_cons, List.tail_cons, hl, ht.1,
      hpair, ne_eq, not_false_eq_true, true_and, List.length_singleton, not_true_eq_false,
      if_false, if_true, reduceCtorEq, decide_True, Bool.toNat_true, List.singleton_append,
      h1, h2, h3, not_lt.2 hlen, show ¬ 2147483647 < 2 * d.1.length by omega,
      getALengthFromW_cons, cp.aLength_pair l first (hp l rfl) ht.1, List.length_cons,
      List.length_nil, Nat.zero_add]
    congr 3
    omega

/-- A call from a screen buffer that keeps no lead byte, of bytes whose conversion has `2^30`
UTF-16 units or more, does not complete: twice that count does not fit in `mbPtrLength`. -/
theorem writeConsoleA_overflow {buffer : List UInt8} (hne : buffer ≠ [])
    (hlen : buffer.length ≤ 2147483647)
    (hw : 2147483647 < 2 * (cp.multiByteToWideChar buffer).length) :
    cp.writeConsoleA 0 buffer = none := by
  obtain ⟨h1, -, -⟩ := cp.captureLeadByte_spec buffer
  rw [multiByteToWideChar] at hw
  simp only [writeConsoleA, hne, not_lt.2 hlen, ne_eq, not_true_eq_false, false_and, if_false,
    h1, hw, if_true]

/-! ### Calls one after another -/

/-- **The calls over a cut stream.**  However bytes that go on from the screen buffer's lead
byte are cut into calls, the calls complete, hand on between them the characters the bytes
complete, keep the lead byte the scan is left with, and each reads the bytes it was given. -/
theorem writeConsoleACalls_eq :
    ∀ (buffers : List (List UInt8)) {p : Option UInt8}, (∀ l ∈ p, cp.isLead l) →
      cp.trailsOk p buffers.flatten = true → buffers.flatten.length ≤ 2147483647 →
      2 * (cp.decode p buffers.flatten).1.length ≤ 2147483647 →
      ∃ results, cp.writeConsoleACalls (p.getD 0) buffers =
          some ((cp.decode p buffers.flatten).2.getD 0, results) ∧
        (results.map Prod.fst).flatten = (cp.decode p buffers.flatten).1 ∧
        results.map Prod.snd = buffers.map List.length
  | [], _, _, _, _, _ => ⟨[], by simp [writeConsoleACalls], by simp, rfl⟩
  | buffer :: buffers, p, hp, ht, hlen, hw => by
    simp only [List.flatten_cons, trailsOk_append, Bool.and_eq_true, List.length_append,
      decode_append] at ht hlen hw ⊢
    obtain ⟨results, hrun, htext, hread⟩ :=
      writeConsoleACalls_eq buffers (isLead_of_decode hp buffer) ht.2 (by omega) (by omega)
    refine ⟨((cp.decode p buffer).1, buffer.length) :: results, ?_, ?_, ?_⟩
    · simp only [writeConsoleACalls, writeConsoleA_eq hp ht.1 (by omega) (by omega),
        Option.some_bind, hrun, Option.map_some']
    · simp only [List.map_cons, List.flatten_cons, htext]
    · simp only [List.map_cons, hread]

/-- A code page whose lead bytes are `0x81` to `0x9F` and whose pair of a lead byte and a trail
byte is the unit `lead * 256 + trail`. -/
def leadRangeCodePage : DbcsCodePage where
  isLead c := decide (0x81 ≤ c.toNat ∧ c.toNat ≤ 0x9F)
  single c := c.toNat.toUInt16
  pair l t := (l.toNat * 256 + t.toNat).toUInt16
  aLength u := if u.toNat < 0x100 then 1 else 2
  isLead_zero := by decide
  aLength_single c _ := by
    have := c.toNat_lt
    dsimp only
    rw [Nat.toUInt16, UInt16.toNat_ofNat_of_lt (by unfold UInt16.size; omega), if_pos this]
  aLength_pair l t hl _ := by
    have := t.toNat_lt
    simp only [decide_eq_true_eq] at hl
    dsimp only
    rw [Nat.toUInt16, UInt16.toNat_ofNat_of_lt (by unfold UInt16.size; omega), if_neg (by omega)]

/-- `n` bytes of `a` twice over, each half small enough for a call and the whole not: the
stream is well-formed, one call over it does not complete, and the two halves as two calls do. -/
theorem writeConsoleA_replicate_overflows {n : Nat} (hn : 2 * n ≤ 2147483647)
    (hover : 2147483647 < 2 * (n + n)) :
    leadRangeCodePage.WellFormed [List.replicate n 0x61, List.replicate n 0x61].flatten ∧
      leadRangeCodePage.writeConsoleA 0 [List.replicate n 0x61, List.replicate n 0x61].flatten = none ∧
      leadRangeCodePage.writeConsoleACalls 0 [List.replicate n 0x61, List.replicate n 0x61] =
        some (0, [(List.replicate n 0x61, n), (List.replicate n 0x61, n)]) := by
  have ha : ∀ xs : List UInt8, (∀ c ∈ xs, c = 0x61) →
      leadRangeCodePage.decode none xs = (xs.map leadRangeCodePage.single, none) ∧
        leadRangeCodePage.trailsOk none xs = true :=
    fun xs h => decode_of_forall_not_isLead fun c hc => by rw [h c hc]; decide
  have hr : ∀ c ∈ List.replicate n (0x61 : UInt8), c = 0x61 := fun c => List.eq_of_mem_replicate
  have hflat : [List.replicate n (0x61 : UInt8), List.replicate n 0x61].flatten =
      List.replicate n 0x61 ++ List.replicate n 0x61 := by
    rw [List.flatten_cons, List.flatten_cons, List.flatten_nil, List.append_nil]
  have hall := ha (List.replicate n 0x61 ++ List.replicate n 0x61) fun c hc =>
    (List.mem_append.1 hc).elim (hr c) (hr c)
  have hpart := ha _ hr
  have hcall : leadRangeCodePage.writeConsoleA 0 (List.replicate n 0x61) =
      some (0, List.replicate n 0x61, n) := by
    have h := writeConsoleA_eq isLead_of_mem_none hpart.2
      (by rw [List.length_replicate]; omega)
      (by rw [hpart.1, List.length_map, List.length_replicate]; exact hn)
    rwa [hpart.1, List.map_replicate, List.length_replicate] at h
  have hlen : (List.replicate n (0x61 : UInt8) ++ List.replicate n 0x61).length = n + n := by
    rw [List.length_append, List.length_replicate]
  rw [hflat]
  refine ⟨⟨hall.2, by rw [hall.1]⟩,
    writeConsoleA_overflow (List.ne_nil_of_length_pos (by omega)) (by omega) ?_, ?_⟩
  · rwa [multiByteToWideChar, hall.1, List.length_map, hlen]
  · simp only [writeConsoleACalls, hcall, Option.some_bind, Option.map_some']

end DbcsCodePage

end Host

end TerminalBuffer
