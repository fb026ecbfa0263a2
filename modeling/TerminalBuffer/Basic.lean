/-
The vocabulary the text buffer is written in.

Coordinates are `til::CoordType`, a 32-bit `int`.  They are `Int` here, which agrees
with the code wherever the code does not overflow; nothing in the buffer comes near
the limit except the sentinel `til::CoordTypeMax`, which is kept as the constant it is.

Two pieces of C++ arithmetic decide where a row lives and are kept exactly.  `%` on
`int` truncates towards zero, so `_getRow` sees a negative remainder for a negative
offset and adds the height back; `cppRem_wrap` says that this is the floored remainder
`Int.emod`, which is what every later statement uses.  `std::clamp` is written out as
the two comparisons it makes.

The attribute of a cell is kept as the one field the buffer itself reads, the
hyperlink id, and everything else (colours, underline, intensity) folded into `style`:
the buffer only ever copies and compares the rest.
-/
import Mathlib

namespace TerminalBuffer

/-- `til::CoordTypeMax`, the largest `int`. -/
def coordTypeMax : Int := 2147483647

/-- `til::point`. -/
structure Point where
  x : Int
  y : Int
deriving DecidableEq, Repr, Inhabited

/-- `til::point`'s `<`: row-major, the row first. -/
instance : LT Point := ⟨fun a b => a.y < b.y ∨ (a.y = b.y ∧ a.x < b.x)⟩

/-- `til::point`'s `<=`. -/
instance : LE Point := ⟨fun a b => a.y < b.y ∨ (a.y = b.y ∧ a.x ≤ b.x)⟩

instance (a b : Point) : Decidable (a < b) := inferInstanceAs (Decidable (_ ∨ _))

instance (a b : Point) : Decidable (a ≤ b) := inferInstanceAs (Decidable (_ ∨ _))

/-- `til::size`. -/
structure Size where
  width : Int
  height : Int
deriving DecidableEq, Repr

/-- Modelled from the spec: a `Viewport`, kept as its inclusive edges. -/
structure Viewport where
  left : Int
  top : Int
  right : Int
  bottom : Int
deriving DecidableEq, Repr

/-- Modelled from the spec: `Viewport::FromDimensions({ 0, 0 }, { w, h })`. -/
def Viewport.fromDimensions (w h : Int) : Viewport := ⟨0, 0, w - 1, h - 1⟩

/-- `std::clamp(v, lo, hi)`. -/
def clamp (v lo hi : Int) : Int := if v < lo then lo else if hi < v then hi else v

theorem clamp_mem {v lo hi : Int} (h : lo ≤ hi) : lo ≤ clamp v lo hi ∧ clamp v lo hi ≤ hi := by
  unfold clamp; split_ifs <;> omega

/-- C++ `a % b` on `int`: the remainder has the sign of `a`. -/
def cppRem (a b : Int) : Int := Int.tmod a b

theorem cppRem_gt_neg (a h : Int) (hh : 0 < h) : -h < cppRem a h := by
  obtain ⟨n, rfl⟩ := Int.eq_ofNat_of_zero_le (Int.le_of_lt hh)
  rcases a with m | m
  · have := Int.tmod_nonneg (n : Int) (Int.ofNat_nonneg m)
    simp only [cppRem, Int.ofNat_eq_coe] at *
    omega
  · have e : cppRem (Int.negSucc m) (n : Int) = -((((m + 1) % n : Nat)) : Int) := rfl
    have h1 : (m + 1) % n < n := Nat.mod_lt _ (by omega)
    omega

/-- **Truncated remainder, corrected for sign, is the floored remainder.**  This is the
whole of the negative-offset wrap-around in `_getRow`. -/
theorem cppRem_wrap (a h : Int) (hh : 0 < h) :
    (if cppRem a h < 0 then cppRem a h + h else cppRem a h) = a % h := by
  have e1 : cppRem a h % h = a % h := by
    rw [cppRem, Int.tmod_def, Int.sub_eq_add_neg, ← Int.mul_neg, Int.add_mul_emod_self_left]
  have lo := cppRem_gt_neg a h hh
  have hi : cppRem a h < h := Int.tmod_lt_of_pos a hh
  split
  · rw [← e1, ← Int.add_emod_self, Int.emod_eq_of_lt (by omega) (by omega)]
  · rw [← e1, Int.emod_eq_of_lt (by omega) hi]

/-- On a non-negative dividend C++'s `%` is the floored remainder, so it lies in `[0, h)`. -/
theorem cppRem_mem {a h : Int} (ha : 0 ≤ a) (hh : 0 < h) : 0 ≤ cppRem a h ∧ cppRem a h < h := by
  rw [cppRem, Int.tmod_eq_emod ha (Int.le_of_lt hh)]
  exact ⟨Int.emod_nonneg a (Int.ne_of_gt hh), Int.emod_lt_of_pos a hh⟩

/-- `LineRendition`. -/
inductive LineRendition
  | singleWidth
  | doubleWidth
  | doubleHeightTop
  | doubleHeightBottom
deriving DecidableEq, Repr

/-- `DbcsAttribute`: which half of a wide glyph a cell holds, if any. -/
inductive DbcsAttribute
  | single
  | leading
  | trailing
deriving DecidableEq, Repr

/-- `TextAttribute`, by the hyperlink id it carries (`0` for none) and the rest of it. -/
structure TextAttribute where
  style : Nat := 0
  hyperlinkId : UInt16 := 0
deriving DecidableEq, Repr, Inhabited

/-- `TextAttribute::IsHyperlink`. -/
def TextAttribute.isHyperlink (a : TextAttribute) : Bool := a.hyperlinkId != 0

/-- `MarkCategory`. -/
inductive MarkCategory
  | defaultCategory
  | error
  | warning
  | success
  | prompt
  | output
deriving DecidableEq, Repr

/-- `ScrollMark`: a shell-integration mark, by the buffer positions it records. -/
structure ScrollMark where
  start : Point
  «end» : Point
  commandEnd : Option Point
  outputEnd : Option Point
  category : MarkCategory
deriving DecidableEq, Repr

end TerminalBuffer
