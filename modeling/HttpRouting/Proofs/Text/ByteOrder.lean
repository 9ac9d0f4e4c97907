/-
  Texts in order are in order byte by byte.

  Texts are compared character by character, and their bytes in UTF-8 as numbers, one after the other.
  The two orders are the same, for UTF-8 is made so: the first byte of a character grows with its code
  point, and where it does not the number of bytes is the same and the bits behind it decide, written
  from the highest on.

  1. **A character** - its first byte and how many follow are functions of its code point (`lead`,
     `trailing`), and those that follow hold its last bits in groups of six (`trail`).

  2. **Digits** - `trail_append_lt`: bytes that hold the digits of two numbers to base 64 are in the
     order of the numbers, whatever follows them.  The induction is on the number of digits.

  3. **The crux** - `lead_lt_or` compares first bytes.  From there it is the order of digits for two
     characters, and the first characters that differ for two texts.
-/
import HttpRouting.Text.Utf8
import Mathlib.Algebra.Group.Nat.Defs
import Mathlib.Tactic.SplitIfs

namespace HttpRouting.Text

namespace Utf8

/-- The number of bytes that follow the first byte of a character. -/
def trailing (v : Nat) : Nat :=
  if v ≤ 0x7f then 0 else if v ≤ 0x7ff then 1 else if v ≤ 0xffff then 2 else 3

/-- The first byte of a character. -/
def lead (v : Nat) : Nat :=
  if v ≤ 0x7f then v
  else if v ≤ 0x7ff then v / 64 + 0xc0
  else if v ≤ 0xffff then v / 4096 + 0xe0
  else v / 262144 + 0xf0

/-- The last bits of a number, in `n` bytes of six bits each. -/
def trail : Nat → Nat → List UInt8
  | 0, _ => []
  | n + 1, v => UInt8.ofNat (v / 64 ^ n % 64 + 0x80) :: trail n v

variable {v w : Nat} {front back : List UInt8}

/-- A first byte decides, if it is not the same one. -/
theorem cons_lt_cons_of_lt_or {a b : Nat} (ha : a < 256) (hb : b < 256)
    (h : a < b ∨ a = b ∧ front < back) : UInt8.ofNat a :: front < UInt8.ofNat b :: back := by
  rw [List.cons_lt_cons_iff]
  refine h.imp (fun hlt => ?_) fun ⟨heq, hlt⟩ => ⟨congrArg _ heq, hlt⟩
  rwa [UInt8.lt_iff_toNat_lt, UInt8.toNat_ofNat', UInt8.toNat_ofNat', Nat.mod_eq_of_lt ha,
    Nat.mod_eq_of_lt hb]

theorem trail_append_lt (n : Nat) (hlt : v % 64 ^ n < w % 64 ^ n) (front back : List UInt8) :
    trail n v ++ front < trail n w ++ back := by
  induction n with
  | zero =>
    rw [Nat.pow_zero, Nat.mod_one, Nat.mod_one] at hlt
    exact absurd hlt (Nat.lt_irrefl 0)
  | succ n ih =>
    refine cons_lt_cons_of_lt_or (by omega) (by omega) ?_
    -- the highest digit decides, or the digits below it do
    rw [Nat.pow_succ, Nat.mod_mul, Nat.mod_mul] at hlt
    rcases Nat.lt_trichotomy (v / 64 ^ n % 64) (w / 64 ^ n % 64) with hdigit | hdigit | hdigit
    · exact Or.inl (Nat.add_lt_add_right hdigit _)
    · rw [hdigit] at hlt ⊢
      exact Or.inr ⟨rfl, ih (Nat.lt_of_add_lt_add_right hlt)⟩
    · have hbelow : v % 64 ^ n + 64 ^ n * (v / 64 ^ n % 64) ≥ 64 ^ n * (w / 64 ^ n % 64 + 1) :=
        Nat.le_trans (Nat.mul_le_mul_left _ hdigit) (Nat.le_add_left _ _)
      have hrest : w % 64 ^ n < 64 ^ n := Nat.mod_lt _ (Nat.pow_pos (by decide))
      rw [Nat.mul_succ] at hbelow
      omega

/-- **The crux.**  Of two code points the larger has the larger first byte, or else the same one and
    as many bytes behind it, which hold the larger number. -/
theorem lead_lt_or (hlt : v < w) :
    lead v < lead w ∨ lead v = lead w ∧ trailing v = trailing w ∧
      v % 64 ^ trailing v < w % 64 ^ trailing v := by
  unfold lead trailing
  split_ifs <;> omega

theorem lead_lt (hv : v < 0x110000) : lead v < 256 := by
  unfold lead
  split_ifs <;> omega

theorem toNat_lt (c : Char) : c.toNat < 0x110000 := by
  rcases c.valid with hlow | ⟨-, hhigh⟩
  · exact Nat.lt_trans hlow (by decide)
  · exact hhigh

/-- The bytes of a character. -/
theorem utf8EncodeChar_eq (c : Char) :
    String.utf8EncodeChar c = UInt8.ofNat (lead c.toNat) :: trail (trailing c.toNat) c.toNat := by
  have hc := toNat_lt c
  rw [String.utf8EncodeChar, Char.toNat_val]
  unfold lead trailing
  -- the first byte cuts its digit to the bits that it has room for, which are all there are
  split_ifs with hone htwo hthree
  · rfl
  · have hdigit : c.toNat / 64 % 32 = c.toNat / 64 := Nat.mod_eq_of_lt (by omega)
    simp [trail, hdigit]
  · have hdigit : c.toNat / 4096 % 16 = c.toNat / 4096 := Nat.mod_eq_of_lt (by omega)
    simp [trail, hdigit]
  · have hdigit : c.toNat / 262144 % 8 = c.toNat / 262144 := Nat.mod_eq_of_lt (by omega)
    simp [trail, hdigit]

/-- The character decides, whatever follows it. -/
theorem utf8EncodeChar_append_lt {c d : Char} (hlt : c < d) (front back : List UInt8) :
    String.utf8EncodeChar c ++ front < String.utf8EncodeChar d ++ back := by
  rw [utf8EncodeChar_eq, utf8EncodeChar_eq, List.cons_append, List.cons_append]
  refine cons_lt_cons_of_lt_or (lead_lt (toNat_lt c)) (lead_lt (toNat_lt d)) ?_
  have hcode : c.toNat < d.toNat := hlt
  refine (lead_lt_or hcode).imp_right fun ⟨hlead, htrailing, hrest⟩ => ⟨hlead, ?_⟩
  rw [← htrailing]
  exact trail_append_lt _ hrest front back

theorem flatMap_utf8EncodeChar_lt {cs ds : List Char} (hlt : cs < ds) :
    cs.flatMap String.utf8EncodeChar < ds.flatMap String.utf8EncodeChar := by
  induction hlt with
  | nil =>
    rw [List.flatMap_nil, List.flatMap_cons, utf8EncodeChar_eq]
    exact List.nil_lt_cons _ _
  | rel hlt => exact utf8EncodeChar_append_lt hlt _ _
  | cons _ ih => exact List.append_left_lt ih

end Utf8

/-- Texts in order are in order byte by byte. -/
theorem utf8_lt_utf8 {s t : String} (hlt : s < t) : utf8 s < utf8 t :=
  Utf8.flatMap_utf8EncodeChar_lt hlt

end HttpRouting.Text
