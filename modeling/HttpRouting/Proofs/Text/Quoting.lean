/-
  Quoted text is told apart, and it says where it ends.

  1. **Numbers** - hexadecimal digits are read back as their number (`hexValue_toDigits`).

  2. **Characters** - `readChar?` reads one character from the front of quoted text, whatever stands
     behind it (`readChar?_quoteChar`), and reads none at the closing quote.  Which characters have
     no glyph is of no account: a character that stands for itself is neither a quote nor a
     backslash, and one that does not starts with a backslash.

  3. **Texts** - so quoted text with anything behind it determines both (`quote_append_inj`).
-/
import HttpRouting.Text.Quoted
import Mathlib.Data.List.TakeWhile

namespace HttpRouting.Text

/-! ## Numbers -/

/-- The hexadecimal digits, in the order of their values. -/
def hexDigits : List Char := "0123456789abcdef".toList

/-- The number that hexadecimal digits write. -/
def hexValue (digits : List Char) : Nat :=
  digits.foldl (fun n digit => 16 * n + hexDigits.idxOf digit) 0

theorem idxOf_digitChar {d : Nat} (h : d < 16) : hexDigits.idxOf (Nat.digitChar d) = d := by
  have hall : ∀ d < 16, hexDigits.idxOf (Nat.digitChar d) = d := by decide
  exact hall d h

theorem hexValue_concat (digits : List Char) (digit : Char) :
    hexValue (digits ++ [digit]) = 16 * hexValue digits + hexDigits.idxOf digit := by
  rw [hexValue, List.foldl_append]
  rfl

/-- The digits of a number are read back, and the closing brace is none of them. -/
theorem hexValue_toDigits (n : Nat) :
    hexValue (Nat.toDigits 16 n) = n ∧ ∀ c ∈ Nat.toDigits 16 n, c ≠ '}' := by
  have hbrace : ∀ d < 16, Nat.digitChar d ≠ '}' := by decide
  induction n using Nat.strongRecOn with
  | ind n ih =>
    rcases Nat.lt_or_ge n 16 with hlt | hge
    · rw [Nat.toDigits_of_lt_base hlt]
      constructor
      · show hexValue ([] ++ [n.digitChar]) = n
        rw [hexValue_concat, idxOf_digitChar hlt]
        show 16 * 0 + n = n
        omega
      · intro c hc
        rw [List.mem_singleton.mp hc]
        exact hbrace n hlt
    · have hmod : n % 16 < 16 := Nat.mod_lt n (by omega)
      obtain ⟨hvalue, hfree⟩ := ih (n / 16) (by omega)
      rw [Nat.toDigits_of_base_le (by omega) hge]
      constructor
      · rw [hexValue_concat, hvalue, idxOf_digitChar hmod]
        omega
      · intro c hc
        rcases List.mem_append.mp hc with hc | hc
        · exact hfree c hc
        · rw [List.mem_singleton.mp hc]
          exact hbrace _ hmod

/-! ## Characters -/

/-- The character with a short escape, by the letter behind the backslash. -/
def shortEscape? : Char → Option Char
  | '"' => some '"'
  | '\\' => some '\\'
  | '0' => some '\x00'
  | 't' => some '\t'
  | 'n' => some '\n'
  | 'r' => some '\r'
  | _ => none

/-- The first character of quoted text, and what stands behind it; `none` at a closing quote. -/
def readChar? : List Char → Option (Char × List Char)
  | '\\' :: 'u' :: '{' :: rest =>
    some (Char.ofNat (hexValue (rest.takeWhile (· != '}'))), (rest.dropWhile (· != '}')).tail)
  | '\\' :: letter :: rest => (shortEscape? letter).map (·, rest)
  | '"' :: _ => none
  | c :: rest => some (c, rest)
  | [] => none

theorem readChar?_codePointEscape (c : Char) (rest : List Char) :
    readChar? (codePointEscape c ++ rest) = some (c, rest) := by
  obtain ⟨hvalue, hfree⟩ := hexValue_toDigits c.toNat
  have hpass : ∀ d ∈ Nat.toDigits 16 c.toNat, (d != '}') = true :=
    fun d hd => bne_iff_ne.mpr (hfree d hd)
  have hsplit : codePointEscape c ++ rest =
      '\\' :: 'u' :: '{' :: (Nat.toDigits 16 c.toNat ++ '}' :: rest) := by
    simp [codePointEscape]
  rw [hsplit, readChar?, List.takeWhile_append_of_pos hpass, List.dropWhile_append_of_pos hpass]
  simp [hvalue]

theorem readChar?_of_ne {c : Char} (hquote : c ≠ '"') (hbackslash : c ≠ '\\') (rest : List Char) :
    readChar? (c :: rest) = some (c, rest) := by
  unfold readChar?
  split <;> simp_all

/-- **One character** is read back, whatever stands behind it. -/
theorem readChar?_quoteChar (c : Char) (rest : List Char) :
    readChar? (quoteChar c ++ rest) = some (c, rest) := by
  unfold quoteChar
  split_ifs with hquote hbackslash hnul htab hfeed hreturn
  · rw [hquote]; rfl
  · rw [hbackslash]; rfl
  · rw [hnul]; rfl
  · rw [htab]; rfl
  · rw [hfeed]; rfl
  · rw [hreturn]; rfl
  · exact readChar?_of_ne hquote hbackslash rest
  · exact readChar?_codePointEscape c rest

/-! ## Texts -/

/-- Quoted characters before a closing quote determine the characters and what stands behind the
quote. -/
theorem flatMap_quoteChar_append_inj {cs ds behind behind' : List Char}
    (h : cs.flatMap quoteChar ++ '"' :: behind = ds.flatMap quoteChar ++ '"' :: behind') :
    cs = ds ∧ behind = behind' := by
  have hread := congrArg readChar? h
  induction cs generalizing ds with
  | nil =>
    cases ds with
    | nil => exact ⟨rfl, (List.cons.inj h).2⟩
    | cons d ds =>
      rw [List.flatMap_cons, List.append_assoc, readChar?_quoteChar] at hread
      cases hread
  | cons c cs ih =>
    cases ds with
    | nil =>
      rw [List.flatMap_cons, List.append_assoc, readChar?_quoteChar] at hread
      cases hread
    | cons d ds =>
      simp only [List.flatMap_cons, List.append_assoc, readChar?_quoteChar, Option.some.injEq,
        Prod.mk.injEq] at hread
      obtain ⟨rfl, hrest⟩ := hread
      obtain ⟨rfl, hbehind⟩ := ih hrest (congrArg readChar? hrest)
      exact ⟨rfl, hbehind⟩

/-- **Quoted text is self-delimiting**: with anything behind it, it determines both. -/
theorem quote_append_inj {s t behind behind' : String}
    (h : quote s ++ behind = quote t ++ behind') : s = t ∧ behind = behind' := by
  have hlist := congrArg String.toList h
  simp only [String.toList_append, toList_quote, List.cons_append, List.append_assoc,
    List.nil_append, List.cons.injEq, true_and] at hlist
  obtain ⟨htext, hbehind⟩ := flatMap_quoteChar_append_inj hlist
  exact ⟨String.toList_inj.mp htext, String.toList_inj.mp hbehind⟩

theorem quote_injective : Function.Injective quote :=
  fun _ _ h => (quote_append_inj (congrArg (· ++ "") h)).1

example : readChar? (quote "\"a").toList.tail = some ('"', ['a', '"']) := by decide

end HttpRouting.Text
