/-
  Where a text is cut, said without a scan.

  A text with a mark is what stands before its first mark, the mark, and what stands behind it
  (`exists_cut_of_mem`).  The cut at the first mark finds the one part and the cut at the last mark
  the other; a text without a mark is not cut.  So a text that is written as such parts is cut into
  them again, and no lemma that uses a cut needs to look at characters one by one.
-/
import HttpRouting.Text.Split
import Mathlib.Data.List.TakeWhile

namespace HttpRouting.Text

variable {c : Char} {s front rest : String}

/-- The first mark in a text. -/
theorem exists_cut_of_mem (h : c ∈ s.toList) :
    ∃ front rest, s = front ++ String.singleton c ++ rest ∧ c ∉ front.toList := by
  obtain ⟨before, after, hs, hfree⟩ := List.eq_append_cons_of_mem h
  refine ⟨String.ofList before, String.ofList after, ?_, by rwa [String.toList_ofList]⟩
  rw [← String.toList_inj, hs]
  simp

/-- A scan for a mark passes over what holds none. -/
theorem forall_bne_of_not_mem {cs : List Char} (h : c ∉ cs) : ∀ d ∈ cs, (d != c) = true :=
  fun _ hd => bne_iff_ne.mpr fun heq => h (heq ▸ hd)

/-! ## The first mark -/

theorem before_of_not_mem (h : c ∉ s.toList) : before c s = s := by
  rw [before, List.takeWhile_eq_self_iff.mpr (forall_bne_of_not_mem h), String.ofList_toList]

theorem before_cut (h : c ∉ front.toList) :
    before c (front ++ String.singleton c ++ rest) = front :=
  (before_eq_and_after?_eq_iff.mpr ⟨rfl, h⟩).1

theorem after?_cut (h : c ∉ front.toList) :
    after? c (front ++ String.singleton c ++ rest) = some rest :=
  (before_eq_and_after?_eq_iff.mpr ⟨rfl, h⟩).2

theorem through_cut (h : c ∉ front.toList) :
    through c (front ++ String.singleton c ++ rest) = front ++ String.singleton c := by
  rw [through, after?_cut h]
  exact congrArg (· ++ String.singleton c) (before_cut h)

/-- Nothing stands behind the first mark exactly if there is none. -/
theorem after?_eq_none_iff : after? c s = none ↔ c ∉ s.toList := by
  constructor
  · intro hnone hmem
    obtain ⟨front, rest, rfl, hfree⟩ := exists_cut_of_mem hmem
    rw [after?_cut hfree] at hnone
    cases hnone
  · intro hfree
    rw [after?, List.dropWhile_eq_nil_iff.mpr (forall_bne_of_not_mem hfree)]

/-! ## The last mark -/

theorem beforeLast_of_not_mem (h : c ∉ s.toList) : beforeLast c s = s := by
  have hpass := forall_bne_of_not_mem (mt List.mem_reverse.mp h)
  rw [beforeLast, List.dropWhile_eq_nil_iff.mpr hpass]

theorem beforeLast_cut (h : c ∉ rest.toList) :
    beforeLast c (front ++ String.singleton c ++ rest) = front := by
  have hpass := forall_bne_of_not_mem (mt List.mem_reverse.mp h)
  rw [beforeLast]
  simp only [String.toList_append, String.toList_singleton, List.reverse_append,
    List.dropWhile_append_of_pos hpass]
  simp

theorem afterLast_of_not_mem (h : c ∉ s.toList) : afterLast c s = s := by
  have hpass := forall_bne_of_not_mem (mt List.mem_reverse.mp h)
  rw [afterLast, List.takeWhile_eq_self_iff.mpr hpass, List.reverse_reverse, String.ofList_toList]

/-! ## The first of several marks -/

/-- A cut before the first of some characters, where the rest starts with one. -/
theorem beforeAny_append {p : Char → Bool} (hfront : ∀ d ∈ front.toList, p d = false)
    (hrest : ∀ d ∈ rest.toList.head?, p d = true) :
    beforeAny p (front ++ rest) = front ∧ fromAny p (front ++ rest) = rest := by
  have hpass : ∀ d ∈ front.toList, (!p d) = true := fun d hd => by rw [hfront d hd]; rfl
  have hstop : rest.toList.takeWhile (!p ·) = [] ∧ rest.toList.dropWhile (!p ·) = rest.toList := by
    cases hlist : rest.toList with
    | nil => exact ⟨rfl, rfl⟩
    | cons d others =>
      have hd : p d = true := hrest d (by rw [hlist]; rfl)
      simp [hd]
  rw [beforeAny, fromAny, String.toList_append, List.takeWhile_append_of_pos hpass,
    List.dropWhile_append_of_pos hpass, hstop.1, hstop.2]
  simp

end HttpRouting.Text
