/-
  Cutting a text at a mark: into all its pieces, or at the first or the last mark only.

  A cut loses nothing but the marks.  Joining the pieces of a text gives the text back
  (`intercalate_pieces`), and pieces that hold no mark are recovered from their join
  (`pieces_intercalate`): both are the list laws of `List.splitOn`, carried to texts.
-/

namespace HttpRouting.Text

/-! ## All pieces -/

/-- The pieces of `s` between the marks `c`: one more than there are marks, empty pieces kept. -/
def pieces (c : Char) (s : String) : List String :=
  (s.toList.splitOn c).map String.ofList

theorem pieces_ne_nil (c : Char) (s : String) : pieces c s ≠ [] := by
  simp [pieces]

/-- The pieces, as lists of characters. -/
theorem map_toList_pieces (c : Char) (s : String) :
    (pieces c s).map String.toList = s.toList.splitOn c := by
  simp [pieces, Function.comp_def]

/-- Joining the pieces gives the text back. -/
theorem intercalate_pieces (c : Char) (s : String) :
    (String.singleton c).intercalate (pieces c s) = s := by
  apply String.toList_inj.mp
  simp [String.toList_intercalate, map_toList_pieces]

/-- Pieces without a mark are the pieces of their join. -/
theorem pieces_intercalate {c : Char} {l : List String} (hne : l ≠ [])
    (hfree : ∀ s ∈ l, c ∉ s.toList) :
    pieces c ((String.singleton c).intercalate l) = l := by
  have hsplit : ([c].intercalate (l.map String.toList)).splitOn c = l.map String.toList :=
    List.splitOn_intercalate c (by simpa using hfree) (by simpa using hne)
  simp [pieces, String.toList_intercalate, hsplit, Function.comp_def]

theorem not_mem_of_mem_splitOn {c : Char} {cs piece : List Char} (h : piece ∈ cs.splitOn c) :
    c ∉ piece := by
  rw [List.splitOn_eq_splitOnP] at h
  induction cs generalizing piece with
  | nil =>
    rw [List.splitOnP_nil, List.mem_singleton] at h
    rw [h]
    exact List.not_mem_nil
  | cons d rest ih =>
    rw [List.splitOnP_cons_eq_if_modifyHead] at h
    split at h
    · rcases List.mem_cons.mp h with rfl | h
      · exact List.not_mem_nil
      · exact ih h
    · -- `d` is no mark, and it goes before the first piece of the rest
      rename_i hd
      have hne : c ≠ d := by rintro rfl; exact hd (beq_self_eq_true _)
      obtain ⟨first, others, hsplit⟩ :=
        List.exists_cons_of_ne_nil (List.splitOnP_ne_nil (· == c) rest)
      rw [hsplit] at h ih
      rcases List.mem_cons.mp h with rfl | h
      · exact List.not_mem_cons_of_ne_of_not_mem hne (ih List.mem_cons_self)
      · exact ih (List.mem_cons_of_mem _ h)

/-- No piece holds a mark. -/
theorem not_mem_of_mem_pieces {c : Char} {s piece : String} (h : piece ∈ pieces c s) :
    c ∉ piece.toList := by
  obtain ⟨l, hl, rfl⟩ := List.mem_map.mp h
  rw [String.toList_ofList]
  exact not_mem_of_mem_splitOn hl

/-! ## The first and the last mark -/

/-- The text before the first `c`; all of `s` if there is none. -/
def before (c : Char) (s : String) : String :=
  String.ofList (s.toList.takeWhile (· != c))

/-- The text after the first `c`. -/
def after? (c : Char) (s : String) : Option String :=
  match s.toList.dropWhile (· != c) with
  | [] => none
  | _ :: rest => some (String.ofList rest)

/-- The first `c` cuts a text into the part before it, which has none, and the part after it. -/
theorem before_eq_and_after?_eq_iff {c : Char} {s front rest : String} :
    before c s = front ∧ after? c s = some rest ↔
      s = front ++ String.singleton c ++ rest ∧ c ∉ front.toList := by
  rw [before, after?]
  constructor
  · rintro ⟨rfl, hrest⟩
    have hfree : c ∉ (s.toList.takeWhile (· != c)) := by
      intro hmem
      simpa using List.all_eq_true.mp List.all_takeWhile c hmem
    have hcut := List.takeWhile_append_dropWhile (p := (· != c)) (l := s.toList)
    cases hdrop : s.toList.dropWhile (· != c) with
    | nil => rw [hdrop] at hrest; cases hrest
    | cons d tail =>
      rw [hdrop] at hrest hcut
      have hd : d = c := by
        have hhead := List.head?_dropWhile_not (· != c) s.toList
        rw [hdrop] at hhead
        simpa using hhead
      obtain rfl := Option.some.inj hrest
      refine ⟨?_, by rwa [String.toList_ofList]⟩
      rw [hd] at hcut
      apply String.toList_inj.mp
      simpa using hcut.symm
  · rintro ⟨rfl, hfree⟩
    have hpass : ∀ d ∈ front.toList, (d != c) = true := by
      intro d hd
      rw [bne_iff_ne]
      rintro rfl
      exact hfree hd
    simp only [String.toList_append, String.toList_singleton, List.append_assoc,
      List.singleton_append, List.takeWhile_append_of_pos hpass, List.dropWhile_append_of_pos hpass]
    simp

/-- The text before the last `c`; all of `s` if there is none. -/
def beforeLast (c : Char) (s : String) : String :=
  match s.toList.reverse.dropWhile (· != c) with
  | [] => s
  | _ :: rest => String.ofList rest.reverse

/-- The text after the last `c`; all of `s` if there is none. -/
def afterLast (c : Char) (s : String) : String :=
  String.ofList (s.toList.reverse.takeWhile (· != c)).reverse

/-- The text through the first `c`; all of `s` if there is none. -/
def through (c : Char) (s : String) : String :=
  match after? c s with
  | none => s
  | some _ => before c s ++ String.singleton c

/-- The text before the first character that `p` holds of; all of `s` if there is none. -/
def beforeAny (p : Char → Bool) (s : String) : String :=
  String.ofList (s.toList.takeWhile (!p ·))

/-- The text from the first character that `p` holds of; empty if there is none. -/
def fromAny (p : Char → Bool) (s : String) : String :=
  String.ofList (s.toList.dropWhile (!p ·))

/-! ## A given beginning or end -/

/-- What follows `front` in `s`, if `s` starts with it. -/
def dropFront? (front s : String) : Option String :=
  (front.toList.isPrefixOf? s.toList).map String.ofList

/-- What precedes `back` in `s`, if `s` ends with it. -/
def dropBack? (back s : String) : Option String :=
  (back.toList.isSuffixOf? s.toList).map String.ofList

theorem isPrefixOf?_eq_some {front l rest : List Char} :
    front.isPrefixOf? l = some rest ↔ l = front ++ rest := by
  induction front generalizing l with
  | nil => exact Option.some_inj
  | cons c front ih =>
    rcases l with _ | ⟨d, l⟩
    · exact iff_of_false nofun nofun
    · show (if (c == d) = true then front.isPrefixOf? l else none) = some rest ↔
        d :: l = c :: (front ++ rest)
      by_cases h : c = d
      · subst h
        rw [if_pos (beq_self_eq_true c), ih, List.cons.injEq, and_iff_right rfl]
      · rw [if_neg (ne_true_of_eq_false (beq_false_of_ne h))]
        exact iff_of_false nofun fun heq => h (List.cons.inj heq).1.symm

theorem dropFront?_eq_some {front s rest : String} :
    dropFront? front s = some rest ↔ s = front ++ rest := by
  rw [dropFront?, Option.map_eq_some_iff, ← String.toList_inj, String.toList_append]
  constructor
  · rintro ⟨l, hl, rfl⟩
    rw [isPrefixOf?_eq_some.mp hl, String.toList_ofList]
  · intro h
    exact ⟨rest.toList, isPrefixOf?_eq_some.mpr h, String.ofList_toList⟩

theorem dropBack?_eq_some {back s rest : String} :
    dropBack? back s = some rest ↔ s = rest ++ back := by
  rw [← String.toList_inj, String.toList_append]
  show ((back.toList.reverse.isPrefixOf? s.toList.reverse).map List.reverse).map String.ofList =
    some rest ↔ _
  rw [Option.map_map, Option.map_eq_some_iff]
  constructor
  · rintro ⟨l, hl, rfl⟩
    have h := congrArg List.reverse (isPrefixOf?_eq_some.mp hl)
    simpa using h
  · intro h
    refine ⟨rest.toList.reverse, isPrefixOf?_eq_some.mpr ?_, ?_⟩
    · rw [h, List.reverse_append]
    · simp

example : pieces '/' "a//b/" = ["a", "", "b", ""] := by decide
example : before ':' "h:80:1" = "h" ∧ after? ':' "h:80:1" = some "80:1" := by decide
example : beforeLast ':' "h:80:1" = "h:80" ∧ afterLast '@' "u@v@h" = "h" := by decide
example : through ']' "[::1]:80" = "[::1]" ∧ through ']' "[::1" = "[::1" := by decide
example : dropBack? "..." "rest..." = some "rest" ∧ dropBack? "..." "rest" = none := by decide

end HttpRouting.Text
