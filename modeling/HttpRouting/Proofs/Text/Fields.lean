/-
  The fields of a text, said without a scan.

  `Text.fields` cuts at every blank and drops the empty pieces.  Everything about it follows from
  one equation, that the fields on the two sides of a blank do not touch (`words_append_blank`):
  blanks in front change nothing, and a run without blanks that a blank or the end follows is a
  field.

  The main statement is `fields_eq_pair_iff`: a text has exactly the fields `a` and `b` if it is
  blanks, `a`, blanks of which there is at least one, `b`, and blanks.
-/
import HttpRouting.Text.Blank

namespace HttpRouting.Text

/-! ## Lists of characters -/

/-- All characters are blank. -/
def AllBlank (cs : List Char) : Prop := ∀ c ∈ cs, isBlank c = true

/-- No character is blank. -/
def NoneBlank (cs : List Char) : Prop := ∀ c ∈ cs, isBlank c = false

/-- The fields of a list of characters. -/
def words (cs : List Char) : List (List Char) := (cs.splitOnP isBlank).filter (· ≠ [])

theorem words_nil : words [] = [] := by
  simp [words, List.splitOnP_nil]

/-- **The crux.**  The fields before a blank and the fields after it are all the fields. -/
theorem words_append_blank {c : Char} (hc : isBlank c = true) (front back : List Char) :
    words (front ++ c :: back) = words front ++ words back := by
  rw [words, List.splitOnP_append_cons front back hc, List.filter_append]
  rfl

theorem words_cons_blank {c : Char} (hc : isBlank c = true) (cs : List Char) :
    words (c :: cs) = words cs := by
  have h := words_append_blank hc [] cs
  rwa [words_nil, List.nil_append, List.nil_append] at h

/-- Blanks in front change nothing. -/
theorem words_blanks_append {blanks : List Char} (h : AllBlank blanks) (cs : List Char) :
    words (blanks ++ cs) = words cs := by
  induction blanks with
  | nil => rfl
  | cons c rest ih =>
    rw [List.cons_append, words_cons_blank (h c List.mem_cons_self)]
    exact ih fun d hd => h d (List.mem_cons_of_mem c hd)

theorem words_of_noneBlank {word : List Char} (hne : word ≠ []) (h : NoneBlank word) :
    words word = [word] := by
  rw [words, List.splitOnP_eq_singleton h]
  simp [hne]

/-- Text that may follow a field: none, or a blank first. -/
def EndsField (cs : List Char) : Prop := ∀ c ∈ cs.head?, isBlank c = true

/-- A run without blanks is the first field, if no more of it follows. -/
theorem words_append {word rest : List Char} (hne : word ≠ []) (h : NoneBlank word)
    (hrest : EndsField rest) : words (word ++ rest) = word :: words rest := by
  cases rest with
  | nil => rw [List.append_nil, words_of_noneBlank hne h, words_nil]
  | cons c rest =>
    have hc : isBlank c = true := hrest c rfl
    rw [words_append_blank hc, words_of_noneBlank hne h, words_cons_blank hc]
    rfl

/-- A text is a run without blanks and text that may follow it. -/
theorem exists_noneBlank_append (cs : List Char) :
    ∃ word rest, cs = word ++ rest ∧ NoneBlank word ∧ EndsField rest := by
  induction cs with
  | nil => exact ⟨[], [], rfl, nofun, nofun⟩
  | cons c cs ih =>
    cases hc : isBlank c with
    | true => exact ⟨[], c :: cs, rfl, nofun, fun d hd => Option.some.inj hd ▸ hc⟩
    | false =>
      obtain ⟨word, rest, rfl, hword, hrest⟩ := ih
      exact ⟨c :: word, rest, rfl, List.forall_mem_cons.mpr ⟨hc, hword⟩, hrest⟩

/-- There are no fields exactly if all is blank. -/
theorem words_eq_nil_iff {cs : List Char} : words cs = [] ↔ AllBlank cs := by
  constructor
  · intro h
    induction cs with
    | nil => exact nofun
    | cons c cs ih =>
      cases hc : isBlank c with
      | true =>
        rw [words_cons_blank hc] at h
        exact List.forall_mem_cons.mpr ⟨hc, ih h⟩
      | false =>
        -- a field begins here
        obtain ⟨word, rest, rfl, hword, hrest⟩ := exists_noneBlank_append cs
        have hfield := words_append (List.cons_ne_nil c word)
          (List.forall_mem_cons.mpr ⟨hc, hword⟩) hrest
        rw [List.cons_append] at hfield
        rw [hfield] at h
        cases h
  · intro h
    have hwords := words_blanks_append h []
    rwa [List.append_nil, words_nil] at hwords

/-- The first field and the rest. -/
theorem words_eq_cons_iff {cs word : List Char} {others : List (List Char)} :
    words cs = word :: others ↔ ∃ front rest, cs = front ++ word ++ rest ∧ AllBlank front ∧
      word ≠ [] ∧ NoneBlank word ∧ EndsField rest ∧ words rest = others := by
  constructor
  · intro h
    induction cs with
    | nil => rw [words_nil] at h; cases h
    | cons c cs ih =>
      cases hc : isBlank c with
      | true =>
        rw [words_cons_blank hc] at h
        obtain ⟨front, rest, rfl, hfront, hword⟩ := ih h
        exact ⟨c :: front, rest, rfl, List.forall_mem_cons.mpr ⟨hc, hfront⟩, hword⟩
      | false =>
        obtain ⟨tail, rest, rfl, htail, hrest⟩ := exists_noneBlank_append cs
        have hnone : NoneBlank (c :: tail) := List.forall_mem_cons.mpr ⟨hc, htail⟩
        rw [← List.cons_append, words_append (List.cons_ne_nil c tail) hnone hrest] at h
        obtain ⟨rfl, hothers⟩ := List.cons.inj h
        exact ⟨[], rest, rfl, nofun, List.cons_ne_nil c tail, hnone, hrest, hothers⟩
  · rintro ⟨front, rest, rfl, hfront, hne, hword, hrest, rfl⟩
    rw [List.append_assoc, words_blanks_append hfront, words_append hne hword hrest]

/-- Text before a field that may follow another field: a blank at least. -/
theorem endsField_append_iff {blanks word rest : List Char} (hblanks : AllBlank blanks)
    (hne : word ≠ []) (hword : NoneBlank word) :
    EndsField (blanks ++ word ++ rest) ↔ blanks ≠ [] := by
  cases blanks with
  | nil =>
    obtain ⟨c, word, rfl⟩ := List.exists_cons_of_ne_nil hne
    refine iff_of_false (fun h => ?_) (fun h => h rfl)
    have hc := h c rfl
    rw [hword c List.mem_cons_self] at hc
    cases hc
  | cons c blanks =>
    refine iff_of_true (fun d hd => ?_) (List.cons_ne_nil c blanks)
    obtain rfl := Option.some.inj hd
    exact hblanks c List.mem_cons_self

/-! ## Texts -/

/-- A text of blanks only, possibly empty. -/
def IsBlanks (s : String) : Prop := AllBlank s.toList

/-- A text that can be a field: not empty, and without a blank. -/
structure IsField (s : String) : Prop where
  ne_empty : s ≠ ""
  noneBlank : NoneBlank s.toList

theorem fields_eq_map_words (s : String) : fields s = (words s.toList).map String.ofList := rfl

/-- **Exactly two fields**: blanks, a field, blanks of which there is at least one, a field, and
    blanks. -/
theorem fields_eq_pair_iff {s a b : String} :
    fields s = [a, b] ↔ ∃ front gap back, s = front ++ a ++ gap ++ b ++ back ∧
      IsBlanks front ∧ IsBlanks gap ∧ gap ≠ "" ∧ IsBlanks back ∧ IsField a ∧ IsField b := by
  have hpair : fields s = [a, b] ↔ words s.toList = [a.toList, b.toList] := by
    rw [fields_eq_map_words]
    constructor
    · intro h
      have hlists := congrArg (List.map String.toList) h
      simpa [Function.comp_def] using hlists
    · intro h
      rw [h]
      simp
  rw [hpair, words_eq_cons_iff]
  constructor
  · rintro ⟨front, rest, hs, hfront, hane, ha, hends, hrest⟩
    obtain ⟨gap, back, rfl, hgap, hbne, hb, -, hback⟩ := words_eq_cons_iff.mp hrest
    refine ⟨String.ofList front, String.ofList gap, String.ofList back, ?_, ?_, ?_, ?_, ?_,
      ⟨?_, ha⟩, ⟨?_, hb⟩⟩
    · rw [← String.toList_inj, hs]
      simp only [String.toList_append, String.toList_ofList, List.append_assoc]
    · simpa [IsBlanks] using hfront
    · simpa [IsBlanks] using hgap
    · simpa using (endsField_append_iff hgap hbne hb).mp hends
    · simpa [IsBlanks] using words_eq_nil_iff.mp hback
    · simpa using hane
    · simpa using hbne
  · rintro ⟨front, gap, back, rfl, hfront, hgap, hgapne, hback, ha, hb⟩
    have hane : a.toList ≠ [] := by simpa using ha.ne_empty
    have hbne : b.toList ≠ [] := by simpa using hb.ne_empty
    have hgapne : gap.toList ≠ [] := by simpa using hgapne
    refine ⟨front.toList, gap.toList ++ b.toList ++ back.toList, ?_, hfront, hane, ha.noneBlank,
      (endsField_append_iff hgap hbne hb.noneBlank).mpr hgapne, ?_⟩
    · simp only [String.toList_append, List.append_assoc]
    · -- nothing but blanks is left behind the second field
      refine words_eq_cons_iff.mpr ⟨gap.toList, back.toList, rfl, hgap, hbne, hb.noneBlank, ?_,
        words_eq_nil_iff.mpr hback⟩
      exact fun c hc => hback c (List.mem_of_mem_head? hc)

/-- Two fields with one space between them. -/
theorem fields_of_isField {a b : String} (ha : IsField a) (hb : IsField b) :
    fields (a ++ " " ++ b) = [a, b] := by
  refine fields_eq_pair_iff.mpr ⟨"", " ", "", ?_, nofun, ?_, by decide, nofun, ha, hb⟩
  · rw [String.empty_append, String.append_empty]
  · intro c hc
    rw [show " ".toList = [' '] from rfl, List.mem_singleton] at hc
    subst hc
    rfl

end HttpRouting.Text
