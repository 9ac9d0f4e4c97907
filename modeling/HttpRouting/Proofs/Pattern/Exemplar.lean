/-
  One query that a pattern is the best answer to, whatever it competes with.

  1. **The tokens** - `Label.exemplar` picks tokens that given labels take: a literal stands for
     itself, a wildcard takes a token `fresh`, and a catch-all takes two empty tokens.

  2. **The crux** - `eq_or_over_of_takes_exemplar`: any other labels that take these tokens are
     outranked.  Each choice shuts out what would go first.  A token that no literal spells shuts
     out the literals; an empty token shuts out the wildcard; and the second empty token shuts out
     the end of the path, `{$}`, which takes one empty token and nothing behind it.  The two lists
     of labels need nothing but to be labels of a path (`Label.IsPath`).

  3. **The path** - the tokens hold no slash, so a path has them (`tokens?_path_exemplar`), and
     `exists_fresh`: there is a token that avoids the literals of any finite choice of patterns.
-/
import HttpRouting.Proofs.Pattern.WellFormed
import HttpRouting.Proofs.Trie.Priority
import Mathlib.Data.Set.Finite.Basic
import Mathlib.Data.Fintype.EquivFin

namespace HttpRouting

namespace Label

/-! ## The labels of a path -/

/-- What ends a path stands last. -/
def IsPath (labels : List Label) : Prop := ∀ label ∈ labels.dropLast, ¬label.IsFinal

theorem isPath_cons {label : Label} {rest : List Label} :
    IsPath (label :: rest) ↔ (label.IsFinal → rest = []) ∧ IsPath rest := by
  cases rest with
  | nil => exact iff_of_true nofun ⟨fun _ => rfl, nofun⟩
  | cons next rest =>
    rw [IsPath, List.dropLast_cons_of_ne_nil (List.cons_ne_nil next rest), List.forall_mem_cons]
    exact and_congr_left' (imp_congr_right fun _ => (iff_false_intro (List.cons_ne_nil _ _)).symm)

/-! ## The tokens -/

/-- Tokens that the labels take. -/
def exemplar (fresh : String) : List Label → List String
  | [] => []
  | literal text :: rest => text :: exemplar fresh rest
  | wildcard :: rest => fresh :: exemplar fresh rest
  | catchAll :: _ => ["", ""]

variable {fresh : String} {labels others : List Label}

theorem takes_exemplar (hlabels : IsPath labels) (hfresh : fresh ≠ "") :
    Takes labels (exemplar fresh labels) := by
  induction labels with
  | nil => exact .nil
  | cons label rest ih =>
    obtain ⟨hlast, hrest⟩ := isPath_cons.mp hlabels
    cases label with
    | literal text => exact .literal text (ih hrest)
    | wildcard => exact .wildcard hfresh (ih hrest)
    | catchAll =>
      obtain rfl := hlast trivial
      exact .catchAll (List.cons_ne_nil _ _)

/-- **The crux.**  Labels that take the tokens picked for other labels are these, or are outranked
    by them. -/
theorem eq_or_over_of_takes_exemplar (hlabels : IsPath labels) (hothers : IsPath others)
    (hfresh : .literal fresh ∉ others) (h : Takes others (exemplar fresh labels)) :
    others = labels ∨ Over labels others := by
  -- the kinds of the labels agree up to the place where one of the choices decides
  induction labels generalizing others with
  | nil =>
    cases h with
    | nil => exact Or.inl rfl
    | catchAll hne => exact absurd rfl hne
  | cons label rest ih =>
    obtain ⟨hlast, hrest⟩ := isPath_cons.mp hlabels
    cases label with
    | literal text =>
      cases h with
      | literal _ h =>
        have hmore := ih hrest (isPath_cons.mp hothers).2 (List.not_mem_of_not_mem_cons hfresh) h
        exact hmore.imp (congrArg _) (.there rfl)
      | wildcard _ _ => exact Or.inr (.here _ _ Nat.zero_lt_one)
      | catchAll _ => exact Or.inr (.here _ _ Nat.zero_lt_two)
    | wildcard =>
      cases h with
      | literal _ _ => exact absurd List.mem_cons_self hfresh
      | wildcard _ h =>
        have hmore := ih hrest (isPath_cons.mp hothers).2 (List.not_mem_of_not_mem_cons hfresh) h
        exact hmore.imp (congrArg _) (.there rfl)
      | catchAll _ => exact Or.inr (.here _ _ Nat.one_lt_two)
    | catchAll =>
      obtain rfl := hlast trivial
      cases h with
      | literal _ h =>
        -- the end of the path would have to take the second token too
        rw [(isPath_cons.mp hothers).1 rfl] at h
        cases h
      | wildcard hne _ => exact absurd rfl hne
      | catchAll _ => exact Or.inl rfl

/-- A token picked is the fresh one, is empty, or is a literal. -/
theorem mem_exemplar {token : String} (h : token ∈ exemplar fresh labels) :
    token = fresh ∨ token = "" ∨ .literal token ∈ labels := by
  induction labels with
  | nil => cases h
  | cons label rest ih =>
    have hmore : token ∈ exemplar fresh rest →
        token = fresh ∨ token = "" ∨ .literal token ∈ label :: rest := fun h =>
      (ih h).imp_right (Or.imp_right (List.mem_cons_of_mem label))
    cases label with
    | literal text =>
      rcases List.mem_cons.mp h with rfl | h
      · exact Or.inr (Or.inr List.mem_cons_self)
      · exact hmore h
    | wildcard => exact (List.mem_cons.mp h).elim Or.inl hmore
    | catchAll =>
      have hempty : token = "" := by simpa [exemplar] using h
      exact Or.inr (Or.inl hempty)

theorem exemplar_ne_nil (hne : labels ≠ []) : exemplar fresh labels ≠ [] := by
  cases labels with
  | nil => exact absurd rfl hne
  | cons label rest => cases label <;> exact List.cons_ne_nil _ _

/-! ## A fresh token -/

/-- There is a token that is neither empty nor among some literals. -/
theorem exists_fresh (labels : List Label) :
    ∃ fresh : String, fresh ≠ "" ∧ '/' ∉ fresh.toList ∧ .literal fresh ∉ labels := by
  -- the runs of one letter are infinitely many, so the labels do not have them all
  let run (n : Nat) : String := String.ofList (List.replicate (n + 1) 'x')
  have hrun : Function.Injective fun n => Label.literal (run n) := by
    intro m n heq
    have hlength := congrArg (fun s : String => s.toList.length) (Label.literal.inj heq)
    simpa [run] using hlength
  obtain ⟨_, ⟨n, rfl⟩, hn⟩ :=
    (Set.infinite_range_of_injective hrun).exists_notMem_finset labels.toFinset
  refine ⟨run n, ?_, ?_, fun hmem => hn (List.mem_toFinset.mpr hmem)⟩
  · intro hempty
    simpa [run] using congrArg String.toList hempty
  · simp [run]

end Label

/-! ## The query of a pattern -/

namespace Pattern

variable {p : Pattern}

/-- The query that a pattern is the best answer to, if no competitor has the literal `fresh`. -/
def exemplar (fresh : String) (p : Pattern) : Query where
  method := p.method
  host := p.host
  path := Path.ofTokens (Label.exemplar fresh p.labels)

theorem WellFormed.isPath_labels (h : p.WellFormed) : Label.IsPath p.labels :=
  fun _ hmem => h.arranged.not_isFinal_label hmem

theorem WellFormed.slash_not_mem_literal (h : p.WellFormed) {text : String}
    (hmem : .literal text ∈ p.labels) : '/' ∉ text.toList := by
  obtain ⟨segment, hsegment, hlabel⟩ := List.mem_map.mp hmem
  have hsound := h.isSound segment hsegment
  cases segment with
  | literal text' =>
    obtain rfl := Label.literal.inj hlabel
    exact (Path.isToken_iff.mp hsound.1).2
  | wildcard name => cases hlabel
  | catchAll name => cases hlabel

/-- The tokens that were picked are read back from the path. -/
theorem WellFormed.tokens?_path_exemplar (h : p.WellFormed) {fresh : String}
    (hslash : '/' ∉ fresh.toList) :
    Path.tokens? (p.exemplar fresh).path = some (Label.exemplar fresh p.labels) := by
  have hne : p.labels ≠ [] := by simpa [labels] using h.arranged.ne_nil
  refine Path.tokens?_ofTokens (Label.exemplar_ne_nil hne) fun token hmem => ?_
  rcases Label.mem_exemplar hmem with rfl | rfl | hliteral
  · exact hslash
  · exact List.not_mem_nil
  · exact h.slash_not_mem_literal hliteral

example : (exemplar "x" ⟨"GET", "h", [.literal "a", .wildcard "id", .catchAll ""]⟩).path =
    "/a/x//" := by decide
example : (exemplar "x" ⟨"GET", "", [.literal ""]⟩).path = "/" := by decide

end Pattern

end HttpRouting
