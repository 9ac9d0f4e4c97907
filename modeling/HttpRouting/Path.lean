/-
  Request paths as lists of tokens.

  A path is a slash before each of its tokens; tokens may be empty, and a path has at least one.
  `tokens?` reads a path and `ofTokens` writes one.  They invert each other: `ofTokens_of_tokens?`
  needs nothing, `tokens?_ofTokens` needs tokens without a slash.
-/
import HttpRouting.Text.Split

namespace HttpRouting.Path

/-- A slash and the token, for each token. -/
def ofTokens : List String → String
  | [] => ""
  | token :: rest => "/" ++ token ++ ofTokens rest

/-- The tokens of a path; `none` for a text that does not start with a slash. -/
def tokens? (path : String) : Option (List String) :=
  (Text.dropFront? "/" path).map (Text.pieces '/')

/-! ## Reading and writing -/

theorem ofTokens_eq_intercalate {tokens : List String} (hne : tokens ≠ []) :
    ofTokens tokens = "/" ++ "/".intercalate tokens := by
  induction tokens with
  | nil => exact absurd rfl hne
  | cons token rest ih =>
    rcases rest with _ | ⟨next, rest⟩
    · simp [ofTokens]
    · rw [ofTokens, ih (List.cons_ne_nil _ _), String.intercalate_cons_cons]
      simp only [String.append_assoc]

/-- A path with tokens is a slash and the text that has them as its pieces. -/
theorem tokens?_eq_some {path : String} {tokens : List String} :
    tokens? path = some tokens ↔ ∃ rest, path = "/" ++ rest ∧ tokens = Text.pieces '/' rest := by
  rw [tokens?, Option.map_eq_some_iff]
  constructor
  · rintro ⟨rest, hrest, rfl⟩
    exact ⟨rest, Text.dropFront?_eq_some.mp hrest, rfl⟩
  · rintro ⟨rest, hrest, rfl⟩
    exact ⟨rest, Text.dropFront?_eq_some.mpr hrest, rfl⟩

/-- A path that has tokens is written back from them. -/
theorem ofTokens_of_tokens? {path : String} {tokens : List String}
    (h : tokens? path = some tokens) : ofTokens tokens = path := by
  obtain ⟨rest, rfl, rfl⟩ := tokens?_eq_some.mp h
  rw [ofTokens_eq_intercalate (Text.pieces_ne_nil _ _)]
  exact congrArg ("/" ++ ·) (Text.intercalate_pieces '/' rest)

/-- Tokens without a slash are read back from their path. -/
theorem tokens?_ofTokens {tokens : List String} (hne : tokens ≠ [])
    (hfree : ∀ token ∈ tokens, '/' ∉ token.toList) :
    tokens? (ofTokens tokens) = some tokens := by
  have hdrop := Text.dropFront?_eq_some.mpr (ofTokens_eq_intercalate hne)
  rw [tokens?, hdrop, Option.map_some]
  exact congrArg some (Text.pieces_intercalate hne hfree)

/-- No token of a path holds a slash. -/
theorem slash_not_mem_of_tokens? {path : String} {tokens : List String}
    (h : tokens? path = some tokens) : ∀ token ∈ tokens, '/' ∉ token.toList := by
  obtain ⟨rest, -, rfl⟩ := tokens?_eq_some.mp h
  exact fun token hmem => Text.not_mem_of_mem_pieces hmem

example : tokens? "/a//b/" = some ["a", "", "b", ""] := by decide
example : tokens? "/" = some [""] ∧ tokens? "a/b" = none ∧ tokens? "" = none := by decide

end HttpRouting.Path
