/-
  A search keeps its captures in order.

  All branches of a search share one list of captures, and a branch that fails must hand it on as
  it got it.  `Search.Framed` states this for one search: what it finds (`Search.result`) does not
  depend on the captures made before it, and after it the list is the old one, with the tokens
  taken added at the end if something was found.

  Each way of building a search keeps it framed (`framed_fail`, `framed_taking`, `Framed.below`,
  `Framed.capturing`, `Framed.orElse`), so every search of a trie is framed (`framed_search`).
  From then on a search is its result, and the results compose without any list of captures:
  `result_search_cons` is the equation that all later proofs use.
-/
import HttpRouting.Trie.Search

namespace HttpRouting

universe u

variable {α : Type u}

namespace Search

/-! ## Results -/

/-- What a search finds, and the tokens it takes on the way. -/
def result (s : Search α) : Option (α × Captures) :=
  match s [] with
  | (none, _) => none
  | (some a, taken) => some (a, taken)

/-- Adds the outcome of a search to the captures made before it. -/
def handOn (captures : Captures) : Option (α × Captures) → Option α × Captures
  | none => (none, captures)
  | some (a, taken) => (some a, captures ++ taken)

/-- A search finds the same whatever was captured before it, and it leaves those captures as they
    were, up to the tokens it took. -/
def Framed (s : Search α) : Prop := ∀ captures, s captures = handOn captures s.result

/-- To be framed it is enough to hand on some outcome, which then is the result. -/
theorem framed_of_handOn {s : Search α} {outcome : Option (α × Captures)}
    (h : ∀ captures, s captures = handOn captures outcome) : s.Framed ∧ s.result = outcome := by
  have hresult : s.result = outcome := by
    rw [result, h []]
    rcases outcome with _ | ⟨a, taken⟩ <;> rfl
  exact ⟨fun captures => by rw [h captures, hresult], hresult⟩

/-! ## Building framed searches

  Every statement gives the two facts together: the search is framed, and this is its result. -/

theorem framed_fail : (fail : Search α).Framed ∧ (fail : Search α).result = none :=
  framed_of_handOn fun _ => rfl

theorem framed_taking (tokens : List String) (found : Option α) :
    (taking tokens found).Framed ∧ (taking tokens found).result = found.map (·, tokens) := by
  apply framed_of_handOn
  intro captures
  cases found <;> rfl

theorem Framed.below {search : Trie α → Search α} (h : ∀ child, (search child).Framed)
    (child : Option (Trie α)) :
    (below child search).Framed ∧
      (below child search).result = child.bind fun child => (search child).result := by
  cases child with
  | none => exact framed_fail
  | some child => exact ⟨h child, rfl⟩

/-- The crux: on failure the token captured last is the one that was captured here. -/
theorem Framed.capturing {s : Search α} (h : s.Framed) (token : String) :
    (s.capturing token).Framed ∧
      (s.capturing token).result = s.result.map fun found => (found.1, token :: found.2) := by
  apply framed_of_handOn
  intro captures
  rw [Search.capturing, h (captures ++ [token])]
  rcases s.result with _ | ⟨a, taken⟩
  · show (none, (captures ++ [token]).dropLast) = (none, captures)
    rw [List.dropLast_concat]
  · show (some a, captures ++ [token] ++ taken) = (some a, captures ++ token :: taken)
    rw [List.append_assoc]
    rfl

theorem Framed.orElse {first second : Search α} (h₁ : first.Framed) (h₂ : second.Framed) :
    (first.orElse second).Framed ∧
      (first.orElse second).result = first.result.or second.result := by
  apply framed_of_handOn
  intro captures
  rw [Search.orElse, h₁ captures]
  rcases first.result with _ | ⟨a, taken⟩
  · exact h₂ captures
  · rfl

end Search

namespace Trie

/-! ## Searching a trie -/

/-- **Captures are framed** in every search of a trie, whatever the trie. -/
theorem framed_search (t : Trie α) (tokens : List String) : (t.search tokens).Framed := by
  induction tokens generalizing t with
  | nil => exact (Search.framed_taking [] t.value).1
  | cons token rest ih =>
    have hliteral := Search.Framed.below ih (t.child? (.literal token))
    have hwildcard := Search.Framed.below (fun child => ((ih child).capturing token).1)
      (if token = "" then none else t.child? .wildcard)
    have hcatchAll := Search.framed_taking (token :: rest) ((t.child? .catchAll).bind value)
    exact (hliteral.1.orElse (hwildcard.1.orElse hcatchAll.1).1).1

theorem result_search_nil (t : Trie α) : (t.search []).result = t.value.map (·, []) :=
  (Search.framed_taking [] t.value).2

/-- What the literal edge finds. -/
def literalResult (t : Trie α) (token : String) (rest : List String) : Option (α × Captures) :=
  (t.child? (.literal token)).bind fun child => (child.search rest).result

/-- What the wildcard edge finds. -/
def wildcardResult (t : Trie α) (token : String) (rest : List String) : Option (α × Captures) :=
  (if token = "" then none else t.child? .wildcard).bind fun child =>
    (child.search rest).result.map fun found => (found.1, token :: found.2)

/-- What the catch-all edge finds. -/
def catchAllResult (t : Trie α) (tokens : List String) : Option (α × Captures) :=
  ((t.child? .catchAll).bind value).map (·, tokens)

/-- A vertex finds what the first of its three edges finds that finds anything. -/
theorem result_search_cons (t : Trie α) (token : String) (rest : List String) :
    (t.search (token :: rest)).result =
      (t.literalResult token rest).or
        ((t.wildcardResult token rest).or (t.catchAllResult (token :: rest))) := by
  have hliteral := Search.Framed.below (fun child => framed_search child rest)
    (t.child? (.literal token))
  have hwildcard := Search.Framed.below
    (fun child => ((framed_search child rest).capturing token).1)
    (if token = "" then none else t.child? .wildcard)
  have hcatchAll := Search.framed_taking (token :: rest) ((t.child? .catchAll).bind value)
  have hlater := hwildcard.1.orElse hcatchAll.1
  rw [search, (hliteral.1.orElse hlater.1).2, hliteral.2, hlater.2, hwildcard.2, hcatchAll.2]
  simp only [((framed_search _ rest).capturing token).2]
  rfl

/-- What the search below an address finds. -/
def resultAt (t : Trie α) (tokens : List String) (address : List Label) : Option (α × Captures) :=
  (t.sub? address).bind fun sub => (sub.search tokens).result

/-- A search at several addresses finds what the first of them finds that finds anything. -/
theorem framed_searchAt (t : Trie α) (addresses : List (List Label)) (tokens : List String) :
    (t.searchAt addresses tokens).Framed ∧
      (t.searchAt addresses tokens).result = addresses.findSome? (t.resultAt tokens) := by
  induction addresses with
  | nil => exact Search.framed_fail
  | cons address rest ih =>
    have hfirst := Search.Framed.below (fun sub => framed_search sub tokens) (t.sub? address)
    have h := hfirst.1.orElse ih.1
    refine ⟨h.1, h.2.trans ?_⟩
    rw [hfirst.2, ih.2, List.findSome?_cons]
    show (t.resultAt tokens address).or _ = _
    cases t.resultAt tokens address <;> rfl

end Trie

end HttpRouting
