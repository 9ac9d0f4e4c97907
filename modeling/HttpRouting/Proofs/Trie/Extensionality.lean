/-
  A search sees what a trie holds, not how the trie came about.

  Two tries may hold the same values at the same addresses and still differ: the edges of a vertex
  stand in the order in which they were made, and a branch may lead nowhere.  No search can tell.

  `Agree f g t t'` is stated with views `f` and `g` of the values, so that one lemma serves two
  purposes: with identities it compares all that is found, and with a view that forgets something
  it compares the rest.  A missing edge counts as an edge to the empty trie (`getD ∅`), which finds
  nothing; that makes the relation pass down every edge, present or not (`Agree.child`), and the
  induction on the tokens go through.
-/
import HttpRouting.Proofs.Trie.Captures
import HttpRouting.Proofs.Trie.Vertices

namespace HttpRouting

universe u v w

variable {α : Type u} {β : Type v} {γ : Type w}

namespace Trie

/-! ## Missing tries -/

theorem getD_get? (t : Option (Trie α)) (address : List Label) :
    (t.getD ∅).get? address = t.bind (·.get? address) := by
  cases t with
  | none => exact get?_empty address
  | some t => rfl

theorem result_search_empty (tokens : List String) :
    ((∅ : Trie α).search tokens).result = none := by
  cases tokens with
  | nil => rfl
  | cons token rest =>
    have hchild : ∀ label, (∅ : Trie α).child? label = none := fun _ => rfl
    simp [result_search_cons, literalResult, wildcardResult, catchAllResult, hchild]

/-- Searching a missing trie is searching the empty one. -/
theorem bind_result_search (t : Option (Trie α)) (tokens : List String) :
    (t.bind fun child => (child.search tokens).result) = ((t.getD ∅).search tokens).result := by
  cases t with
  | none => exact (result_search_empty tokens).symm
  | some t => rfl

/-! ## Agreement -/

/-- Seen through `f` and `g`, the tries hold the same at every address. -/
def Agree (f : α → γ) (g : β → γ) (t : Trie α) (t' : Trie β) : Prop :=
  ∀ address, (t.get? address).map f = (t'.get? address).map g

variable {f : α → γ} {g : β → γ} {t : Trie α} {t' : Trie β}

theorem Agree.child (h : Agree f g t t') (label : Label) :
    Agree f g ((t.child? label).getD ∅) ((t'.child? label).getD ∅) := by
  intro address
  rw [getD_child?_get?, getD_child?_get?]
  exact h (label :: address)

theorem Agree.sub (h : Agree f g t t') (address : List Label) :
    Agree f g ((t.sub? address).getD ∅) ((t'.sub? address).getD ∅) := by
  intro below
  rw [getD_get?, getD_get?, ← get?_append, ← get?_append]
  exact h (address ++ below)

/-- What was found, seen through `f`; the tokens taken stay. -/
def view (f : α → γ) : Option (α × Captures) → Option (γ × Captures) :=
  Option.map fun found => (f found.1, found.2)

theorem view_map_pair (f : α → γ) (value : Option α) (tokens : Captures) :
    view f (value.map (·, tokens)) = (value.map f).map (·, tokens) := by
  cases value <;> rfl

theorem view_id (found : Option (α × Captures)) : view id found = found :=
  congrFun Option.map_id found

/-- **A search sees what the trie holds.**  Tries that agree give results that agree, with the same
    tokens taken. -/
theorem Agree.result_search (h : Agree f g t t') (tokens : List String) :
    view f (t.search tokens).result = view g (t'.search tokens).result := by
  induction tokens generalizing t t' with
  | nil =>
    rw [result_search_nil, result_search_nil, view_map_pair, view_map_pair]
    exact congrArg _ (h [])
  | cons token rest ih =>
    have hliteral : view f (t.literalResult token rest) = view g (t'.literalResult token rest) := by
      rw [literalResult, literalResult, bind_result_search, bind_result_search]
      exact ih (h.child (.literal token))
    have hwildcard :
        view f (t.wildcardResult token rest) = view g (t'.wildcardResult token rest) := by
      by_cases hempty : token = ""
      · rw [wildcardResult, wildcardResult, if_pos hempty, if_pos hempty]
        rfl
      · -- the token is put before the captures on both sides
        have hbelow := congrArg (Option.map fun found => (found.1, token :: found.2))
          (ih (h.child .wildcard))
        rw [← bind_result_search, ← bind_result_search] at hbelow
        simpa only [wildcardResult, if_neg hempty, view, Option.map_bind, Option.map_map,
          Function.comp_def] using hbelow
    have hcatchAll :
        view f (t.catchAllResult (token :: rest)) = view g (t'.catchAllResult (token :: rest)) := by
      rw [catchAllResult, catchAllResult, view_map_pair, view_map_pair]
      have hheld := h [.catchAll]
      rw [get?_cons, get?_cons] at hheld
      exact congrArg _ hheld
    simp only [view] at hliteral hwildcard hcatchAll
    rw [result_search_cons, result_search_cons, view, view, Option.map_or, Option.map_or,
      Option.map_or, Option.map_or, hliteral, hwildcard, hcatchAll]

/-- Tries that agree give results that agree below every address. -/
theorem Agree.resultAt (h : Agree f g t t') (tokens : List String) (address : List Label) :
    view f (t.resultAt tokens address) = view g (t'.resultAt tokens address) := by
  rw [Trie.resultAt, Trie.resultAt, bind_result_search, bind_result_search]
  exact (h.sub address).result_search tokens

end Trie

end HttpRouting
