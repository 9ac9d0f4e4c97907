/-
  A search finds the first route of the best kind.

  1. **Specification** - `Label.Takes labels tokens` says which lists of labels take which lists of
     tokens, with no trie in sight; `Label.captured` gives the tokens that are captured on the way.
     `Label.Over` is the order of preference: at the first position where the kinds of two labels
     differ, a literal goes over a wildcard and a wildcard over the catch-all.

  2. **Soundness** - `sound_search`: what a search finds is held at labels that take the tokens.
     So all that it leaves in the captures are the tokens taken on the way to what it found, whatever
     branches it gave up before (`search_captures`).

  3. **Optimality** - `Leads.findsOver`: if any labels that take the tokens lead to a value,
     the search finds one, and the labels it finds are the same or go over them.  Completeness is
     part of this.  The induction follows the derivation of `Label.Takes`, not the search: every
     branch that is tried earlier either fails, or succeeds with a label of a better kind.
-/
import HttpRouting.Proofs.Trie.Captures
import HttpRouting.Proofs.Trie.Vertices

namespace HttpRouting

universe u

variable {α : Type u}

namespace Label

/-! ## What labels take -/

/-- The labels take the tokens one by one, and none is left over on either side. -/
inductive Takes : List Label → List String → Prop
  | nil : Takes [] []
  /-- A literal takes the token equal to it. -/
  | literal (token : String) {labels : List Label} {rest : List String}
      (h : Takes labels rest) : Takes (.literal token :: labels) (token :: rest)
  /-- The wildcard takes one token that is not empty. -/
  | wildcard {token : String} {labels : List Label} {rest : List String}
      (hne : token ≠ "") (h : Takes labels rest) : Takes (.wildcard :: labels) (token :: rest)
  /-- The catch-all comes last and takes all tokens that are left, at least one. -/
  | catchAll {tokens : List String} (hne : tokens ≠ []) : Takes [.catchAll] tokens

/-- The tokens that wildcards and catch-alls take. -/
def captured : List Label → List String → Captures
  | .literal _ :: labels, _ :: rest => captured labels rest
  | .wildcard :: labels, token :: rest => token :: captured labels rest
  | .catchAll :: _, tokens => tokens
  | _, _ => []

/-- What is captured stands among the tokens, in their order. -/
theorem captured_sublist (labels : List Label) (tokens : List String) :
    (captured labels tokens).Sublist tokens := by
  induction tokens generalizing labels with
  | nil =>
    rcases labels with _ | ⟨_ | _ | _, labels⟩ <;> exact List.Sublist.refl []
  | cons token rest ih =>
    rcases labels with _ | ⟨_ | _ | _, labels⟩
    · exact List.nil_sublist _
    · -- a literal passes its token over
      exact (ih labels).cons token
    · exact (ih labels).cons_cons token
    · exact List.Sublist.refl _

/-! ## Which labels are preferred -/

/-- The kind of a label, best first. -/
def rank : Label → Nat
  | literal _ => 0
  | wildcard => 1
  | catchAll => 2

/-- The kinds agree up to some position, and there the first list has the better kind. -/
inductive Over : List Label → List Label → Prop
  | here {a b : Label} (as bs : List Label) (h : a.rank < b.rank) : Over (a :: as) (b :: bs)
  | there {a b : Label} {as bs : List Label} (heq : a.rank = b.rank) (h : Over as bs) :
      Over (a :: as) (b :: bs)

theorem Over.asymm {as bs : List Label} (h : Over as bs) : ¬Over bs as := by
  induction h with
  | here as bs hlt =>
    rintro (⟨_, _, hgt⟩ | ⟨heq, -⟩) <;> omega
  | there heq _ ih =>
    rintro (⟨_, _, hgt⟩ | ⟨-, h⟩)
    · omega
    · exact ih h

end Label

namespace Trie

open Label

/-! ## Leading to a value -/

/-- `labels` take `tokens` and lead to `a`. -/
structure Leads (t : Trie α) (tokens : List String) (labels : List Label) (a : α) : Prop where
  get?_eq : t.get? labels = some a
  takes : Takes labels tokens

theorem get?_cons_of_child {t child : Trie α} {label : Label} {labels : List Label} {a : α}
    (hchild : t.child? label = some child) (h : child.get? labels = some a) :
    t.get? (label :: labels) = some a := by
  rw [get?_cons, hchild]
  exact h

variable {t child : Trie α} {token : String} {rest tokens : List String} {labels : List Label}
  {a : α}

theorem Leads.literal (hchild : t.child? (.literal token) = some child)
    (h : child.Leads rest labels a) : t.Leads (token :: rest) (.literal token :: labels) a :=
  ⟨get?_cons_of_child hchild h.get?_eq, .literal token h.takes⟩

theorem Leads.wildcard (hne : token ≠ "") (hchild : t.child? .wildcard = some child)
    (h : child.Leads rest labels a) : t.Leads (token :: rest) (.wildcard :: labels) a :=
  ⟨get?_cons_of_child hchild h.get?_eq, .wildcard hne h.takes⟩

theorem Leads.catchAll (hne : tokens ≠ []) (hvalue : (t.child? .catchAll).bind value = some a) :
    t.Leads tokens [.catchAll] a := by
  obtain ⟨child, hchild, ha⟩ := Option.bind_eq_some_iff.mp hvalue
  exact ⟨get?_cons_of_child hchild ha, .catchAll hne⟩

/-! ## Soundness -/

/-- What the search finds is held at labels that take the tokens, and its captures are the tokens
    captured along these labels. -/
def Sound (t : Trie α) (tokens : List String) : Prop :=
  ∀ a captures, (t.search tokens).result = some (a, captures) →
    ∃ labels, t.Leads tokens labels a ∧ captures = captured labels tokens

variable {captures : Captures}

theorem exists_leads_of_literalResult (hsound : ∀ child : Trie α, child.Sound rest)
    (h : t.literalResult token rest = some (a, captures)) :
    ∃ labels, t.Leads (token :: rest) (.literal token :: labels) a ∧
      captures = captured (.literal token :: labels) (token :: rest) := by
  obtain ⟨child, hchild, hfound⟩ := Option.bind_eq_some_iff.mp h
  obtain ⟨labels, hleads, rfl⟩ := hsound child a captures hfound
  exact ⟨labels, hleads.literal hchild, rfl⟩

theorem exists_leads_of_wildcardResult (hsound : ∀ child : Trie α, child.Sound rest)
    (h : t.wildcardResult token rest = some (a, captures)) :
    ∃ labels, t.Leads (token :: rest) (.wildcard :: labels) a ∧
      captures = captured (.wildcard :: labels) (token :: rest) := by
  obtain ⟨child, hchild, hfound⟩ := Option.bind_eq_some_iff.mp h
  obtain ⟨⟨b, taken⟩, hbelow, heq⟩ := Option.map_eq_some_iff.mp hfound
  obtain ⟨rfl, rfl⟩ := Prod.mk.inj heq
  obtain ⟨labels, hleads, rfl⟩ := hsound child b taken hbelow
  by_cases hne : token = ""
  · rw [if_pos hne] at hchild
    cases hchild
  · rw [if_neg hne] at hchild
    exact ⟨labels, hleads.wildcard hne hchild, rfl⟩

theorem leads_of_catchAllResult (hne : tokens ≠ [])
    (h : t.catchAllResult tokens = some (a, captures)) :
    t.Leads tokens [.catchAll] a ∧ captures = captured [.catchAll] tokens := by
  obtain ⟨b, hb, heq⟩ := Option.map_eq_some_iff.mp h
  obtain ⟨rfl, rfl⟩ := Prod.mk.inj heq
  exact ⟨.catchAll hne hb, rfl⟩

/-- **The search is sound.** -/
theorem sound_search (t : Trie α) (tokens : List String) : t.Sound tokens := by
  induction tokens generalizing t with
  | nil =>
    intro a captures h
    rw [result_search_nil] at h
    obtain ⟨b, hb, heq⟩ := Option.map_eq_some_iff.mp h
    obtain ⟨rfl, rfl⟩ := Prod.mk.inj heq
    exact ⟨[], ⟨hb, .nil⟩, rfl⟩
  | cons token rest ih =>
    intro a captures h
    rw [result_search_cons, Option.or_eq_some_iff, Option.or_eq_some_iff] at h
    rcases h with hliteral | ⟨-, hwildcard | ⟨-, hcatchAll⟩⟩
    · obtain ⟨labels, h⟩ := exists_leads_of_literalResult ih hliteral
      exact ⟨_, h⟩
    · obtain ⟨labels, h⟩ := exists_leads_of_wildcardResult ih hwildcard
      exact ⟨_, h⟩
    · exact ⟨_, leads_of_catchAllResult (List.cons_ne_nil _ _) hcatchAll⟩

/-- **What a search leaves in the captures.**  In any trie, for any tokens: either the search fails
    whatever was captured before it, and leaves that as it was; or it finds one value whatever was
    captured before it, and adds the same tokens to that.  These tokens stand among those of the
    path, in their order, and they are the ones taken along the labels that lead to the value: none
    is left from a branch that was given up. -/
theorem search_captures (t : Trie α) (tokens : List String) :
    (∀ captures, t.search tokens captures = (none, captures)) ∨
    ∃ a taken, (∀ captures, t.search tokens captures = (some a, captures ++ taken)) ∧
      taken.Sublist tokens ∧ ∃ labels, t.Leads tokens labels a ∧ taken = captured labels tokens := by
  have hframed := framed_search t tokens
  cases hresult : (t.search tokens).result with
  | none =>
    left
    intro captures
    rw [hframed captures, hresult]
    rfl
  | some found =>
    obtain ⟨a, taken⟩ := found
    obtain ⟨labels, hleads, htaken⟩ := sound_search t tokens a taken hresult
    refine Or.inr ⟨a, taken, fun captures => ?_, ?_, labels, hleads, htaken⟩
    · rw [hframed captures, hresult]
      rfl
    · rw [htaken]
      exact captured_sublist labels tokens

/-- Two branches are given up with tokens captured, and an older capture stays in front. -/
example :
    let t := (((∅ : Trie Nat).insert [.literal "a", .wildcard, .literal "x"] 0).insert
      [.wildcard, .wildcard, .literal "y"] 1).insert [.wildcard, .catchAll] 2
    t.search ["a", "b", "c"] ["z"] = (some 2, ["z", "a", "b", "c"]) := by decide

/-! ## Optimality -/

/-- The search finds a value at `labels` or at labels that go over them. -/
def FindsOver (t : Trie α) (tokens : List String) (labels : List Label) : Prop :=
  ∃ a best, (t.search tokens).result = some (a, captured best tokens) ∧ t.Leads tokens best a ∧
    (best = labels ∨ Over best labels)

/-- A literal edge that finds something makes any labels of another kind irrelevant. -/
theorem findsOver_of_literalResult {found : α × Captures} {other : Label}
    (h : t.literalResult token rest = some found) (hrank : 0 < other.rank) :
    t.FindsOver (token :: rest) (other :: labels) := by
  obtain ⟨best, hleads, htaken⟩ :=
    exists_leads_of_literalResult (fun child => sound_search child rest) h
  refine ⟨found.1, _, ?_, hleads, Or.inr (.here _ _ hrank)⟩
  rw [result_search_cons, h, Option.some_or, ← htaken]

/-- A wildcard edge that finds something makes the catch-all irrelevant. -/
theorem findsOver_of_wildcardResult {found : α × Captures}
    (hliteral : t.literalResult token rest = none)
    (h : t.wildcardResult token rest = some found) :
    t.FindsOver (token :: rest) (.catchAll :: labels) := by
  obtain ⟨best, hleads, htaken⟩ :=
    exists_leads_of_wildcardResult (fun child => sound_search child rest) h
  refine ⟨found.1, _, ?_, hleads, Or.inr (.here _ _ Nat.one_lt_two)⟩
  rw [result_search_cons, hliteral, h, Option.none_or, Option.some_or, ← htaken]

/-- **The search is complete and optimal.**  If labels that take the tokens lead to a value, then
    the search finds a value, at these labels or at labels that go over them. -/
theorem Leads.findsOver (h : t.Leads tokens labels a) : t.FindsOver tokens labels := by
  obtain ⟨hget, htakes⟩ := h
  induction htakes generalizing t with
  | nil =>
    refine ⟨a, [], ?_, ⟨hget, .nil⟩, Or.inl rfl⟩
    rw [result_search_nil, ← get?_nil, hget]
    rfl
  | literal token _ ih =>
    rw [get?_cons] at hget
    obtain ⟨child, hchild, hbelow⟩ := Option.bind_eq_some_iff.mp hget
    obtain ⟨b, best, hfound, hleads, hbest⟩ := ih hbelow
    refine ⟨b, _, ?_, hleads.literal hchild, hbest.imp (congrArg _) (.there rfl)⟩
    rw [result_search_cons, literalResult, hchild, Option.bind_some, hfound]
    rfl
  | @wildcard token labels rest hne _ ih =>
    rw [get?_cons] at hget
    obtain ⟨child, hchild, hbelow⟩ := Option.bind_eq_some_iff.mp hget
    obtain ⟨b, best, hfound, hleads, hbest⟩ := ih hbelow
    cases hliteral : t.literalResult token rest with
    | some found => exact findsOver_of_literalResult hliteral Nat.one_pos
    | none =>
      refine ⟨b, _, ?_, hleads.wildcard hne hchild, hbest.imp (congrArg _) (.there rfl)⟩
      rw [result_search_cons, hliteral, wildcardResult, if_neg hne, hchild, Option.bind_some,
        hfound]
      rfl
  | @catchAll tokens hne =>
    rw [get?_cons] at hget
    obtain ⟨token, rest, rfl⟩ := List.exists_cons_of_ne_nil hne
    -- the catch-all is tried last, so both other edges come before it
    cases hliteral : t.literalResult token rest with
    | some found => exact findsOver_of_literalResult hliteral Nat.two_pos
    | none =>
      cases hwildcard : t.wildcardResult token rest with
      | some found => exact findsOver_of_wildcardResult hliteral hwildcard
      | none =>
        refine ⟨a, _, ?_, Leads.catchAll hne hget, Or.inl rfl⟩
        rw [result_search_cons, hliteral, hwildcard, catchAllResult]
        exact congrArg (Option.map (·, token :: rest)) hget

/-! ## Below an address -/

/-- What is found below an address is held there, at labels that take the tokens. -/
theorem exists_of_resultAt {address : List Label}
    (h : t.resultAt tokens address = some (a, captures)) :
    ∃ labels, t.get? (address ++ labels) = some a ∧ Takes labels tokens ∧
      captures = captured labels tokens := by
  obtain ⟨sub, hsub, hfound⟩ := Option.bind_eq_some_iff.mp h
  obtain ⟨labels, hleads, htaken⟩ := sound_search sub tokens a captures hfound
  refine ⟨labels, ?_, hleads.takes, htaken⟩
  rw [get?_append, hsub]
  exact hleads.get?_eq

/-- If a value is held below an address, at labels that take the tokens, then a value is found, at
    these labels or at labels that go over them. -/
theorem resultAt_over {address : List Label} (hget : t.get? (address ++ labels) = some a)
    (htakes : Takes labels tokens) :
    ∃ b best, t.resultAt tokens address = some (b, captured best tokens) ∧
      t.get? (address ++ best) = some b ∧ Takes best tokens ∧
      (best = labels ∨ Over best labels) := by
  rw [get?_append] at hget
  obtain ⟨sub, hsub, hbelow⟩ := Option.bind_eq_some_iff.mp hget
  obtain ⟨b, best, hfound, hleads, hbest⟩ := Leads.findsOver ⟨hbelow, htakes⟩
  refine ⟨b, best, ?_, ?_, hleads.takes, hbest⟩
  · rw [resultAt, hsub]
    exact hfound
  · rw [get?_append, hsub]
    exact hleads.get?_eq

end Trie

end HttpRouting
