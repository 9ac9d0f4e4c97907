/-
  Searching a trie for the tokens of a path.

  A vertex tries three edges in order: the literal equal to the token, the wildcard if the token
  is not empty, and the catch-all, which takes all tokens that are left.  A branch that fails
  gives way to the next one, so the search returns to earlier choices.

  The tokens taken by wildcards and catch-alls are captured as the search goes down, in one list
  that all branches share.  A search that fails must hand the list on as it got it: whoever
  captures a token takes it back on failure (`Search.capturing`), and everything else only hands
  the list on.
-/
import HttpRouting.Trie.Basic

namespace HttpRouting

universe u

variable {α : Type u}

/-- The tokens captured so far, in path order. -/
abbrev Captures := List String

/-- A search takes the captures made before it, and gives what it finds, if anything, and the
captures after it. -/
abbrev Search (α : Type u) := Captures → Option α × Captures

namespace Search

/-- Finds nothing. -/
def fail : Search α := fun captures => (none, captures)

/-- Takes `tokens` to reach `a`, if there is an `a`. -/
def taking (tokens : List String) : Option α → Search α
  | some a => fun captures => (some a, captures ++ tokens)
  | none => fail

/-- Searches the trie below an edge, if there is one. -/
def below (child : Option (Trie α)) (search : Trie α → Search α) : Search α :=
  child.elim fail search

/-- Searches with `token` captured, and takes it back on failure. -/
def capturing (token : String) (search : Search α) : Search α := fun captures =>
  match search (captures ++ [token]) with
  | (some a, after) => (some a, after)
  | (none, after) => (none, after.dropLast)

/-- Searches with `second` what `first` does not find. -/
def orElse (first second : Search α) : Search α := fun captures =>
  match first captures with
  | (some a, after) => (some a, after)
  | (none, after) => second after

end Search

namespace Trie

/-- Searches a trie for the tokens of a path. -/
def search (t : Trie α) : List String → Search α
  | [] => Search.taking [] t.value
  | token :: rest =>
    (Search.below (t.child? (.literal token)) fun child => child.search rest).orElse <|
    (Search.below (if token = "" then none else t.child? .wildcard) fun child =>
      (child.search rest).capturing token).orElse <|
    Search.taking (token :: rest) ((t.child? .catchAll).bind value)

/-- Searches the tries at several addresses, in order. -/
def searchAt (t : Trie α) (addresses : List (List Label)) (tokens : List String) : Search α :=
  addresses.foldr
    (fun address next => (Search.below (t.sub? address) fun sub => sub.search tokens).orElse next)
    Search.fail

/-! ## Returning from a dead end -/

/-- A wildcard branch that ends in `d`, beside a catch-all. -/
example :
    let t : Trie Nat := ((∅ : Trie Nat).insert [.wildcard, .literal "d"] 0).insert [.catchAll] 1
    t.search ["b", "d"] [] = (some 0, ["b"]) ∧ t.search ["b", "c"] [] = (some 1, ["b", "c"]) ∧
      t.search [] ["z"] = (none, ["z"]) := by
  decide

end Trie

end HttpRouting
