/-
  Names bound to tokens, and the path that they spell.

  The captures of a search carry no names.  They are bound afterwards, one by one, to the names of a
  pattern that may share its place in the trie with patterns of other names, so everything hangs on
  the captures lining up with the segments.

  1. **Binding** - `Segment.Binds` relates segments, the tokens they take and the names they bind,
     in one derivation.  `binds_params` is the crux: if the labels of the segments take the tokens,
     then the captures along these labels are bound in just this way.  There is no other way
     (`Binds.unique`).

  2. **Spelling** - `Pattern.path?` writes the segments of a pattern out, with values for the names.
     `Binds.spelled` is the converse of binding: the values bound spell the tokens taken.
-/
import HttpRouting.Proofs.Trie.Priority
import HttpRouting.Route.Basic

namespace HttpRouting

namespace Segment

/-! ## Binding -/

/-- The segments take the tokens, and bind these names to these values. -/
inductive Binds : List Segment → List String → Params → Prop
  | nil : Binds [] [] []
  /-- A literal takes the token equal to it and binds nothing. -/
  | literal (text : String) {segments : List Segment} {rest : List String} {params : Params}
      (h : Binds segments rest params) : Binds (.literal text :: segments) (text :: rest) params
  /-- A wildcard binds its name to a token that is not empty. -/
  | wildcard (name : String) {token : String} {segments : List Segment} {rest : List String}
      {params : Params} (hne : token ≠ "") (h : Binds segments rest params) :
      Binds (.wildcard name :: segments) (token :: rest) ((name, token) :: params)
  /-- A catch-all binds its name to all tokens that are left, with a slash between them. -/
  | catchAll (name : String) {tokens : List String} (hne : tokens ≠ []) :
      Binds [.catchAll name] tokens [(name, "/".intercalate tokens)]

/-- **The crux.**  The captures line up with the segments: bound one by one, each name gets the
    tokens that its own segment took. -/
theorem binds_params {segments : List Segment} {tokens : List String}
    (h : Label.Takes (segments.map label) tokens) :
    Binds segments tokens (params segments (Label.captured (segments.map label) tokens)) := by
  -- the induction is on the segments; each one decides which rule took its tokens
  induction segments generalizing tokens with
  | nil =>
    cases h
    exact .nil
  | cons segment rest ih =>
    cases segment with
    | literal text =>
      cases h with
      | literal _ h => exact .literal text (ih h)
    | wildcard name =>
      cases h with
      | wildcard hne h => exact .wildcard name hne (ih h)
    | catchAll name =>
      -- nothing stands behind a label that takes all that is left
      cases rest with
      | nil =>
        cases h with
        | catchAll hne => exact .catchAll name hne
      | cons next rest => cases h

variable {segments : List Segment} {tokens : List String} {params : Params}

/-- What segments take, their labels take. -/
theorem Binds.takes (h : Binds segments tokens params) :
    Label.Takes (segments.map label) tokens := by
  induction h with
  | nil => exact .nil
  | literal text _ ih => exact .literal text ih
  | wildcard name hne _ ih => exact .wildcard hne ih
  | catchAll name hne => exact .catchAll hne

/-- Segments that take the tokens bind their names in one way. -/
theorem Binds.unique {params' : Params} (h : Binds segments tokens params)
    (h' : Binds segments tokens params') : params = params' := by
  induction h generalizing params' with
  | nil =>
    cases h'
    rfl
  | literal text _ ih =>
    cases h' with
    | literal _ h' => exact ih h'
  | wildcard name _ _ ih =>
    cases h' with
    | wildcard _ _ h' => exact congrArg _ (ih h')
  | catchAll name _ =>
    cases h'
    rfl

/-- Exactly the names of the segments are bound, in path order. -/
theorem Binds.map_fst (h : Binds segments tokens params) :
    params.map Prod.fst = segments.filterMap name? := by
  induction h with
  | nil => rfl
  | literal text _ ih => exact ih
  | wildcard name _ _ ih => exact congrArg (name :: ·) ih
  | catchAll name _ => rfl

/-- A wildcard is bound to one of the tokens, and not to an empty one. -/
theorem Binds.exists_of_wildcard (h : Binds segments tokens params) {name : String}
    (hmem : .wildcard name ∈ segments) :
    ∃ token ∈ tokens, token ≠ "" ∧ (name, token) ∈ params := by
  induction h with
  | nil => cases hmem
  | literal text _ ih =>
    rcases List.mem_cons.mp hmem with heq | hmem
    · cases heq
    · obtain ⟨token, htoken, hne, hbound⟩ := ih hmem
      exact ⟨token, List.mem_cons_of_mem _ htoken, hne, hbound⟩
  | @wildcard first token segments rest params hne _ ih =>
    rcases List.mem_cons.mp hmem with heq | hmem
    · obtain rfl := Segment.wildcard.inj heq
      exact ⟨token, List.mem_cons_self, hne, List.mem_cons_self⟩
    · obtain ⟨token, htoken, hne, hbound⟩ := ih hmem
      exact ⟨token, List.mem_cons_of_mem _ htoken, hne, List.mem_cons_of_mem _ hbound⟩
  | catchAll last _ =>
    rw [List.mem_singleton] at hmem
    cases hmem

/-! ## Spelling -/

/-- The text of a segment when names have values: its own text, or the value of its name. -/
def fill? (value? : String → Option String) : Segment → Option String
  | literal text => some text
  | wildcard name => value? name
  | catchAll name => value? name

/-- The path of segments when names have values: a slash before each text. -/
def path? (value? : String → Option String) (segments : List Segment) : Option String :=
  (segments.mapM (fill? value?)).map Path.ofTokens

theorem path?_cons {value? : String → Option String} {segment : Segment} {text path : String}
    (htext : segment.fill? value? = some text) (hpath : path? value? segments = some path) :
    path? value? (segment :: segments) = some ("/" ++ text ++ path) := by
  obtain ⟨texts, htexts, rfl⟩ := Option.map_eq_some_iff.mp hpath
  rw [path?, List.mapM_cons, htext, htexts]
  rfl

/-- The values that were bound spell the tokens that were taken. -/
theorem Binds.spelled (h : Binds segments tokens params) {value? : String → Option String}
    (hvalue : ∀ name value, (name, value) ∈ params → value? name = some value) :
    path? value? segments = some (Path.ofTokens tokens) := by
  induction h with
  | nil => rfl
  | literal text _ ih => exact path?_cons rfl (ih hvalue)
  | wildcard name _ _ ih =>
    refine path?_cons (hvalue name _ List.mem_cons_self) (ih fun name value hmem => ?_)
    exact hvalue name value (List.mem_cons_of_mem _ hmem)
  | @catchAll name tokens hne =>
    -- joined by slashes, the tokens of a catch-all fill the place of one text
    have hfill : fill? value? (.catchAll name) = some ("/".intercalate tokens) :=
      hvalue name _ (List.mem_singleton_self _)
    have hend : path? value? [] = some "" := rfl
    rw [path?_cons hfill hend, Path.ofTokens_eq_intercalate hne, String.append_empty]

end Segment

end HttpRouting
