/-
  The parameters of a match reconstruct the path that was asked for.

  The route that is found was registered under names of its own, while the trie that found it knows
  labels only.  Three facts meet here: the captures of a search are those of the labels that took the
  tokens (`Consistent.serves_of_lookup`), captures of labels line up with the segments of the pattern
  (`Segment.binds_params`), and no name of a parsed pattern is bound twice (`Segment.Arranged`), so
  that a name finds the value of its own segment.

  Nothing depends on which route is found, so this holds for every set-up, HEAD fallback included.
-/
import HttpRouting.Proofs.Pattern.Binding
import HttpRouting.Proofs.Router.Lookup

namespace HttpRouting

universe u

variable {H : Type u}

/-! ## Values of names -/

/-- A name that is bound once finds the value that it is bound to. -/
theorem Params.lookup_eq_some {params : Params} (hnodup : (params.map Prod.fst).Nodup)
    {name value : String} (hmem : (name, value) ∈ params) : params.lookup name = some value := by
  induction params with
  | nil => cases hmem
  | cons entry rest ih =>
    obtain ⟨first, held⟩ := entry
    obtain ⟨hnew, hnodup⟩ := List.nodup_cons.mp hnodup
    rcases List.mem_cons.mp hmem with heq | hmem
    · obtain ⟨rfl, rfl⟩ := Prod.mk.inj heq
      exact List.lookup_cons_self
    · have hne : name ≠ first := fun heq => hnew (List.mem_map.mpr ⟨_, hmem, heq⟩)
      rw [List.lookup_cons, beq_false_of_ne hne]
      exact ih hnodup hmem

/-! ## The match -/

/-- A match reconstructs the path of a query. -/
structure Match.Reconstructs (found : Match H) (q : Query) : Prop where
  /-- Exactly the names of the pattern have values, in path order. -/
  names_eq : found.params.map Prod.fst = found.pattern.paramNames
  /-- No name occurs twice. -/
  nodup_names : found.pattern.paramNames.Nodup
  /-- The value of a wildcard is a text that is not empty and holds no slash. -/
  wildcard_value : ∀ name, .wildcard name ∈ found.pattern.segments →
    ∃ value, found.param? name = some value ∧ value ≠ "" ∧ '/' ∉ value.toList
  /-- With these values the pattern spells the path. -/
  path?_eq : Segment.path? found.param? found.pattern.segments = some q.path

/-- Names bound to the tokens of a path reconstruct it. -/
theorem Segment.Binds.reconstructs {found : Match H} {q : Query} {tokens : List String}
    (h : Binds found.pattern.segments tokens found.params)
    (hp : Arranged found.pattern.segments) (htokens : Path.tokens? q.path = some tokens) :
    found.Reconstructs q := by
  have hnames : found.params.map Prod.fst = found.pattern.paramNames := h.map_fst
  have hnodup : (found.params.map Prod.fst).Nodup := hnames ▸ hp.nodup_names
  have hvalue : ∀ name value, (name, value) ∈ found.params → found.param? name = some value :=
    fun name value hmem => Params.lookup_eq_some hnodup hmem
  refine ⟨hnames, hp.nodup_names, ?_, ?_⟩
  · intro name hmem
    obtain ⟨token, htoken, hne, hbound⟩ := h.exists_of_wildcard hmem
    exact ⟨token, hvalue name token hbound, hne, Path.slash_not_mem_of_tokens? htokens token htoken⟩
  · rw [h.spelled hvalue, Path.ofTokens_of_tokens? htokens]

/-- **Every match of a reachable router reconstructs the path that was asked for.** -/
theorem Router.Reachable.reconstructs_path {r : Router H} (hr : r.Reachable) {q : Query}
    {found : Match H} (hfound : r.lookup q = some found) : found.Reconstructs q := by
  obtain ⟨⟨route, captures⟩, hroute, rfl⟩ := Option.map_eq_some_iff.mp hfound
  obtain ⟨tokens, host, method, htokens, -, -, hserves, rfl⟩ :=
    hr.consistent.serves_of_lookup hroute
  have hp := hr.consistent.arranged (hr.consistent.mem_routes_iff.mp hserves.mem)
  exact (Segment.binds_params hserves.takes).reconstructs hp htokens

/-- A HEAD request that is answered as GET.  Both routes share the vertex of their first wildcard,
under different names, and the search returns from the first to the second. -/
theorem Router.reconstructs_path_after_return :
    let r := ((Router.empty { headFallback := true } : Router Nat).registerEach
      [("GET /\x7ba\x7d/x/y", some 0), ("GET /\x7bb\x7d/\x7brest...\x7d", some 1)]).1
    let q : Query := ⟨"HEAD", "", "/p/x//z"⟩
    (r.lookup q).map Match.params = some [("b", "p"), ("rest", "x//z")] ∧
      ∃ found, r.lookup q = some found ∧ found.Reconstructs q := by
  intro r q
  have hparams : (r.lookup q).map Match.params = some [("b", "p"), ("rest", "x//z")] := by
    decide +kernel
  obtain ⟨found, hfound, -⟩ := Option.map_eq_some_iff.mp hparams
  exact ⟨hparams, found, hfound,
    Reachable.reconstructs_path ((Reachable.empty _).registerEach _) hfound⟩

end HttpRouting
