/-
  A path that is built from values is matched with these values.

  This is the converse of reconstruction.  There a match is given, and its values spell the path.
  Here the values are given, a path is built from them as one text, and that text is cut again at
  every slash.

  1. **The tokens** - `Segment.exists_binds`: values for the names of a pattern determine tokens
     which the segments take.  A literal and a wildcard are one token each, while the value of a
     catch-all falls into as many as it has slashes, and one more.  No token holds a slash, so the
     path built from the tokens is cut into these again.

  2. **The match** - the labels take the tokens, so the pattern applies and its route is found, for
     there is no other (`Consistent.lookup_of_only`).  What was captured is bound to the names in
     the one way there is (`Segment.Binds.unique`).
-/
import HttpRouting.Proofs.Router.Inclusion
import HttpRouting.Proofs.Router.Reconstruction

namespace HttpRouting

universe u

variable {H : Type u}

/-! ## The tokens -/

namespace Segment

/-- The value of each wildcard is a text that is not empty and holds no slash. -/
def Fits (segments : List Segment) (params : Params) : Prop :=
  ∀ name value, .wildcard name ∈ segments → (name, value) ∈ params →
    value ≠ "" ∧ '/' ∉ value.toList

/-- Values for the names of segments are bound to tokens that the segments take. -/
theorem exists_binds {segments : List Segment} {params : Params}
    (hpath : Label.IsPath (segments.map label))
    (hliteral : ∀ text, .literal text ∈ segments → '/' ∉ text.toList)
    (hnames : params.map Prod.fst = segments.filterMap name?) (hfits : Fits segments params) :
    ∃ tokens, Binds segments tokens params ∧ (segments ≠ [] → tokens ≠ []) ∧
      ∀ token ∈ tokens, '/' ∉ token.toList := by
  induction segments generalizing params with
  | nil =>
    obtain rfl := List.map_eq_nil_iff.mp hnames
    exact ⟨[], .nil, fun hne => absurd rfl hne, nofun⟩
  | cons segment rest ih =>
    obtain ⟨hlast, hrestPath⟩ := Label.isPath_cons.mp hpath
    have hliterals : ∀ text, .literal text ∈ rest → '/' ∉ text.toList := fun text hmem =>
      hliteral text (List.mem_cons_of_mem _ hmem)
    cases segment with
    | literal text =>
      have hrest : Fits rest params := fun name value hmem =>
        hfits name value (List.mem_cons_of_mem _ hmem)
      obtain ⟨tokens, hbinds, -, hfree⟩ := ih hrestPath hliterals hnames hrest
      exact ⟨text :: tokens, .literal text hbinds, fun _ => List.cons_ne_nil _ _,
        List.forall_mem_cons.mpr ⟨hliteral text List.mem_cons_self, hfree⟩⟩
    | wildcard name =>
      obtain ⟨⟨first, value⟩, others, rfl, hfirst, hothers⟩ := List.map_eq_cons_iff.mp hnames
      have hname : first = name := hfirst
      subst hname
      obtain ⟨hne, hslash⟩ := hfits first value List.mem_cons_self List.mem_cons_self
      have hrest : Fits rest others := fun name value hmem hbound =>
        hfits name value (List.mem_cons_of_mem _ hmem) (List.mem_cons_of_mem _ hbound)
      obtain ⟨tokens, hbinds, -, hfree⟩ := ih hrestPath hliterals hothers hrest
      exact ⟨value :: tokens, .wildcard first hne hbinds, fun _ => List.cons_ne_nil _ _,
        List.forall_mem_cons.mpr ⟨hslash, hfree⟩⟩
    | catchAll name =>
      -- nothing stands behind a catch-all, so its value is all that is left of the path
      obtain rfl := List.map_eq_nil_iff.mp (hlast trivial)
      obtain ⟨⟨first, value⟩, others, rfl, hfirst, hothers⟩ := List.map_eq_cons_iff.mp hnames
      have hname : first = name := hfirst
      subst hname
      obtain rfl := List.map_eq_nil_iff.mp hothers
      have hbinds := Binds.catchAll first (Text.pieces_ne_nil '/' value)
      have hvalue : "/".intercalate (Text.pieces '/' value) = value :=
        Text.intercalate_pieces '/' value
      rw [hvalue] at hbinds
      exact ⟨Text.pieces '/' value, hbinds, fun _ => Text.pieces_ne_nil '/' value,
        fun token hmem => Text.not_mem_of_mem_pieces hmem⟩

end Segment

/-- Values for the names of a pattern build a path whose tokens they are bound to. -/
theorem Pattern.WellFormed.exists_path {p : Pattern} (h : p.WellFormed) {params : Params}
    (hnames : params.map Prod.fst = p.paramNames) (hfits : Segment.Fits p.segments params) :
    ∃ path tokens, Segment.path? (params.lookup ·) p.segments = some path ∧
      Path.tokens? path = some tokens ∧ Segment.Binds p.segments tokens params := by
  have hliteral : ∀ text, .literal text ∈ p.segments → '/' ∉ text.toList := fun text hmem =>
    h.slash_not_mem_literal (List.mem_map_of_mem hmem)
  obtain ⟨tokens, hbinds, hne, hfree⟩ :=
    Segment.exists_binds h.isPath_labels hliteral hnames hfits
  have hnodup : (params.map Prod.fst).Nodup := hnames ▸ h.arranged.nodup_names
  exact ⟨Path.ofTokens tokens, tokens,
    hbinds.spelled fun name value hmem => Params.lookup_eq_some hnodup hmem,
    Path.tokens?_ofTokens (hne h.arranged.ne_nil) hfree, hbinds⟩

/-! ## The match -/

/-- A table that holds one route answers the queries that it applies to with this route, and with
    the tokens that its labels capture. -/
theorem RouteTable.Consistent.lookup_of_only {table : RouteTable H} (h : table.Consistent)
    {route : Route H} (honly : table.routes = [route]) (headFallback : Bool) {q : Query}
    {tokens : List String} (htokens : Path.tokens? q.path = some tokens)
    (happlies : route.pattern.Applies q) :
    table.lookup headFallback q = some (capturing tokens route) := by
  have hmem : route ∈ table.routes := honly ▸ List.mem_singleton_self _
  obtain ⟨others, hmethods⟩ := methods_eq_cons headFallback q.method
  obtain ⟨⟨found, captures⟩, hfound, -⟩ := h.lookup_of_applies hmethods hmem happlies
  obtain ⟨tokens', host, method, htokens', -, -, hserves, rfl⟩ := h.serves_of_lookup hfound
  have hsame : found ∈ [route] := honly ▸ hserves.mem
  obtain rfl := List.mem_singleton.mp hsame
  obtain rfl := Option.some.inj (htokens.symm.trans htokens')
  exact hfound

/-- **Matching inverts path building.**  Take a text that parses as a pattern, and any router that
    holds this pattern only, such as the one made for it.  Whatever values its names are given, if
    those of wildcards are not empty and hold no slash, they build a path, and the lookup of this
    path answers with the handler, the pattern and exactly the values given.  The host is that of
    the pattern, or any if the pattern is open. -/
theorem Router.lookup_built_path {spec : String} {p : Pattern} (hparse : Pattern.parse spec = .ok p)
    (config : Config) (handler : H) :
    (((Router.empty config).register spec (some handler)).1.Reachable ∧
      ((Router.empty config).register spec (some handler)).1.table.routes = [⟨handler, p⟩]) ∧
    ∀ r : Router H, r.Reachable → r.table.routes = [⟨handler, p⟩] →
      ∀ host, (p.host = "" ∨ host = p.host) →
      ∀ params : Params, params.map Prod.fst = p.paramNames → Segment.Fits p.segments params →
        ∃ path, Segment.path? (params.lookup ·) p.segments = some path ∧
          r.lookup ⟨p.method, host, path⟩ = some ⟨handler, params, p⟩ := by
  have hmade : ((Router.empty config).register spec (some handler)).1.table.routes =
      [⟨handler, p⟩] := by
    rw [table_register_empty config hparse handler, RouteTable.routes_insert_empty]
  refine ⟨⟨.register (.empty config) spec (some handler), hmade⟩, ?_⟩
  intro r hr honly host hhost params hnames hfits
  have hp : p.WellFormed := (Pattern.parse_eq_ok_iff.mp hparse).1
  obtain ⟨path, tokens, hpath, htokens, hbinds⟩ := hp.exists_path hnames hfits
  have hquery : Path.tokens? (Query.mk p.method host path).path = some tokens := htokens
  have happlies : p.Applies ⟨p.method, host, path⟩ :=
    (Pattern.applies_iff hquery).mpr ⟨rfl, hhost.imp_right Eq.symm, hbinds.takes⟩
  have hfound := lookup_of_lookup_table
    (hr.consistent.lookup_of_only honly r.config.headFallback hquery happlies)
  -- the captures are bound as the given values are
  have hparams : p.params (Label.captured p.labels tokens) = params :=
    (Segment.binds_params hbinds.takes).unique hbinds
  rw [Route.toMatch, hparams] at hfound
  exact ⟨path, hpath, hfound⟩

/-- The value of the catch-all begins with a slash and ends with two, and that of a second
assignment is empty. -/
theorem Router.lookup_built_path_with_slashes :
    let p : Pattern := ⟨"GET", "", [.literal "a", .wildcard "x", .catchAll "rest"]⟩
    let spec := " GET  /a/\x7bx\x7d/\x7brest...\x7d "
    let r := ((Router.empty {} : Router Nat).register spec (some 7)).1
    let slashes : Params := [("x", "b"), ("rest", "/c//")]
    let bare : Params := [("x", "b"), ("rest", "")]
    Pattern.parse spec = .ok p ∧
      Segment.path? (slashes.lookup ·) p.segments = some "/a/b//c//" ∧
      r.lookup ⟨"GET", "any host", "/a/b//c//"⟩ = some ⟨7, slashes, p⟩ ∧
      Segment.path? (bare.lookup ·) p.segments = some "/a/b/" ∧
      r.lookup ⟨"GET", "any host", "/a/b/"⟩ = some ⟨7, bare, p⟩ := by
  intro p spec r slashes bare
  have hparse : Pattern.parse spec = .ok p := Pattern.parse_eq_ok_iff.mpr ⟨by decide, by decide⟩
  obtain ⟨⟨hreach, honly⟩, hbuilt⟩ := lookup_built_path hparse {} 7
  have hfits (value : String) : Segment.Fits p.segments [("x", "b"), ("rest", value)] := by
    intro name value' hseg hmem
    obtain rfl : name = "x" := by simpa [p] using hseg
    obtain rfl : value' = "b" := by simpa using hmem
    decide
  have found (value : String) := hbuilt r hreach honly "any host" (.inl rfl)
    [("x", "b"), ("rest", value)] rfl (hfits value)
  have hslashes : Segment.path? (slashes.lookup ·) p.segments = some "/a/b//c//" := by decide
  have hbare : Segment.path? (bare.lookup ·) p.segments = some "/a/b/" := by decide
  obtain ⟨path, hpath, hfound⟩ := found "/c//"
  obtain rfl := Option.some.inj (hslashes.symm.trans hpath)
  obtain ⟨path, hpath, hfound'⟩ := found ""
  obtain rfl := Option.some.inj (hbare.symm.trans hpath)
  exact ⟨hparse, hslashes, hfound, hbare, hfound'⟩

end HttpRouting
