/-
  No route is shadowed by the others.

  Routes overlap, and a lookup answers with one of them only.  Still every route is the answer to
  some query for its own method and host: to the query of its pattern (`Pattern.exemplar`), with a
  token in it that no route held has for a literal (`Consistent.lookup_exemplar`).  Of the routes
  under this host and method that take the tokens, the search finds one that no other outranks, and
  by the choice of the tokens the route itself outranks all others.

  The host and the method of the query are those of the route, so they are tried before any other;
  neither the open host nor the HEAD fallback comes into it.
-/
import HttpRouting.Proofs.Pattern.Exemplar
import HttpRouting.Proofs.Router.Lookup

namespace HttpRouting

universe u

variable {H : Type u}

namespace RouteTable

variable {table : RouteTable H} {route : Route H}

/-- There is a token that no route held has for a literal. -/
theorem exists_fresh (table : RouteTable H) :
    ∃ fresh : String, fresh ≠ "" ∧ '/' ∉ fresh.toList ∧
      ∀ other ∈ table.routes, .literal fresh ∉ other.pattern.labels := by
  obtain ⟨fresh, hne, hslash, hnew⟩ :=
    Label.exists_fresh (table.routes.flatMap fun other => other.pattern.labels)
  exact ⟨fresh, hne, hslash, fun other hother hmem =>
    hnew (List.mem_flatMap.mpr ⟨other, hother, hmem⟩)⟩

/-- **The crux.**  The query of a pattern is answered by the route of this pattern. -/
theorem Consistent.lookup_exemplar (h : table.Consistent) (headFallback : Bool) {fresh : String}
    (hne : fresh ≠ "") (hslash : '/' ∉ fresh.toList)
    (hnew : ∀ other ∈ table.routes, .literal fresh ∉ other.pattern.labels)
    (hmem : route ∈ table.routes) :
    ∃ captures, table.lookup headFallback (route.pattern.exemplar fresh) =
      some (route, captures) := by
  have hroute := h.wellFormed hmem
  have htokens := hroute.tokens?_path_exemplar hslash
  have htakes := Label.takes_exemplar hroute.isPath_labels hne
  obtain ⟨best, hfound, hserves, hbest⟩ := Serves.resultUnder_eq ⟨hmem, rfl, rfl, htakes⟩ h
  have hrank := Label.eq_or_over_of_takes_exemplar hroute.isPath_labels
    (h.wellFormed hserves.mem).isPath_labels (hnew best hserves.mem) hserves.takes
  have hsame : best = route := by
    rcases hbest with heq | hover
    · exact heq
    · -- the best route goes over this one, and this one over all others
      rcases hrank with heq | hover'
      · rw [heq] at hover
        exact absurd hover hover.asymm
      · exact absurd hover hover'.asymm
  subst hsame
  exact ⟨_, lookup_of_resultUnder htokens hfound⟩

end RouteTable

/-- **No route is shadowed.**  In every reachable router, whatever other routes it holds, each route
    answers some query for its own method and host. -/
theorem Router.Reachable.answers_of_mem {r : Router H} (hr : r.Reachable) {route : Route H}
    (hmem : route ∈ r.table.routes) :
    ∃ path found, r.lookup ⟨route.pattern.method, route.pattern.host, path⟩ = some found ∧
      found.handler = route.handler ∧ found.pattern = route.pattern := by
  obtain ⟨fresh, hne, hslash, hnew⟩ := r.table.exists_fresh
  obtain ⟨captures, hfound⟩ :=
    hr.consistent.lookup_exemplar r.config.headFallback hne hslash hnew hmem
  exact ⟨(route.pattern.exemplar fresh).path, route.toMatch captures,
    lookup_of_lookup_table hfound, rfl, rfl⟩

/-- A catch-all beside the end of the path, a wildcard and a literal, with the HEAD fallback. -/
theorem Router.answers_of_mem_among_overlapping :
    let r := ((Router.empty { headFallback := true } : Router Nat).registerEach
      [("HEAD /\x7b$\x7d", some 0), ("HEAD /\x7bx\x7d", some 1), ("GET /a", some 2),
        ("HEAD /", some 3)]).1
    let route : Route Nat := ⟨3, ⟨"HEAD", "", [.catchAll ""]⟩⟩
    route ∈ r.table.routes ∧
      ∃ path found, r.lookup ⟨route.pattern.method, route.pattern.host, path⟩ = some found ∧
        found.handler = route.handler ∧ found.pattern = route.pattern := by
  intro r route
  have hr : r.Reachable := (Reachable.empty _).registerEach _
  have hmem : route ∈ r.table.routes := by decide +kernel
  exact ⟨hmem, hr.answers_of_mem hmem⟩

end HttpRouting
