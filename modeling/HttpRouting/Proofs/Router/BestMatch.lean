/-
  A lookup answers with the best route that applies.

  1. **Specification** - `Pattern.Applies` says which queries a pattern applies to, and
     `Pattern.Outranks` which of two patterns goes first: a named host over an open one, then the
     labels by `Label.Over`.  Neither mentions a trie or an order of search.

  2. **The crux** - `lookup_of_applies`: if a route applies, then the lookup finds a route that
     applies and is this one or outranks it.  Under one host this is the optimality of the search;
     across hosts, the named host is tried first.

  3. **No ties** - outranking is asymmetric, and by the crux any two routes of which neither is
     outranked are both the one that is found.  So there is exactly one best route.

  The crux holds with the HEAD fallback too, since under each host the method of the query is tried
  first.  The rest is for lookups that try one method only, without the fallback or for another
  method.
-/
import HttpRouting.Proofs.Router.Lookup
import Mathlib.Logic.ExistsUnique

namespace HttpRouting

universe u

variable {H : Type u}

/-! ## Specification -/

namespace Pattern

/-- The queries that a pattern applies to. -/
structure Applies (p : Pattern) (q : Query) : Prop where
  /-- The method is the same. -/
  method_eq : p.method = q.method
  /-- The host is open, or the same. -/
  host_eq : p.host = "" ∨ p.host = q.host
  /-- The path is a slash, and the labels take the tokens behind it. -/
  takes : ∃ rest, q.path = "/" ++ rest ∧ Label.Takes p.labels (Text.pieces '/' rest)

/-- A named host goes over an open one; between hosts of one kind the labels decide. -/
def Outranks (p q : Pattern) : Prop :=
  (p.host ≠ "" ∧ q.host = "") ∨ ((p.host = "" ↔ q.host = "") ∧ Label.Over p.labels q.labels)

theorem Outranks.asymm {p q : Pattern} (h : p.Outranks q) : ¬q.Outranks p := by
  rcases h with ⟨hp, hq⟩ | ⟨hiff, hover⟩
  · rintro (⟨hq', -⟩ | ⟨hiff, -⟩)
    · exact hq' hq
    · exact hp (hiff.mp hq)
  · rintro (⟨hq, hp⟩ | ⟨-, hover'⟩)
    · exact hq (hiff.mp hp)
    · exact hover.asymm hover'

end Pattern

/-- A route held that applies and that no other such route outranks. -/
structure RouteTable.IsBest (table : RouteTable H) (q : Query) (best : Route H) : Prop where
  mem : best ∈ table.routes
  applies : best.pattern.Applies q
  not_outranked : ∀ route ∈ table.routes, route.pattern.Applies q →
    ¬route.pattern.Outranks best.pattern

/-- The lookup of a query answers with the best route. -/
structure Router.AnswersBest (r : Router H) (q : Query) : Prop where
  /-- There is no answer exactly if no route applies. -/
  eq_none_iff : r.lookup q = none ↔ ∀ route ∈ r.table.routes, ¬route.pattern.Applies q
  /-- If some route applies, then exactly one is best. -/
  existsUnique : (∃ route ∈ r.table.routes, route.pattern.Applies q) →
    ∃! best, r.table.IsBest q best
  /-- The best route is the answer. -/
  answer : ∀ best, r.table.IsBest q best →
    ∃ found, r.lookup q = some found ∧ found.handler = best.handler ∧
      found.pattern = best.pattern

/-! ## What is found -/

namespace RouteTable

variable {table : RouteTable H} {headFallback : Bool} {q : Query} {route : Route H}

/-- A route that serves applies. -/
theorem Serves.applies {tokens : List String} {host : String}
    (hserves : table.Serves tokens host q.method route)
    (htokens : Path.tokens? q.path = some tokens) (hhost : host ∈ hosts q.host) :
    route.pattern.Applies q where
  method_eq := hserves.method_eq
  host_eq := by
    rw [hserves.host_eq]
    exact mem_hosts_iff.mp hhost
  takes := by
    obtain ⟨rest, hpath, rfl⟩ := Path.tokens?_eq_some.mp htokens
    exact ⟨rest, hpath, hserves.takes⟩

/-- What a lookup finds is held and applies. -/
theorem Consistent.applies_of_lookup (h : table.Consistent)
    (hmethods : methods headFallback q.method = [q.method]) {captures : Captures}
    (hfound : table.lookup headFallback q = some (route, captures)) :
    route ∈ table.routes ∧ route.pattern.Applies q := by
  obtain ⟨tokens, host, method, htokens, hhost, hmethod, hserves, -⟩ := h.serves_of_lookup hfound
  rw [hmethods, List.mem_singleton] at hmethod
  subst hmethod
  exact ⟨hserves.mem, hserves.applies htokens hhost⟩

/-- **The crux.**  If a route applies, then one is found: this one, or one that outranks it.  Methods
    that are tried behind that of the query do not matter. -/
theorem Consistent.lookup_of_applies (h : table.Consistent) {others : List String}
    (hmethods : methods headFallback q.method = q.method :: others) (hmem : route ∈ table.routes)
    (happlies : route.pattern.Applies q) :
    ∃ found, table.lookup headFallback q = some found ∧
      (found.1 = route ∨ found.1.pattern.Outranks route.pattern) := by
  obtain ⟨hmethod, hhost, rest, hpath, htakes⟩ := happlies
  have htokens := Path.tokens?_eq_some.mpr ⟨rest, hpath, rfl⟩
  generalize Text.pieces '/' rest = tokens at htokens htakes
  -- under the host of the route the search finds one that is as good
  obtain ⟨best, hfound, hserves, hbest⟩ :=
    Serves.resultUnder_eq ⟨hmem, rfl, hmethod, htakes⟩ h
  have hrank : best = route ∨ best.pattern.Outranks route.pattern :=
    hbest.imp id fun hover => Or.inr ⟨by rw [hserves.host_eq], hover⟩
  by_cases hsame : route.pattern.host = q.host
  · rw [hsame] at hfound
    exact ⟨_, lookup_of_resultUnder htokens hfound, hrank⟩
  · have hopen : route.pattern.host = "" := hhost.resolve_right hsame
    have hnamed : q.host ≠ "" := fun hempty => hsame (hopen.trans hempty.symm)
    rw [lookup_eq, htokens, Option.bind_some, findSome?_hosts, if_neg hnamed]
    cases hfirst : (methods headFallback q.method).findSome? (table.resultUnder tokens q.host) with
    | none =>
      rw [hopen] at hfound
      rw [hmethods, List.findSome?_cons, hfound]
      exact ⟨_, rfl, hrank⟩
    | some found =>
      -- a route of the named host is found first, and it outranks every open one
      obtain ⟨method, -, hunder⟩ := List.exists_of_findSome?_eq_some hfirst
      have hhost := (h.serves_of_resultUnder hunder).1.host_eq
      exact ⟨found, rfl, Or.inr (Or.inl ⟨by rwa [hhost], hopen⟩)⟩

/-- Something is found exactly if a route applies. -/
theorem Consistent.isSome_lookup_iff (h : table.Consistent)
    (hmethods : methods headFallback q.method = [q.method]) :
    (table.lookup headFallback q).isSome ↔ ∃ route ∈ table.routes, route.pattern.Applies q := by
  constructor
  · intro hsome
    obtain ⟨⟨route, captures⟩, hfound⟩ := Option.isSome_iff_exists.mp hsome
    exact ⟨route, h.applies_of_lookup hmethods hfound⟩
  · rintro ⟨route, hmem, happlies⟩
    obtain ⟨found, hfound, -⟩ := h.lookup_of_applies hmethods hmem happlies
    exact Option.isSome_of_eq_some hfound

/-! ## The best route -/

/-- What is found is best. -/
theorem Consistent.isBest_of_lookup (h : table.Consistent)
    (hmethods : methods headFallback q.method = [q.method]) {captures : Captures}
    (hfound : table.lookup headFallback q = some (route, captures)) : table.IsBest q route := by
  obtain ⟨hmem, happlies⟩ := h.applies_of_lookup hmethods hfound
  refine ⟨hmem, happlies, ?_⟩
  intro other hother happlies'
  obtain ⟨found, hfound', hrank⟩ := h.lookup_of_applies hmethods hother happlies'
  obtain rfl := Option.some.inj (hfound.symm.trans hfound')
  rcases hrank with rfl | houtranks
  · exact fun hself => hself.asymm hself
  · exact houtranks.asymm

/-- The best route is found, since nothing outranks it. -/
theorem IsBest.exists_lookup (hbest : table.IsBest q route) (h : table.Consistent)
    (hmethods : methods headFallback q.method = [q.method]) :
    ∃ captures, table.lookup headFallback q = some (route, captures) := by
  obtain ⟨⟨found, captures⟩, hfound, rfl | houtranks⟩ :=
    h.lookup_of_applies hmethods hbest.mem hbest.applies
  · exact ⟨captures, hfound⟩
  · obtain ⟨hmem, happlies⟩ := h.applies_of_lookup hmethods hfound
    exact absurd houtranks (hbest.not_outranked found hmem happlies)

end RouteTable

/-- **A lookup answers with the best route that applies**, and with nothing only if none does. -/
theorem Router.Reachable.answersBest {r : Router H} (hr : r.Reachable) (q : Query)
    (hq : r.config.headFallback = false ∨ q.method ≠ "HEAD") : r.AnswersBest q := by
  have htable := hr.consistent
  have hmethods := RouteTable.methods_eq_singleton hq
  refine ⟨?_, ?_, ?_⟩
  · rw [lookup, Option.map_eq_none_iff]
    constructor
    · intro hnone route hmem happlies
      obtain ⟨found, hfound, -⟩ := htable.lookup_of_applies hmethods hmem happlies
      rw [hnone] at hfound
      cases hfound
    · intro hall
      rw [Option.eq_none_iff_forall_ne_some]
      rintro ⟨route, captures⟩ hfound
      obtain ⟨hmem, happlies⟩ := htable.applies_of_lookup hmethods hfound
      exact hall route hmem happlies
  · rintro ⟨route, hmem, happlies⟩
    obtain ⟨⟨best, captures⟩, hfound, -⟩ := htable.lookup_of_applies hmethods hmem happlies
    refine ⟨best, htable.isBest_of_lookup hmethods hfound, ?_⟩
    intro other hother
    obtain ⟨captures', hfound'⟩ := hother.exists_lookup htable hmethods
    rw [hfound] at hfound'
    exact (Prod.mk.inj (Option.some.inj hfound')).1.symm
  · intro best hbest
    obtain ⟨captures, hfound⟩ := hbest.exists_lookup htable hmethods
    exact ⟨best.toMatch captures, by rw [lookup, hfound]; rfl, rfl, rfl⟩

/-- Two of the routes apply.  The search returns from the literal branch and leaves the
catch-all aside, and the named host has nothing for this method. -/
theorem Router.answersBest_of_overlapping :
    let r := ((Router.empty { headFallback := true } : Router Nat).registerEach
      [("GET /{x}/b/{y...}", some 0), ("GET /a/{x}/c", some 1),
        ("GET /{rest...}", some 2), ("POST h/{rest...}", some 3)]).1
    (r.lookup ⟨"GET", "h", "/a/b/d"⟩).map Match.handler = some 0 ∧
      r.AnswersBest ⟨"GET", "h", "/a/b/d"⟩ :=
  ⟨by decide +kernel,
    Reachable.answersBest ((Reachable.empty _).registerEach _) _ (Or.inr (by decide))⟩

end HttpRouting
