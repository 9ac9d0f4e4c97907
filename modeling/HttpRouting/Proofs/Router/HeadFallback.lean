/-
  What the HEAD fallback changes.

  With the fallback a HEAD query goes through up to four searches: HEAD and then GET under the named
  host, and after them HEAD and then GET under the open host.  Without it, a HEAD query and a GET
  query go through two of these searches each.  So the two plain answers determine the answer with
  the fallback, and `namedFirst` says how: a route of the named host goes before every open one, and
  among the routes of one kind HEAD goes before GET.  A GET route of the named host thus answers
  before a HEAD route of the open host.

  Where a plain answer comes from can be told from its pattern: what is found under a host has this
  host (`Consistent.filter_isNamed`).  That is all the law needs to know of the trie.
-/
import HttpRouting.Proofs.Router.Extensionality

namespace HttpRouting

universe u v

variable {H : Type u}

/-! ## Named answers first -/

section

variable {α : Type u} {β : Type v} {isNamed : α → Bool}

/-- The first of two answers that is named; if none is named, the first of the two. -/
def namedFirst (isNamed : α → Bool) (first second : Option α) : Option α :=
  (first.filter isNamed).or ((second.filter isNamed).or (first.or second))

theorem isSome_namedFirst (first second : Option α) :
    (namedFirst isNamed first second).isSome ↔ first.isSome ∨ second.isSome := by
  cases first <;> cases second <;> simp [namedFirst]

theorem map_namedFirst (isNamed : β → Bool) (f : α → β) (first second : Option α) :
    (namedFirst (isNamed ∘ f) first second).map f =
      namedFirst isNamed (first.map f) (second.map f) := by
  simp only [namedFirst, Option.map_or, Option.filter_map]

/-- Two answers that each try a named place before an open one.  Trying both named places first is
    the same as looking at the answers. -/
theorem namedFirst_or {namedFst namedSnd openFst openSnd : Option α}
    (hnamedFst : namedFst.filter isNamed = namedFst)
    (hnamedSnd : namedSnd.filter isNamed = namedSnd)
    (hopenFst : openFst.filter isNamed = none) (hopenSnd : openSnd.filter isNamed = none) :
    namedFirst isNamed (namedFst.or openFst) (namedSnd.or openSnd) =
      (namedFst.or namedSnd).or (openFst.or openSnd) := by
  cases namedFst with
  | some found => simp only [namedFirst, Option.some_or, hnamedFst]
  | none =>
    cases namedSnd with
    | some found => simp only [namedFirst, Option.none_or, Option.some_or, hopenFst, hnamedSnd]
    | none => simp only [namedFirst, Option.none_or, hopenFst, hopenSnd]

end

/-- Whether a match is under a named host. -/
def Match.isNamed (found : Match H) : Bool := found.pattern.host != ""

namespace RouteTable

variable {table : RouteTable H}

/-- Whether what was found is under a named host. -/
def isNamed (found : Route H × Captures) : Bool := found.1.pattern.host != ""

/-- What is found under a host is named exactly if the host is. -/
theorem Consistent.filter_isNamed (h : table.Consistent) (tokens : List String)
    (host method : String) :
    (table.resultUnder tokens host method).filter isNamed =
      if host = "" then none else table.resultUnder tokens host method := by
  cases hfound : table.resultUnder tokens host method with
  | none => exact (ite_self none).symm
  | some found =>
    have hhost := (h.serves_of_resultUnder hfound).1.host_eq
    by_cases hopen : host = "" <;> simp [isNamed, hhost, hopen]

/-! ## The law for tables -/

/-- **The order of the four searches** is the order of `namedFirst`. -/
theorem Consistent.lookup_head (h : table.Consistent) (host path : String) :
    table.lookup true ⟨"HEAD", host, path⟩ =
      namedFirst isNamed (table.lookup false ⟨"HEAD", host, path⟩)
        (table.lookup false ⟨"GET", host, path⟩) := by
  have hboth : methods true "HEAD" = ["HEAD", "GET"] := rfl
  have hplain : ∀ method, methods false method = [method] :=
    fun method => methods_eq_singleton (Or.inl rfl)
  rw [lookup_eq, lookup_eq, lookup_eq]
  dsimp only
  rw [hboth, hplain, hplain]
  cases Path.tokens? path with
  | none => rfl
  | some tokens =>
    have htwo : ∀ tried, ["HEAD", "GET"].findSome? (table.resultUnder tokens tried) =
        (table.resultUnder tokens tried "HEAD").or (table.resultUnder tokens tried "GET") := by
      intro tried
      rw [List.findSome?_cons, List.findSome?_singleton]
      cases table.resultUnder tokens tried "HEAD" <;> rfl
    have hopen : ∀ method, (table.resultUnder tokens "" method).filter isNamed = none :=
      fun method => h.filter_isNamed tokens "" method
    simp only [Option.bind_some, findSome?_hosts, List.findSome?_singleton, htwo]
    by_cases hhost : host = ""
    · have hnone : (none : Option (Route H × Captures)).filter isNamed = none := rfl
      simp only [if_pos hhost]
      exact (namedFirst_or hnone hnone (hopen _) (hopen _)).symm
    · have hnamed : ∀ method, (table.resultUnder tokens host method).filter isNamed =
          table.resultUnder tokens host method :=
        fun method => (h.filter_isNamed tokens host method).trans (if_neg hhost)
      simp only [if_neg hhost]
      exact (namedFirst_or (hnamed _) (hnamed _) (hopen _) (hopen _)).symm

/-- The fallback makes no difference for another method. -/
theorem lookup_of_ne_head (table : RouteTable H) {q : Query} (hq : q.method ≠ "HEAD") :
    table.lookup true q = table.lookup false q := by
  rw [lookup_eq, lookup_eq, methods_eq_singleton (Or.inr hq), methods_eq_singleton (Or.inr hq)]

end RouteTable

/-! ## The law for routers -/

namespace Router

/-- Routers that made the same registrations, with one policy for taken places, give the same
    results and find the same routes, whatever their setting of the fallback. -/
theorem registerEach_of_headFallback (collision : Collision) (fallback fallback' : Bool)
    (calls : List (String × Option H)) :
    let run := (Router.empty ⟨collision, fallback⟩ : Router H).registerEach calls
    let run' := (Router.empty ⟨collision, fallback'⟩ : Router H).registerEach calls
    run.2 = run'.2 ∧ ∀ p, run.1.table.find? p = run'.1.table.find? p := by
  -- both runs simulate the map of one policy
  have hsimulates : ∀ setting, _ := fun setting =>
    RouteMap.registerEach_simulates (r := Router.empty ⟨collision, setting⟩)
      (RouteMap.models_empty (H := H)) calls
  obtain ⟨hresults, hmodels⟩ := hsimulates fallback
  obtain ⟨hresults', hmodels'⟩ := hsimulates fallback'
  exact ⟨hresults.trans hresults'.symm,
    fun p => (hmodels.find?_eq p).trans (hmodels'.find?_eq p).symm⟩

/-- **The law of the HEAD fallback.**  Two routers make the same registrations with one policy for
    taken places, and only one of them has the fallback.  The registrations have the same results;
    queries with other methods have the same answers; and a HEAD query has, with the fallback, the
    first named one of the two plain answers to HEAD and to GET, or else the first of the two. -/
theorem headFallback_law (collision : Collision) (calls : List (String × Option H)) :
    let on := (Router.empty ⟨collision, true⟩ : Router H).registerEach calls
    let off := (Router.empty ⟨collision, false⟩ : Router H).registerEach calls
    on.2 = off.2 ∧
      (∀ q, q.method ≠ "HEAD" → on.1.lookup q = off.1.lookup q) ∧
      ∀ host path,
        let asHead := off.1.lookup ⟨"HEAD", host, path⟩
        let asGet := off.1.lookup ⟨"GET", host, path⟩
        on.1.lookup ⟨"HEAD", host, path⟩ = namedFirst Match.isNamed asHead asGet ∧
          ((on.1.lookup ⟨"HEAD", host, path⟩).isSome ↔ asHead.isSome ∨ asGet.isSome) := by
  intro on off
  obtain ⟨hresults, hfind⟩ := registerEach_of_headFallback collision true false calls
  have htable : off.1.table.Consistent := ((Reachable.empty _).registerEach calls).consistent
  have hagree : Trie.Agree id id on.1.table off.1.table :=
    ((Reachable.empty _).registerEach calls).consistent.agree htable fun p =>
      congrArg (Option.map id) (hfind p)
  -- both routers look up in one table, with and without the fallback
  have hon : ∀ q, on.1.lookup q =
      (off.1.table.lookup true q).map fun found => found.1.toMatch found.2 := by
    intro q
    have hlookup := hagree.lookup true q
    rw [Trie.view_id, Trie.view_id] at hlookup
    rw [lookup, config_registerEach, ← hlookup]
    rfl
  have hoff : ∀ q, off.1.lookup q =
      (off.1.table.lookup false q).map fun found => found.1.toMatch found.2 := by
    intro q
    rw [lookup, config_registerEach]
    rfl
  refine ⟨hresults, fun q hq => ?_, fun host path => ?_⟩
  · rw [hon, hoff, RouteTable.lookup_of_ne_head _ hq]
  · have hlaw : on.1.lookup ⟨"HEAD", host, path⟩ =
        namedFirst Match.isNamed (off.1.lookup ⟨"HEAD", host, path⟩)
          (off.1.lookup ⟨"GET", host, path⟩) := by
      rw [hon, hoff, hoff, htable.lookup_head]
      exact map_namedFirst Match.isNamed _ _ _
    exact ⟨hlaw, by rw [hlaw]; exact isSome_namedFirst _ _⟩

/-- The named host answers first: with the fallback its GET route goes before a HEAD route of the
    open host, which answers without the fallback. -/
theorem headFallback_law_of_named_get :
    let calls := [("HEAD /a", some 0), ("GET h/\x7bx\x7d", some 1), ("HEAD /\x7bx\x7d/b", some 2)]
    let on := ((Router.empty ⟨.reject, true⟩ : Router Nat).registerEach calls).1
    let off := ((Router.empty ⟨.reject, false⟩ : Router Nat).registerEach calls).1
    (off.lookup ⟨"HEAD", "h", "/a"⟩).map Match.handler = some 0 ∧
      (on.lookup ⟨"HEAD", "h", "/a"⟩).map Match.handler = some 1 ∧
      on.lookup ⟨"HEAD", "h", "/a"⟩ = namedFirst Match.isNamed
        (off.lookup ⟨"HEAD", "h", "/a"⟩) (off.lookup ⟨"GET", "h", "/a"⟩) ∧
      on.lookup ⟨"GET", "h", "/a"⟩ = off.lookup ⟨"GET", "h", "/a"⟩ :=
  ⟨by decide +kernel, by decide +kernel, ((headFallback_law .reject _).2.2 "h" "/a").1,
    (headFallback_law .reject _).2.1 _ (by decide)⟩

end Router

end HttpRouting
