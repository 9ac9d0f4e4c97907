/-
  What a lookup in a consistent table finds.

  1. **The order of the searches** - `lookup_eq`: the hosts are tried in order and under each host
     the methods, and each of these searches starts from the same empty list of captures.

  2. **The routes in question** - `RouteTable.Serves`: a route held under one host and one method
     whose labels take the tokens.  A consistent table keeps every route at the address of its
     pattern, so what the search of the trie says about labels becomes a statement about routes.

  3. **One search** - what is found under a host and a method serves (`serves_of_resultUnder`), and
     if any route serves, then one is found that is as good (`Serves.resultUnder_eq`).
-/
import HttpRouting.Proofs.Router.Reachable
import HttpRouting.Proofs.Trie.Priority

namespace HttpRouting

universe u

variable {H : Type u}

namespace RouteTable

/-! ## The order of the searches -/

theorem mem_hosts_iff {host tried : String} : tried ∈ hosts host ↔ tried = "" ∨ tried = host := by
  rw [hosts]
  split
  · rename_i hempty
    rw [List.mem_singleton, hempty, or_self]
  · rw [List.mem_cons, List.mem_singleton, or_comm]

/-- The named host is tried first, the open host last. -/
theorem findSome?_hosts {β : Type u} (host : String) (f : String → Option β) :
    (hosts host).findSome? f = if host = "" then f "" else (f host).or (f "") := by
  rw [hosts]
  split
  · exact List.findSome?_singleton
  · rw [List.findSome?_cons, List.findSome?_singleton]
    cases f host <;> rfl

/-- One method is tried unless the HEAD fallback asks for a second. -/
theorem methods_eq_singleton {headFallback : Bool} {method : String}
    (h : headFallback = false ∨ method ≠ "HEAD") : methods headFallback method = [method] := by
  refine if_neg ?_
  rintro ⟨hfallback, hmethod⟩
  rcases h with hoff | hne
  · exact Bool.false_ne_true (hoff.symm.trans hfallback)
  · exact hne hmethod

/-- The method of a query is tried before any other. -/
theorem methods_eq_cons (headFallback : Bool) (method : String) :
    ∃ others, methods headFallback method = method :: others := by
  rw [methods]
  split
  · rename_i hhead
    exact ⟨["GET"], by rw [hhead.2]⟩
  · exact ⟨[], rfl⟩

/-- What is found under one host and one method. -/
def resultUnder (table : RouteTable H) (tokens : List String) (host method : String) :
    Option (Route H × Captures) :=
  table.resultAt tokens [.literal host, .literal method]

/-- A lookup tries the hosts in order, and under each host the methods. -/
theorem lookup_eq (table : RouteTable H) (headFallback : Bool) (q : Query) :
    table.lookup headFallback q = (Path.tokens? q.path).bind fun tokens =>
      (hosts q.host).findSome? fun host =>
        (methods headFallback q.method).findSome? (table.resultUnder tokens host) := by
  have hstarts : ∀ tokens, (starts headFallback q).findSome? (table.resultAt tokens) =
      (hosts q.host).findSome? fun host =>
        (methods headFallback q.method).findSome? (table.resultUnder tokens host) := by
    intro tokens
    rw [starts]
    induction hosts q.host with
    | nil => rfl
    | cons host rest ih =>
      rw [List.flatMap_cons, List.findSome?_append, ih, List.findSome?_map, List.findSome?_cons]
      show ((methods headFallback q.method).findSome? (table.resultUnder tokens host)).or _ = _
      cases (methods headFallback q.method).findSome? (table.resultUnder tokens host) <;> rfl
  rw [lookup]
  cases Path.tokens? q.path with
  | none => rfl
  | some tokens =>
    rw [Option.bind_some, ← hstarts, ← (Trie.framed_searchAt _ _ _).2, Search.result]
    dsimp only
    rcases table.searchAt (starts headFallback q) tokens [] with ⟨_ | _, _⟩ <;> rfl

/-- What is found under the host and the method of a query is the answer. -/
theorem lookup_of_resultUnder {table : RouteTable H} {headFallback : Bool} {q : Query}
    {tokens : List String} (htokens : Path.tokens? q.path = some tokens)
    {found : Route H × Captures} (hfound : table.resultUnder tokens q.host q.method = some found) :
    table.lookup headFallback q = some found := by
  obtain ⟨others, hmethods⟩ := methods_eq_cons headFallback q.method
  rw [lookup_eq, htokens, Option.bind_some, findSome?_hosts, hmethods]
  by_cases hempty : q.host = ""
  · rw [if_pos hempty, List.findSome?_cons, ← hempty, hfound]
  · rw [if_neg hempty, List.findSome?_cons, hfound]
    rfl

/-! ## The routes in question -/

/-- A route held under a host and a method, whose labels take the tokens. -/
structure Serves (table : RouteTable H) (tokens : List String) (host method : String)
    (route : Route H) : Prop where
  mem : route ∈ table.routes
  host_eq : route.pattern.host = host
  method_eq : route.pattern.method = method
  takes : Label.Takes route.pattern.labels tokens

/-- A route as it is found, with the tokens that its labels capture. -/
def capturing (tokens : List String) (route : Route H) : Route H × Captures :=
  (route, Label.captured route.pattern.labels tokens)

variable {table : RouteTable H} {tokens : List String} {host method : String} {route : Route H}

/-- A consistent table holds at an address only a route with this host, method and labels. -/
theorem Consistent.serves_of_get? (h : table.Consistent) {labels : List Label}
    (hget : table.get? ([.literal host, .literal method] ++ labels) = some route)
    (htakes : Label.Takes labels tokens) :
    table.Serves tokens host method route ∧ labels = route.pattern.labels := by
  have hplaced := h.placed _ _ hget
  have hmem : route ∈ table.routes := h.mem_routes_iff.mpr (hplaced ▸ hget)
  rw [Pattern.address_eq] at hplaced
  simp only [List.cons_append, List.nil_append, List.cons.injEq, Label.literal.injEq] at hplaced
  obtain ⟨rfl, rfl, rfl⟩ := hplaced
  exact ⟨⟨hmem, rfl, rfl, htakes⟩, rfl⟩

/-! ## One search -/

/-- What is found under a host and a method serves. -/
theorem Consistent.serves_of_resultUnder (h : table.Consistent) {captures : Captures}
    (hfound : table.resultUnder tokens host method = some (route, captures)) :
    table.Serves tokens host method route ∧ (route, captures) = capturing tokens route := by
  obtain ⟨labels, hget, htakes, rfl⟩ := Trie.exists_of_resultAt hfound
  obtain ⟨hserves, rfl⟩ := h.serves_of_get? hget htakes
  exact ⟨hserves, rfl⟩

/-- If a route serves, then one is found that serves: this one, or one whose labels go over its
    labels. -/
theorem Serves.resultUnder_eq (hserves : table.Serves tokens host method route)
    (h : table.Consistent) :
    ∃ best, table.resultUnder tokens host method = some (capturing tokens best) ∧
      table.Serves tokens host method best ∧
      (best = route ∨ Label.Over best.pattern.labels route.pattern.labels) := by
  obtain ⟨hmem, rfl, rfl, htakes⟩ := hserves
  have hget := h.mem_routes_iff.mp hmem
  rw [Pattern.address_eq] at hget
  obtain ⟨best, labels, hfound, hbest, htakes', hover⟩ := Trie.resultAt_over hget htakes
  obtain ⟨hserves', rfl⟩ := h.serves_of_get? hbest htakes'
  refine ⟨best, hfound, hserves', hover.imp (fun heq => ?_) id⟩
  -- the same labels, hence the same address
  rw [heq] at hbest
  exact Option.some.inj (hbest.symm.trans hget)

/-- A lookup finds only routes that serve, under a host and a method that it tries. -/
theorem Consistent.serves_of_lookup (h : table.Consistent) {headFallback : Bool} {q : Query}
    {captures : Captures} (hfound : table.lookup headFallback q = some (route, captures)) :
    ∃ tokens host method, Path.tokens? q.path = some tokens ∧ host ∈ hosts q.host ∧
      method ∈ methods headFallback q.method ∧ table.Serves tokens host method route ∧
      captures = Label.captured route.pattern.labels tokens := by
  rw [lookup_eq] at hfound
  obtain ⟨tokens, htokens, hfound⟩ := Option.bind_eq_some_iff.mp hfound
  obtain ⟨host, hhost, hfound⟩ := List.exists_of_findSome?_eq_some hfound
  obtain ⟨method, hmethod, hfound⟩ := List.exists_of_findSome?_eq_some hfound
  obtain ⟨hserves, heq⟩ := h.serves_of_resultUnder hfound
  exact ⟨tokens, host, method, htokens, hhost, hmethod, hserves, (Prod.mk.inj heq).2⟩

end RouteTable

/-- What the table of a router finds is the answer, with its names bound. -/
theorem Router.lookup_of_lookup_table {r : Router H} {q : Query} {route : Route H}
    {captures : Captures}
    (hfound : r.table.lookup r.config.headFallback q = some (route, captures)) :
    r.lookup q = some (route.toMatch captures) := by
  rw [lookup, hfound]
  rfl

end HttpRouting
