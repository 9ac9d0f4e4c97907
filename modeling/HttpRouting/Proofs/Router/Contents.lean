/-
  What a router says about its routes.

  The number of routes, the methods and the patterns come from three places: a counter that
  registrations advance, the vertices two edges below the root, and the values of the trie.  They
  are brought together here: all three are read off the routes held.

  1. **Keys** - `RouteTable.keys` lists the keys of the routes.  A key is listed if something is
     found for its patterns (`Consistent.mem_keys_iff`), and it is listed once (`Router.Counted`).

  2. **The counter** - `Router.Counted` says that the counter is the number of routes.  A route that
     takes a free place adds a key, and a route that takes the place of another leaves the keys as
     they are (`keys_insert`); both follow from the law of enumeration (`map_routes_insert`).

  3. **The methods** - `Consistent.hasMethod_iff`: since no branch is dead, a vertex at a host and a
     method is on the way to a route with this method.
-/
import HttpRouting.Proofs.Router.Extensionality

namespace HttpRouting

universe u v

variable {H : Type u}

namespace RouteTable

/-- **The law of enumeration**, for whatever routes are listed by: what the new route has enters, what
    the route that held its place has leaves. -/
theorem map_routes_insert {β : Type v} (f : Route H → β) (table : RouteTable H) (p : Pattern)
    (handler : H) :
    ((RouteTable.routes (Trie.insert table p.address ⟨handler, p⟩)).map f ++
      ((table.find? p).map f).toList).Perm (f ⟨handler, p⟩ :: table.routes.map f) := by
  have hvalues := (Trie.values_insert table p.address ⟨handler, p⟩).map f
  rw [List.map_append, ← Option.toList_map] at hvalues
  exact hvalues

/-! ## Keys -/

/-- The keys of the routes held. -/
def keys (table : RouteTable H) : List Pattern.Key := table.routes.map Route.key

/-- The law of enumeration for keys. -/
theorem keys_insert (table : RouteTable H) (p : Pattern) (handler : H) :
    (keys (Trie.insert table p.address ⟨handler, p⟩) ++
      ((table.find? p).map Route.key).toList).Perm (p.key :: table.keys) :=
  map_routes_insert Route.key table p handler

variable {table table' : RouteTable H}

theorem Consistent.mem_keys_iff (h : table.Consistent) {p : Pattern} :
    p.key ∈ table.keys ↔ (table.find? p).isSome := by
  rw [keys, List.mem_map, Option.isSome_iff_exists]
  exact exists_congr fun _ => h.find?_eq_some_iff.symm

/-- A key that is listed belongs to a pattern for which something is found. -/
theorem Consistent.exists_pattern_of_mem_keys (h : table.Consistent) {key : Pattern.Key}
    (hmem : key ∈ table.keys) : ∃ p : Pattern, p.key = key ∧ (table.find? p).isSome := by
  obtain ⟨route, -, rfl⟩ := List.mem_map.mp hmem
  exact ⟨route.pattern, rfl, h.mem_keys_iff.mp hmem⟩

/-- Tables that find something for the same patterns list the same keys. -/
theorem Consistent.keys_perm (h : table.Consistent) (h' : table'.Consistent)
    (hnodup : table.keys.Nodup) (hnodup' : table'.keys.Nodup)
    (hfind : ∀ p, (table.find? p).isSome ↔ (table'.find? p).isSome) :
    table.keys.Perm table'.keys := by
  rw [List.perm_ext_iff_of_nodup hnodup hnodup']
  intro key
  constructor
  · intro hmem
    obtain ⟨p, rfl, hp⟩ := h.exists_pattern_of_mem_keys hmem
    exact h'.mem_keys_iff.mpr ((hfind p).mp hp)
  · intro hmem
    obtain ⟨p, rfl, hp⟩ := h'.exists_pattern_of_mem_keys hmem
    exact h.mem_keys_iff.mpr ((hfind p).mpr hp)

/-- Tables that find the same routes hold the same routes. -/
theorem Consistent.routes_perm (h : table.Consistent) (h' : table'.Consistent)
    (hnodup : table.keys.Nodup) (hnodup' : table'.keys.Nodup)
    (hfind : ∀ p, table.find? p = table'.find? p) : table.routes.Perm table'.routes := by
  rw [List.perm_ext_iff_of_nodup (hnodup.of_map _) (hnodup'.of_map _)]
  intro route
  rw [h.mem_routes_iff, h'.mem_routes_iff]
  exact iff_of_eq (congrArg (· = some route) (hfind route.pattern))

/-! ## Methods -/

/-- There is an entry for a method exactly if a route has it. -/
theorem Consistent.hasMethod_iff (h : table.Consistent) {method : String} :
    table.hasMethod method = true ↔ ∃ key ∈ table.keys, key.method = method := by
  rw [hasMethod, List.any_eq_true]
  constructor
  · rintro ⟨⟨label, child⟩, hedge, hsome⟩
    obtain ⟨host, rfl⟩ : ∃ host, label = .literal host := by
      cases label with
      | literal host => exact ⟨host, rfl⟩
      | wildcard => cases hsome
      | catchAll => cases hsome
    obtain ⟨v, hv⟩ := Option.isSome_iff_exists.mp hsome
    have hchild := (Trie.Edges.Tidy.child h.tidy (h.tidy.mem_toList_iff.mp hedge)).2
    have hat : Trie.At table [.literal host, .literal method] v :=
      .edge hedge (.edge (hchild.mem_toList_iff.mpr hv) (.root v))
    -- the vertex leads to a route, whose address tells its method
    obtain ⟨rest, route, -, hget⟩ := hat.exists_get? h.tidy (List.cons_ne_nil _ _)
    have haddress := h.placed _ _ hget
    rw [haddress] at hget
    refine ⟨route.key, List.mem_map_of_mem (h.mem_routes_iff.mpr hget), ?_⟩
    exact (Label.literal.inj (List.cons.inj (List.cons.inj haddress).2).1).symm
  · rintro ⟨key, hmem, rfl⟩
    obtain ⟨route, hroute, rfl⟩ := List.mem_map.mp hmem
    have hget := h.mem_routes_iff.mp hroute
    rw [Pattern.address, Trie.get?_cons] at hget
    obtain ⟨child, hchild, hget⟩ := Option.bind_eq_some_iff.mp hget
    rw [Trie.get?_cons] at hget
    obtain ⟨v, hv, -⟩ := Option.bind_eq_some_iff.mp hget
    exact ⟨_, h.tidy.mem_toList_iff.mpr hchild, Option.isSome_of_eq_some hv⟩

/-- Tables with the same keys have entries for the same methods. -/
theorem Consistent.hasMethod_eq (h : table.Consistent) (h' : table'.Consistent)
    (hkeys : table.keys.Perm table'.keys) (method : String) :
    table.hasMethod method = table'.hasMethod method := by
  rw [Bool.eq_iff_iff, h.hasMethod_iff, h'.hasMethod_iff]
  simp only [hkeys.mem_iff]

end RouteTable

/-! ## The counter -/

namespace Router

/-- The routes of a router have different keys, and the router knows their number. -/
structure Counted (r : Router H) : Prop where
  nodup_keys : r.table.keys.Nodup
  size_eq : r.size = r.table.keys.length

/-- One registration keeps the count. -/
theorem Outcome.counted {r : Router H} {spec : String} {handler : Option H}
    {after : Router H × Except RouteError Registration} (h : r.Outcome spec handler after)
    (htable : r.table.Consistent) (hr : r.Counted) : after.1.Counted := by
  cases h with
  | missing => exact hr
  | malformed handler _ => exact hr
  | conflict handler _ _ _ => exact hr
  | @added handler p _ hfree =>
    have hkeys := r.table.keys_insert p handler
    rw [hfree, Option.map_none, Option.toList_none, List.append_nil] at hkeys
    have hnew : p.key ∉ r.table.keys := by
      rw [htable.mem_keys_iff, hfree]
      exact Bool.false_ne_true
    refine ⟨hkeys.nodup_iff.mpr (List.nodup_cons.mpr ⟨hnew, hr.nodup_keys⟩), ?_⟩
    show r.size + 1 = _
    rw [hkeys.length_eq, List.length_cons, hr.size_eq]
  | @replaced handler p held _ hheld _ =>
    have hkeys := r.table.keys_insert p handler
    rw [hheld, Option.map_some, htable.key_of_find? hheld] at hkeys
    -- the key that leaves is the key that enters
    have hsame := ((List.perm_append_singleton p.key _).symm.trans hkeys).cons_inv
    exact ⟨hsame.nodup_iff.mpr hr.nodup_keys, hr.size_eq.trans hsame.length_eq.symm⟩

/-- **The count is right** in every reachable router. -/
theorem Reachable.counted {r : Router H} (h : r.Reachable) : r.Counted := by
  induction h with
  | empty config => exact ⟨List.nodup_nil, rfl⟩
  | @register r h spec handler ih => exact (r.outcome_register spec handler).counted h.consistent ih

/-! ## Routers that hold the same -/

variable {r r' : Router H}

/-- Routers that find something for the same patterns have as many routes and the same methods. -/
theorem Reachable.contents_alike (h : r.Reachable) (h' : r'.Reachable)
    (hfind : ∀ p, (r.table.find? p).isSome ↔ (r'.table.find? p).isSome) :
    r.size = r'.size ∧ r.isEmpty = r'.isEmpty ∧
      ∀ method, r.hasMethod method = r'.hasMethod method := by
  have hkeys := h.consistent.keys_perm h'.consistent h.counted.nodup_keys
    h'.counted.nodup_keys hfind
  have hsize : r.size = r'.size := by
    rw [h.counted.size_eq, h'.counted.size_eq, hkeys.length_eq]
  refine ⟨hsize, ?_, h.consistent.hasMethod_eq h'.consistent hkeys⟩
  rw [isEmpty, isEmpty, hsize]

/-- The patterns listed are those of the routes held. -/
theorem patterns_perm (r : Router H) :
    r.patterns.Perm (r.table.routes.map fun route => route.pattern.render) :=
  List.mergeSort_perm _ _

/-- Each entry is the canonical text of a route, and each route has its entry. -/
theorem mem_patterns_iff (r : Router H) {text : String} :
    text ∈ r.patterns ↔ ∃ route ∈ r.table.routes, route.pattern.render = text := by
  rw [r.patterns_perm.mem_iff, List.mem_map]

/-- The patterns are listed in order. -/
theorem pairwise_patterns (r : Router H) : r.patterns.Pairwise (· ≤ ·) := by
  have hsorted := @List.pairwise_mergeSort String (fun a b => decide (a ≤ b))
    (fun a b c hab hbc =>
      decide_eq_true (String.le_trans (of_decide_eq_true hab) (of_decide_eq_true hbc)))
    (fun a b => by simpa using String.le_total a b)
    (r.table.routes.map fun route => route.pattern.render)
  exact hsorted.imp of_decide_eq_true

/-- There is one order in which the patterns can be listed. -/
theorem patterns_eq_of_perm {r : Router H} {texts : List String}
    (hperm : (r.table.routes.map fun route => route.pattern.render).Perm texts)
    (hsorted : texts.Pairwise (· ≤ ·)) : r.patterns = texts :=
  (r.patterns_perm.trans hperm).eq_of_pairwise (fun _ _ _ _ => String.le_antisymm)
    r.pairwise_patterns hsorted

/-- Routers that find the same routes list the same patterns. -/
theorem Reachable.patterns_ext (h : r.Reachable) (h' : r'.Reachable)
    (hfind : ∀ p, r.table.find? p = r'.table.find? p) : r.patterns = r'.patterns := by
  have hroutes := h.consistent.routes_perm h'.consistent h.counted.nodup_keys
    h'.counted.nodup_keys hfind
  exact patterns_eq_of_perm ((hroutes.map _).trans r'.patterns_perm.symm) r'.pairwise_patterns

end Router

end HttpRouting
