/-
  A lookup sees which routes are held, not in which order they came.

  1. **Tables** - `Agree.lookup`: tables that agree at every address give lookups that agree.

  2. **Consistent tables** - such a table holds a route only at the address of some pattern, so two
     of them agree everywhere if they agree in what they find for patterns (`Consistent.agree`).
     The address of a route gives its key away, so to agree up to names it is enough that the same
     patterns find something (`Consistent.agree_key`).

  Everything is stated for a view of the routes, as in `Trie.Agree`: all of the route, or its key.
-/
import HttpRouting.Proofs.Router.Lookup
import HttpRouting.Proofs.Router.RouteMap
import HttpRouting.Proofs.Trie.Extensionality

namespace HttpRouting

universe u v

variable {H : Type u} {γ : Type v}

/-- The key of a route: that of its pattern. -/
def Route.key (route : Route H) : Pattern.Key := route.pattern.key

/-! ## Tables that agree -/

/-- **A lookup sees what the table holds.**  Tables that agree give answers that agree, with the
    same tokens captured. -/
theorem Trie.Agree.lookup {f g : Route H → γ} {table table' : RouteTable H}
    (h : Trie.Agree f g table table') (headFallback : Bool) (q : Query) :
    Trie.view f (table.lookup headFallback q) = Trie.view g (table'.lookup headFallback q) := by
  have hunder : ∀ tokens host method,
      (table.resultUnder tokens host method).map (fun found => (f found.1, found.2)) =
        (table'.resultUnder tokens host method).map (fun found => (g found.1, found.2)) :=
    fun tokens host method => h.resultAt tokens [.literal host, .literal method]
  rw [RouteTable.lookup_eq, RouteTable.lookup_eq, Trie.view, Trie.view]
  simp only [Option.map_bind, Function.comp_def, List.map_findSome?, hunder]

namespace RouteTable.Consistent

variable {table table' : RouteTable H}

/-! ## What a consistent table finds for patterns -/

/-- What is found for a pattern differs from it in names at most. -/
theorem key_of_find? (h : table.Consistent) {p : Pattern} {route : Route H}
    (hfind : table.find? p = some route) : route.key = p.key :=
  (Pattern.address_eq_address_iff.mp (h.placed _ _ hfind)).symm

/-- What is found for a pattern is the route held with its key. -/
theorem find?_eq_some_iff (h : table.Consistent) {p : Pattern} {route : Route H} :
    table.find? p = some route ↔ route ∈ table.routes ∧ route.key = p.key := by
  constructor
  · intro hfind
    refine ⟨h.mem_routes_iff.mpr ?_, h.key_of_find? hfind⟩
    rw [← h.placed _ _ hfind]
    exact hfind
  · rintro ⟨hmem, hkey⟩
    rw [find?, ← Pattern.address_eq_address_iff.mpr hkey]
    exact h.mem_routes_iff.mp hmem

/-- Consistent tables that agree for patterns agree at every address. -/
theorem agree (h : table.Consistent) (h' : table'.Consistent) {f g : Route H → γ}
    (hfind : ∀ p, (table.find? p).map f = (table'.find? p).map g) :
    Trie.Agree f g table table' := by
  intro address
  by_cases hp : ∃ p : Pattern, p.address = address
  · obtain ⟨p, rfl⟩ := hp
    exact hfind p
  · -- nothing is held at an address that belongs to no pattern
    have hnone : ∀ {t : RouteTable H}, t.Consistent → t.get? address = none := by
      intro t ht
      rw [Option.eq_none_iff_forall_ne_some]
      exact fun route hget => hp ⟨route.pattern, (ht.placed _ _ hget).symm⟩
    rw [hnone h, hnone h']
    rfl

/-- What is found for a pattern, names apart, is the key of the pattern. -/
theorem map_key_find? (h : table.Consistent) (p : Pattern) :
    (table.find? p).map Route.key = if (table.find? p).isSome then some p.key else none := by
  cases hfind : table.find? p with
  | none => rfl
  | some route => exact congrArg some (h.key_of_find? hfind)

/-- Consistent tables that find something for the same patterns agree up to names. -/
theorem agree_key (h : table.Consistent) (h' : table'.Consistent)
    (hfind : ∀ p, (table.find? p).isSome ↔ (table'.find? p).isSome) :
    Trie.Agree Route.key Route.key table table' := by
  apply h.agree h'
  intro p
  rw [h.map_key_find?, h'.map_key_find?]
  exact if_congr (hfind p) rfl rfl

end RouteTable.Consistent

/-! ## Reachable routers -/

/-- **Extensionality of lookups.**  Routers that find the same routes for patterns, with one setting
    of the HEAD fallback, answer every query alike. -/
theorem Router.Reachable.lookup_ext {r r' : Router H} (h : r.Reachable) (h' : r'.Reachable)
    (hfallback : r.config.headFallback = r'.config.headFallback)
    (hfind : ∀ p, r.table.find? p = r'.table.find? p) (q : Query) : r.lookup q = r'.lookup q := by
  have hagree : Trie.Agree id id r.table r'.table :=
    h.consistent.agree h'.consistent fun p => by rw [hfind p]
  have hlookup := hagree.lookup r.config.headFallback q
  rw [Trie.view_id, Trie.view_id] at hlookup
  rw [Router.lookup, Router.lookup, ← hfallback, hlookup]

end HttpRouting
