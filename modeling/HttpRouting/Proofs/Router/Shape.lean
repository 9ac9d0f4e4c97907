/-
  The shape of the trie behind a router.

  `RouteTable.Shaped` describes every vertex of the trie by the edges that lead to it (`Trie.At`):
  where routes may be held, where which kinds of edges may leave, that what stands at the end of a
  path is a leaf, and that no branch is dead.

  Nothing of this is an invariant of its own.  In a consistent table every vertex below the root
  lies on the way to some route (`exists_route_below`), the route is held at the address of its
  pattern, and the parser arranged that pattern: so the edges on the way down are the labels of an
  arranged pattern.  A vertex above the paths, or below the end of a path, would lie on the way to a
  pattern that no text writes.
-/
import HttpRouting.Proofs.Router.Reachable
import Mathlib.Tactic.ByContra

namespace HttpRouting

universe u

variable {H : Type u}

/-! ## The shape -/

/-- The shape of a table of routes. -/
structure RouteTable.Shaped (table : RouteTable H) : Prop where
  /-- The edges of a vertex have different labels. -/
  nodup_labels : ∀ address v, table.At address v → (v.children.map Prod.fst).Nodup
  /-- The root, the hosts and the methods hold no route. -/
  value_eq_none : ∀ address v, table.At address v → address.length ≤ 2 → v.value = none
  /-- From the root and from a host only literal edges leave. -/
  literal_edges : ∀ address v label child, table.At address v → address.length ≤ 1 →
    (label, child) ∈ v.children → ∃ text, label = .literal text
  /-- The host, the method and the segments of a pattern, without their names, spell the edges that
  lead to its route. -/
  spelled : ∀ address v route, table.At address v → v.value = some route →
    address = .literal route.pattern.host :: .literal route.pattern.method :: route.pattern.labels
  /-- A catch-all edge leads to a route and no further. -/
  catchAll_leaf : ∀ address v, table.At (address ++ [.catchAll]) v →
    v.value.isSome = true ∧ v.children = []
  /-- Among the paths, an empty literal leads to a route and no further. -/
  anchor_leaf : ∀ address v, 2 ≤ address.length → table.At (address ++ [.literal ""]) v →
    v.value.isSome = true ∧ v.children = []
  /-- There is a route at or below every vertex except the root. -/
  values_ne_nil : ∀ address v, table.At address v → address ≠ [] → v.values ≠ []

/-! ## One edge more -/

theorem Trie.At.concat {α : Type u} {t v child : Trie α} {address : List Label} {label : Label}
    (h : t.At address v) (hedge : (label, child) ∈ v.children) :
    t.At (address ++ [label]) child := by
  induction h with
  | root t => exact .edge hedge (.root child)
  | edge hfirst _ ih => exact .edge hfirst (ih hedge)

namespace RouteTable.Consistent

variable {table : RouteTable H} {address : List Label} {v : Trie (Route H)}

/-! ## On the way to a route -/

/-- What a vertex holds is held at the address that leads to it. -/
theorem get?_of_at (h : table.Consistent) (hat : table.At address v) {route : Route H}
    (hvalue : v.value = some route) : table.get? address = some route := by
  rw [Trie.get?, (hat.sub?_eq h.tidy).1]
  exact hvalue

/-- **The crux.**  A vertex below the root lies on the way to a route, so the edges that lead to it
    begin the address of an arranged pattern. -/
theorem exists_route_below (h : table.Consistent) (hat : table.At address v)
    (hne : address ≠ []) :
    ∃ rest route, v.get? rest = some route ∧ address ++ rest = route.pattern.address ∧
      Segment.Arranged route.pattern.segments := by
  obtain ⟨rest, route, hbelow, hget⟩ := hat.exists_get? h.tidy hne
  exact ⟨rest, route, hbelow, h.placed _ _ hget, h.arranged hget⟩

/-- In the address of an arranged pattern nothing follows a label that ends a path. -/
theorem eq_nil_of_isFinal {p : Pattern} (hp : Segment.Arranged p.segments) {label : Label}
    {rest : List Label} (hlength : 2 ≤ address.length) (hfinal : label.IsFinal)
    (heq : address ++ [label] ++ rest = p.address) : rest = [] := by
  obtain ⟨host, method, front, rfl⟩ : ∃ host method front, address = host :: method :: front := by
    match address, hlength with
    | host :: method :: front, _ => exact ⟨host, method, front, rfl⟩
  have hlabels : front ++ [label] ++ rest = p.labels :=
    (List.cons.inj (List.cons.inj heq).2).2
  by_contra hrest
  have hmem : label ∈ p.labels.dropLast := by
    rw [← hlabels, List.dropLast_append_of_ne_nil hrest]
    exact List.mem_append_left _ (List.mem_append_right _ (List.mem_singleton_self label))
  exact hp.not_isFinal_label hmem hfinal

/-- A vertex behind a label that ends a path is a leaf with a route. -/
theorem leaf_of_isFinal (h : table.Consistent) {label : Label}
    (hat : table.At (address ++ [label]) v) (hlength : 2 ≤ address.length)
    (hfinal : label.IsFinal) : v.value.isSome = true ∧ v.children = [] := by
  constructor
  · obtain ⟨rest, route, hbelow, heq, hp⟩ := h.exists_route_below hat (by simp)
    obtain rfl := eq_nil_of_isFinal hp hlength hfinal heq
    exact Option.isSome_of_eq_some hbelow
  · -- an edge would lead on to a route with labels behind the final one
    by_contra hchildren
    obtain ⟨⟨next, child⟩, hedge⟩ := List.exists_mem_of_ne_nil _ hchildren
    obtain ⟨rest, route, -, heq, hp⟩ := h.exists_route_below (hat.concat hedge) (by simp)
    rw [List.append_assoc (address ++ [label])] at heq
    have hnil := eq_nil_of_isFinal hp hlength hfinal heq
    exact List.cons_ne_nil _ _ hnil

/-- The first two edges on the way to any vertex are literal. -/
theorem literal_of_length_le (h : table.Consistent) {label : Label} {child : Trie (Route H)}
    (hat : table.At (address ++ [label]) child) (hlength : address.length ≤ 1) :
    ∃ text, label = .literal text := by
  obtain ⟨rest, route, -, heq, -⟩ := h.exists_route_below hat (by simp)
  match address, hlength with
  | [], _ => exact ⟨_, (List.cons.inj heq).1⟩
  | [host], _ => exact ⟨_, (List.cons.inj (List.cons.inj heq).2).1⟩

/-- A consistent table has its shape. -/
theorem shaped (h : table.Consistent) : table.Shaped where
  nodup_labels _ _ hat := Trie.Edges.Tidy.nodup_labels (hat.sub?_eq h.tidy).2
  value_eq_none address v hat hlength := by
    by_contra hvalue
    obtain ⟨route, hroute⟩ := Option.ne_none_iff_exists'.mp hvalue
    have hget := h.get?_of_at hat hroute
    rw [h.placed _ _ hget] at hlength
    -- host, method and at least one segment
    have hlen : route.pattern.address.length = route.pattern.segments.length + 2 := by
      simp [Pattern.address]
    have hpos := List.length_pos_iff.mpr (h.arranged hget).ne_nil
    omega
  literal_edges _ _ _ _ hat hlength hedge := h.literal_of_length_le (hat.concat hedge) hlength
  spelled _ _ _ hat hvalue := h.placed _ _ (h.get?_of_at hat hvalue)
  catchAll_leaf address v hat := by
    refine h.leaf_of_isFinal hat ?_ trivial
    by_contra hlength
    obtain ⟨text, htext⟩ := h.literal_of_length_le hat (by omega)
    cases htext
  anchor_leaf _ _ hlength hat := h.leaf_of_isFinal hat hlength rfl
  values_ne_nil address v hat hne hnil := by
    obtain ⟨rest, route, hbelow, -, -⟩ := h.exists_route_below hat hne
    have hmem := (Trie.mem_values_iff (hat.sub?_eq h.tidy).2).mpr ⟨rest, hbelow⟩
    rw [hnil] at hmem
    cases hmem

end RouteTable.Consistent

/-! ## Reachable routers -/

/-- **The trie behind every reachable router has its shape.** -/
theorem Router.Reachable.shaped_table {r : Router H} (h : r.Reachable) : r.table.Shaped :=
  h.consistent.shaped

/-- A router that took three routes, of which one leaves another's place, and refused two texts. -/
theorem Router.shaped_table_after_refusals :
    let r := ((Router.empty { collision := .replace } : Router Nat).registerEach
      [("GET /a/\x7bx\x7d/\x7brest...\x7d", some 0), ("GET /a/\x7by\x7d/", some 1),
        ("GET h/a//b", some 2), ("GET h/\x7b$\x7d", some 3), ("GET h/", none)]).1
    r.table.routes.map Route.handler = [1, 3] ∧ r.table.Shaped :=
  ⟨by decide +kernel, Reachable.shaped_table ((Reachable.empty _).registerEach _)⟩

end HttpRouting
