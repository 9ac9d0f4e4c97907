/-
  What a router says of its contents, and what it answers.

  The number of routes is a counter, the patterns are listed by a walk through the trie, a method is
  looked for at the second edge of each branch, and an answer is the result of a search.  All speak of
  the same routes.

  1. **The list** - it has an entry for each route (`mem_patterns_iff`), and canonical texts tell the
     routes of a reachable router apart, so no entry is listed twice.  In order and without a text
     twice is strictly increasing, and byte by byte too (`Text.utf8_lt_utf8`).

  2. **The answers** - each route answers some query for its own method and host
     (`Consistent.exists_lookup_of_mem`), and what answers a query is a route for one of the methods
     tried.  So nothing is answered exactly if nothing is held, and a method is answered exactly if it
     is held, unless a second method is tried for it.
-/
import HttpRouting.Proofs.Router.Export
import HttpRouting.Proofs.Router.Shadowing
import HttpRouting.Proofs.Text.ByteOrder

namespace HttpRouting

universe u

variable {H : Type u}

/-! ## Answers -/

/-- Each route answers some query for its own method and host. -/
theorem RouteTable.Consistent.exists_lookup_of_mem {table : RouteTable H} (h : table.Consistent)
    (headFallback : Bool) {route : Route H} (hmem : route ∈ table.routes) :
    ∃ path captures, table.lookup headFallback ⟨route.pattern.method, route.pattern.host, path⟩ =
      some (route, captures) := by
  obtain ⟨fresh, hne, hslash, hnew⟩ := table.exists_fresh
  obtain ⟨captures, hfound⟩ := h.lookup_exemplar headFallback hne hslash hnew hmem
  exact ⟨(route.pattern.exemplar fresh).path, captures, hfound⟩

namespace Router

variable {r : Router H} {method : String}

/-- What answers a query is a route for one of the methods that are tried. -/
theorem Reachable.exists_mem_of_isSome_lookup (hr : r.Reachable) {q : Query}
    (hsome : (r.lookup q).isSome = true) :
    ∃ route ∈ r.table.routes,
      route.pattern.method ∈ RouteTable.methods r.config.headFallback q.method := by
  rw [lookup, Option.isSome_map] at hsome
  obtain ⟨⟨route, captures⟩, hfound⟩ := Option.isSome_iff_exists.mp hsome
  obtain ⟨_, _, _, _, _, hmethod, hserves, _⟩ := hr.consistent.serves_of_lookup hfound
  exact ⟨route, hserves.mem, hserves.method_eq ▸ hmethod⟩

/-- For the method of each route some query is answered. -/
theorem Reachable.exists_isSome_lookup_of_mem (hr : r.Reachable) {route : Route H}
    (hmem : route ∈ r.table.routes) :
    ∃ host path, (r.lookup ⟨route.pattern.method, host, path⟩).isSome = true := by
  obtain ⟨path, captures, hfound⟩ :=
    hr.consistent.exists_lookup_of_mem r.config.headFallback hmem
  exact ⟨_, path, Option.isSome_of_eq_some (lookup_of_lookup_table hfound)⟩

/-! ## The list of patterns -/

theorem Reachable.length_patterns (hr : r.Reachable) : r.patterns.length = r.size := by
  rw [r.patterns_perm.length_eq, List.length_map, hr.counted.size_eq, RouteTable.keys,
    List.length_map]

/-- No text is listed twice. -/
theorem Reachable.nodup_patterns (hr : r.Reachable) : r.patterns.Nodup := by
  rw [r.patterns_perm.nodup_iff]
  have hroutes : r.table.routes.Nodup := hr.counted.nodup_keys.of_map _
  exact hroutes.map_on fun route hmem route' hmem' => hr.eq_of_render_eq hmem hmem'

/-- The list is strictly increasing, byte by byte. -/
theorem Reachable.pairwise_utf8_patterns (hr : r.Reachable) :
    r.patterns.Pairwise fun a b => Text.utf8 a < Text.utf8 b := by
  refine (r.pairwise_patterns.and hr.nodup_patterns).imp fun ⟨hle, hne⟩ => ?_
  exact Text.utf8_lt_utf8 (String.not_le.mp fun hge => hne (String.le_antisymm hle hge))

/-! ## Emptiness -/

/-- A router says that it has no routes exactly if it answers nothing. -/
theorem Reachable.isEmpty_iff (hr : r.Reachable) :
    r.isEmpty = true ↔ ∀ q, r.lookup q = none := by
  have hroutes : r.isEmpty = true ↔ r.table.routes = [] := by
    rw [isEmpty, beq_iff_eq, hr.counted.size_eq, List.length_eq_zero_iff, RouteTable.keys,
      List.map_eq_nil_iff]
  rw [hroutes, List.eq_nil_iff_forall_not_mem]
  constructor
  · intro hnone q
    rw [← Option.not_isSome_iff_eq_none]
    intro hsome
    obtain ⟨route, hmem, -⟩ := hr.exists_mem_of_isSome_lookup hsome
    exact hnone route hmem
  · intro hnone route hmem
    obtain ⟨host, path, hsome⟩ := hr.exists_isSome_lookup_of_mem hmem
    rw [hnone] at hsome
    cases hsome

/-! ## Methods -/

/-- A router says that a method has a route exactly if a route has it. -/
theorem Reachable.hasMethod_iff_exists_mem (hr : r.Reachable) :
    r.hasMethod method = true ↔ ∃ route ∈ r.table.routes, route.pattern.method = method := by
  rw [hasMethod, hr.consistent.hasMethod_iff, RouteTable.keys]
  simp only [List.mem_map, exists_exists_and_eq_and]
  rfl

/-- A router says that a method has a route exactly if it lists a pattern for it. -/
theorem Reachable.hasMethod_iff_patterns (hr : r.Reachable) :
    r.hasMethod method = true ↔
      ∃ text ∈ r.patterns, ∃ p, Pattern.parse text = .ok p ∧ p.method = method := by
  rw [hr.hasMethod_iff_exists_mem]
  constructor
  · rintro ⟨route, hmem, rfl⟩
    have hparse := (hr.consistent.wellFormed hmem).parse_render
    exact ⟨_, r.mem_patterns_iff.mpr ⟨route, hmem, rfl⟩, route.pattern, hparse, rfl⟩
  · rintro ⟨text, hmem, p, hparse, rfl⟩
    obtain ⟨route, hroute, rfl⟩ := r.mem_patterns_iff.mp hmem
    have hparse' := (hr.consistent.wellFormed hroute).parse_render
    exact ⟨route, hroute, congrArg Pattern.method (Except.ok.inj (hparse'.symm.trans hparse))⟩

/-- A router says that a method has a route exactly if it answers some query for it, unless the
    fallback lets other routes answer. -/
theorem Reachable.hasMethod_iff_lookup (hr : r.Reachable)
    (hmethod : r.config.headFallback = false ∨ method ≠ "HEAD") :
    r.hasMethod method = true ↔ ∃ host path, (r.lookup ⟨method, host, path⟩).isSome = true := by
  rw [hr.hasMethod_iff_exists_mem]
  constructor
  · rintro ⟨route, hmem, rfl⟩
    exact hr.exists_isSome_lookup_of_mem hmem
  · rintro ⟨host, path, hsome⟩
    obtain ⟨route, hmem, htried⟩ := hr.exists_mem_of_isSome_lookup hsome
    rw [RouteTable.methods_eq_singleton hmethod, List.mem_singleton] at htried
    exact ⟨route, hmem, htried⟩

/-! ## All together -/

/-- **What a router says of its contents agrees with what it answers.**  The count is the length of
    the list of patterns, which is strictly increasing byte by byte and has for its entries the
    canonical texts of the routes; a router is empty exactly if it answers nothing; and a method has a
    route exactly if a pattern that is listed has this method, that is, unless the HEAD fallback is
    asked, if some query for it is answered. -/
theorem Reachable.observers_agree (hr : r.Reachable) :
    r.size = r.patterns.length ∧
      r.patterns.Pairwise (fun a b => Text.utf8 a < Text.utf8 b) ∧
      (∀ text, text ∈ r.patterns ↔ ∃ route ∈ r.table.routes, route.pattern.render = text) ∧
      (r.isEmpty = true ↔ ∀ method host path, r.lookup ⟨method, host, path⟩ = none) ∧
      ∀ method,
        (r.hasMethod method = true ↔
          ∃ text ∈ r.patterns, ∃ p, Pattern.parse text = .ok p ∧ p.method = method) ∧
        (r.config.headFallback = false ∨ method ≠ "HEAD" →
          (r.hasMethod method = true ↔
            ∃ host path, (r.lookup ⟨method, host, path⟩).isSome = true)) := by
  refine ⟨hr.length_patterns.symm, hr.pairwise_utf8_patterns, fun _ => r.mem_patterns_iff, ?_,
    fun method => ⟨hr.hasMethod_iff_patterns, hr.hasMethod_iff_lookup⟩⟩
  rw [hr.isEmpty_iff]
  exact ⟨fun hnone method host path => hnone _, fun hnone q => hnone q.method q.host q.path⟩

/-- A refused route, a replaced one, and texts that would stand in another order in UTF-16. -/
theorem observers_agree_beyond_ascii :
    let r := ((Router.empty ⟨.replace, true⟩ : Router Nat).registerEach
      [("GET /\ud7ff", some 0), ("GET /😀", some 1), ("GET /\uffff", some 2),
        ("POST h/\x7bx\x7d", some 3), ("GET", some 4), ("POST h/\x7by\x7d", some 5)]).1
    r.patterns = ["GET /\ud7ff", "GET /\uffff", "GET /😀", "POST h/\x7by\x7d"] ∧
      r.size = 4 ∧ r.size = r.patterns.length ∧
      r.patterns.Pairwise (fun a b => Text.utf8 a < Text.utf8 b) ∧
      (∃ host path, (r.lookup ⟨"POST", host, path⟩).isSome = true) ∧
      ¬∃ host path, (r.lookup ⟨"DELETE", host, path⟩).isSome = true := by
  intro r
  have hr : r.Reachable := (Reachable.empty _).registerEach _
  obtain ⟨hsize, hincreasing, -, -, hmethods⟩ := hr.observers_agree
  have hpost : r.hasMethod "POST" = true := by decide +kernel
  have hdelete : ¬r.hasMethod "DELETE" = true := by decide +kernel
  refine ⟨?_, by decide +kernel, hsize, hincreasing, ?_, ?_⟩
  · exact patterns_eq_of_perm (by decide +kernel) (by decide +kernel)
  · exact ((hmethods "POST").2 (Or.inr (by decide))).mp hpost
  · rwa [← (hmethods "DELETE").2 (Or.inr (by decide))]

end Router

end HttpRouting
