/-
  The patterns that a router lists are a faithful export of it.

  Whatever a router went through, its patterns with the handlers held under them are enough to make
  another one that no question tells apart from it (`Reachable.rebuilds`).

  1. **The export** - no two routes held have one canonical text (`Reachable.eq_of_render_eq`), so
     each text has one handler, and text and handler ask for the route that is held
     (`Reachable.requested?_exportCall`).

  2. **The run** - calls for different places that are all free add their routes one by one, under
     either policy (`registerEach_added`).

  3. **The copy** - it holds the routes of the router that was exported, whatever the order of the
     calls, and routers that find the same routes are alike (`Reachable.alike`).
-/
import HttpRouting.Proofs.Pattern.RoundTrip
import HttpRouting.Proofs.Router.Order

namespace HttpRouting

universe u

variable {H : Type u}

namespace Router

open Route

/-! ## The export -/

/-- The handler that is held under a canonical text. -/
def handler? (r : Router H) (spec : String) : Option H :=
  (r.table.routes.find? fun route => route.pattern.render = spec).map Route.handler

/-- The call that registers a canonical text with the handler that is held under it. -/
def exportCall (r : Router H) (spec : String) : String × Option H := (spec, r.handler? spec)

variable {r r' : Router H} {route route' : Route H}

/-- Canonical texts tell the routes held apart. -/
theorem Reachable.eq_of_render_eq (hr : r.Reachable) (hmem : route ∈ r.table.routes)
    (hmem' : route' ∈ r.table.routes) (h : route.pattern.render = route'.pattern.render) :
    route = route' := by
  have hpattern : route.pattern = route'.pattern :=
    (hr.consistent.wellFormed hmem).eq_of_render_eq (hr.consistent.wellFormed hmem') h
  exact List.inj_on_of_nodup_map hr.counted.nodup_keys hmem hmem' (congrArg Pattern.key hpattern)

theorem Reachable.handler?_render (hr : r.Reachable) (hmem : route ∈ r.table.routes) :
    r.handler? route.pattern.render = some route.handler := by
  rw [handler?]
  have hsome : (r.table.routes.find? fun other : Route H =>
      other.pattern.render = route.pattern.render).isSome :=
    List.find?_isSome.mpr ⟨route, hmem, decide_eq_true rfl⟩
  obtain ⟨found, hfound⟩ := Option.isSome_iff_exists.mp hsome
  have hrender : found.pattern.render = route.pattern.render := by
    simpa using List.find?_some hfound
  rw [hfound, hr.eq_of_render_eq (List.mem_of_find?_eq_some hfound) hmem hrender, Option.map_some]

/-- What is exported for a route asks for this route. -/
theorem Reachable.requested?_exportCall (hr : r.Reachable) (hmem : route ∈ r.table.routes) :
    requested? (r.exportCall route.pattern.render) = some route :=
  requested?_eq_some_iff.mpr
    ⟨hr.handler?_render hmem, (hr.consistent.wellFormed hmem).parse_render⟩

/-- The patterns listed, in any order, ask for the routes held. -/
theorem Reachable.requestedEach_exportCall (hr : r.Reachable) {specs : List String}
    (hperm : specs.Perm r.patterns) :
    (requestedEach (specs.map r.exportCall)).Perm r.table.routes := by
  have hroutes : requestedEach
      ((r.table.routes.map fun route => route.pattern.render).map r.exportCall) =
        r.table.routes := by
    rw [requestedEach, List.map_map, List.filterMap_map]
    exact (List.filterMap_congr fun route hmem => hr.requested?_exportCall hmem).trans
      List.filterMap_some
  have hspecs := ((hperm.trans r.patterns_perm).map r.exportCall).filterMap requested?
  exact hroutes ▸ hspecs

/-! ## The run -/

/-- **The run.**  Calls for routes with different keys, whose places are free, add these routes. -/
theorem registerEach_added {r : Router H} {calls : List (String × Option H)}
    (hall : ∀ call ∈ calls, (requested? call).isSome)
    (hnodup : ((requestedEach calls).map Route.key).Nodup)
    (hfree : ∀ route ∈ requestedEach calls, r.table.find? route.pattern = none) :
    List.Forall₂ (fun call result => ∃ p, Pattern.parse call.1 = .ok p ∧ result = .ok (.added p))
      calls (r.registerEach calls).2 := by
  induction calls generalizing r with
  | nil => exact .nil
  | cons call rest ih =>
    obtain ⟨hcall, hall⟩ := List.forall_mem_cons.mp hall
    obtain ⟨route, hroute⟩ := Option.isSome_iff_exists.mp hcall
    have hcons : requestedEach (call :: rest) = route :: requestedEach rest :=
      List.filterMap_cons_some hroute
    rw [hcons] at hnodup hfree
    obtain ⟨hnew, hnodup⟩ := List.nodup_cons.mp hnodup
    obtain ⟨hplace, hfree⟩ := List.forall_mem_cons.mp hfree
    obtain ⟨hhandler, hparse⟩ := requested?_eq_some_iff.mp hroute
    have hregister := register_of_free hparse hplace route.handler
    rw [← hhandler] at hregister
    rw [registerEach_cons, hregister]
    refine .cons ⟨_, hparse, rfl⟩ (ih hall hnodup fun other hother => ?_)
    -- the place that was taken is none of those asked for later
    have hne : route.pattern.key ≠ other.pattern.key := fun hkey =>
      hnew (List.mem_map.mpr ⟨other, hother, hkey.symm⟩)
    exact (RouteTable.find?_insert _ _ _ _).trans ((if_neg hne).trans (hfree other hother))

/-! ## The copy -/

/-- Routers that no question tells apart. -/
structure Alike (r r' : Router H) : Prop where
  lookup_eq : ∀ q, r.lookup q = r'.lookup q
  patterns_eq : r.patterns = r'.patterns
  size_eq : r.size = r'.size
  isEmpty_eq : r.isEmpty = r'.isEmpty
  hasMethod_eq : ∀ method, r.hasMethod method = r'.hasMethod method

/-- Routers that find the same routes, with one setting of the HEAD fallback, are alike. -/
theorem Reachable.alike (h : r.Reachable) (h' : r'.Reachable)
    (hfallback : r.config.headFallback = r'.config.headFallback)
    (hfind : ∀ p, r.table.find? p = r'.table.find? p) : r.Alike r' := by
  obtain ⟨hsize, hempty, hmethod⟩ := h.contents_alike h' fun p => by rw [hfind p]
  exact ⟨h.lookup_ext h' hfallback hfind, h.patterns_ext h' hfind, hsize, hempty, hmethod⟩

/-- **The patterns are a faithful export.**  Registered in any order and under either policy, each
    with the handler held under it, they are all added, none in the place of another, and make a
    router that is alike. -/
theorem Reachable.rebuilds (hr : r.Reachable) {specs : List String}
    (hperm : specs.Perm r.patterns) (collision : Collision) :
    let rebuilt := (Router.empty ⟨collision, r.config.headFallback⟩).registerEach
      (specs.map r.exportCall)
    List.Forall₂ (fun spec result => ∃ p, Pattern.parse spec = .ok p ∧ result = .ok (.added p))
        specs rebuilt.2 ∧
      rebuilt.1.Alike r := by
  intro rebuilt
  have hrequested := hr.requestedEach_exportCall hperm
  have hnodup : ((requestedEach (specs.map r.exportCall)).map Route.key).Nodup :=
    (hrequested.map Route.key).nodup_iff.mpr hr.counted.nodup_keys
  constructor
  · have hall : ∀ call ∈ specs.map r.exportCall, (requested? call).isSome := by
      rw [List.forall_mem_map]
      intro spec hspec
      obtain ⟨route, hmem, rfl⟩ := List.mem_map.mp ((hperm.trans r.patterns_perm).mem_iff.mp hspec)
      exact Option.isSome_of_eq_some (hr.requested?_exportCall hmem)
    have hfree : ∀ route ∈ requestedEach (specs.map r.exportCall), RouteTable.find?
        (Router.empty ⟨collision, r.config.headFallback⟩ : Router H).table route.pattern = none :=
      fun _ _ => Trie.get?_empty _
    exact List.forall₂_map_left_iff.mp (registerEach_added hall hnodup hfree)
  · have hreach : rebuilt.1.Reachable := (Reachable.empty _).registerEach _
    refine hreach.alike hr (by rw [config_registerEach]; rfl) fun p => Option.ext fun route => ?_
    rw [find?_eq_some_iff_of_nodup hnodup, hr.consistent.find?_eq_some_iff, hrequested.mem_iff]

/-- A route came in the place of another, and a call was refused; neither leaves a trace in the
    export, whose order is not that of the calls. -/
theorem rebuilds_after_replacement :
    let r := ((Router.empty ⟨.replace, true⟩ : Router Nat).registerEach
      [("GET /\x7ba\x7d", some 0), ("HEAD h/x/", some 1), ("GET", some 2),
        ("GET /\x7bb\x7d", some 3)]).1
    let specs := ["HEAD h/x/", "GET /\x7bb\x7d"]
    let rebuilt := (Router.empty ⟨.reject, true⟩).registerEach (specs.map r.exportCall)
    specs.Perm r.patterns ∧ specs.map r.handler? = [some 1, some 3] ∧
      List.Forall₂ (fun spec result => ∃ p, Pattern.parse spec = .ok p ∧ result = .ok (.added p))
        specs rebuilt.2 ∧
      rebuilt.1.Alike r := by
  intro r specs rebuilt
  have hr : r.Reachable := (Reachable.empty _).registerEach _
  have hroutes : specs.Perm (r.table.routes.map fun route => route.pattern.render) := by
    decide +kernel
  have hperm : specs.Perm r.patterns := hroutes.trans r.patterns_perm.symm
  exact ⟨hperm, by decide +kernel, hr.rebuilds hperm .reject⟩

end Router

end HttpRouting
