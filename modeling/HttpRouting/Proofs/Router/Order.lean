/-
  The order of registrations does not decide the routing.

  Of several calls for one place the first or the last one wins, as the policy has it, so another
  order may leave another route there.  But the place is taken all the same, and the searches know
  routes by their places.

  1. **What calls ask for** - `Route.requested?` is the route that a call asks for, if it has a
     handler and a pattern.  The rest of a call never matters.

  2. **What runs leave** - `isSome_find?_registerEach`: a place is taken after a run if it was taken
     before or some call asks for it.  `find?_registerEach`: whatever holds a place was there before
     or some call asks for it.  Neither mentions the order or the policy.  Each is a case analysis
     for one registration and an induction on the calls.

  3. **Two orders** - from the first fact the tables agree up to names, hence so do all answers
     (`Trie.Agree`).  If no two calls ask for one place, the second fact leaves one candidate for
     each place, and the tables agree altogether.
-/
import HttpRouting.Proofs.Router.Contents

namespace HttpRouting

universe u

variable {H : Type u}

/-! ## What calls ask for -/

/-- The route that a call asks for: none without a handler, or if the text is no pattern. -/
def Route.requested? (call : String × Option H) : Option (Route H) :=
  match call.2, Pattern.parse call.1 with
  | some handler, .ok p => some ⟨handler, p⟩
  | _, _ => none

theorem Route.requested?_of_parse (handler : H) {spec : String} {p : Pattern}
    (hparse : Pattern.parse spec = .ok p) :
    requested? (spec, some handler) = some ⟨handler, p⟩ := by
  simp only [requested?, hparse]

theorem Route.requested?_of_error (handler : H) {spec : String} {e : PatternError}
    (hparse : Pattern.parse spec = .error e) : requested? (spec, some handler) = none := by
  simp only [requested?, hparse]

/-- The calls that ask for a route are those with its handler and a text of its pattern. -/
theorem Route.requested?_eq_some_iff {call : String × Option H} {route : Route H} :
    requested? call = some route ↔
      call.2 = some route.handler ∧ Pattern.parse call.1 = .ok route.pattern := by
  obtain ⟨spec, handler⟩ := call
  cases handler with
  | none => simp [requested?]
  | some handler =>
    cases hparse : Pattern.parse spec with
    | error e => simp [requested?_of_error handler hparse]
    | ok p =>
      rw [requested?_of_parse handler hparse]
      cases route
      simp

/-- The routes that calls ask for, in order. -/
def Route.requestedEach (calls : List (String × Option H)) : List (Route H) :=
  calls.filterMap requested?

theorem Route.mem_requestedEach_cons {call : String × Option H} {rest : List (String × Option H)}
    {route : Route H} : route ∈ requestedEach (call :: rest) ↔
      requested? call = some route ∨ route ∈ requestedEach rest := by
  simp only [requestedEach, List.mem_filterMap, List.mem_cons, or_and_right, exists_or,
    exists_eq_left]

namespace Router

open Route

/-! ## What one registration leaves -/

variable {r : Router H} {spec : String} {handler : Option H}
  {after : Router H × Except RouteError Registration}

/-- A place is taken afterwards if it was taken before or the call asks for it. -/
theorem Outcome.isSome_find?_iff (h : r.Outcome spec handler after) (p : Pattern) :
    (after.1.table.find? p).isSome ↔ (r.table.find? p).isSome ∨
      ∃ route, requested? (spec, handler) = some route ∧ route.key = p.key := by
  have hinsert : ∀ (handler : H) {q : Pattern}, Pattern.parse spec = .ok q →
      ((RouteTable.find? (r.table.insert q.address ⟨handler, q⟩) p).isSome ↔
        (r.table.find? p).isSome ∨
          ∃ route, requested? (spec, some handler) = some route ∧ route.key = p.key) := by
    intro handler q hparse
    rw [RouteTable.find?_insert, requested?_of_parse handler hparse]
    by_cases hkey : q.key = p.key <;> simp [hkey, Route.key]
  cases h with
  | missing => simp [requested?]
  | malformed handler hparse => simp [requested?_of_error handler hparse]
  | @conflict handler q held hparse hheld _ =>
    rw [requested?_of_parse handler hparse]
    refine ⟨Or.inl, ?_⟩
    rintro (htaken | ⟨route, hroute, hkey⟩)
    · exact htaken
    · -- the place that was asked for is the one that was taken
      obtain rfl := Option.some.inj hroute
      rw [RouteTable.find?, ← Pattern.address_eq_address_iff.mpr hkey]
      exact Option.isSome_of_eq_some hheld
  | added handler hparse _ => exact hinsert handler hparse
  | replaced handler hparse _ _ => exact hinsert handler hparse

/-- Whatever holds a place afterwards was there before, or the call asks for it. -/
theorem Outcome.find?_eq_some (h : r.Outcome spec handler after) {p : Pattern} {route : Route H}
    (hfind : after.1.table.find? p = some route) :
    r.table.find? p = some route ∨ requested? (spec, handler) = some route := by
  have hinsert : ∀ (handler : H) {q : Pattern}, Pattern.parse spec = .ok q →
      RouteTable.find? (r.table.insert q.address ⟨handler, q⟩) p = some route →
        r.table.find? p = some route ∨ requested? (spec, some handler) = some route := by
    intro handler q hparse hfind
    rw [RouteTable.find?_insert] at hfind
    split at hfind
    · exact Or.inr ((requested?_of_parse handler hparse).trans hfind)
    · exact Or.inl hfind
  cases h with
  | missing => exact Or.inl hfind
  | malformed handler _ => exact Or.inl hfind
  | conflict handler _ _ _ => exact Or.inl hfind
  | added handler hparse _ => exact hinsert handler hparse hfind
  | replaced handler hparse _ _ => exact hinsert handler hparse hfind

/-! ## What a run leaves -/

/-- A place is taken after a run if it was taken before or some call asks for it. -/
theorem isSome_find?_registerEach (r : Router H) (calls : List (String × Option H)) (p : Pattern) :
    ((r.registerEach calls).1.table.find? p).isSome ↔
      (r.table.find? p).isSome ∨ ∃ route ∈ requestedEach calls, route.key = p.key := by
  induction calls generalizing r with
  | nil => simp [registerEach, runEach, requestedEach]
  | cons call rest ih =>
    have hfirst := (r.outcome_register call.1 call.2).isSome_find?_iff p
    show (((r.register call.1 call.2).1.registerEach rest).1.table.find? p).isSome ↔ _
    rw [ih, hfirst, or_assoc]
    simp only [mem_requestedEach_cons, or_and_right, exists_or]

/-- Whatever holds a place after a run was there before, or some call asks for it. -/
theorem find?_registerEach {r : Router H} {calls : List (String × Option H)} {p : Pattern}
    {route : Route H} (hfind : (r.registerEach calls).1.table.find? p = some route) :
    r.table.find? p = some route ∨ route ∈ requestedEach calls := by
  induction calls generalizing r with
  | nil => exact Or.inl hfind
  | cons call rest ih =>
    rw [mem_requestedEach_cons]
    rcases ih hfind with hbefore | hrest
    · exact ((r.outcome_register call.1 call.2).find?_eq_some hbefore).imp id Or.inl
    · exact Or.inr (Or.inr hrest)

/-- After a run on an empty router, with at most one call for each place, a place is held by the
    route that was asked for. -/
theorem find?_eq_some_iff_of_nodup {config : Config} {calls : List (String × Option H)}
    (hnodup : ((requestedEach calls).map Route.key).Nodup) (p : Pattern) (route : Route H) :
    ((Router.empty config).registerEach calls).1.table.find? p = some route ↔
      route ∈ requestedEach calls ∧ route.key = p.key := by
  have hreach := (Reachable.empty (H := H) config).registerEach calls
  have hfrom : ∀ {route : Route H},
      ((Router.empty config).registerEach calls).1.table.find? p = some route →
        route ∈ requestedEach calls ∧ route.key = p.key := by
    intro route hfind
    refine ⟨(find?_registerEach hfind).resolve_left ?_, hreach.consistent.key_of_find? hfind⟩
    rw [RouteTable.find?, show (Router.empty config : Router H).table = ∅ from rfl, Trie.get?_empty]
    exact (Option.some_ne_none route).symm
  refine ⟨hfrom, ?_⟩
  rintro ⟨hmem, hkey⟩
  obtain ⟨found, hfound⟩ := Option.isSome_iff_exists.mp
    ((isSome_find?_registerEach (Router.empty config) calls p).mpr (Or.inr ⟨route, hmem, hkey⟩))
  -- what is found and what was asked for have one key, so they are one route
  obtain ⟨hmem', hkey'⟩ := hfrom hfound
  rw [hfound, List.inj_on_of_nodup_map hnodup hmem' hmem (hkey'.trans hkey.symm)]

end Router

/-! ## Answers up to names -/

/-- The values of parameters depend on the labels of the segments only. -/
theorem Segment.map_snd_params {segments segments' : List Segment}
    (h : segments.map label = segments'.map label) (captures : Captures) :
    (params segments captures).map Prod.snd = (params segments' captures).map Prod.snd := by
  induction segments generalizing segments' captures with
  | nil =>
    rw [List.map_eq_nil_iff.mp h.symm]
  | cons segment rest ih =>
    obtain ⟨segment', rest', rfl, hhead, htail⟩ := List.map_eq_cons_iff.mp h.symm
    have ih := ih htail.symm
    cases segment <;> cases segment' <;> cases hhead
    · exact ih captures
    · cases captures with
      | nil => exact ih []
      | cons token captures => exact congrArg (token :: ·) (ih captures)
    · rfl

/-- Two matches whose patterns differ in names at most, with the same values in path order. -/
structure Match.SameButNames (found found' : Match H) : Prop where
  method_eq : found.pattern.method = found'.pattern.method
  host_eq : found.pattern.host = found'.pattern.host
  labels_eq : found.pattern.labels = found'.pattern.labels
  values_eq : found.params.map Prod.snd = found'.params.map Prod.snd

/-- Routes with one key, found with the same tokens captured, give the same match up to names. -/
theorem Route.sameButNames_toMatch {route route' : Route H} (hkey : route.key = route'.key)
    (captures : Captures) : (route.toMatch captures).SameButNames (route'.toMatch captures) := by
  obtain ⟨hmethod, hhost, hlabels⟩ := Pattern.Key.mk.inj hkey
  exact ⟨hmethod, hhost, hlabels, Segment.map_snd_params hlabels captures⟩

namespace Router

open Route

/-- Routers that find something for the same patterns give the same answers up to names. -/
theorem Reachable.lookup_alike {r r' : Router H} (h : r.Reachable) (h' : r'.Reachable)
    (hfallback : r.config.headFallback = r'.config.headFallback)
    (hfind : ∀ p, (r.table.find? p).isSome ↔ (r'.table.find? p).isSome) (q : Query) :
    Option.Rel Match.SameButNames (r.lookup q) (r'.lookup q) := by
  have hlookup := (h.consistent.agree_key h'.consistent hfind).lookup r.config.headFallback q
  rw [lookup, lookup, ← hfallback]
  cases hfound : r.table.lookup r.config.headFallback q with
  | none =>
    rw [hfound] at hlookup
    rw [Option.map_eq_none_iff.mp hlookup.symm]
    exact .none
  | some found =>
    rw [hfound] at hlookup
    obtain ⟨found', hfound', heq⟩ := Option.map_eq_some_iff.mp hlookup.symm
    obtain ⟨hkey, hcaptures⟩ := Prod.mk.inj heq
    rw [hfound', Option.map_some, Option.map_some, ← hcaptures]
    exact .some (Route.sameButNames_toMatch hkey.symm _)

/-! ## Two orders -/

/-- **The order of registrations does not decide the routing.**  The same calls in another order
    leave as many routes and the same methods; a query is answered after one order exactly if it is
    answered after the other, and the two answers differ in names and handlers at most.  If no two
    calls ask for one place, then all answers and the patterns are the same. -/
theorem registerEach_perm (config : Config) {calls calls' : List (String × Option H)}
    (hperm : calls.Perm calls') :
    let r := ((Router.empty config).registerEach calls).1
    let r' := ((Router.empty config).registerEach calls').1
    (r.size = r'.size ∧ r.isEmpty = r'.isEmpty ∧
        ∀ method, r.hasMethod method = r'.hasMethod method) ∧
      (∀ q, Option.Rel Match.SameButNames (r.lookup q) (r'.lookup q)) ∧
      (((requestedEach calls).map Route.key).Nodup →
        (∀ q, r.lookup q = r'.lookup q) ∧ r.patterns = r'.patterns) := by
  intro r r'
  have h : r.Reachable := (Reachable.empty config).registerEach calls
  have h' : r'.Reachable := (Reachable.empty config).registerEach calls'
  have hfallback : r.config.headFallback = r'.config.headFallback := by
    rw [config_registerEach, config_registerEach]
  have hrequested := hperm.filterMap requested?
  have htaken : ∀ p, (r.table.find? p).isSome ↔ (r'.table.find? p).isSome := by
    intro p
    rw [isSome_find?_registerEach, isSome_find?_registerEach]
    simp only [requestedEach, hrequested.mem_iff]
  refine ⟨h.contents_alike h' htaken, h.lookup_alike h' hfallback htaken, fun hnodup => ?_⟩
  have hnodup' : ((requestedEach calls').map Route.key).Nodup :=
    (hrequested.map Route.key).nodup_iff.mp hnodup
  have hfind : ∀ p, r.table.find? p = r'.table.find? p := by
    intro p
    apply Option.ext
    intro route
    rw [find?_eq_some_iff_of_nodup hnodup, find?_eq_some_iff_of_nodup hnodup']
    exact and_congr_left' hrequested.mem_iff
  exact ⟨h.lookup_ext h' hfallback hfind, h.patterns_ext h' hfind⟩

/-- Two calls ask for one place and a third is no pattern: in the other order the other names are
    bound, to the same values.  Where calls ask for different places the order leaves no trace. -/
theorem registerEach_perm_of_taken_place :
    let first := ("GET /\x7ba\x7d/\x7bb...\x7d", some 0)
    let calls := [first, ("GET /\x7bc\x7d/", some 1), ("GET", some 2)]
    let fewer := [first, ("GET /x/\x7b$\x7d", some 1), ("GET", none)]
    let after := fun calls => ((Router.empty {} : Router Nat).registerEach calls).1
    let q : Query := ⟨"GET", "", "/x/"⟩
    ((after calls).lookup q).map Match.params = some [("a", "x"), ("b", "")] ∧
      ((after calls.reverse).lookup q).map Match.params = some [("c", "x"), ("", "")] ∧
      Option.Rel Match.SameButNames ((after calls).lookup q) ((after calls.reverse).lookup q) ∧
      (after fewer).lookup q = (after fewer.reverse).lookup q :=
  ⟨by decide +kernel, by decide +kernel,
    (registerEach_perm {} (List.reverse_perm _).symm).2.1 _,
    ((registerEach_perm {} (List.reverse_perm _).symm).2.2 (by decide +kernel)).1 _⟩

end Router

end HttpRouting
