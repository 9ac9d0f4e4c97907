/-
  Registrations, runs of them, and the invariant of the routers they lead to.

  1. **One step** - `Router.Outcome` lists what a registration can do: three refusals, which leave
     the router as it is, and two ways of entering a route.  `outcome_register` says that every
     registration does one of these, and `register_of_parse` which one, if the text is a pattern.
     No later proof opens `Router.register`.

  2. **Runs** - `runEach` makes calls in order whether or not they are refused, and a relation that
     single steps keep is kept by runs (`runEach_simulates`).  `Router.Reachable` is what any
     registrations make of an empty router.

  3. **The invariant** - `RouteTable.Consistent`: the trie is tidy, every route is held at the
     address of its own pattern, and that pattern was parsed.  `Reachable.consistent` carries it
     through every run.
-/
import HttpRouting.Proofs.Pattern.WellFormed
import HttpRouting.Proofs.Trie.Vertices
import HttpRouting.Router.Basic

namespace HttpRouting

universe u v w z

variable {H : Type u}

/-! ## One registration -/

/-- What a registration of a handler under the pattern that `spec` writes can do to a router. -/
inductive Router.Outcome (r : Router H) (spec : String) :
    Option H → Router H × Except RouteError Registration → Prop
  /-- There is no handler. -/
  | missing : Outcome r spec none (r, .error ⟨spec, .missingHandler⟩)
  /-- The text is no pattern. -/
  | malformed (handler : H) {e : PatternError} (hparse : Pattern.parse spec = .error e) :
      Outcome r spec (some handler) (r, .error ⟨spec, .malformed e⟩)
  /-- The place is taken, and the route that holds it stays. -/
  | conflict (handler : H) {p : Pattern} {held : Route H} (hparse : Pattern.parse spec = .ok p)
      (hheld : r.table.find? p = some held) (hreject : r.config.collision = .reject) :
      Outcome r spec (some handler) (r, .error ⟨spec, .conflict held.pattern.render⟩)
  /-- The place is free. -/
  | added (handler : H) {p : Pattern} (hparse : Pattern.parse spec = .ok p)
      (hfree : r.table.find? p = none) :
      Outcome r spec (some handler)
        ({ r with table := r.table.insert p.address ⟨handler, p⟩, size := r.size + 1 },
          .ok (.added p))
  /-- The place is taken, and the route that holds it leaves. -/
  | replaced (handler : H) {p : Pattern} {held : Route H} (hparse : Pattern.parse spec = .ok p)
      (hheld : r.table.find? p = some held) (hreplace : r.config.collision = .replace) :
      Outcome r spec (some handler)
        ({ r with table := r.table.insert p.address ⟨handler, p⟩ },
          .ok (.replaced p held.pattern))

/-- What a registration under a pattern does, by what holds its place. -/
theorem Router.register_of_parse {r : Router H} {spec : String} {p : Pattern}
    (hparse : Pattern.parse spec = .ok p) (handler : H) :
    r.register spec (some handler) =
      match r.table.find? p, r.config.collision with
      | none, _ =>
        ({ r with table := r.table.insert p.address ⟨handler, p⟩, size := r.size + 1 },
          .ok (.added p))
      | some held, .reject => (r, .error ⟨spec, .conflict held.pattern.render⟩)
      | some held, .replace =>
        ({ r with table := r.table.insert p.address ⟨handler, p⟩ },
          .ok (.replaced p held.pattern)) := by
  unfold register
  rw [hparse]
  show ((r.enter p handler).1, (r.enter p handler).2.mapError (RouteError.mk spec)) = _
  unfold enter
  rw [RouteTable.enter_eq]
  cases r.table.find? p <;> cases r.config.collision <;> rfl

/-- A route takes a free place, under either policy. -/
theorem Router.register_of_free {r : Router H} {spec : String} {p : Pattern}
    (hparse : Pattern.parse spec = .ok p) (hfree : r.table.find? p = none) (handler : H) :
    r.register spec (some handler) =
      ({ r with table := r.table.insert p.address ⟨handler, p⟩, size := r.size + 1 },
        .ok (.added p)) := by
  rw [register_of_parse hparse, hfree]

/-- The table of the router that is made for one pattern. -/
theorem Router.table_register_empty (config : Config) {spec : String} {p : Pattern}
    (hparse : Pattern.parse spec = .ok p) (handler : H) :
    ((Router.empty config).register spec (some handler)).1.table =
      Trie.insert ∅ p.address ⟨handler, p⟩ := by
  have hfree : (Router.empty config : Router H).table.find? p = none := Trie.get?_empty p.address
  rw [register_of_free hparse hfree]
  rfl

/-- Every registration has one of the outcomes. -/
theorem Router.outcome_register (r : Router H) (spec : String) (handler : Option H) :
    r.Outcome spec handler (r.register spec handler) := by
  cases handler with
  | none => exact .missing
  | some handler =>
    cases hparse : Pattern.parse spec with
    | error e =>
      unfold register
      rw [hparse]
      exact .malformed handler hparse
    | ok p =>
      rw [register_of_parse hparse]
      cases hheld : r.table.find? p with
      | none => exact .added handler hparse hheld
      | some held =>
        cases hcollision : r.config.collision with
        | reject => exact .conflict handler hparse hheld hcollision
        | replace => exact .replaced handler hparse hheld hcollision

/-- A registration leaves the set-up of a router alone. -/
theorem Router.Outcome.config_eq {r : Router H} {spec : String} {handler : Option H}
    {after : Router H × Except RouteError Registration} (h : r.Outcome spec handler after) :
    after.1.config = r.config := by
  cases h <;> rfl

/-! ## Runs -/

/-- Makes calls in order, whatever their results: the state after them, and the results. -/
def runEach {S : Type u} {C : Type v} {R : Type w} (step : S → C → S × R) (s : S) :
    List C → S × List R
  | [] => (s, [])
  | call :: rest =>
    let (after, result) := step s call
    let (final, results) := runEach step after rest
    (final, result :: results)

section

variable {S : Type u} {C : Type v} {R : Type w} {step : S → C → S × R}

/-- A run has one result for each call. -/
theorem length_runEach (s : S) (calls : List C) :
    (runEach step s calls).2.length = calls.length := by
  induction calls generalizing s with
  | nil => rfl
  | cons call rest ih => exact congrArg (· + 1) (ih _)

/-- Each result of a run is the result of its call in some state. -/
theorem exists_step_of_mem_zip {s : S} {calls : List C} {call : C} {result : R}
    (h : (call, result) ∈ calls.zip (runEach step s calls).2) : ∃ s', (step s' call).2 = result := by
  induction calls generalizing s with
  | nil => cases h
  | cons first rest ih =>
    rcases List.mem_cons.mp h with heq | hrest
    · obtain ⟨rfl, rfl⟩ := Prod.mk.inj heq
      exact ⟨s, rfl⟩
    · exact ih hrest

/-- **Simulation.**  Two systems that give the same results in related states, and stay related,
    give the same results in every run. -/
theorem runEach_simulates {S' : Type z} {step' : S' → C → S' × R} {rel : S → S' → Prop}
    (hstep : ∀ s s' call, rel s s' →
      (step s call).2 = (step' s' call).2 ∧ rel (step s call).1 (step' s' call).1)
    {s : S} {s' : S'} (h : rel s s') (calls : List C) :
    (runEach step s calls).2 = (runEach step' s' calls).2 ∧
      rel (runEach step s calls).1 (runEach step' s' calls).1 := by
  induction calls generalizing s s' with
  | nil => exact ⟨rfl, h⟩
  | cons call rest ih =>
    obtain ⟨hresult, hafter⟩ := hstep s s' call h
    obtain ⟨hresults, hfinal⟩ := ih hafter
    refine ⟨?_, hfinal⟩
    show (step s call).2 :: (runEach step (step s call).1 rest).2 =
      (step' s' call).2 :: (runEach step' (step' s' call).1 rest).2
    rw [hresult, hresults]

end

namespace Router

/-- Makes registrations in order, refused or not. -/
def registerEach (r : Router H) (calls : List (String × Option H)) :
    Router H × List (Except RouteError Registration) :=
  runEach (fun r call => r.register call.1 call.2) r calls

theorem registerEach_cons (r : Router H) (call : String × Option H)
    (rest : List (String × Option H)) :
    r.registerEach (call :: rest) =
      (((r.register call.1 call.2).1.registerEach rest).1,
        (r.register call.1 call.2).2 :: ((r.register call.1 call.2).1.registerEach rest).2) := rfl

/-- The routers that registrations, refused or not, make of an empty router. -/
inductive Reachable : Router H → Prop
  | empty (config : Config) : Reachable (Router.empty config)
  | register {r : Router H} (h : Reachable r) (spec : String) (handler : Option H) :
      Reachable (r.register spec handler).1

theorem Reachable.registerEach {r : Router H} (h : r.Reachable)
    (calls : List (String × Option H)) : (r.registerEach calls).1.Reachable := by
  induction calls generalizing r with
  | nil => exact h
  | cons call rest ih => exact ih (h.register call.1 call.2)

theorem config_registerEach (r : Router H) (calls : List (String × Option H)) :
    (r.registerEach calls).1.config = r.config := by
  induction calls generalizing r with
  | nil => rfl
  | cons call rest ih => exact (ih _).trans (r.outcome_register call.1 call.2).config_eq

end Router

/-! ## The invariant -/

/-- A table of routes as registrations leave it. -/
structure RouteTable.Consistent (table : RouteTable H) : Prop where
  /-- No dead branches, and no two edges of a vertex with one label. -/
  tidy : table.Tidy
  /-- A route is held at the address of its pattern. -/
  placed : ∀ address route, table.get? address = some route → address = route.pattern.address
  /-- The pattern of a route was parsed. -/
  parsed : ∀ address route, table.get? address = some route →
    ∃ spec, Pattern.parse spec = .ok route.pattern

namespace RouteTable.Consistent

variable {table : RouteTable H}

theorem empty : (∅ : RouteTable H).Consistent where
  tidy := Trie.tidy_empty
  placed address route h := by rw [Trie.get?_empty] at h; cases h
  parsed address route h := by rw [Trie.get?_empty] at h; cases h

/-- Entering a route at the address of its pattern keeps a table consistent. -/
theorem insert (h : table.Consistent) {spec : String} {p : Pattern}
    (hparse : Pattern.parse spec = .ok p) (handler : H) :
    RouteTable.Consistent (Trie.insert table p.address ⟨handler, p⟩) where
  tidy := Trie.tidy_insert h.tidy _ _
  placed address route hget := by
    by_cases haddress : p.address = address
    · subst haddress
      rw [Trie.get?_insert_self] at hget
      obtain rfl := Option.some.inj hget
      rfl
    · rw [Trie.get?_insert_of_ne haddress] at hget
      exact h.placed address route hget
  parsed address route hget := by
    by_cases haddress : p.address = address
    · subst haddress
      rw [Trie.get?_insert_self] at hget
      obtain rfl := Option.some.inj hget
      exact ⟨spec, hparse⟩
    · rw [Trie.get?_insert_of_ne haddress] at hget
      exact h.parsed address route hget

/-- The routes enumerated are those held at the addresses of their patterns. -/
theorem mem_routes_iff (h : table.Consistent) {route : Route H} :
    route ∈ table.routes ↔ table.get? route.pattern.address = some route := by
  rw [routes, Trie.mem_values_iff h.tidy]
  constructor
  · rintro ⟨address, hget⟩
    rwa [← h.placed address route hget]
  · intro hget
    exact ⟨_, hget⟩

/-- The pattern of every route held is well-formed. -/
theorem wellFormed (h : table.Consistent) {route : Route H} (hmem : route ∈ table.routes) :
    route.pattern.WellFormed := by
  obtain ⟨spec, hparse⟩ := h.parsed _ _ (h.mem_routes_iff.mp hmem)
  exact (Pattern.parse_eq_ok_iff.mp hparse).1

/-- The segments of every route held are arranged. -/
theorem arranged (h : table.Consistent) {address : List Label} {route : Route H}
    (hget : table.get? address = some route) : Segment.Arranged route.pattern.segments := by
  obtain ⟨spec, hparse⟩ := h.parsed address route hget
  exact Pattern.arranged_of_parse hparse

end RouteTable.Consistent

/-- One registration keeps the invariant. -/
theorem Router.Outcome.consistent {r : Router H} {spec : String} {handler : Option H}
    {after : Router H × Except RouteError Registration} (h : r.Outcome spec handler after)
    (hr : r.table.Consistent) : after.1.table.Consistent := by
  cases h with
  | missing => exact hr
  | malformed handler _ => exact hr
  | conflict handler _ _ _ => exact hr
  | added handler hparse _ => exact hr.insert hparse handler
  | replaced handler hparse _ _ => exact hr.insert hparse handler

/-- **The invariant of reachable routers.** -/
theorem Router.Reachable.consistent {r : Router H} (h : r.Reachable) : r.table.Consistent := by
  induction h with
  | empty config => exact RouteTable.Consistent.empty
  | @register r _ spec handler ih => exact (r.outcome_register spec handler).consistent ih

end HttpRouting
