/-
  A new route diverts to itself only the requests that it can serve.

  A route that is entered adds branches to vertices that it shares with others, and the search goes
  another way.  Still every answer is the one from before or the one that the new route would give if
  it were alone.

  1. **Searches in a row** - `Diverted` compares three searches: among the old routes, with nothing
     but the new one, and among all.  It is kept by trying one search after another (`Diverted.or`),
     so it passes from one host and method to all of them, HEAD fallback included.

  2. **First routes** - under one host and one method, what is found is the route that serves and
     goes over all others that serve (`First`).  So a search depends on which routes serve, and on
     nothing else of the trie.

  3. **The crux** - `Gains.diverted_resultUnder`.  If the new route does not serve, the same routes
     serve as before, for the route whose place it took has its labels.  If it serves, then either
     it is first, or an old route goes over it; and that one was first before, since the route that
     left had the labels of the new one.
-/
import HttpRouting.Proofs.Router.Order

namespace HttpRouting

universe u v

variable {H : Type u}

/-! ## Searches in a row -/

section

variable {α : Type u} {β : Type v}

/-- How the result of a search changes when something new joins what is searched: `before` is found
    without it, `alone` with nothing else, and `after` with everything.  `Gone` holds of what the new
    one took the place of. -/
structure Diverted (Gone : α → Prop) (before alone after : Option α) : Prop where
  /-- Where the new one is of no use, the result is the old one. -/
  eq_before : alone = none → after = before
  /-- Everywhere the result is the old one or the new one. -/
  eq_or : after = before ∨ after = alone
  /-- Where the new one is of use, there is a result. -/
  isSome_after : alone.isSome → after.isSome
  /-- The new one stands in for what it took the place of. -/
  of_gone : ∀ found, before = some found → Gone found → alone.isSome ∧ after = alone

namespace Diverted

variable {Gone : α → Prop} {before alone after before' alone' after' : Option α}

theorem nothing : Diverted Gone none none none where
  eq_before _ := rfl
  eq_or := Or.inl rfl
  isSome_after h := h
  of_gone := nofun

/-- Two searches that are both diverted, the second for what the first does not find. -/
theorem or (h : Diverted Gone before alone after) (h' : Diverted Gone before' alone' after') :
    Diverted Gone (before.or before') (alone.or alone') (after.or after') := by
  cases alone with
  | none =>
    obtain rfl := h.eq_before rfl
    cases after with
    | none => exact h'
    | some found =>
      refine ⟨fun _ => rfl, Or.inl rfl, fun _ => rfl, ?_⟩
      intro old hold hgone
      obtain rfl := Option.some.inj hold
      exact absurd (h.of_gone found rfl hgone).1 Bool.false_ne_true
  | some new =>
    -- the first search finds something, and the second one is not made
    obtain ⟨found, rfl⟩ := Option.isSome_iff_exists.mp (h.isSome_after rfl)
    refine ⟨nofun, ?_, fun _ => rfl, fun old hold hgone => ⟨rfl, ?_⟩⟩
    · rcases h.eq_or with rfl | heq
      · exact Or.inl rfl
      · exact Or.inr heq
    · cases before with
      | none => exact h.eq_or.resolve_left (Option.some_ne_none found)
      | some first =>
        obtain rfl := Option.some.inj hold
        exact (h.of_gone first rfl hgone).2

/-- Searches made in order, each of them diverted. -/
theorem findSome? {f g k : β → Option α} (h : ∀ b, Diverted Gone (f b) (g b) (k b)) (l : List β) :
    Diverted Gone (l.findSome? f) (l.findSome? g) (l.findSome? k) := by
  have hcons : ∀ (f : β → Option α) b rest,
      (b :: rest).findSome? f = (f b).or (rest.findSome? f) := by
    intro f b rest
    rw [List.findSome?_cons]
    cases f b <;> rfl
  induction l with
  | nil => exact nothing
  | cons b rest ih =>
    rw [hcons, hcons, hcons]
    exact (h b).or ih

/-- The results seen through a function. -/
theorem map {Gone : β → Prop} (f : α → β) (h : Diverted (Gone ∘ f) before alone after) :
    Diverted Gone (before.map f) (alone.map f) (after.map f) where
  eq_before hnone := by rw [h.eq_before (Option.map_eq_none_iff.mp hnone)]
  eq_or := h.eq_or.imp (congrArg (Option.map f)) (congrArg (Option.map f))
  isSome_after := by
    rw [Option.isSome_map, Option.isSome_map]
    exact h.isSome_after
  of_gone := by
    rintro _ hfound hgone
    obtain ⟨found, hbefore, rfl⟩ := Option.map_eq_some_iff.mp hfound
    obtain ⟨hsome, heq⟩ := h.of_gone found hbefore hgone
    rw [Option.isSome_map, heq]
    exact ⟨hsome, rfl⟩

/-- What was found before is not lost. -/
theorem isSome_of_isSome (h : Diverted Gone before alone after) (hbefore : before.isSome) :
    after.isSome := by
  cases halone : alone with
  | none => rwa [h.eq_before halone]
  | some new => exact h.isSome_after (Option.isSome_of_eq_some halone)

end Diverted

end

/-! ## First routes -/

namespace RouteTable

variable {table alone table' : RouteTable H} {tokens : List String} {host method : String}
  {route other best : Route H}

/-- Whether a route serves depends on its key only. -/
theorem Serves.of_key_eq (h : table.Serves tokens host method route) (hmem : other ∈ table'.routes)
    (hkey : other.key = route.key) : table'.Serves tokens host method other := by
  obtain ⟨hmethod, hhost, hlabels⟩ := Pattern.Key.mk.inj hkey
  exact ⟨hmem, hhost.trans h.host_eq, hmethod.trans h.method_eq, hlabels ▸ h.takes⟩

/-- A route that serves, and that goes over all others that serve. -/
structure First (table : RouteTable H) (tokens : List String) (host method : String)
    (best : Route H) : Prop where
  serves : table.Serves tokens host method best
  above : ∀ other, table.Serves tokens host method other →
    best = other ∨ Label.Over best.pattern.labels other.pattern.labels

theorem First.unique (h : table.First tokens host method best)
    (h' : table.First tokens host method other) : best = other := by
  rcases h.above other h'.serves with heq | hover
  · exact heq
  · rcases h'.above best h.serves with heq | hover'
    · exact heq.symm
    · exact absurd hover' hover.asymm

/-- What is found is first. -/
theorem Consistent.first_of_resultUnder (h : table.Consistent) {found : Route H × Captures}
    (hfound : table.resultUnder tokens host method = some found) :
    table.First tokens host method found.1 ∧ found = capturing tokens found.1 := by
  obtain ⟨hserves, heq⟩ := h.serves_of_resultUnder hfound
  refine ⟨⟨hserves, fun other hother => ?_⟩, heq⟩
  obtain ⟨best, hbest, -, hover⟩ := hother.resultUnder_eq h
  obtain rfl := Option.some.inj (hfound.symm.trans hbest)
  exact hover

/-- The route that is first is found. -/
theorem First.resultUnder_eq (hfirst : table.First tokens host method best)
    (h : table.Consistent) :
    table.resultUnder tokens host method = some (capturing tokens best) := by
  obtain ⟨found, hfound, -, -⟩ := hfirst.serves.resultUnder_eq h
  rw [hfound, hfirst.unique (h.first_of_resultUnder hfound).1]
  rfl

/-- Nothing is found exactly if no route serves. -/
theorem Consistent.resultUnder_eq_none_iff (h : table.Consistent) :
    table.resultUnder tokens host method = none ↔
      ∀ route, ¬table.Serves tokens host method route := by
  constructor
  · intro hnone route hserves
    obtain ⟨best, hfound, -⟩ := hserves.resultUnder_eq h
    cases hnone.symm.trans hfound
  · intro hall
    rw [Option.eq_none_iff_forall_ne_some]
    exact fun found hfound => hall _ (h.first_of_resultUnder hfound).1.serves

/-- A search depends only on the routes that serve. -/
theorem Consistent.resultUnder_congr (h : table.Consistent) (h' : table'.Consistent)
    (hserves : ∀ route, table'.Serves tokens host method route ↔
      table.Serves tokens host method route) :
    table'.resultUnder tokens host method = table.resultUnder tokens host method := by
  cases hfound : table.resultUnder tokens host method with
  | none =>
    rw [h'.resultUnder_eq_none_iff]
    intro route
    rw [hserves]
    exact h.resultUnder_eq_none_iff.mp hfound route
  | some found =>
    obtain ⟨hfirst, heq⟩ := h.first_of_resultUnder hfound
    have hfirst' : table'.First tokens host method found.1 :=
      ⟨(hserves _).mpr hfirst.serves, fun other hother => hfirst.above other ((hserves other).mp hother)⟩
    rw [hfirst'.resultUnder_eq h', ← heq]

/-! ## A table that gains a route -/

/-- `table'` holds the routes of `table` and a new one, in the place of the one with its key, and
    `alone` holds nothing but the new one. -/
structure Gains (table alone table' : RouteTable H) (new : Route H) : Prop where
  before : table.Consistent
  single : alone.Consistent
  after : table'.Consistent
  mem_single_iff : ∀ route, route ∈ alone.routes ↔ route = new
  mem_after_iff : ∀ route,
    route ∈ table'.routes ↔ route = new ∨ route ∈ table.routes ∧ route.key ≠ new.key

/-- The routes after a route has been entered. -/
theorem Consistent.mem_routes_insert_iff (h : table.Consistent) {spec : String} {p : Pattern}
    (hparse : Pattern.parse spec = .ok p) (handler : H) (route : Route H) :
    route ∈ RouteTable.routes (Trie.insert table p.address ⟨handler, p⟩) ↔
      route = ⟨handler, p⟩ ∨ route ∈ table.routes ∧ route.key ≠ p.key := by
  have hmem : ∀ {t : RouteTable H}, t.Consistent →
      (route ∈ t.routes ↔ t.find? route.pattern = some route) := by
    intro t ht
    rw [ht.find?_eq_some_iff]
    exact (and_iff_left rfl).symm
  rw [hmem (h.insert hparse handler), hmem h, find?_insert]
  by_cases hkey : p.key = route.pattern.key
  · rw [if_pos hkey, Option.some_inj]
    have hsame : ¬(route.key ≠ p.key) := fun hne => hne hkey.symm
    exact ⟨fun heq => Or.inl heq.symm, fun hor => (hor.resolve_right fun hold => hsame hold.2).symm⟩
  · rw [if_neg hkey]
    refine ⟨fun hold => Or.inr ⟨hold, fun heq => hkey heq.symm⟩, fun hor => ?_⟩
    rcases hor with rfl | hold
    · exact absurd rfl hkey
    · exact hold.1

/-- A table gains the route that is entered. -/
theorem Consistent.gains_insert (h : table.Consistent) {spec : String} {p : Pattern}
    (hparse : Pattern.parse spec = .ok p) (handler : H) :
    Gains table (Trie.insert ∅ p.address ⟨handler, p⟩) (Trie.insert table p.address ⟨handler, p⟩)
      ⟨handler, p⟩ where
  before := h
  single := Consistent.empty.insert hparse handler
  after := h.insert hparse handler
  mem_single_iff route := by
    rw [Consistent.empty.mem_routes_insert_iff hparse handler]
    exact or_iff_left fun hold => List.not_mem_nil hold.1
  mem_after_iff := h.mem_routes_insert_iff hparse handler

variable {new : Route H}

/-- Without the new route serving, the same routes serve as before. -/
theorem Gains.serves_iff (h : Gains table alone table' new)
    (hnew : ¬alone.Serves tokens host method new) (route : Route H) :
    table'.Serves tokens host method route ↔ table.Serves tokens host method route := by
  have hsingle : new ∈ alone.routes := (h.mem_single_iff new).mpr rfl
  constructor
  · intro hserves
    rcases (h.mem_after_iff route).mp hserves.mem with rfl | ⟨hmem, -⟩
    · exact absurd (hserves.of_key_eq hsingle rfl) hnew
    · exact hserves.of_key_eq hmem rfl
  · intro hserves
    -- the route whose place was taken would serve with the labels of the new one
    have hkey : route.key ≠ new.key := fun heq => hnew (hserves.of_key_eq hsingle heq.symm)
    exact hserves.of_key_eq ((h.mem_after_iff route).mpr (Or.inr ⟨hserves.mem, hkey⟩)) rfl

/-- A route that goes over the new one was first before if it is first now. -/
theorem Gains.first_of_over (h : Gains table alone table' new)
    (hfirst : table'.First tokens host method best)
    (hover : Label.Over best.pattern.labels new.pattern.labels) :
    table.First tokens host method best ∧ best.key ≠ new.key := by
  have hkey : best.key ≠ new.key := by
    intro heq
    rw [(Pattern.Key.mk.inj heq).2.2] at hover
    exact hover.asymm hover
  have hmem : best ∈ table.routes := by
    rcases (h.mem_after_iff best).mp hfirst.serves.mem with rfl | ⟨hmem, -⟩
    · exact absurd rfl hkey
    · exact hmem
  refine ⟨⟨hfirst.serves.of_key_eq hmem rfl, fun other hother => ?_⟩, hkey⟩
  by_cases hgone : other.key = new.key
  · rw [(Pattern.Key.mk.inj hgone).2.2]
    exact Or.inr hover
  · exact hfirst.above other
      (hother.of_key_eq ((h.mem_after_iff other).mpr (Or.inr ⟨hother.mem, hgone⟩)) rfl)

/-- **The crux.**  Under one host and one method, a search is diverted to the new route at most. -/
theorem Gains.diverted_resultUnder (h : Gains table alone table' new) (tokens : List String)
    (host method : String) :
    Diverted (fun found => found.1.key = new.key) (table.resultUnder tokens host method)
      (alone.resultUnder tokens host method) (table'.resultUnder tokens host method) := by
  have hsingle : new ∈ alone.routes := (h.mem_single_iff new).mpr rfl
  by_cases hnew : alone.Serves tokens host method new
  · have halone : alone.resultUnder tokens host method = some (capturing tokens new) := by
      refine First.resultUnder_eq ⟨hnew, fun other hother => Or.inl ?_⟩ h.single
      exact ((h.mem_single_iff other).mp hother.mem).symm
    have hserves := hnew.of_key_eq ((h.mem_after_iff new).mpr (Or.inl rfl)) rfl
    obtain ⟨best, hafter, -, rfl | hover⟩ := hserves.resultUnder_eq h.after
    · rw [halone, hafter]
      exact ⟨nofun, Or.inr rfl, fun _ => rfl, fun _ _ _ => ⟨rfl, rfl⟩⟩
    · obtain ⟨hfirst, hkey⟩ := h.first_of_over (h.after.first_of_resultUnder hafter).1 hover
      rw [halone, hafter, hfirst.resultUnder_eq h.before]
      refine ⟨nofun, Or.inl rfl, fun _ => rfl, fun found hfound hgone => ?_⟩
      obtain rfl := Option.some.inj hfound
      exact absurd hgone hkey
  · have halone : alone.resultUnder tokens host method = none := by
      rw [h.single.resultUnder_eq_none_iff]
      intro route hserves
      obtain rfl := (h.mem_single_iff route).mp hserves.mem
      exact hnew hserves
    rw [halone, h.before.resultUnder_congr h.after (h.serves_iff hnew)]
    refine ⟨fun _ => rfl, Or.inl rfl, nofun, fun found hfound hgone => ?_⟩
    -- what the new route took the place of would serve with its labels
    have hserves := (h.before.first_of_resultUnder hfound).1.serves
    exact absurd (hserves.of_key_eq hsingle hgone.symm) hnew

/-- Every lookup is diverted to the new route at most. -/
theorem Gains.diverted_lookup (h : Gains table alone table' new) (headFallback : Bool) (q : Query) :
    Diverted (fun found => found.1.key = new.key) (table.lookup headFallback q)
      (alone.lookup headFallback q) (table'.lookup headFallback q) := by
  rw [lookup_eq, lookup_eq, lookup_eq]
  cases Path.tokens? q.path with
  | none => exact .nothing
  | some tokens =>
    exact .findSome? (fun host => .findSome? (h.diverted_resultUnder tokens host) _) _

end RouteTable

/-! ## Registration -/

namespace Router

/-- A registration that succeeds enters a route, and what it replaces has the key of this route. -/
theorem Outcome.gains {r : Router H} {spec : String} {handler : Option H}
    {after : Router H × Except RouteError Registration} (h : r.Outcome spec handler after)
    (htable : r.table.Consistent) {done : Registration} (hdone : after.2 = .ok done) :
    ∃ new, RouteTable.Gains r.table ((Router.empty r.config).register spec handler).1.table
        after.1.table new ∧
      ∀ p previous, done = .replaced p previous → previous.key = new.key := by
  cases h with
  | missing => cases hdone
  | malformed handler _ => cases hdone
  | conflict handler _ _ _ => cases hdone
  | added handler hparse _ =>
    obtain rfl := Except.ok.inj hdone
    rw [table_register_empty r.config hparse handler]
    exact ⟨_, htable.gains_insert hparse handler, nofun⟩
  | replaced handler hparse hheld _ =>
    obtain rfl := Except.ok.inj hdone
    rw [table_register_empty r.config hparse handler]
    refine ⟨_, htable.gains_insert hparse handler, fun p previous hreplaced => ?_⟩
    obtain ⟨rfl, rfl⟩ := Registration.replaced.inj hreplaced
    exact htable.key_of_find? hheld

/-- What a registration that succeeds makes of every answer. -/
theorem Reachable.diverted_lookup {r : Router H} (hr : r.Reachable) {spec : String}
    {handler : Option H} {done : Registration} (hdone : (r.register spec handler).2 = .ok done) :
    ∃ key, (∀ q, Diverted (fun found : Match H => found.pattern.key = key) (r.lookup q)
        (((Router.empty r.config).register spec handler).1.lookup q)
        ((r.register spec handler).1.lookup q)) ∧
      ∀ p previous, done = .replaced p previous → previous.key = key := by
  have houtcome := r.outcome_register spec handler
  have hconfig := ((Router.empty r.config).outcome_register spec handler).config_eq
  obtain ⟨new, hgains, hkey⟩ := houtcome.gains hr.consistent hdone
  refine ⟨new.key, fun q => ?_, hkey⟩
  rw [lookup, lookup, lookup, houtcome.config_eq, hconfig]
  exact (hgains.diverted_lookup r.config.headFallback q).map _

/-- **A registration changes only the requests that its route can serve.**  A query that the new route
    alone does not answer has the answer from before; any other has the answer from before or the one
    of the new route alone.  So what was answered still is, and what the replaced route answered is
    answered by the new one. -/
theorem Reachable.register_diverts {r : Router H} (hr : r.Reachable) {spec : String}
    {handler : Option H} {done : Registration} (hdone : (r.register spec handler).2 = .ok done) :
    let after := (r.register spec handler).1
    let alone := ((Router.empty r.config).register spec handler).1
    ∀ q, (alone.lookup q = none → after.lookup q = r.lookup q) ∧
      (after.lookup q = r.lookup q ∨ after.lookup q = alone.lookup q) ∧
      ((r.lookup q).isSome → (after.lookup q).isSome) ∧
      ∀ p previous found, done = .replaced p previous → r.lookup q = some found →
        found.pattern = previous →
          ∃ new, after.lookup q = some new ∧ alone.lookup q = some new := by
  intro after alone q
  obtain ⟨key, hdiverted, hkey⟩ := hr.diverted_lookup hdone
  refine ⟨(hdiverted q).eq_before, (hdiverted q).eq_or, (hdiverted q).isSome_of_isSome, ?_⟩
  rintro p _ found hreplaced hfound rfl
  obtain ⟨hsome, heq⟩ := (hdiverted q).of_gone found hfound (hkey p _ hreplaced)
  obtain ⟨new, hnew⟩ := Option.isSome_iff_exists.mp hsome
  exact ⟨new, heq.trans hnew, hnew⟩

/-- A wildcard takes the place of another one, and with it a HEAD request that the fallback brings to
    its host. -/
theorem register_diverts_named_head :
    let r := ((Router.empty ⟨.replace, true⟩ : Router Nat).registerEach
      [("HEAD /\x7brest...\x7d", some 0), ("GET h/\x7bx\x7d", some 1), ("GET h/a", some 2)]).1
    let after := (r.register "GET h/\x7by\x7d" (some 3)).1
    let alone := ((Router.empty r.config).register "GET h/\x7by\x7d" (some 3)).1
    let p : Pattern := ⟨"GET", "h", [.wildcard "y"]⟩
    let previous : Pattern := ⟨"GET", "h", [.wildcard "x"]⟩
    (r.register "GET h/\x7by\x7d" (some 3)).2 = .ok (.replaced p previous) ∧
      ((r.lookup ⟨"HEAD", "h", "/b"⟩).map Match.pattern = some previous ∧
        ∃ new, after.lookup ⟨"HEAD", "h", "/b"⟩ = some new ∧
          alone.lookup ⟨"HEAD", "h", "/b"⟩ = some new) ∧
      (alone.lookup ⟨"GET", "h", "/a/b"⟩ = none ∧
        after.lookup ⟨"GET", "h", "/a/b"⟩ = r.lookup ⟨"GET", "h", "/a/b"⟩) ∧
      (after.lookup ⟨"GET", "h", "/a"⟩ = r.lookup ⟨"GET", "h", "/a"⟩ ∨
        after.lookup ⟨"GET", "h", "/a"⟩ = alone.lookup ⟨"GET", "h", "/a"⟩) := by
  intro r after alone p previous
  have hr : r.Reachable := (Reachable.empty _).registerEach _
  have hdone : (r.register "GET h/\x7by\x7d" (some 3)).2 = .ok (.replaced p previous) := by
    decide +kernel
  have hheld : (r.lookup ⟨"HEAD", "h", "/b"⟩).map Match.pattern = some previous := by
    decide +kernel
  have hnone : alone.lookup ⟨"GET", "h", "/a/b"⟩ = none := by rfl
  obtain ⟨found, hfound, hpattern⟩ := Option.map_eq_some_iff.mp hheld
  exact ⟨hdone,
    ⟨hheld, (hr.register_diverts hdone _).2.2.2 p previous found rfl hfound hpattern⟩,
    ⟨hnone, (hr.register_diverts hdone _).1 hnone⟩, (hr.register_diverts hdone _).2.1⟩

end Router

end HttpRouting
