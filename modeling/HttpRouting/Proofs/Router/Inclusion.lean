/-
  Patterns compared by the queries that they match.

  1. **Matching** - a pattern matches the queries that are answered by a router that holds this
     pattern only and has no HEAD fallback (`Pattern.Matches`).  All such routers answer the same
     queries, those that the pattern applies to (`isSome_lookup_iff_applies`).

  2. **Inclusion** - if a pattern matches no query that another one does not match, then the two
     have one key or the first outranks the second (`key_eq_or_outranks_of_imp`).  A pattern matches
     infinitely many queries, but one of them decides, its exemplar (`key_eq_or_outranks`).

  3. **Collisions** - so patterns that match the same queries have one key, for neither of two
     patterns that outrank each other could be first.  A place in the trie is taken for a pattern
     exactly if the pattern that holds it matches the same queries (`conflict_iff_matches`).

  4. **Specificity** - and of two patterns of which one matches less, this one outranks the other.
     A lookup finds a route that applies or one that outranks it, hence never the wider one of the
     two (`lookup_of_moreSpecific`).
-/
import HttpRouting.Proofs.Pattern.Exemplar
import HttpRouting.Proofs.Pattern.RoundTrip
import HttpRouting.Proofs.Router.BestMatch
import HttpRouting.Proofs.Router.Extensionality

namespace HttpRouting

universe u

variable {H : Type u}

/-! ## Matching -/

/-- Whether a router holds one route, under this pattern. -/
def Router.HoldsOnly (r : Router H) (p : Pattern) : Prop :=
  ∃ handler, r.table.routes = [⟨handler, p⟩]

/-- One route is all that is in the table that it is entered into first. -/
theorem RouteTable.routes_insert_empty (p : Pattern) (handler : H) :
    RouteTable.routes (Trie.insert ∅ p.address ⟨handler, p⟩) = [⟨handler, p⟩] := by
  have hvalues := Trie.values_insert ∅ p.address (⟨handler, p⟩ : Route H)
  rw [Trie.get?_empty, Trie.values_empty, Option.toList_none, List.append_nil] at hvalues
  exact List.perm_singleton.mp hvalues

/-- The router that holds one pattern, without the HEAD fallback. -/
def Pattern.alone (p : Pattern) : Router Unit := ((Router.empty ⟨.reject, false⟩).enter p ()).1

/-- A pattern matches the queries that the router that holds only this pattern answers. -/
def Pattern.Matches (p : Pattern) (q : Query) : Prop := (p.alone.lookup q).isSome = true

instance (p : Pattern) (q : Query) : Decidable (p.Matches q) :=
  inferInstanceAs (Decidable ((p.alone.lookup q).isSome = true))

theorem Router.Reachable.wellFormed_of_holdsOnly {r : Router H} (hr : r.Reachable) {p : Pattern}
    (honly : r.HoldsOnly p) : p.WellFormed := by
  obtain ⟨handler, hroutes⟩ := honly
  have hmem : ⟨handler, p⟩ ∈ r.table.routes := hroutes ▸ List.mem_singleton_self _
  exact hr.consistent.wellFormed hmem

/-- The router that holds one pattern answers the queries that the pattern applies to, however it
    came about. -/
theorem Router.Reachable.isSome_lookup_iff_applies {r : Router H} (hr : r.Reachable)
    (hplain : r.config.headFallback = false) {p : Pattern} (honly : r.HoldsOnly p) (q : Query) :
    (r.lookup q).isSome = true ↔ p.Applies q := by
  obtain ⟨handler, hroutes⟩ := honly
  have hmethods : RouteTable.methods r.config.headFallback q.method = [q.method] :=
    RouteTable.methods_eq_singleton (Or.inl hplain)
  rw [lookup, Option.isSome_map, hr.consistent.isSome_lookup_iff hmethods, hroutes]
  simp only [List.mem_singleton, exists_eq_left]

namespace Pattern

variable {p p' : Pattern}

theorem alone_eq (p : Pattern) :
    p.alone = ⟨Trie.insert ∅ p.address ⟨(), p⟩, ⟨.reject, false⟩, 1⟩ := by
  unfold alone Router.enter
  rw [RouteTable.enter_eq]
  rfl

theorem holdsOnly_alone (p : Pattern) : p.alone.HoldsOnly p :=
  ⟨(), by rw [alone_eq]; exact RouteTable.routes_insert_empty p ()⟩

theorem WellFormed.reachable_alone (h : p.WellFormed) : p.alone.Reachable := by
  have hregister := (Router.Reachable.empty (H := Unit) ⟨.reject, false⟩).register p.render (some ())
  rw [Router.register_of_parse h.parse_render] at hregister
  rw [alone_eq]
  exact hregister

theorem WellFormed.matches_iff_applies (h : p.WellFormed) {q : Query} :
    p.Matches q ↔ p.Applies q :=
  h.reachable_alone.isSome_lookup_iff_applies (by rw [alone_eq]) p.holdsOnly_alone q

/-- All routers that hold one pattern, without the HEAD fallback, answer the same queries. -/
theorem matches_iff_isSome_lookup {r : Router H} (hr : r.Reachable)
    (hplain : r.config.headFallback = false) (honly : r.HoldsOnly p) (q : Query) :
    p.Matches q ↔ (r.lookup q).isSome = true := by
  rw [(hr.wellFormed_of_holdsOnly honly).matches_iff_applies,
    hr.isSome_lookup_iff_applies hplain honly]

/-! ## Inclusion -/

/-- Whether a pattern applies depends on its key only. -/
theorem Applies.of_key_eq {q : Query} (h : p.Applies q) (hkey : p.key = p'.key) :
    p'.Applies q := by
  obtain ⟨hmethod, hhost, hlabels⟩ := Key.mk.inj hkey
  obtain ⟨rest, hpath, htakes⟩ := h.takes
  exact ⟨hmethod ▸ h.method_eq, hhost ▸ h.host_eq, rest, hpath, hlabels ▸ htakes⟩

theorem applies_iff {q : Query} {tokens : List String}
    (htokens : Path.tokens? q.path = some tokens) :
    p.Applies q ↔
      p.method = q.method ∧ (p.host = "" ∨ p.host = q.host) ∧ Label.Takes p.labels tokens := by
  constructor
  · rintro ⟨hmethod, hhost, rest, hpath, htakes⟩
    have hrest := Path.tokens?_eq_some.mpr ⟨rest, hpath, rfl⟩
    obtain rfl := Option.some.inj (htokens.symm.trans hrest)
    exact ⟨hmethod, hhost, htakes⟩
  · rintro ⟨hmethod, hhost, htakes⟩
    obtain ⟨rest, hpath, rfl⟩ := Path.tokens?_eq_some.mp htokens
    exact ⟨hmethod, hhost, rest, hpath, htakes⟩

/-- A pattern applies to its exemplar. -/
theorem WellFormed.applies_exemplar (h : p.WellFormed) {fresh : String} (hne : fresh ≠ "")
    (hslash : '/' ∉ fresh.toList) : p.Applies (p.exemplar fresh) :=
  (applies_iff (h.tokens?_path_exemplar hslash)).mpr
    ⟨rfl, Or.inr rfl, Label.takes_exemplar h.isPath_labels hne⟩

/-- **The crux.**  A pattern that applies to the exemplar of another one has the key of the other, or
    is outranked by it. -/
theorem WellFormed.key_eq_or_outranks (hp : p.WellFormed) (hp' : p'.WellFormed) {fresh : String}
    (hslash : '/' ∉ fresh.toList) (hnew : .literal fresh ∉ p'.labels)
    (h : p'.Applies (p.exemplar fresh)) : p.key = p'.key ∨ p.Outranks p' := by
  obtain ⟨hmethod, hhost, htakes⟩ := (applies_iff (hp.tokens?_path_exemplar hslash)).mp h
  by_cases hsame : p'.host = p.host
  · rcases Label.eq_or_over_of_takes_exemplar hp.isPath_labels hp'.isPath_labels hnew htakes with
      hlabels | hover
    · have hkey : p'.key = p.key := by
        rw [key, key, hmethod, hsame, hlabels]
        rfl
      exact Or.inl hkey.symm
    · exact Or.inr (Or.inr ⟨by rw [hsame], hover⟩)
  · -- the host of the other pattern is open, and that of this one is named
    have hopen := hhost.resolve_right hsame
    exact Or.inr (Or.inl ⟨fun hempty => hsame (hopen.trans hempty.symm), hopen⟩)

/-- A pattern that applies wherever another one does has the key of the other, or is outranked by
    it. -/
theorem WellFormed.key_eq_or_outranks_of_imp (hp : p.WellFormed) (hp' : p'.WellFormed)
    (h : ∀ q, p.Applies q → p'.Applies q) : p.key = p'.key ∨ p.Outranks p' := by
  obtain ⟨fresh, hne, hslash, hnew⟩ := Label.exists_fresh p'.labels
  exact hp.key_eq_or_outranks hp' hslash hnew (h _ (hp.applies_exemplar hne hslash))

/-- Patterns apply to the same queries exactly if they have one key. -/
theorem WellFormed.applies_iff_iff (hp : p.WellFormed) (hp' : p'.WellFormed) :
    (∀ q, p.Applies q ↔ p'.Applies q) ↔ p.key = p'.key := by
  constructor
  · intro h
    rcases hp.key_eq_or_outranks_of_imp hp' fun q => (h q).mp with hkey | houtranks
    · exact hkey
    · rcases hp'.key_eq_or_outranks_of_imp hp fun q => (h q).mpr with hkey | houtranks'
      · exact hkey.symm
      · exact absurd houtranks' houtranks.asymm
  · intro hkey q
    exact ⟨fun h => h.of_key_eq hkey, fun h => h.of_key_eq hkey.symm⟩

/-- Patterns match the same queries exactly if they have one key. -/
theorem WellFormed.matches_iff_matches (hp : p.WellFormed) (hp' : p'.WellFormed) :
    (∀ q, p.Matches q ↔ p'.Matches q) ↔ p.key = p'.key := by
  simp only [hp.matches_iff_applies, hp'.matches_iff_applies, hp.applies_iff_iff hp']

end Pattern

/-! ## Collisions -/

/-- **A collision is sameness.**  Under `Collision.reject`, a router that holds one pattern refuses
    another one exactly if the two match the same queries, and otherwise adds it. -/
theorem Router.Reachable.conflict_iff_matches {r : Router H} (hr : r.Reachable)
    (hreject : r.config.collision = .reject) {p p' : Pattern} (honly : r.HoldsOnly p)
    {spec : String} (hparse : Pattern.parse spec = .ok p') (handler : H) :
    ((r.register spec (some handler)).2 = .error ⟨spec, .conflict p.render⟩ ↔
        ∀ q, p.Matches q ↔ p'.Matches q) ∧
      ((r.register spec (some handler)).2 = .ok (.added p') ↔
        ¬∀ q, p.Matches q ↔ p'.Matches q) := by
  have hp : p.WellFormed := hr.wellFormed_of_holdsOnly honly
  have hp' : p'.WellFormed := (Pattern.parse_eq_ok_iff.mp hparse).1
  obtain ⟨held, hroutes⟩ := honly
  rw [hp.matches_iff_matches hp', register_of_parse hparse]
  by_cases hkey : p.key = p'.key
  · have htaken : r.table.find? p' = some ⟨held, p⟩ :=
      hr.consistent.find?_eq_some_iff.mpr ⟨hroutes ▸ List.mem_singleton_self _, hkey⟩
    rw [htaken, hreject]
    simp [hkey]
  · have hfree : r.table.find? p' = none := by
      rw [Option.eq_none_iff_forall_ne_some]
      intro found hfound
      obtain ⟨hfound, hkey'⟩ := hr.consistent.find?_eq_some_iff.mp hfound
      rw [hroutes, List.mem_singleton] at hfound
      subst hfound
      exact hkey hkey'
    rw [hfree]
    simp [hkey]

/-- A trailing slash stands for a catch-all, with which it matches the same paths, and `{$}` for one
    of them only. -/
theorem Router.conflict_iff_matches_of_trailing_slash :
    let r := ((Router.empty {} : Router Nat).registerEach
      [("GET h/f/\x7bx...\x7d", some 0), ("GET h/f/\x7by...\x7d", some 1)]).1
    let p : Pattern := ⟨"GET", "h", [.literal "f", .catchAll "x"]⟩
    let slash : Pattern := ⟨"GET", "h", [.literal "f", .catchAll ""]⟩
    let anchor : Pattern := ⟨"GET", "h", [.literal "f", .literal ""]⟩
    r.config.collision = .reject ∧ r.HoldsOnly p ∧
      (∀ q, p.Matches q ↔ slash.Matches q) ∧ ¬∀ q, p.Matches q ↔ anchor.Matches q := by
  intro r p slash anchor
  have hr : r.Reachable := (Reachable.empty _).registerEach _
  have honly : r.HoldsOnly p := ⟨0, by decide +kernel⟩
  have hslash : Pattern.parse "GET  h/f/" = .ok slash := by decide +kernel
  have hanchor : Pattern.parse "GET h/f/\x7b$\x7d" = .ok anchor := by decide +kernel
  exact ⟨rfl, honly, (hr.conflict_iff_matches rfl honly hslash 2).1.mp (by decide +kernel),
    (hr.conflict_iff_matches rfl honly hanchor 3).2.mp (by decide +kernel)⟩

/-! ## Specificity -/

/-- A pattern that matches less than another one. -/
structure Pattern.MoreSpecific (p p' : Pattern) : Prop where
  subset : ∀ q, p.Matches q → p'.Matches q
  proper : ∃ q, p'.Matches q ∧ ¬p.Matches q

/-- A pattern that matches less outranks the other. -/
theorem Pattern.MoreSpecific.outranks {p p' : Pattern} (h : p.MoreSpecific p')
    (hp : p.WellFormed) (hp' : p'.WellFormed) : p.Outranks p' := by
  have hsubset : ∀ q, p.Applies q → p'.Applies q := by
    intro q happlies
    exact hp'.matches_iff_applies.mp (h.subset q (hp.matches_iff_applies.mpr happlies))
  refine (hp.key_eq_or_outranks_of_imp hp' hsubset).resolve_left fun hkey => ?_
  -- with one key the two would match the same queries
  obtain ⟨q, hmatches, hnot⟩ := h.proper
  exact hnot (((hp.matches_iff_matches hp').mpr hkey q).mpr hmatches)

/-- **The more specific pattern wins.**  Of two routes of which one matches less, the wider one never
    answers a query that the narrower one matches, with the HEAD fallback or without. -/
theorem Router.Reachable.lookup_of_moreSpecific {r : Router H} (hr : r.Reachable)
    {route other : Route H} (hmem : route ∈ r.table.routes) (hother : other ∈ r.table.routes)
    (hspecific : route.pattern.MoreSpecific other.pattern) {q : Query}
    (hq : route.pattern.Matches q) :
    ∃ found, r.lookup q = some found ∧ found.pattern ≠ other.pattern := by
  have hroute := hr.consistent.wellFormed hmem
  have hrank := hspecific.outranks hroute (hr.consistent.wellFormed hother)
  obtain ⟨others, hmethods⟩ := RouteTable.methods_eq_cons r.config.headFallback q.method
  obtain ⟨⟨found, captures⟩, hfound, hbest⟩ :=
    hr.consistent.lookup_of_applies hmethods hmem (hroute.matches_iff_applies.mp hq)
  refine ⟨found.toMatch captures, lookup_of_lookup_table hfound, fun heq => ?_⟩
  have heq : found.pattern = other.pattern := heq
  rcases hbest with rfl | houtranks
  · rw [heq] at hrank
    exact hrank.asymm hrank
  · rw [heq] at houtranks
    exact hrank.asymm houtranks

/-- A wildcard in front of a catch-all, and a query that neither of the two routes answers: with the
    HEAD fallback the named host goes first. -/
theorem Router.lookup_of_moreSpecific_behind_fallback :
    let r := ((Router.empty { headFallback := true } : Router Nat).registerEach
      [("HEAD /\x7brest...\x7d", some 0), ("HEAD /\x7bx\x7d/b", some 1), ("GET h/", some 2)]).1
    let route : Route Nat := ⟨1, ⟨"HEAD", "", [.wildcard "x", .literal "b"]⟩⟩
    let other : Route Nat := ⟨0, ⟨"HEAD", "", [.catchAll "rest"]⟩⟩
    let q : Query := ⟨"HEAD", "h", "/a/b"⟩
    route.pattern.MoreSpecific other.pattern ∧ (r.lookup q).map Match.handler = some 2 ∧
      ∃ found, r.lookup q = some found ∧ found.pattern ≠ other.pattern := by
  intro r route other q
  have hr : r.Reachable := (Reachable.empty _).registerEach _
  have hmem : route ∈ r.table.routes := by decide +kernel
  have hother : other ∈ r.table.routes := by decide +kernel
  have hspecific : route.pattern.MoreSpecific other.pattern := by
    refine ⟨fun q hq => ?_, ⟨"HEAD", "", "/a"⟩, by decide +kernel⟩
    obtain ⟨hmethod, hhost, rest, hpath, -⟩ :=
      (hr.consistent.wellFormed hmem).matches_iff_applies.mp hq
    -- a catch-all takes whatever there is
    have htakes : Label.Takes other.pattern.labels (Text.pieces '/' rest) :=
      .catchAll (Text.pieces_ne_nil _ _)
    exact (hr.consistent.wellFormed hother).matches_iff_applies.mpr
      ⟨hmethod, hhost, rest, hpath, htakes⟩
  exact ⟨hspecific, by decide +kernel,
    hr.lookup_of_moreSpecific hmem hother hspecific (by decide +kernel)⟩

end HttpRouting
