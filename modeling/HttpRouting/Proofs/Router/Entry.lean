/-
  Entering a route and finding it again, in any table.

  A table is a trie of routes whatever it looks like: it may have been built by registrations or by
  hand, hold routes at places that are not theirs, have several edges with one label, or branches
  that lead nowhere.  `enter` walks to the place of a pattern and makes the vertices that it misses;
  `find?` walks there and gives up at the first vertex that is missing.  That both come to the same
  place is `Trie.exchange_eq`; the rest is what this means for the outcomes of `enter`.

  1. **Outcomes** - when an entry succeeds, what it reports then, and when it fails
     (`snd_enter_eq_ok_iff`, `snd_enter_eq_error_iff`).

  2. **What changes** - nothing if it fails (`fst_enter_of_error`): the walk that makes vertices is
     begun only when nothing stands against the entry.  If it succeeds, the patterns with the key of
     the one entered find the new route, and all others find what they found before
     (`find?_of_enter`).
-/
import HttpRouting.Proofs.Router.RouteMap

namespace HttpRouting

universe u

namespace RouteTable

variable {H : Type u}

/-! ## Outcomes -/

variable {table : RouteTable H} {collision : Collision} {p : Pattern} {handler : H}

/-- An entry succeeds if it may replace or the place is free, and reports the pattern that held the
place. -/
theorem snd_enter_eq_ok_iff {previous : Option Pattern} :
    (table.enter collision p handler).2 = .ok previous ↔
      (collision = .replace ∨ table.find? p = none) ∧
        (table.find? p).map Route.pattern = previous := by
  rw [enter_eq]
  cases collision <;> cases table.find? p <;> simp

/-- An entry fails if it may not replace and the place is taken, with the pattern that holds it. -/
theorem snd_enter_eq_error_iff {held : Pattern} :
    (table.enter collision p handler).2 = .error held ↔
      collision = .reject ∧ ∃ route, table.find? p = some route ∧ route.pattern = held := by
  rw [enter_eq]
  cases collision <;> cases table.find? p <;> simp

/-! ## What changes -/

/-- An entry that succeeds inserts the route. -/
theorem fst_enter_of_ok {previous : Option Pattern}
    (henter : (table.enter collision p handler).2 = .ok previous) :
    (table.enter collision p handler).1 = table.insert p.address ⟨handler, p⟩ := by
  rw [enter_eq] at henter ⊢
  cases collision with
  | replace => rfl
  | reject =>
    cases hfind : table.find? p with
    | none => rfl
    | some held => rw [hfind] at henter; cases henter

/-- An entry that fails leaves the table as it is, down to the last vertex. -/
theorem fst_enter_of_error {held : Pattern}
    (henter : (table.enter collision p handler).2 = .error held) :
    (table.enter collision p handler).1 = table := by
  obtain ⟨rfl, route, hfind, -⟩ := snd_enter_eq_error_iff.mp henter
  rw [enter_eq, hfind]

/-- After an entry the patterns with its key find the new route, and the others what they found
before. -/
theorem find?_of_enter {previous : Option Pattern}
    (henter : (table.enter collision p handler).2 = .ok previous) (q : Pattern) :
    (table.enter collision p handler).1.find? q =
      if p.key = q.key then some ⟨handler, p⟩ else table.find? q := by
  rw [fst_enter_of_ok henter]
  exact find?_insert table p handler q

/-- **Entering and finding obey the laws of a map, in every table.**  With replacement, an entry
    reports the pattern of the route that was found at its place, and nothing if none was; with
    rejection, it fails with that pattern exactly if one was found, and hands back the table it was
    given.  After an entry that succeeds, the new route is found for every pattern that differs in
    names only, and for every other pattern exactly what was found before. -/
theorem enter_laws (table : RouteTable H) (p : Pattern) (handler : H) :
    (∀ old, (table.enter .replace p handler).2 = .ok (some old) ↔
      ∃ route, table.find? p = some route ∧ route.pattern = old) ∧
    (∀ held, (table.enter .reject p handler).2 = .error held ↔
      ∃ route, table.find? p = some route ∧ route.pattern = held) ∧
    (∀ collision, (table.enter collision p handler).2 = .ok none ↔ table.find? p = none) ∧
    ∀ collision, let entered := table.enter collision p handler
      (∀ held, entered.2 = .error held → entered.1 = table) ∧
      ∀ previous, entered.2 = .ok previous →
        ∀ q, entered.1.find? q = if p.key = q.key then some ⟨handler, p⟩ else table.find? q := by
  refine ⟨fun old => ?_, fun held => ?_, fun collision => ?_, fun collision =>
    ⟨fun _ => fst_enter_of_error, fun _ => find?_of_enter⟩⟩
  · rw [snd_enter_eq_ok_iff, ← Option.map_eq_some_iff]
    exact and_iff_right (Or.inl rfl)
  · rw [snd_enter_eq_error_iff]
    exact and_iff_right rfl
  · rw [snd_enter_eq_ok_iff, Option.map_eq_none_iff]
    exact and_iff_right_of_imp Or.inr

/-- In a table that no registrations lead to: the wildcard below GET has two edges, and the first
    leads to a route that belongs elsewhere.  A literal beside them keeps its route. -/
theorem enter_laws_of_stray_route :
    let p : Pattern := ⟨"GET", "", [.wildcard "x"]⟩
    let renamed : Pattern := ⟨"GET", "", [.wildcard "y"]⟩
    let literal : Pattern := ⟨"GET", "", [.literal "a"]⟩
    let stray : Pattern := ⟨"PUT", "h", []⟩
    let edges : Trie.Edges (Route Nat) :=
      .edge .wildcard (some ⟨1, stray⟩) .none <|
      .edge (.literal "a") (some ⟨2, literal⟩) .none <|
      .edge .wildcard (some ⟨3, p⟩) .none .none
    let table : RouteTable Nat :=
      ⟨none, .edge (.literal "") none (.edge (.literal "GET") none edges .none) .none⟩
    let refused := table.enter .reject p 4
    let entered := table.enter .replace p 4
    table.find? p = some ⟨1, stray⟩ ∧ refused.2 = .error stray ∧ refused.1 = table ∧
      entered.2 = .ok (some stray) ∧
      entered.1.find? renamed = some ⟨4, p⟩ ∧ entered.1.find? literal = some ⟨2, literal⟩ := by
  intro p renamed literal stray edges table refused entered
  have hheld : table.find? p = some ⟨1, stray⟩ := rfl
  obtain ⟨hreplace, hreject, -, hafter⟩ := enter_laws table p 4
  have hrefused : refused.2 = .error stray := (hreject stray).mpr ⟨_, hheld, rfl⟩
  have hentered : entered.2 = .ok (some stray) := (hreplace stray).mpr ⟨_, hheld, rfl⟩
  have hfind : ∀ q, entered.1.find? q = if p.key = q.key then some ⟨4, p⟩ else table.find? q :=
    (hafter .replace).2 _ hentered
  refine ⟨hheld, hrefused, (hafter .reject).1 _ hrefused, hentered, ?_, ?_⟩
  · rw [hfind renamed]
    rfl
  · rw [hfind literal]
    rfl

end RouteTable

end HttpRouting
