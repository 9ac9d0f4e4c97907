/-
  Registration refines a finite map.

  1. **The map** - `RouteMap` holds routes by `Pattern.Key`: the method, the host and the segments
     of a pattern without their names.  `RouteMap.register` is the whole policy of registration in
     terms of one lookup and one insertion; there is no trie in it.

  2. **The abstraction** - a map models a table if both find the same route for every pattern, and
     the routes enumerated from the trie are the values of the map, each as often (`Models`).

  3. **The simulation** - one registration gives the same result on both sides and keeps the
     abstraction (`register_simulates`), hence every run does (`registerEach_refines`).

  Enumeration and lookup are tied together by two laws of one shape: an insertion adds the new value
  and takes the old one away, in the trie (`Trie.values_insert`) and in the map (`values_insert`).
-/
import HttpRouting.Proofs.Router.Reachable
import Mathlib.Data.Finmap

namespace HttpRouting

universe u v w

/-! ## Keys -/

/-- What decides whether two patterns collide: everything but the names. -/
structure Pattern.Key where
  method : String
  host : String
  /-- The segments without their names. -/
  labels : List Label
deriving DecidableEq

/-- The key of a pattern. -/
def Pattern.key (p : Pattern) : Key := ⟨p.method, p.host, p.labels⟩

/-- Two patterns share a place in the trie exactly if they share a key. -/
theorem Pattern.address_eq_address_iff {p q : Pattern} : p.address = q.address ↔ p.key = q.key := by
  simp only [address_eq, key, List.cons_append, List.nil_append, List.cons.injEq,
    Label.literal.injEq, Key.mk.injEq]
  exact ⟨fun ⟨hhost, hmethod, hlabels⟩ => ⟨hmethod, hhost, hlabels⟩,
    fun ⟨hmethod, hhost, hlabels⟩ => ⟨hhost, hmethod, hlabels⟩⟩

/-- A route inserted is found for all patterns with its key, and nothing else changes. -/
theorem RouteTable.find?_insert {H : Type u} (table : RouteTable H) (p : Pattern) (handler : H)
    (q : Pattern) : RouteTable.find? (Trie.insert table p.address ⟨handler, p⟩) q =
      if p.key = q.key then some ⟨handler, p⟩ else table.find? q := by
  by_cases hkey : p.key = q.key
  · rw [if_pos hkey, find?, ← Pattern.address_eq_address_iff.mpr hkey, Trie.get?_insert_self]
  · have haddress : p.address ≠ q.address := fun heq =>
      hkey (Pattern.address_eq_address_iff.mp heq)
    rw [if_neg hkey, find?, Trie.get?_insert_of_ne haddress]
    rfl

/-! ## The map -/

/-- Routes by the keys of their patterns. -/
abbrev RouteMap (H : Type u) := Finmap fun _ : Pattern.Key => Route H

namespace RouteMap

variable {H : Type u}

/-- What a registration does to the map, and its result. -/
def register (collision : Collision) (m : RouteMap H) (spec : String) (handler : Option H) :
    RouteMap H × Except RouteError Registration :=
  match handler with
  | none => (m, .error ⟨spec, .missingHandler⟩)
  | some handler =>
    match Pattern.parse spec with
    | .error e => (m, .error ⟨spec, .malformed e⟩)
    | .ok p =>
      match m.lookup p.key, collision with
      | none, _ => (m.insert p.key ⟨handler, p⟩, .ok (.added p))
      | some held, .reject => (m, .error ⟨spec, .conflict held.pattern.render⟩)
      | some held, .replace => (m.insert p.key ⟨handler, p⟩, .ok (.replaced p held.pattern))

/-- Makes registrations in order, refused or not. -/
def registerEach (collision : Collision) (m : RouteMap H) (calls : List (String × Option H)) :
    RouteMap H × List (Except RouteError Registration) :=
  runEach (fun m call => register collision m call.1 call.2) m calls

/-- The values of the map, one for each key. -/
def values (m : RouteMap H) : Multiset (Route H) := m.entries.map Sigma.snd

theorem values_insert_of_notMem {m : RouteMap H} {key : Pattern.Key} (h : key ∉ m)
    (route : Route H) : values (m.insert key route) = route ::ₘ values m := by
  rw [values, Finmap.entries_insert_of_notMem h, Multiset.map_cons]
  rfl

/-- **The law of enumeration** for maps: the new value enters, the old one leaves. -/
theorem values_insert (m : RouteMap H) (key : Pattern.Key) (route : Route H) :
    values (m.insert key route) + ↑(m.lookup key).toList = route ::ₘ values m := by
  cases hheld : m.lookup key with
  | none =>
    rw [values_insert_of_notMem (Finmap.lookup_eq_none.mp hheld)]
    exact add_zero _
  | some held =>
    -- take the old value out first: then both sides insert at a free key
    have hback : m = (m.erase key).insert key held := by
      apply Finmap.ext_lookup
      intro key'
      by_cases h : key' = key
      · subst h
        rw [hheld, Finmap.lookup_insert]
      · rw [Finmap.lookup_insert_of_ne _ h, Finmap.lookup_erase_ne h]
    have hnew : key ∉ m.erase key := Finmap.notMem_erase_self
    rw [hback, Finmap.insert_insert, values_insert_of_notMem hnew, values_insert_of_notMem hnew,
      Multiset.cons_add]
    exact congrArg (route ::ₘ ·) (add_comm (values (m.erase key)) {held})

/-! ## The abstraction -/

/-- The map finds the same routes as the table, and holds the same. -/
structure Models (m : RouteMap H) (table : RouteTable H) : Prop where
  find?_eq : ∀ p, table.find? p = m.lookup p.key
  routes_eq : (table.routes : Multiset (Route H)) = values m

theorem models_empty : Models (∅ : RouteMap H) (∅ : RouteTable H) where
  find?_eq p := by rw [Finmap.lookup_empty]; exact Trie.get?_empty _
  routes_eq := rfl

/-- The same route inserted on both sides. -/
theorem Models.insert {m : RouteMap H} {table : RouteTable H} (h : Models m table) (p : Pattern)
    (handler : H) :
    Models (m.insert p.key ⟨handler, p⟩) (Trie.insert table p.address ⟨handler, p⟩) where
  find?_eq q := by
    rw [RouteTable.find?_insert]
    by_cases hkey : p.key = q.key
    · rw [if_pos hkey, ← hkey, Finmap.lookup_insert]
    · rw [if_neg hkey, Finmap.lookup_insert_of_ne _ (Ne.symm hkey)]
      exact h.find?_eq q
  routes_eq := by
    have htrie := Multiset.coe_eq_coe.mpr (Trie.values_insert table p.address ⟨handler, p⟩)
    have hmap := values_insert m p.key ⟨handler, p⟩
    rw [← Multiset.coe_add, ← Multiset.cons_coe] at htrie
    rw [← h.find?_eq p, ← h.routes_eq] at hmap
    -- the two laws have the same right side and the same old value
    exact add_right_cancel (htrie.trans hmap.symm)

/-! ## The simulation -/

/-- **One step of the simulation.**  A registration gives the same result on both sides, keeps the
    abstraction, and leaves the set-up of the router alone. -/
theorem register_simulates {m : RouteMap H} {r : Router H} (h : Models m r.table) (spec : String)
    (handler : Option H) :
    (r.register spec handler).2 = (register r.config.collision m spec handler).2 ∧
      Models (register r.config.collision m spec handler).1 (r.register spec handler).1.table ∧
      (r.register spec handler).1.config = r.config := by
  have houtcome := r.outcome_register spec handler
  generalize r.register spec handler = after at houtcome
  cases houtcome with
  | missing => exact ⟨rfl, h, rfl⟩
  | @malformed handler e hparse =>
    have hmap : register r.config.collision m spec (some handler) =
        (m, .error ⟨spec, .malformed e⟩) := by simp only [register, hparse]
    rw [hmap]
    exact ⟨rfl, h, rfl⟩
  | @conflict handler p held hparse hheld hreject =>
    rw [h.find?_eq] at hheld
    have hmap : register r.config.collision m spec (some handler) =
        (m, .error ⟨spec, .conflict held.pattern.render⟩) := by
      simp only [register, hparse, hheld, hreject]
    rw [hmap]
    exact ⟨rfl, h, rfl⟩
  | @added handler p hparse hfree =>
    rw [h.find?_eq] at hfree
    have hmap : register r.config.collision m spec (some handler) =
        (m.insert p.key ⟨handler, p⟩, .ok (.added p)) := by
      simp only [register, hparse, hfree]
    rw [hmap]
    exact ⟨rfl, h.insert p handler, rfl⟩
  | @replaced handler p held hparse hheld hreplace =>
    rw [h.find?_eq] at hheld
    have hmap : register r.config.collision m spec (some handler) =
        (m.insert p.key ⟨handler, p⟩, .ok (.replaced p held.pattern)) := by
      simp only [register, hparse, hheld, hreplace]
    rw [hmap]
    exact ⟨rfl, h.insert p handler, rfl⟩

/-- Registrations in order give the same results on both sides and keep the abstraction. -/
theorem registerEach_simulates {m : RouteMap H} {r : Router H} (h : Models m r.table)
    (calls : List (String × Option H)) :
    (r.registerEach calls).2 = (registerEach r.config.collision m calls).2 ∧
      Models (registerEach r.config.collision m calls).1 (r.registerEach calls).1.table := by
  -- the set-up never changes, so the map may use the one it started with
  let rel (r' : Router H) (m' : RouteMap H) : Prop := Models m' r'.table ∧ r'.config = r.config
  have hstep : ∀ (r' : Router H) (m' : RouteMap H) (call : String × Option H), rel r' m' →
      (r'.register call.1 call.2).2 = (register r.config.collision m' call.1 call.2).2 ∧
        rel (r'.register call.1 call.2).1 (register r.config.collision m' call.1 call.2).1 := by
    intro r' m' call ⟨hmodels, hconfig⟩
    have hregister := register_simulates hmodels call.1 call.2
    rw [hconfig] at hregister
    exact hregister
  obtain ⟨hresults, hmodels, -⟩ := runEach_simulates hstep (show rel r m from ⟨h, rfl⟩) calls
  exact ⟨hresults, hmodels⟩

/-- A refusal carries the text exactly as it was given. -/
theorem spec_eq_of_register_error {r : Router H} {spec : String} {handler : Option H}
    {e : RouteError} (h : (r.register spec handler).2 = .error e) : e.spec = spec := by
  have houtcome := r.outcome_register spec handler
  generalize r.register spec handler = after at houtcome h
  cases houtcome with
  | missing => exact (Except.error.inj h) ▸ rfl
  | malformed handler _ => exact (Except.error.inj h) ▸ rfl
  | conflict handler _ _ _ => exact (Except.error.inj h) ▸ rfl
  | added handler _ _ => cases h
  | replaced handler _ _ _ => cases h

end RouteMap

/-- **Registration refines a finite map.**  Any registrations on an empty router give the results
    that the empty map gives, one for each call, and a refusal carries the text of its call.  After
    them the router finds the routes that the map finds, and the routes enumerated from the trie are
    the values of the map, each once.  Runs have any length, so this holds after every call. -/
theorem Router.registerEach_refines {H : Type u} (config : Config)
    (calls : List (String × Option H)) :
    let run := (Router.empty config).registerEach calls
    let model := RouteMap.registerEach config.collision ∅ calls
    run.2 = model.2 ∧ run.2.length = calls.length ∧
      (∀ call e, (call, Except.error e) ∈ calls.zip run.2 → e.spec = call.1) ∧
      (∀ p, run.1.table.find? p = model.1.lookup p.key) ∧
      (run.1.table.routes : Multiset (Route H)) = RouteMap.values model.1 := by
  intro run model
  have hempty : RouteMap.Models ∅ (Router.empty config : Router H).table := RouteMap.models_empty
  obtain ⟨hresults, hmodels⟩ := RouteMap.registerEach_simulates hempty calls
  refine ⟨hresults, length_runEach _ calls, ?_, hmodels.find?_eq, hmodels.routes_eq⟩
  intro call e hmem
  obtain ⟨r, hresult⟩ := exists_step_of_mem_zip hmem
  exact RouteMap.spec_eq_of_register_error hresult

end HttpRouting
