/-
  The log of a session tells what happened in it.

  1. **Reading the log** - a reader who knows nothing but the messages and the fields keeps a list of
     texts in order (`Event.replay`).  The text of a route that is registered is added; for a route
     that takes the place of another, the text of the other is taken out first.  The reader gives up
     if it is not there.

  2. **One registration** - `Outcome.replay_eq`: what is read out of its event is the list of patterns
     after it.  A route that takes the place of another takes its entry too, and what the event says
     was replaced is the canonical text of the route that held the place.

  3. **Sessions** - so the whole log is read without giving up, and leads from the list of patterns at
     the start to the one at the end (`Reachable.replay_log`); by induction on the calls.
-/
import HttpRouting.Proofs.Router.Contents
import HttpRouting.Proofs.Session.Runs
import Mathlib.Data.List.Sort

namespace HttpRouting

universe u

/-! ## Reading the log -/

namespace Event

/-- The text in a field of an event. -/
def text? (e : Event) (name : String) : Option String :=
  match e.fields.lookup name with
  | some (.text value) => some value
  | _ => none

/-- Whether an event tells of a lookup, and whether this was a match. -/
def TellsLookup (e : Event) (matched : Bool) : Prop :=
  e.message = "route lookup" ∧ e.fields.lookup "matched" = some (.flag matched)

/-- What becomes of a list of patterns by an event, as far as its message and its fields tell. -/
def replay (listed : List String) (e : Event) : Option (List String) :=
  match e.message with
  | "route registered" => do
    let added ← e.text? "pattern"
    return listed.orderedInsert (· ≤ ·) added
  | "route replaced" => do
    let gone ← e.text? "replaced"
    let added ← e.text? "pattern"
    guard (gone ∈ listed)
    return (listed.erase gone).orderedInsert (· ≤ ·) added
  | _ => some listed

variable {listed : List String} {p previous : Pattern}

theorem replay_routeRegistered (listed : List String) (p : Pattern) :
    replay listed (.routeRegistered p) = some (listed.orderedInsert (· ≤ ·) p.render) := rfl

theorem replay_routeReplaced (hmem : previous.render ∈ listed) :
    replay listed (.routeReplaced p previous) =
      some ((listed.erase previous.render).orderedInsert (· ≤ ·) p.render) := by
  show (guard (previous.render ∈ listed) >>= fun _ => some _) = _
  rw [guard, if_pos hmem]
  rfl

end Event

namespace Router

variable {H : Type u}

/-- The events of a session, in order. -/
def log (r : Router H) (calls : List (Call H)) : List Event :=
  (r.run calls).2.flatMap Prod.snd

theorem log_cons (r : Router H) (call : Call H) (rest : List (Call H)) :
    r.log (call :: rest) = (r.step call).2.2 ++ (r.step call).1.log rest := by
  rw [log, run_cons, List.flatMap_cons, log]

/-- One more call adds its events to the log. -/
theorem log_concat (r : Router H) (calls : List (Call H)) (call : Call H) :
    r.log (calls ++ [call]) = r.log calls ++ ((r.run calls).1.step call).2.2 := by
  rw [log, run_append, List.flatMap_append, log]
  exact congrArg _ (List.flatMap_singleton _ _)

/-! ## One registration -/

variable {r : Router H} {spec : String} {handler : Option H}
  {after : Router H × Except RouteError Registration}

/-- A text that is added in its place makes the list of patterns, if it makes the right texts. -/
theorem orderedInsert_eq_patterns {text : String} {listed : List String}
    (hsorted : listed.Pairwise (· ≤ ·))
    (hperm : (r.table.routes.map fun route => route.pattern.render).Perm (text :: listed)) :
    listed.orderedInsert (· ≤ ·) text = r.patterns :=
  (patterns_eq_of_perm (hperm.trans (List.perm_orderedInsert _ text listed).symm)
    (hsorted.orderedInsert text listed)).symm

/-- The event of a registration tells what becomes of the list of patterns. -/
theorem Outcome.replay_eq (h : r.Outcome spec handler after) (htable : r.table.Consistent) :
    Event.replay r.patterns (.ofRegistration after.2) = some after.1.patterns := by
  cases h with
  | missing => rfl
  | malformed handler _ => rfl
  | conflict handler _ _ _ => rfl
  | @added handler p _ hfree =>
    have htexts := r.table.map_routes_insert (fun route => route.pattern.render) p handler
    rw [hfree, Option.map_none, Option.toList_none, List.append_nil] at htexts
    refine (Event.replay_routeRegistered _ _).trans (congrArg some ?_)
    exact orderedInsert_eq_patterns r.pairwise_patterns (htexts.trans (r.patterns_perm.symm.cons _))
  | @replaced handler p held _ hheld _ =>
    have hlisted : held.pattern.render ∈ r.patterns :=
      r.mem_patterns_iff.mpr ⟨held, (htable.find?_eq_some_iff.mp hheld).1, rfl⟩
    have htexts := r.table.map_routes_insert (fun route => route.pattern.render) p handler
    rw [hheld, Option.map_some, Option.toList_some] at htexts
    have hold := r.patterns_perm.symm.trans (List.perm_cons_erase hlisted)
    -- the text of the route that leaves is on both sides
    have hboth := (List.perm_append_singleton _ _).symm.trans
      (htexts.trans ((hold.cons _).trans (.swap _ _ _)))
    refine (Event.replay_routeReplaced hlisted).trans (congrArg some ?_)
    exact orderedInsert_eq_patterns (r.pairwise_patterns.erase _) hboth.cons_inv

/-- The event of a registration tells whether it succeeded, and what became of the count. -/
theorem Outcome.message_iff (h : r.Outcome spec handler after) :
    let message := (Event.ofRegistration after.2).message
    message ∈ ["route registered", "route replaced", "route rejected"] ∧
      (message = "route registered" ↔ after.2.isOk = true ∧ after.1.size = r.size + 1) ∧
      (message = "route replaced" ↔ after.2.isOk = true ∧ after.1.size = r.size) ∧
      (message = "route rejected" ↔ after.2.isOk = false) := by
  cases h <;> simp [Event.ofRegistration, Event.message, Except.isOk, Except.toBool]

/-! ## Sessions -/

/-- The events of a call tell what becomes of the list of patterns. -/
theorem Reachable.replay_step (hr : r.Reachable) (call : Call H) :
    (r.step call).2.2.foldlM Event.replay r.patterns = some (r.step call).1.patterns := by
  cases call with
  | register spec handler =>
    show (Event.replay r.patterns _ >>= pure) = _
    rw [bind_pure]
    exact (r.outcome_register spec handler).replay_eq hr.consistent
  | answer request =>
    rw [Router.step]
    cases request.query with
    | error e => rfl
    | ok q =>
      dsimp only
      rw [answerEvents]
      cases (r.lookup q).isNone <;> rfl
  | lookup q => rfl
  | size => rfl
  | isEmpty => rfl
  | patterns => rfl
  | hasMethod method => rfl
  | config => rfl

/-- **The log.**  Read from the list of patterns at the start, the events of a session lead to the
    list of patterns at the end. -/
theorem Reachable.replay_log (hr : r.Reachable) (calls : List (Call H)) :
    (r.log calls).foldlM Event.replay r.patterns = some (r.run calls).1.patterns := by
  induction calls generalizing r with
  | nil => rfl
  | cons call rest ih =>
    rw [log_cons, List.foldlM_append, hr.replay_step call, run_cons]
    exact ih (hr.step call)

/-- A request that puts a query tells of it, and tells once more if it is not answered. -/
theorem events_answer_of_ok {request : Request} {found : Option (Match H)}
    (hanswer : r.answer request = .ok found) :
    ∃ e rest, (r.step (.answer request)).2.2 = e :: rest ∧ e.TellsLookup found.isSome ∧
      rest.map Event.message = if found.isSome then [] else ["no route matched"] := by
  rw [answer] at hanswer
  rw [step]
  cases hquery : request.query with
  | error e => rw [hquery] at hanswer; cases hanswer
  | ok q =>
    rw [hquery] at hanswer
    obtain rfl := Except.ok.inj hanswer
    refine ⟨_, _, rfl, ⟨rfl, rfl⟩, ?_⟩
    cases r.lookup q <;> rfl

/-- A request that is refused tells of nothing. -/
theorem events_answer_of_error {request : Request} {error : Error}
    (hanswer : r.answer request = .error error) : (r.step (.answer request)).2.2 = [] := by
  rw [answer] at hanswer
  rw [step]
  cases hquery : request.query with
  | error e => rfl
  | ok q => rw [hquery] at hanswer; cases hanswer

/-- **The log is a faithful transcript.**  In every session, at every point of it: the events so far,
    read from the list of patterns at the start, lead to the current list, and whatever they take from
    it is there.  A registration adds one event, which says that a route was registered if the
    registration succeeds and there is one route more, that one was replaced if it succeeds and there
    are as many as before, and that one was rejected if it fails.  A lookup adds one event, which says
    whether it was a match, and a request adds the same one, followed by another if there was no
    match; a request that is refused adds none. -/
theorem Reachable.log_is_transcript {r : Router H} (hr : r.Reachable) (calls : List (Call H)) :
    let now := (r.run calls).1
    (r.log calls).foldlM Event.replay r.patterns = some now.patterns ∧
      (∀ spec handler,
        let (after, result) := now.register spec handler
        ∃ e, r.log (calls ++ [.register spec handler]) = r.log calls ++ [e] ∧
          e.message ∈ ["route registered", "route replaced", "route rejected"] ∧
          (e.message = "route registered" ↔ result.isOk = true ∧ after.size = now.size + 1) ∧
          (e.message = "route replaced" ↔ result.isOk = true ∧ after.size = now.size) ∧
          (e.message = "route rejected" ↔ result.isOk = false)) ∧
      (∀ q, ∃ e, r.log (calls ++ [.lookup q]) = r.log calls ++ [e] ∧
        e.TellsLookup (now.lookup q).isSome) ∧
      (∀ request found, now.answer request = .ok found → ∃ e rest,
        r.log (calls ++ [.answer request]) = r.log calls ++ e :: rest ∧
          e.TellsLookup found.isSome ∧
          rest.map Event.message = if found.isSome then [] else ["no route matched"]) ∧
      ∀ request error, now.answer request = .error error →
        r.log (calls ++ [.answer request]) = r.log calls := by
  intro now
  refine ⟨hr.replay_log calls, fun spec handler => ?_, fun q => ?_, fun request found hanswer => ?_,
    fun request error hanswer => ?_⟩
  · exact ⟨_, r.log_concat calls _, (now.outcome_register spec handler).message_iff⟩
  · exact ⟨_, r.log_concat calls _, rfl, rfl⟩
  · obtain ⟨e, rest, hevents, htells⟩ := events_answer_of_ok hanswer
    exact ⟨e, rest, (r.log_concat calls _).trans (congrArg _ hevents), htells⟩
  · rw [log_concat, events_answer_of_error hanswer, List.append_nil]

/-- A route that is replaced twice, each time under other names, a text that is no pattern, a request
    that no route answers and one that is refused. -/
theorem log_is_transcript_of_renamings :
    let r := ((Router.empty ⟨.replace, false⟩ : Router Nat).register "GET /a" (some 0)).1
    let lost : Request := ⟨"GET", .originForm "/b/c?d", []⟩
    let refused : Request := ⟨"OPTIONS", .asteriskForm, []⟩
    let calls : List (Call Nat) :=
      [.register "GET /\x7bx\x7d" (some 1), .register "GET /\x7by\x7d" (some 2),
        .register "GET" (some 3), .answer lost, .answer refused,
        .register "GET /\x7bz\x7d" (some 4)]
    let now := (r.run calls).1
    (r.log calls).map Event.message = ["route registered", "route replaced", "route rejected",
        "route lookup", "no route matched", "route replaced"] ∧
      now.patterns = ["GET /a", "GET /\x7bz\x7d"] ∧
      (r.log calls).foldlM Event.replay r.patterns = some now.patterns ∧
      (now.answer lost = .ok none ∧ ∃ e rest,
        r.log (calls ++ [.answer lost]) = r.log calls ++ e :: rest ∧ e.TellsLookup false ∧
          rest.map Event.message = ["no route matched"]) ∧
      now.answer refused = .error (.invalidPath "*") ∧
        r.log (calls ++ [.answer refused]) = r.log calls := by
  intro r lost refused calls now
  have hr : r.Reachable := (Reachable.empty _).register _ _
  have hlost : now.answer lost = .ok none := by
    have hquery : lost.query = .ok ⟨"GET", "", "/b/c"⟩ := by decide +kernel
    rw [answer, hquery]
    exact congrArg Except.ok (Option.isNone_iff_eq_none.mp (by decide +kernel))
  have hrefused : now.answer refused = .error (.invalidPath "*") := by
    have hquery : refused.query = .error (.invalidPath "*") := by decide +kernel
    rw [answer, hquery]
    rfl
  obtain ⟨hreplay, -, -, hanswered, hsilent⟩ := hr.log_is_transcript calls
  exact ⟨by decide +kernel, patterns_eq_of_perm (by decide +kernel) (by decide +kernel), hreplay,
    ⟨hlost, hanswered lost none hlost⟩, hrefused, hsilent refused _ hrefused⟩

end Router

end HttpRouting
