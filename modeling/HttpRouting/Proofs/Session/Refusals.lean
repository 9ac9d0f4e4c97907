/-
  A registration that is refused leaves no trace.

  1. **When** - `Router.Refuses` lists the reasons to refuse a registration: there is no handler, the
     text is no pattern, or the place is taken and routes keep their places.  Whether a place is taken
     is said of the routes that are enumerated, so it does not speak of any walk through the trie;
     that the walk which looks for a route finds just these is `Consistent.find?_eq_some_iff`.

  2. **One call** - a refusal leaves the router that it found (`Outcome.eq_of_error`): trie, count and
     set-up.  The trie is the one that the entry hands back (`RouteTable.enter`), so a vertex made on
     the way to a place that turns out to be taken would be a difference.

  3. **Runs** - so the calls that were refused can be struck out of a session, together with their
     replies and events.  What is left is the session of the other calls (`run_standing`).
-/
import HttpRouting.Proofs.Router.Extensionality
import HttpRouting.Proofs.Session.Runs

namespace HttpRouting

universe u

variable {H : Type u}

/-! ## When -/

/-- The reasons to refuse a registration. -/
inductive Router.Refuses (r : Router H) (spec : String) : Option H → Prop
  /-- There is no handler. -/
  | missing : Refuses r spec none
  /-- The text is no pattern. -/
  | malformed {handler : Option H} {e : PatternError} (hparse : Pattern.parse spec = .error e) :
      Refuses r spec handler
  /-- The place is taken, and routes keep their places. -/
  | taken {handler : Option H} {p : Pattern} {held : Route H} (hparse : Pattern.parse spec = .ok p)
      (hreject : r.config.collision = .reject) (hmem : held ∈ r.table.routes)
      (hkey : held.key = p.key) : Refuses r spec handler

namespace Router

variable {r : Router H} {spec : String} {handler : Option H}
  {after : Router H × Except RouteError Registration}

/-- A registration is refused for one of the reasons, and for no other. -/
theorem Outcome.error_iff_refuses (h : r.Outcome spec handler after)
    (htable : r.table.Consistent) : (∃ e, after.2 = .error e) ↔ r.Refuses spec handler := by
  cases h with
  | missing => exact iff_of_true ⟨_, rfl⟩ .missing
  | malformed handler hparse => exact iff_of_true ⟨_, rfl⟩ (.malformed hparse)
  | conflict handler hparse hheld hreject =>
    obtain ⟨hmem, hkey⟩ := htable.find?_eq_some_iff.mp hheld
    exact iff_of_true ⟨_, rfl⟩ (.taken hparse hreject hmem hkey)
  | @added handler p hparse hfree =>
    refine iff_of_false (fun ⟨_, he⟩ => nomatch he) fun hrefuses => ?_
    cases hrefuses with
    | malformed hparse' => cases hparse.symm.trans hparse'
    | @taken _ p' held hparse' _ hmem hkey =>
      -- the route that takes the place would have been found
      obtain rfl := Except.ok.inj (hparse.symm.trans hparse')
      have hfound := htable.find?_eq_some_iff.mpr ⟨hmem, hkey⟩
      cases hfree.symm.trans hfound
  | @replaced handler p held hparse _ hreplace =>
    refine iff_of_false (fun ⟨_, he⟩ => nomatch he) fun hrefuses => ?_
    cases hrefuses with
    | malformed hparse' => cases hparse.symm.trans hparse'
    | taken _ hreject _ _ => cases hreplace.symm.trans hreject

/-! ## One call -/

/-- A refusal gives the router back as it was. -/
theorem Outcome.eq_of_error (h : r.Outcome spec handler after) {e : RouteError}
    (hrefused : after.2 = .error e) : after.1 = r := by
  cases h with
  | missing => rfl
  | malformed handler _ => rfl
  | conflict handler _ _ _ => rfl
  | added handler _ _ => cases hrefused
  | replaced handler _ _ _ => cases hrefused

end Router

/-- Whether a reply refuses a registration. -/
def Reply.isRefusal : Reply H → Bool
  | .registration (.error _) _ => true
  | _ => false

namespace Router

/-- A call that is answered by a refusal leaves the router as it is. -/
theorem fst_step_of_isRefusal {r : Router H} {call : Call H}
    (hrefused : (r.step call).2.1.isRefusal = true) : (r.step call).1 = r := by
  rcases r.fst_step_eq call with hsame | ⟨spec, handler, rfl, hregister⟩
  · exact hsame
  · rw [hregister]
    cases hresult : (r.register spec handler).2 with
    | error e => exact (r.outcome_register spec handler).eq_of_error hresult
    | ok done =>
      simp only [step, hresult, Reply.isRefusal] at hrefused
      cases hrefused

/-! ## Runs -/

/-- The calls of a run that were not refused, each with its reply and its events. -/
def standing (r : Router H) (calls : List (Call H)) : List (Call H × Reply H × List Event) :=
  (calls.zip (r.run calls).2).filter fun made => !made.2.1.isRefusal

theorem standing_cons_of_isRefusal {r : Router H} {call : Call H}
    (hrefused : (r.step call).2.1.isRefusal = true) (rest : List (Call H)) :
    r.standing (call :: rest) = r.standing rest := by
  have hsame := fst_step_of_isRefusal hrefused
  rw [standing, run_cons, List.zip_cons_cons, hsame, List.filter_cons_of_neg (by simp [hrefused])]
  rfl

theorem standing_cons_of_not_isRefusal {r : Router H} {call : Call H}
    (haccepted : (r.step call).2.1.isRefusal = false) (rest : List (Call H)) :
    r.standing (call :: rest) = (call, (r.step call).2) :: (r.step call).1.standing rest := by
  rw [standing, run_cons, List.zip_cons_cons, List.filter_cons_of_pos (by simp [haccepted])]
  rfl

/-- **The run.**  Without the calls that were refused, a session leads to the same router, and the
    other calls have the same replies and events. -/
theorem run_standing (r : Router H) (calls : List (Call H)) :
    r.run ((r.standing calls).map Prod.fst) =
      ((r.run calls).1, (r.standing calls).map Prod.snd) := by
  induction calls generalizing r with
  | nil => rfl
  | cons call rest ih =>
    cases hrefused : (r.step call).2.1.isRefusal with
    | true =>
      rw [standing_cons_of_isRefusal hrefused, ih, run_cons, fst_step_of_isRefusal hrefused]
    | false =>
      rw [standing_cons_of_not_isRefusal hrefused, List.map_cons, List.map_cons, run_cons, ih,
        run_cons]

/-- **Failed registration is atomic.**  A registration is refused for want of a handler, of a pattern
    or of a free place, and the router is then the one it was: the trie vertex for vertex, the count
    and the set-up.  So if the refused calls are struck out of a session, the final router and the
    replies and events of all other calls stay. -/
theorem Reachable.refusals_leave_no_trace {r : Router H} (hr : r.Reachable) :
    (∀ spec handler,
      ((∃ e, (r.register spec handler).2 = .error e) ↔ r.Refuses spec handler) ∧
        ∀ e, (r.register spec handler).2 = .error e → (r.register spec handler).1 = r) ∧
      ∀ calls, r.run ((r.standing calls).map Prod.fst) =
        ((r.run calls).1, (r.standing calls).map Prod.snd) := by
  refine ⟨fun spec handler => ?_, r.run_standing⟩
  have houtcome := r.outcome_register spec handler
  exact ⟨houtcome.error_iff_refuses hr.consistent, fun _ => houtcome.eq_of_error⟩

/-- A place that is taken under other names, a text without a path and a call without a handler, with
    a route registered and a query answered between them. -/
theorem refusals_leave_no_trace_between_calls :
    let r := ((Router.empty {} : Router Nat).register "GET /a/\x7bx\x7d" (some 0)).1
    let calls : List (Call Nat) :=
      [.register "GET /a/\x7by\x7d" (some 1), .register "GET /a/\x7bx\x7d/b" (some 2),
        .register "GET" (some 3), .lookup ⟨"GET", "", "/a/b/b"⟩, .register "GET /c" none]
    (r.register "GET /a/\x7by\x7d" (some 1)).2 =
        .error ⟨"GET /a/\x7by\x7d", .conflict "GET /a/\x7bx\x7d"⟩ ∧
      (r.register "GET /a/\x7by\x7d" (some 1)).1 = r ∧
      (r.standing calls).length = 2 ∧ (r.run calls).1.size = 2 ∧
      r.run ((r.standing calls).map Prod.fst) =
        ((r.run calls).1, (r.standing calls).map Prod.snd) := by
  intro r calls
  have hr : r.Reachable := (Reachable.empty _).register _ _
  have hrefused : (r.register "GET /a/\x7by\x7d" (some 1)).2 =
      .error ⟨"GET /a/\x7by\x7d", .conflict "GET /a/\x7bx\x7d"⟩ := by decide +kernel
  exact ⟨hrefused, (hr.refusals_leave_no_trace.1 _ _).2 _ hrefused, by decide +kernel,
    by decide +kernel, hr.refusals_leave_no_trace.2 calls⟩

end Router

end HttpRouting
