/-
  A shared router is one plain router, whatever handles its calls go through.

  1. **Copies** - a copy of a match holds what the match holds, and for the pattern its canonical text
     (`RouteMatch.IsCopy`).

  2. **Erasure** - what a call through a handle asks of the router is a list of calls on a plain
     router, without the handle (`SharedCall.asks`).  A clone asks nothing, and looks under one lock
     ask one thing each.

  3. **Agreement** - `SharedCall.Agrees` relates the reply through the handle to the replies of the
     plain router.  They are not the same values: what a registration did is left out, a refusal is
     wrapped as an error of the server, and a match is handed to a function or copied.

  4. **The invariant** - `Shares`: all handles point to one lock, and the plain router stands behind
     it.  The first handle is made so, and a clone copies a handle that is so.  This is what lets a
     route that is registered through one handle be found through another: the step puts the router
     back behind the lock that it was taken from (`Shares.perform`).

  5. **Runs** - by induction on the calls, whoever makes them and in whatever order (`Shares.run`).
-/
import HttpRouting.Proofs.Session.Runs
import HttpRouting.Router.Shared
import Mathlib.Control.Monad.Basic

namespace HttpRouting

universe u v

variable {H : Type u} {R : Type v}

/-! ## Copies -/

/-- A copy that holds what a match holds. -/
structure RouteMatch.IsCopy (copy : RouteMatch H) (found : Match H) : Prop where
  value_eq : copy.value = found.handler
  params_eq : copy.params = found.params
  pattern_eq : copy.pattern = found.pattern.render

/-- There is one copy of a match. -/
theorem RouteMatch.IsCopy.eq_ofMatch {copy : RouteMatch H} {found : Match H}
    (h : copy.IsCopy found) : copy = ofMatch found := by
  cases copy
  obtain ⟨rfl, rfl, rfl⟩ := h
  rfl

/-- What is copied of an answer is a copy, if there is an answer, and nothing otherwise. -/
theorem RouteMatch.isCopy_map_ofMatch (found : Option (Match H)) :
    Option.Rel RouteMatch.IsCopy (found.map RouteMatch.ofMatch) found := by
  cases found with
  | none => exact .none
  | some found => exact .some ⟨rfl, rfl, rfl⟩

/-- What a handle hands out of a lookup is a copy of what answers the query. -/
theorem Router.isCopy_resolve (r : Router H) (q : Query) :
    Option.Rel RouteMatch.IsCopy (r.resolve q) (r.lookup q) :=
  RouteMatch.isCopy_map_ofMatch (r.lookup q)

/-! ## Erasure -/

namespace SharedCall

/-- What a call through a handle asks of a plain router. -/
def asks : SharedCall H R → List (Call H)
  | clone => []
  | register spec handler => [.register spec handler]
  | matchWith q _ => [.lookup q]
  | resolve q => [.lookup q]
  | resolveRequest request => [.answer request]
  | read looks => looks.map Subtype.val
  | size => [.size]
  | isEmpty => [.isEmpty]

/-- The number of handles that a call makes. -/
def newHandles : SharedCall H R → Nat
  | clone => 1
  | _ => 0

/-! ## Agreement -/

/-- The reply to a call through a handle agrees with the replies of a plain router to what the call
asks. -/
inductive Agrees : SharedCall H R → List (Reply H) → SharedReply H R → Prop
  | clone {count : Nat} : Agrees .clone [] (.handles count)
  /-- A registration is done if the plain router does it, whatever was done. -/
  | registered {spec : String} {handler : Option H} {done : Registration} {size : Nat} :
      Agrees (.register spec handler) [.registration (.ok done) size] (.registered (.ok ()))
  /-- It is refused with the same refusal, and the message is that of the refusal. -/
  | refused {spec : String} {handler : Option H} {refusal : RouteError} {size : Nat} {error : Error}
      (herror : error = .route refusal) (hmessage : error.message = refusal.message) :
      Agrees (.register spec handler) [.registration (.error refusal) size]
        (.registered (.error error))
  /-- A function is handed the answer of the plain router. -/
  | matchWith {q : Query} {f : Option (Match H) → R} {found : Option (Match H)} :
      Agrees (.matchWith q f) [.found found] (.used (f found))
  /-- The copy holds what the match of the plain router holds. -/
  | resolved {q : Query} {found : Option (Match H)} {copy : Option (RouteMatch H)}
      (hcopy : Option.Rel RouteMatch.IsCopy copy found) :
      Agrees (.resolve q) [.found found] (.resolved copy)
  /-- So it does if a request put the query. -/
  | answered {request : Request} {found : Option (Match H)} {copy : Option (RouteMatch H)}
      (hcopy : Option.Rel RouteMatch.IsCopy copy found) :
      Agrees (.resolveRequest request) [.answered (.ok found)] (.answered (.ok copy))
  /-- A request that puts no query is refused with the same error. -/
  | unanswered {request : Request} {error : Error} :
      Agrees (.resolveRequest request) [.answered (.error error)] (.answered (.error error))
  /-- Looks have the replies of the plain router, one by one. -/
  | seen {looks : List (Look H)} {replies : List (Reply H)} :
      Agrees (.read looks) replies (.seen replies)
  | size {n : Nat} : Agrees .size [.number n] (.number n)
  | isEmpty {b : Bool} : Agrees .isEmpty [.truth b] (.truth b)

end SharedCall

namespace Router

variable (r : Router H)

/-- The replies to a run of calls. -/
def replies (calls : List (Call H)) : List (Reply H) := (r.run calls).2.map Prod.fst

/-- A look leaves the router as it is. -/
theorem fst_step_look (look : Look H) : (r.step look.1).1 = r := by
  rcases r.fst_step_eq look.1 with hsame | ⟨spec, handler, hregister, -⟩
  · exact hsame
  · have hlook := look.2
    rw [hregister] at hlook
    cases hlook

/-- Looks, one after another, are replies of the same router. -/
theorem run_looks (looks : List (Look H)) :
    r.run (looks.map Subtype.val) = (r, looks.map fun look => (r.step look.1).2) := by
  induction looks with
  | nil => rfl
  | cons look rest ih => rw [List.map_cons, run_cons, fst_step_look, ih, List.map_cons]

/-- A registration through a handle is the registration, with less told. -/
theorem agrees_tryRegister (spec : String) (handler : Option H) :
    (r.tryRegister spec handler).1 = (r.register spec handler).1 ∧
      (SharedCall.register spec handler : SharedCall H R).Agrees
        (r.replies [.register spec handler]) (.registered (r.tryRegister spec handler).2) := by
  show _ ∧ SharedCall.Agrees _ [.registration (r.register spec handler).2 _] _
  unfold tryRegister
  generalize r.register spec handler = after
  obtain ⟨after, result⟩ := after
  cases result with
  | ok done => exact ⟨rfl, .registered⟩
  | error refusal => exact ⟨rfl, .refused rfl rfl⟩

/-- A request through a handle is answered by copies, and refused like any other. -/
theorem agrees_resolveRequest (request : Request) :
    (SharedCall.resolveRequest request : SharedCall H R).Agrees (r.replies [.answer request])
      (.answered (r.resolveRequest request)) := by
  show SharedCall.Agrees _ [(r.step (.answer request)).2.1] _
  rw [step, resolveRequest]
  -- a request that is refused asks nothing of the router, on either side
  cases request.query with
  | error e => exact .unanswered
  | ok q => exact .answered (r.isCopy_resolve q)

end Router

namespace SharedRouter

/-- The calls on a plain router, with clones and the choice of handles erased. -/
def erase (steps : List (Nat × SharedCall H R)) : List (Call H) :=
  steps.flatMap fun made => made.2.asks

/-- The number of handles that calls make. -/
def newHandles : List (Nat × SharedCall H R) → Nat
  | [] => 0
  | (_, call) :: rest => call.newHandles + newHandles rest

/-- Each call goes through a handle that exists by then, if there are `handles` of them at first. -/
def Admissible (handles : Nat) : List (Nat × SharedCall H R) → Prop
  | [] => True
  | (via, call) :: rest => via < handles ∧ Admissible (handles + call.newHandles) rest

/-! ## The invariant -/

/-- All handles point to one lock, and `r` stands behind it. -/
structure Shares (s : SharedRouter H) (lock : Nat) (r : Router H) : Prop where
  points : ∀ handle ∈ s.handles, handle = lock
  held : s.locks[lock]? = some r

variable {s : SharedRouter H} {lock via : Nat} {r : Router H}

theorem shares_ofRouter (r : Router H) : (ofRouter r).Shares 0 r :=
  ⟨fun _ hmem => List.mem_singleton.mp hmem, rfl⟩

namespace Shares

theorem getElem?_handles (h : s.Shares lock r) (hvia : via < s.handles.length) :
    s.handles[via]? = some lock := by
  rw [List.getElem?_eq_getElem hvia, h.points _ (List.getElem_mem hvia)]

/-- Every handle reaches the router. -/
theorem router?_eq (h : s.Shares lock r) (hvia : via < s.handles.length) :
    s.router? via = some r := by
  rw [router?, h.getElem?_handles hvia, Option.bind_some, h.held]

/-- A call through any handle finds the router behind the lock. -/
theorem step_eq (h : s.Shares lock r) (hvia : via < s.handles.length) (call : SharedCall H R) :
    s.step via call =
      some ((s.perform lock r call).1, (s.perform lock r call).2, events r call) := by
  rw [step, h.getElem?_handles hvia, Option.bind_some, h.held, Option.map_some]

/-- A clone points to the same lock. -/
theorem clone (h : s.Shares lock r) :
    (s.perform lock r (.clone : SharedCall H R)).1.Shares lock r where
  points handle hmem := by
    rcases List.mem_append.mp hmem with hold | hnew
    · exact h.points handle hold
    · exact List.mem_singleton.mp hnew
  held := h.held

/-- **The step.**  All handles then reach the router that the plain one becomes, and the reply agrees
with the replies of the plain one. -/
theorem perform (h : s.Shares lock r) (call : SharedCall H R) :
    (s.perform lock r call).1.Shares lock (r.run call.asks).1 ∧
      (s.perform lock r call).1.handles.length = s.handles.length + call.newHandles ∧
      call.Agrees (r.replies call.asks) (s.perform lock r call).2 := by
  cases call with
  | clone => exact ⟨h.clone, List.length_append, .clone⟩
  | register spec handler =>
    obtain ⟨hafter, hagrees⟩ := r.agrees_tryRegister spec handler
    have hlock : lock < s.locks.length := (List.getElem?_eq_some_iff.mp h.held).1
    refine ⟨⟨h.points, ?_⟩, rfl, hagrees⟩
    show (s.locks.set lock (r.tryRegister spec handler).1)[lock]? = _
    rw [List.getElem?_set_self hlock, hafter]
    rfl
  | matchWith q f => exact ⟨h, rfl, .matchWith⟩
  | resolve q => exact ⟨h, rfl, .resolved (r.isCopy_resolve q)⟩
  | resolveRequest request =>
    have hsame : (r.run [.answer request]).1 = r := r.fst_step_look ⟨.answer request, rfl⟩
    refine ⟨?_, rfl, r.agrees_resolveRequest request⟩
    rw [SharedCall.asks, hsame]
    exact h
  | read looks =>
    rw [SharedCall.asks, Router.replies, r.run_looks, List.map_map]
    exact ⟨h, rfl, .seen⟩
  | size => exact ⟨h, rfl, .size⟩
  | isEmpty => exact ⟨h, rfl, .isEmpty⟩

/-! ## Runs -/

/-- **The run.**  Calls through handles that exist all go through, each reply agrees with what the
plain router replies after the calls before it, and the handles end up at the router that the plain
one becomes. -/
theorem run (h : s.Shares lock r) {steps : List (Nat × SharedCall H R)}
    (hsteps : Admissible s.handles.length steps) :
    ∃ final replies, s.run steps = some (final, replies) ∧ replies.length = steps.length ∧
      (∀ front via call back, steps = front ++ (via, call) :: back →
        ∃ reply, replies[front.length]? = some reply ∧
          call.Agrees ((r.run (erase front)).1.replies call.asks) reply.1) ∧
      final.Shares lock (r.run (erase steps)).1 ∧
      final.handles.length = s.handles.length + newHandles steps := by
  induction steps generalizing s r with
  | nil =>
    refine ⟨s, [], rfl, rfl, fun front via call back hcut => ?_, h, rfl⟩
    exact absurd hcut.symm (List.append_ne_nil_of_right_ne_nil _ (List.cons_ne_nil _ _))
  | cons made rest ih =>
    obtain ⟨via, call⟩ := made
    obtain ⟨hvia, hrest⟩ := hsteps
    obtain ⟨hshares, hhandles, hagrees⟩ := h.perform call
    obtain ⟨final, replies, hrun, hlength, hreplies, hfinal, hcount⟩ :=
      ih hshares (by rw [hhandles]; exact hrest)
    have hplain : ∀ steps : List (Nat × SharedCall H R),
        (r.run (erase ((via, call) :: steps))).1 = ((r.run call.asks).1.run (erase steps)).1 := by
      intro steps
      rw [erase, List.flatMap_cons, Router.run_append, erase]
    refine ⟨final, ((s.perform lock r call).2, events r call) :: replies, ?_,
      congrArg (· + 1) hlength, fun front via' call' back hcut => ?_, ?_, ?_⟩
    · rw [SharedRouter.run, h.step_eq hvia, Option.bind_some]
      dsimp only
      rw [hrun, Option.map_some]
    · cases front with
      | nil =>
        obtain ⟨⟨rfl, rfl⟩, -⟩ := List.cons.inj hcut
        exact ⟨_, rfl, hagrees⟩
      | cons first front =>
        obtain ⟨rfl, hbehind⟩ := List.cons.inj hcut
        rw [hplain]
        exact hreplies front via' call' back hbehind
    · rw [hplain]
      exact hfinal
    · rw [hcount, hhandles, Nat.add_assoc]
      rfl

end Shares

/-- **A shared router is one plain router.**  Whatever router is shared, calls made through any
    handles that exist when they are made all go through.  A plain router is asked the same, with
    clones and the choice of handles erased.  At every point of the session the reply agrees with what
    the plain router replies there: a registration is done or refused with the same refusal and the
    same message, functions are handed the same matches, copies hold the same handler, parameters and
    pattern, requests are refused with the same error, and looks have the same replies.  In the end
    every handle, of which there is one for each clone beside the first, reaches the router that the
    plain one has become. -/
theorem run_refines (r : Router H) (steps : List (Nat × SharedCall H R)) (h : Admissible 1 steps) :
    ∃ final replies, (ofRouter r).run steps = some (final, replies) ∧
      replies.length = steps.length ∧
      (∀ front via call back, steps = front ++ (via, call) :: back →
        ∃ reply, replies[front.length]? = some reply ∧
          call.Agrees ((r.run (erase front)).1.replies call.asks) reply.1) ∧
      final.handles.length = 1 + newHandles steps ∧
      ∀ via < final.handles.length, final.router? via = some (r.run (erase steps)).1 := by
  obtain ⟨final, replies, hrun, hlength, hreplies, hfinal, hcount⟩ := (shares_ofRouter r).run h
  exact ⟨final, replies, hrun, hlength, hreplies, hcount, fun via hvia => hfinal.router?_eq hvia⟩

/-- A preloaded router and two clients.  A route that one registers through a clone is refused to the
    other under another name, with the message of the refusal, and a copy of it is handed out through
    the first handle. -/
theorem run_refines_of_two_clients :
    let r := ((Router.empty {} : Router Nat).register "GET /a" (some 0)).1
    let q : Query := ⟨"GET", "h", "/b"⟩
    let refusal : RouteError := ⟨"GET h/\x7by\x7d", .conflict "GET h/\x7bx\x7d"⟩
    let front : List (Nat × SharedCall Nat Nat) :=
      [(0, .clone), (1, .register "GET h/\x7bx\x7d" (some 1)), (1, .clone),
        (0, .resolveRequest ⟨"OPTIONS", .asteriskForm, []⟩)]
    let back : List (Nat × SharedCall Nat Nat) :=
      [(1, .read [⟨.lookup q, rfl⟩, ⟨.patterns, rfl⟩]), (2, .size)]
    let steps := front ++ (2, .register refusal.spec (some 2)) :: (0, .resolve q) :: back
    Admissible 1 steps ∧
      ∃ final replies, (ofRouter r).run steps = some (final, replies) ∧
        (∃ events, replies[4]? = some (.registered (.error (.route refusal)), events)) ∧
        (∃ events, replies[5]? =
          some (.resolved (some ⟨1, [("x", "b")], "GET h/\x7bx\x7d"⟩), events)) ∧
        final.handles.length = 3 ∧ final.router? 2 = some (r.run (erase steps)).1 := by
  intro r q refusal front back steps
  have h : Admissible 1 steps :=
    ⟨by decide, by decide, by decide, by decide, by decide, by decide, by decide, by decide, trivial⟩
  obtain ⟨final, replies, hrun, -, hreplies, hcount, hfinal⟩ := run_refines r steps h
  have hthree : final.handles.length = 3 := hcount
  refine ⟨h, final, replies, hrun, ?_, ?_, hthree, hfinal 2 (by rw [hthree]; decide)⟩
  · obtain ⟨⟨reply, events⟩, hat, hagrees⟩ :=
      hreplies front 2 (.register refusal.spec (some 2)) ((0, .resolve q) :: back) rfl
    have hrefused : ((r.run (erase front)).1.register refusal.spec (some 2)).2 = .error refusal := by
      decide +kernel
    have hplain : (r.run (erase front)).1.replies [.register refusal.spec (some 2)] =
        [.registration ((r.run (erase front)).1.register refusal.spec (some 2)).2 _] := rfl
    rw [SharedCall.asks, hplain, hrefused] at hagrees
    cases hagrees with
    | refused herror _ => exact ⟨events, herror ▸ hat⟩
  · obtain ⟨⟨reply, events⟩, hat, hagrees⟩ :=
      hreplies (front ++ [(2, .register refusal.spec (some 2))]) 0 (.resolve q) back rfl
    have hfound : ((r.run (erase (front ++ [(2, .register refusal.spec (some 2))]))).1.lookup q).map
        RouteMatch.ofMatch = some ⟨1, [("x", "b")], "GET h/\x7bx\x7d"⟩ := by
      decide +kernel
    obtain ⟨found, hlookup, hcopied⟩ := Option.map_eq_some_iff.mp hfound
    have hplain : (r.run (erase (front ++ [(2, .register refusal.spec (some 2))]))).1.replies
        [.lookup q] = [.found (some found)] := by
      rw [← hlookup]
      rfl
    rw [SharedCall.asks, hplain] at hagrees
    cases hagrees with
    | resolved hcopy =>
      cases hcopy with
      | some hcopy => exact ⟨events, by rw [← hcopied, ← hcopy.eq_ofMatch]; exact hat⟩

end SharedRouter

end HttpRouting
