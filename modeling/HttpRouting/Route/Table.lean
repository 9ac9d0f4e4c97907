/-
  The table of routes: a trie of routes, each held at the address of its pattern.

  A query is looked up under its host first and then, if the host is not empty, under any host.
  Under each host the method is tried as it is and then by its stand-in: with the HEAD fallback, a
  HEAD request is also looked up as GET.  All these searches share one list of captures.
-/
import HttpRouting.Config
import HttpRouting.Route.Basic

namespace HttpRouting

universe u

/-- A trie of routes. -/
abbrev RouteTable (H : Type u) := Trie (Route H)

namespace RouteTable

variable {H : Type u}

/-! ## Registration -/

/-- The route at the place of a pattern. -/
def find? (table : RouteTable H) (p : Pattern) : Option (Route H) :=
  table.get? p.address

/-- Enters a handler under a pattern: the table after it, and the pattern that held the place before.
Under `Collision.reject` a taken place is an error, the pattern that holds it. -/
def enter (table : RouteTable H) (collision : Collision) (p : Pattern) (handler : H) :
    RouteTable H × Except Pattern (Option Pattern) :=
  match collision, table.find? p with
  | .reject, some held => (table, .error held.pattern)
  | _, _ =>
    let (table, held) := table.exchange p.address ⟨handler, p⟩
    (table, .ok (held.map Route.pattern))

/-- To enter a handler is to look up who holds the place and to insert. -/
theorem enter_eq (table : RouteTable H) (collision : Collision) (p : Pattern) (handler : H) :
    table.enter collision p handler =
      match collision, table.find? p with
      | .reject, some held => (table, .error held.pattern)
      | _, held => (table.insert p.address ⟨handler, p⟩, .ok (held.map Route.pattern)) := by
  have hwalk : table.exchange p.address ⟨handler, p⟩ =
      (table.insert p.address ⟨handler, p⟩, table.find? p) := Trie.exchange_eq ..
  unfold enter
  rw [hwalk]
  cases collision <;> cases table.find? p <;> rfl

/-! ## Lookup -/

/-- The hosts under which a query is looked up, in order. -/
def hosts (host : String) : List String :=
  if host = "" then [""] else [host, ""]

/-- The methods under which a query is looked up, in order. -/
def methods (headFallback : Bool) (method : String) : List String :=
  if headFallback ∧ method = "HEAD" then ["HEAD", "GET"] else [method]

/-- The addresses below which a query is looked up, in order. -/
def starts (headFallback : Bool) (q : Query) : List (List Label) :=
  (hosts q.host).flatMap fun host =>
    (methods headFallback q.method).map fun method => [.literal host, .literal method]

/-- The route that answers a query, with the tokens captured on the way to it. -/
def lookup (table : RouteTable H) (headFallback : Bool) (q : Query) :
    Option (Route H × Captures) :=
  match Path.tokens? q.path with
  | none => none
  | some tokens =>
    match table.searchAt (starts headFallback q) tokens [] with
    | (none, _) => none
    | (some route, captures) => some (route, captures)

/-! ## Contents -/

/-- The routes held. -/
def routes (table : RouteTable H) : List (Route H) :=
  table.values

/-- Whether some host has an entry for a method. -/
def hasMethod (table : RouteTable H) (method : String) : Bool :=
  table.children.any fun
    | (.literal _, host) => (host.child? (.literal method)).isSome
    | _ => false

end RouteTable

end HttpRouting
