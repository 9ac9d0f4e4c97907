/-
  Tries with labelled edges.

  A vertex may hold a value, and edges lead from it to the vertices below.  A label is a literal
  text, the wildcard or the catch-all.  The address of a vertex is the list of the labels on the
  way to it, and `insert` and `get?` obey the laws of a map over addresses: what was inserted is
  found (`get?_insert_self`), and nothing else changes (`get?_insert_of_ne`).  `exchange` inserts and
  gives the old value on one walk, which is what `insert` and `get?` do on two (`exchange_eq`).

  The edges of a vertex form one list whose cells carry the vertex below (its value and its own
  edges) and the edges beside; so trie and edges need no mutual recursion.
-/

namespace HttpRouting

universe u v

/-- What an edge of a trie asks of a token. -/
inductive Label where
  /-- The token is `text`. -/
  | literal (text : String)
  /-- Any one token. -/
  | wildcard
  /-- Any tokens that are left. -/
  | catchAll
deriving DecidableEq, Repr

/-- The edges of a vertex: none, or one edge, the vertex below it, and the edges beside it. -/
inductive Trie.Edges (α : Type u) where
  | none
  | edge (label : Label) (value : Option α) (below : Edges α) (beside : Edges α)

/-- A trie, seen from its root. -/
structure Trie (α : Type u) where
  /-- The value held at the root. -/
  value : Option α
  /-- The edges from the root. -/
  edges : Trie.Edges α

namespace Trie

variable {α : Type u} {β : Type v}

/-- The trie that holds nothing. -/
def empty : Trie α := ⟨.none, .none⟩

instance : EmptyCollection (Trie α) := ⟨empty⟩

instance : Inhabited (Trie α) := ⟨empty⟩

/-! ## Edges -/

namespace Edges

/-- The trie at the end of the edge with a label. -/
def child? : Edges α → Label → Option (Trie α)
  | none, _ => Option.none
  | edge l value below beside, label =>
    if l = label then some ⟨value, below⟩ else beside.child? label

/-- An edge to a trie, and the edges beside it. -/
def cons (label : Label) (child : Trie α) (beside : Edges α) : Edges α :=
  match child with
  | ⟨value, below⟩ => edge label value below beside

/-- Changes the trie at the end of the edge with a label; an edge that is missing is made, with
the empty trie at its end. -/
def alter (label : Label) (f : Trie α → Trie α) : Edges α → Edges α
  | none => cons label (f ∅) none
  | edge l value below beside =>
    if l = label then cons l (f ⟨value, below⟩) beside
    else edge l value below (beside.alter label f)

/-- Changes the trie at the end of the edge with a label as `alter` does, and gives what the change
gives besides. -/
def modify (label : Label) (f : Trie α → Trie α × β) : Edges α → Edges α × β
  | none =>
    let (child, b) := f ∅
    (cons label child none, b)
  | edge l value below beside =>
    if l = label then
      let (child, b) := f ⟨value, below⟩
      (cons l child beside, b)
    else
      let (beside, b) := beside.modify label f
      (edge l value below beside, b)

/-- The edges with the tries at their ends. -/
def toList : Edges α → List (Label × Trie α)
  | none => []
  | edge label value below beside => (label, ⟨value, below⟩) :: beside.toList

/-- The values held below the edges. -/
def values : Edges α → List α
  | none => []
  | edge _ value below beside => value.toList ++ below.values ++ beside.values

theorem child?_cons (l : Label) (child : Trie α) (beside : Edges α) (label : Label) :
    (cons l child beside).child? label =
      if l = label then some child else beside.child? label := rfl

theorem child?_alter_self (label : Label) (f : Trie α → Trie α) (edges : Edges α) :
    (edges.alter label f).child? label = some (f ((edges.child? label).getD ∅)) := by
  induction edges with
  | none => simp [alter, child?_cons, child?]
  | edge l value below beside _ ih =>
    by_cases h : l = label
    · simp [alter, child?_cons, child?, h]
    · simp [alter, child?, h, ih]

theorem child?_alter_of_ne {label other : Label} (hne : label ≠ other) (f : Trie α → Trie α)
    (edges : Edges α) : (edges.alter label f).child? other = edges.child? other := by
  induction edges with
  | none => simp [alter, child?_cons, child?, hne]
  | edge l value below beside _ ih =>
    by_cases h : l = label
    · subst h
      simp [alter, child?_cons, child?, hne]
    · by_cases ho : l = other
      · simp [alter, child?, ho, Ne.symm hne]
      · simp [alter, child?, h, ho, ih]

theorem modify_eq (label : Label) (f : Trie α → Trie α × β) (edges : Edges α) :
    edges.modify label f =
      (edges.alter label fun child => (f child).1, (f ((edges.child? label).getD ∅)).2) := by
  induction edges with
  | none => rfl
  | edge l value below beside _ ih =>
    by_cases h : l = label
    · simp only [modify, alter, child?, if_pos h]
      rfl
    · simp only [modify, alter, child?, if_neg h, ih]

end Edges

/-! ## Vertices -/

/-- The trie at the end of the edge with a label. -/
def child? (t : Trie α) (label : Label) : Option (Trie α) :=
  t.edges.child? label

/-- The edges from the root with the tries at their ends. -/
def children (t : Trie α) : List (Label × Trie α) :=
  t.edges.toList

/-- The trie at an address. -/
def sub? (t : Trie α) : List Label → Option (Trie α)
  | [] => some t
  | label :: rest => (t.child? label).bind (·.sub? rest)

/-- The value held at an address. -/
def get? (t : Trie α) (address : List Label) : Option α :=
  (t.sub? address).bind value

/-- Holds `a` at an address, in place of the value held there before. -/
def insert (t : Trie α) : List Label → α → Trie α
  | [], a => { t with value := some a }
  | label :: rest, a => { t with edges := t.edges.alter label (·.insert rest a) }

/-- Holds `a` at an address, and gives the value held there before. -/
def exchange (t : Trie α) : List Label → α → Trie α × Option α
  | [], a => ({ t with value := some a }, t.value)
  | label :: rest, a =>
    let (edges, held) := t.edges.modify label (·.exchange rest a)
    ({ t with edges }, held)

/-- The values held in the trie. -/
def values (t : Trie α) : List α :=
  t.value.toList ++ t.edges.values

/-! ## The laws of a map -/

theorem get?_nil (t : Trie α) : t.get? [] = t.value := rfl

theorem get?_cons (t : Trie α) (label : Label) (rest : List Label) :
    t.get? (label :: rest) = (t.child? label).bind (·.get? rest) := by
  rw [get?, sub?, Option.bind_assoc]
  rfl

theorem get?_empty (address : List Label) : (∅ : Trie α).get? address = none := by
  cases address <;> rfl

/-- Looking below an edge that was altered, whether or not it was there. -/
theorem getD_child?_get? (t : Trie α) (label : Label) (rest : List Label) :
    ((t.child? label).getD ∅).get? rest = t.get? (label :: rest) := by
  rw [get?_cons]
  cases t.child? label with
  | none => exact get?_empty rest
  | some child => rfl

theorem get?_insert_self (t : Trie α) (address : List Label) (a : α) :
    (t.insert address a).get? address = some a := by
  induction address generalizing t with
  | nil => rfl
  | cons label rest ih =>
    rw [get?_cons, insert, child?, Edges.child?_alter_self]
    exact ih _

theorem get?_insert_of_ne {address other : List Label} (hne : address ≠ other) (t : Trie α)
    (a : α) : (t.insert address a).get? other = t.get? other := by
  induction address generalizing t other with
  | nil =>
    cases other with
    | nil => exact absurd rfl hne
    | cons label rest => rfl
  | cons label rest ih =>
    cases other with
    | nil => rfl
    | cons label' rest' =>
      rw [get?_cons, insert, child?]
      by_cases h : label = label'
      · subst h
        have hrest : rest ≠ rest' := fun h => hne (congrArg _ h)
        rw [Edges.child?_alter_self, Option.bind_some, ih hrest]
        exact getD_child?_get? t label rest'
      · rw [Edges.child?_alter_of_ne h, get?_cons]
        rfl

/-- To exchange is to look up and to insert: both walks lead to the same vertex, although the one
makes the vertices that it misses and the other gives up. -/
theorem exchange_eq (t : Trie α) (address : List Label) (a : α) :
    t.exchange address a = (t.insert address a, t.get? address) := by
  induction address generalizing t with
  | nil => rfl
  | cons label rest ih =>
    have hwalk : (·.exchange rest a) =
        fun child : Trie α => (child.insert rest a, child.get? rest) := funext ih
    rw [exchange, hwalk, Edges.modify_eq, ← getD_child?_get?]
    rfl

end Trie

end HttpRouting
