/-
  The vertices of a trie, and what `insert` does to all of them at once.

  `get?` looks at one address; this module is about the whole trie.

  1. **Enumeration** - `values_insert`: an insertion adds the new value to `values` and takes the
     old one away, whatever the trie looks like.  It is stated with the old value on the left, so
     that a free place and a taken place are one law.

  2. **Tidiness** - `Tidy` says that no vertex has two edges with one label and that no branch is
     dead: every vertex below an edge has a value or an edge.  `tidy_insert` keeps it.

  3. **What tidiness buys** - `mem_values_iff`: the values enumerated are the values found by
     `get?`; `At.sub?_eq`: following edges is the same as `sub?`; `At.exists_get?`: every vertex
     but the root has a value at or below it.
-/
import HttpRouting.Trie.Basic

namespace HttpRouting

universe u

variable {α : Type u}

namespace Trie

/-! ## Addresses -/

theorem sub?_append (t : Trie α) (front back : List Label) :
    t.sub? (front ++ back) = (t.sub? front).bind (·.sub? back) := by
  induction front generalizing t with
  | nil => rfl
  | cons label rest ih =>
    show (t.child? label).bind (·.sub? (rest ++ back)) =
      ((t.child? label).bind (·.sub? rest)).bind (·.sub? back)
    rw [Option.bind_assoc]
    exact Option.bind_congr fun child _ => ih child

theorem get?_append (t : Trie α) (front back : List Label) :
    t.get? (front ++ back) = (t.sub? front).bind (·.get? back) := by
  rw [get?, sub?_append, Option.bind_assoc]
  rfl

/-! ## The values after an insertion -/

theorem values_empty : (∅ : Trie α).values = [] := rfl

theorem Edges.values_cons (label : Label) (child : Trie α) (beside : Edges α) :
    (cons label child beside).values = child.values ++ beside.values := rfl

/-- An edge is altered: its old contents leave the values, its new contents enter them.  `held`
    picks out what `f` replaces. -/
theorem Edges.values_alter (f : Trie α → Trie α) (held : Trie α → Option α) {a : α}
    (hempty : held ∅ = Option.none)
    (hf : ∀ child, ((f child).values ++ (held child).toList).Perm (a :: child.values))
    (label : Label) (edges : Edges α) :
    ((edges.alter label f).values ++ ((edges.child? label).bind held).toList).Perm
      (a :: edges.values) := by
  induction edges with
  | none =>
    have h := hf ∅
    rw [hempty, values_empty] at h
    show ((f ∅).values ++ [] ++ []).Perm [a]
    simpa using h
  | edge l value below beside _ ih =>
    by_cases h : l = label
    · -- the altered edge: `beside` stands between the new values and the old one
      have hchild := (hf ⟨value, below⟩).append_right beside.values
      rw [alter, child?, if_pos h, if_pos h, values_cons, Option.bind_some, List.append_assoc]
      refine (List.Perm.append_left _ List.perm_append_comm).trans ?_
      rw [← List.append_assoc]
      exact hchild
    · have hbeside := ih.append_left (value.toList ++ below.values)
      simp only [alter, child?, if_neg h]
      refine (List.Perm.of_eq (List.append_assoc ..)).trans (hbeside.trans ?_)
      exact List.perm_middle

/-- **The law of enumeration.**  After an insertion the new value is among the values, and the
    value that held the place before, if any, is not. -/
theorem values_insert (t : Trie α) (address : List Label) (a : α) :
    ((t.insert address a).values ++ (t.get? address).toList).Perm (a :: t.values) := by
  induction address generalizing t with
  | nil =>
    show (a :: t.edges.values ++ t.value.toList).Perm (a :: (t.value.toList ++ t.edges.values))
    exact List.Perm.cons a List.perm_append_comm
  | cons label rest ih =>
    rw [get?_cons]
    have h := Edges.values_alter (·.insert rest a) (·.get? rest) (get?_empty rest) ih label t.edges
    -- the value of the vertex itself stands before everything
    show (t.value.toList ++ (t.edges.alter label (·.insert rest a)).values ++ _).Perm
      (a :: (t.value.toList ++ t.edges.values))
    rw [List.append_assoc]
    exact (h.append_left t.value.toList).trans List.perm_middle

/-! ## Tidy tries -/

/-- A vertex that leads somewhere: it has a value or an edge. -/
def Live (t : Trie α) : Prop := t.value.isSome ∨ t.edges ≠ .none

/-- No two edges beside each other have one label, and every vertex below leads somewhere. -/
def Edges.Tidy : Edges α → Prop
  | none => True
  | edge label value below beside =>
    beside.child? label = .none ∧ Live ⟨value, below⟩ ∧ below.Tidy ∧ beside.Tidy

/-- No vertex has two edges with one label, and no branch is dead. -/
def Tidy (t : Trie α) : Prop := t.edges.Tidy

theorem tidy_empty : (∅ : Trie α).Tidy := trivial

theorem Edges.tidy_cons {label : Label} {child : Trie α} {beside : Edges α} :
    (cons label child beside).Tidy ↔
      beside.child? label = .none ∧ child.Live ∧ child.Tidy ∧ beside.Tidy := Iff.rfl

theorem Edges.Tidy.child {edges : Edges α} (h : edges.Tidy) {label : Label} {child : Trie α}
    (hchild : edges.child? label = some child) : child.Live ∧ child.Tidy := by
  induction edges with
  | none => exact absurd hchild (by simp [child?])
  | edge l value below beside _ ih =>
    obtain ⟨-, hlive, hbelow, hbeside⟩ := h
    by_cases hl : l = label
    · rw [child?, if_pos hl] at hchild
      obtain rfl := Option.some.inj hchild
      exact ⟨hlive, hbelow⟩
    · rw [child?, if_neg hl] at hchild
      exact ih hbeside hchild

theorem Edges.Tidy.alter {edges : Edges α} (h : edges.Tidy) {f : Trie α → Trie α}
    (hlive : ∀ child, (f child).Live) (htidy : ∀ child, child.Tidy → (f child).Tidy)
    (label : Label) : (edges.alter label f).Tidy := by
  induction edges with
  | none => exact tidy_cons.mpr ⟨rfl, hlive _, htidy _ tidy_empty, trivial⟩
  | edge l value below beside _ ih =>
    obtain ⟨hnew, hvalue, hbelow, hbeside⟩ := h
    by_cases hl : l = label
    · rw [Edges.alter, if_pos hl]
      exact tidy_cons.mpr ⟨hnew, hlive _, htidy _ hbelow, hbeside⟩
    · rw [Edges.alter, if_neg hl]
      refine ⟨?_, hvalue, hbelow, ih hbeside⟩
      rw [child?_alter_of_ne (Ne.symm hl)]
      exact hnew

theorem Edges.alter_ne_none (label : Label) (f : Trie α → Trie α) (edges : Edges α) :
    edges.alter label f ≠ none := by
  intro h
  have hself := child?_alter_self label f edges
  rw [h] at hself
  exact absurd hself (by simp [child?])

theorem live_insert (t : Trie α) (address : List Label) (a : α) : (t.insert address a).Live := by
  cases address with
  | nil => exact Or.inl rfl
  | cons label rest => exact Or.inr (Edges.alter_ne_none label _ t.edges)

/-- An insertion keeps a trie tidy: the vertices it makes all lie on the way to the new value. -/
theorem tidy_insert {t : Trie α} (h : t.Tidy) (address : List Label) (a : α) :
    (t.insert address a).Tidy := by
  induction address generalizing t with
  | nil => exact h
  | cons label rest ih =>
    exact Edges.Tidy.alter h (fun child => live_insert child rest a) (fun _ hc => ih hc) label

/-! ## The values of a tidy trie -/

/-- A value is found at the root or below an edge. -/
theorem exists_get?_iff {t : Trie α} {a : α} :
    (∃ address, t.get? address = some a) ↔
      t.value = some a ∨
        ∃ label child rest, t.child? label = some child ∧ child.get? rest = some a := by
  constructor
  · rintro ⟨address, h⟩
    cases address with
    | nil => exact Or.inl h
    | cons label rest =>
      rw [get?_cons] at h
      obtain ⟨child, hchild, hrest⟩ := Option.bind_eq_some_iff.mp h
      exact Or.inr ⟨label, child, rest, hchild, hrest⟩
  · rintro (h | ⟨label, child, rest, hchild, hrest⟩)
    · exact ⟨[], h⟩
    · exact ⟨label :: rest, by rw [get?_cons, hchild]; exact hrest⟩

theorem Edges.Tidy.mem_values_iff {edges : Edges α} (h : edges.Tidy) {a : α} :
    a ∈ edges.values ↔
      ∃ label child rest, edges.child? label = some child ∧ child.get? rest = some a := by
  induction edges with
  | none => simp [Edges.values, child?]
  | edge l value below beside ihbelow ihbeside =>
    obtain ⟨hnew, -, hbelow, hbeside⟩ := h
    have hvertex : a ∈ value.toList ++ below.values ↔
        ∃ rest, (⟨value, below⟩ : Trie α).get? rest = some a := by
      rw [exists_get?_iff, List.mem_append, ihbelow hbelow]
      exact or_congr_left Option.mem_toList
    rw [Edges.values, List.mem_append, hvertex, ihbeside hbeside]
    constructor
    · rintro (⟨rest, hrest⟩ | ⟨label, child, rest, hchild, hrest⟩)
      · exact ⟨l, _, rest, by rw [child?, if_pos rfl], hrest⟩
      · -- the label is not that of the first edge, which no edge beside it shares
        have hl : l ≠ label := by rintro rfl; rw [hnew] at hchild; cases hchild
        exact ⟨label, child, rest, by rw [child?, if_neg hl]; exact hchild, hrest⟩
    · rintro ⟨label, child, rest, hchild, hrest⟩
      by_cases hl : l = label
      · rw [child?, if_pos hl] at hchild
        obtain rfl := Option.some.inj hchild
        exact Or.inl ⟨rest, hrest⟩
      · rw [child?, if_neg hl] at hchild
        exact Or.inr ⟨label, child, rest, hchild, hrest⟩

/-- The values enumerated are the values found by their addresses. -/
theorem mem_values_iff {t : Trie α} (h : t.Tidy) {a : α} :
    a ∈ t.values ↔ ∃ address, t.get? address = some a := by
  rw [exists_get?_iff, values, List.mem_append, Edges.Tidy.mem_values_iff h]
  exact or_congr_left Option.mem_toList

/-- There is a value at or below every vertex that leads somewhere. -/
theorem Live.exists_get? {t : Trie α} (hlive : t.Live) (h : t.Tidy) :
    ∃ address a, t.get? address = some a := by
  obtain ⟨value, edges⟩ := t
  induction edges generalizing value with
  | none =>
    rcases hlive with hvalue | hedges
    · obtain ⟨a, ha⟩ := Option.isSome_iff_exists.mp hvalue
      exact ⟨[], a, ha⟩
    · exact absurd rfl hedges
  | edge l childValue below beside ihbelow _ =>
    obtain ⟨-, hchild, hbelow, -⟩ := h
    obtain ⟨address, a, ha⟩ := ihbelow childValue hchild hbelow
    refine ⟨l :: address, a, ?_⟩
    rw [get?_cons, child?, Edges.child?, if_pos rfl]
    exact ha

/-! ## Following edges -/

/-- The edges labelled by an address lead from the root of a trie to a vertex. -/
inductive At : Trie α → List Label → Trie α → Prop
  | root (t : Trie α) : At t [] t
  | edge {t child v : Trie α} {label : Label} {rest : List Label}
      (hedge : (label, child) ∈ t.children) (hrest : At child rest v) : At t (label :: rest) v

theorem Edges.Tidy.mem_toList_iff {edges : Edges α} (h : edges.Tidy) {label : Label}
    {child : Trie α} : (label, child) ∈ edges.toList ↔ edges.child? label = some child := by
  induction edges with
  | none => simp [toList, child?]
  | edge l value below beside _ ih =>
    obtain ⟨hnew, -, -, hbeside⟩ := h
    rw [toList, List.mem_cons, ih hbeside, child?]
    by_cases hl : l = label
    · subst hl
      rw [if_pos rfl, hnew]
      simp [eq_comm]
    · rw [if_neg hl]
      simp [Ne.symm hl]

/-- The edges of a vertex have different labels. -/
theorem Edges.Tidy.nodup_labels {edges : Edges α} (h : edges.Tidy) :
    (edges.toList.map Prod.fst).Nodup := by
  induction edges with
  | none => exact List.nodup_nil
  | edge l value below beside _ ih =>
    obtain ⟨hnew, -, -, hbeside⟩ := h
    refine List.nodup_cons.mpr ⟨fun hl => ?_, ih hbeside⟩
    obtain ⟨⟨label, child⟩, hmem, rfl⟩ := List.mem_map.mp hl
    rw [hbeside.mem_toList_iff, hnew] at hmem
    cases hmem

/-- In a tidy trie, to follow edges is to look up their labels; what is reached is tidy. -/
theorem At.sub?_eq {t v : Trie α} {address : List Label} (hat : t.At address v) (h : t.Tidy) :
    t.sub? address = some v ∧ v.Tidy := by
  induction hat with
  | root t => exact ⟨rfl, h⟩
  | edge hedge _ ih =>
    have hchild := h.mem_toList_iff.mp hedge
    obtain ⟨hsub, htidy⟩ := ih (Edges.Tidy.child h hchild).2
    exact ⟨by rw [sub?, Trie.child?, hchild]; exact hsub, htidy⟩

/-- Every vertex but the root leads somewhere. -/
theorem At.live {t v : Trie α} {address : List Label} (hat : t.At address v) (h : t.Tidy)
    (hne : address ≠ []) : v.Live := by
  induction hat with
  | root t => exact absurd rfl hne
  | @edge t child v label rest hedge hrest ih =>
    obtain ⟨hlive, htidy⟩ := Edges.Tidy.child h (h.mem_toList_iff.mp hedge)
    cases rest with
    | nil => cases hrest; exact hlive
    | cons _ _ => exact ih htidy (List.cons_ne_nil _ _)

/-- A vertex other than the root lies on the way to a value. -/
theorem At.exists_get? {t v : Trie α} {address : List Label} (hat : t.At address v) (h : t.Tidy)
    (hne : address ≠ []) : ∃ rest a, v.get? rest = some a ∧ t.get? (address ++ rest) = some a := by
  obtain ⟨hsub, htidy⟩ := hat.sub?_eq h
  obtain ⟨rest, a, ha⟩ := (hat.live h hne).exists_get? htidy
  exact ⟨rest, a, ha, by rw [get?_append, hsub]; exact ha⟩

end Trie

end HttpRouting
