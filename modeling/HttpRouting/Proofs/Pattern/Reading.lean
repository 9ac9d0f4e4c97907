/-
  Reading a token inverts writing a segment.

  1. **Characters** - `isTokenChar_iff`: the characters of a method are the visible ASCII characters
     that are no delimiter.  Those of an identifier are among them, so none is a blank, a slash or a
     brace.

  2. **One token** - `read_eq_ok_iff`: a token reads as a segment exactly if the segment can be
     written (`Segment.IsWritable`) and the token is what it writes.  The order in which the reader
     makes its tests leaves no trace.

  3. **All tokens** - `fault?_eq_none_iff` reads the check of one segment as a condition, and
     `inPlace_cons_iff` adds these conditions up.  `readAll_eq_ok_iff`: tokens read as segments
     exactly if they are what the segments write, one by one, each can be written, and each is in
     its place with a new name.
-/
import HttpRouting.Pattern.Parser
import HttpRouting.Route.Basic

namespace HttpRouting

namespace Pattern

/-! ## Characters -/

/-- A property of ASCII characters holds if it holds of all code points below 128. -/
theorem ascii_forall {P : Char → Prop} (h : ∀ n < 128, P (Char.ofNat n)) {c : Char}
    (hc : c.toNat < 128) : P c := by
  have hofNat := h c.toNat hc
  rwa [Char.ofNat_toNat] at hofNat

/-- The characters that delimit the parts of a message, and that no token holds. -/
def delimiters : List Char := "\"(),/:;<=>?@[\\]\x7b\x7d".toList

/-- A visible ASCII character. -/
def IsVisible (c : Char) : Prop := 0x21 ≤ c.toNat ∧ c.toNat ≤ 0x7e

instance (c : Char) : Decidable (IsVisible c) := inferInstanceAs (Decidable (_ ∧ _))

theorem isAlphanum_lt {c : Char} (h : c.isAlphanum = true) : c.toNat < 128 := by
  have hcases : (c.isUpper || c.isLower || c.isDigit) = true := h
  have hlast : ∀ last : Char, c.val ≤ last.val → last.toNat < 128 → c.toNat < 128 :=
    fun _ hle => Nat.lt_of_le_of_lt (UInt32.le_iff_toNat_le.mp hle)
  rw [Bool.or_eq_true, Bool.or_eq_true] at hcases
  rcases hcases with (hupper | hlower) | hdigit
  · exact hlast 'Z' (of_decide_eq_true hupper).2 (by decide)
  · exact hlast 'z' (of_decide_eq_true (Bool.and_eq_true_iff.mp hlower).2) (by decide)
  · exact hlast '9' (of_decide_eq_true (Bool.and_eq_true_iff.mp hdigit).2) (by decide)

/-- The characters of a method are the visible ones without the delimiters. -/
theorem isTokenChar_iff {c : Char} :
    isTokenChar c = true ↔ IsVisible c ∧ c ∉ delimiters := by
  by_cases hc : c.toNat < 128
  · exact ascii_forall (P := fun c => isTokenChar c = true ↔ IsVisible c ∧ c ∉ delimiters)
      (by decide +kernel) hc
  · refine iff_of_false (fun h => hc ?_) (fun h => ?_)
    · rw [isTokenChar, Bool.or_eq_true] at h
      rcases h with halphanum | hmark
      · exact isAlphanum_lt halphanum
      · have hmarks : "!#$%&'*+-.^_`|~".toList.all (·.toNat < 128) = true := by decide
        simpa using List.all_eq_true.mp hmarks c (List.contains_iff_mem.mp hmark)
    · have hvisible := h.1.2
      omega

theorem isBlank_eq_false_of_isTokenChar {c : Char} (h : isTokenChar c = true) :
    Text.isBlank c = false := by
  have hvisible := (isTokenChar_iff.mp h).1
  exact ascii_forall (P := fun c => IsVisible c → Text.isBlank c = false) (by decide +kernel)
    (Nat.lt_of_le_of_lt hvisible.2 (by decide)) hvisible

theorem isBraceFree_iff {s : String} :
    isBraceFree s = true ↔ '\x7b' ∉ s.toList ∧ '\x7d' ∉ s.toList := by
  simp only [isBraceFree, isBrace, List.all_eq_true, Bool.not_eq_true', Bool.or_eq_false_iff,
    beq_eq_false_iff_ne]
  exact ⟨fun h => ⟨fun hmem => (h _ hmem).1 rfl, fun hmem => (h _ hmem).2 rfl⟩,
    fun h c hc => ⟨fun heq => h.1 (heq ▸ hc), fun heq => h.2 (heq ▸ hc)⟩⟩

/-! ## Identifiers -/

/-- The characters of an identifier. -/
def isNameChar (c : Char) : Bool := c.isAlphanum || c == '_'

theorem isIdentifier_iff {name : String} :
    isIdentifier name = true ↔ ∃ first rest, name.toList = first :: rest ∧
      (first.isAlpha = true ∨ first = '_') ∧ ∀ c ∈ rest, isNameChar c = true := by
  rw [isIdentifier]
  cases name.toList with
  | nil => exact iff_of_false Bool.false_ne_true nofun
  | cons first rest =>
    simp only [Bool.and_eq_true, Bool.or_eq_true, beq_iff_eq, List.all_eq_true]
    constructor
    · rintro ⟨hfirst, hrest⟩
      exact ⟨first, rest, rfl, hfirst, fun c hc => by simpa [isNameChar] using hrest c hc⟩
    · rintro ⟨_, _, heq, hfirst, hrest⟩
      obtain ⟨rfl, rfl⟩ := List.cons.inj heq
      exact ⟨hfirst, fun c hc => by simpa [isNameChar] using hrest c hc⟩

theorem ne_empty_of_isIdentifier {name : String} (h : isIdentifier name = true) : name ≠ "" := by
  rintro rfl
  exact Bool.false_ne_true h

theorem isNameChar_of_isIdentifier {name : String} (h : isIdentifier name = true) :
    ∀ c ∈ name.toList, isNameChar c = true := by
  obtain ⟨first, rest, hname, hfirst, hrest⟩ := isIdentifier_iff.mp h
  rw [hname]
  refine List.forall_mem_cons.mpr ⟨?_, hrest⟩
  rcases hfirst with halpha | rfl
  · simp [isNameChar, Char.isAlphanum, halpha]
  · rfl

theorem isTokenChar_of_isNameChar {c : Char} (h : isNameChar c = true) : isTokenChar c = true := by
  rw [isNameChar, Bool.or_eq_true, beq_iff_eq] at h
  rcases h with halphanum | rfl
  · rw [isTokenChar, halphanum, Bool.true_or]
  · rfl

/-- A character that no name has, such as a delimiter, is not in an identifier. -/
theorem not_mem_of_isIdentifier {name : String} (h : isIdentifier name = true) {c : Char}
    (hc : isNameChar c = false) : c ∉ name.toList := by
  intro hmem
  rw [isNameChar_of_isIdentifier h c hmem] at hc
  cases hc

theorem isBraceFree_of_isIdentifier {name : String} (h : isIdentifier name = true) :
    isBraceFree name = true :=
  isBraceFree_iff.mpr ⟨not_mem_of_isIdentifier h rfl, not_mem_of_isIdentifier h rfl⟩

end Pattern

/-! ## Places -/

/-- A label that ends an address: the catch-all, and the empty literal. -/
def Label.IsFinal : Label → Prop
  | literal text => text = ""
  | wildcard => False
  | catchAll => True

instance : DecidablePred Label.IsFinal
  | .literal text => inferInstanceAs (Decidable (text = ""))
  | .wildcard => inferInstanceAs (Decidable False)
  | .catchAll => inferInstanceAs (Decidable True)

namespace Segment

open Pattern

/-! ## One token -/

/-- A segment that some token writes: its text has no braces, or its name is an identifier, except
    that the name of a trailing slash is empty. -/
def IsWritable : Segment → Prop
  | literal text => isBraceFree text = true
  | wildcard name => isIdentifier name = true
  | catchAll name => name = "" ∨ isIdentifier name = true

theorem inBraces?_eq_some {token inner : String} :
    inBraces? token = some inner ↔ token = "\x7b" ++ inner ++ "\x7d" := by
  rw [inBraces?, Option.bind_eq_some_iff]
  constructor
  · rintro ⟨rest, hfront, hback⟩
    rw [Text.dropFront?_eq_some.mp hfront, Text.dropBack?_eq_some.mp hback, String.append_assoc]
  · rintro rfl
    exact ⟨inner ++ "\x7d", Text.dropFront?_eq_some.mpr (String.append_assoc ..),
      Text.dropBack?_eq_some.mpr rfl⟩

theorem render_catchAll {name : String} (hne : name ≠ "") :
    (catchAll name).render = "\x7b" ++ (name ++ "...") ++ "\x7d" := by
  rw [render, if_neg hne, String.append_assoc, String.append_assoc, String.append_assoc]
  rfl

/-- What the reader makes of braces around a text without braces. -/
theorem read_braces {inner : String} (hfree : isBraceFree inner = true) (hne : inner ≠ "$") :
    read ("\x7b" ++ inner ++ "\x7d") =
      match Text.dropBack? "..." inner with
      | some name => if isIdentifier name then .ok (catchAll name) else .error (.invalidName name)
      | none =>
        if isIdentifier inner then .ok (wildcard inner) else .error (.invalidName inner) := by
  have hin := inBraces?_eq_some.mpr (rfl : "\x7b" ++ inner ++ "\x7d" = _)
  have hbrace : ¬isBraceFree ("\x7b" ++ inner ++ "\x7d") = true := by
    rw [isBraceFree_iff]
    rintro ⟨hopen, -⟩
    simp at hopen
  have hempty : "\x7b" ++ inner ++ "\x7d" ≠ "" := by
    intro heq
    rw [heq] at hbrace
    exact hbrace rfl
  have hanchor : "\x7b" ++ inner ++ "\x7d" ≠ "\x7b$\x7d" := by
    intro heq
    rw [heq, show inBraces? "\x7b$\x7d" = some "$" by decide] at hin
    exact hne (Option.some.inj hin).symm
  have hfilter : (inBraces? ("\x7b" ++ inner ++ "\x7d")).filter isBraceFree = some inner := by
    rw [hin, Option.filter_some, if_pos hfree]
  rw [read, if_neg hempty, if_neg hanchor, if_neg hbrace]
  cases hback : Text.dropBack? "..." inner <;> simp only [hfilter, hback]

/-- What is read can be written, and is written so. -/
theorem writable_of_read {token : String} {segment : Segment} (h : read token = .ok segment) :
    segment.IsWritable ∧ segment.render = token := by
  unfold read at h
  split at h
  · -- a trailing slash
    rename_i hempty
    obtain rfl := Except.ok.inj h
    exact ⟨Or.inl rfl, hempty.symm⟩
  split at h
  · -- the end of the path
    rename_i hanchor
    obtain rfl := Except.ok.inj h
    exact ⟨rfl, hanchor.symm⟩
  split at h
  · -- a text
    rename_i hempty _ hfree
    obtain rfl := Except.ok.inj h
    exact ⟨hfree, if_neg hempty⟩
  split at h
  · cases h
  rename_i inner hinner
  obtain ⟨hin, -⟩ := Option.filter_eq_some_iff.mp hinner
  obtain rfl := inBraces?_eq_some.mp hin
  split at h
  · -- a catch-all
    rename_i name hname
    obtain rfl := Text.dropBack?_eq_some.mp hname
    split at h
    · rename_i hident
      obtain rfl := Except.ok.inj h
      exact ⟨Or.inr hident, render_catchAll (ne_empty_of_isIdentifier hident)⟩
    · cases h
  · -- a wildcard
    split at h
    · rename_i hident
      obtain rfl := Except.ok.inj h
      exact ⟨hident, rfl⟩
    · cases h

/-- What can be written is read back. -/
theorem read_render {segment : Segment} (h : segment.IsWritable) :
    read segment.render = .ok segment := by
  cases segment with
  | literal text =>
    have hfree : isBraceFree text = true := h
    by_cases hempty : text = ""
    · subst hempty
      rfl
    · have hanchor : text ≠ "\x7b$\x7d" := by
        rintro rfl
        exact absurd hfree (by decide)
      rw [render, if_neg hempty, read, if_neg hempty, if_neg hanchor, if_pos hfree]
  | wildcard name =>
    have hident : isIdentifier name = true := h
    have hname : name ≠ "$" := by
      rintro rfl
      exact absurd hident (by decide)
    have hback : Text.dropBack? "..." name = none := by
      rw [Option.eq_none_iff_forall_ne_some]
      intro front hfront
      -- an identifier has no dot
      refine not_mem_of_isIdentifier hident (c := '.') rfl ?_
      rw [Text.dropBack?_eq_some.mp hfront]
      simp
    rw [render, read_braces (isBraceFree_of_isIdentifier hident) hname, hback]
    exact if_pos hident
  | catchAll name =>
    rcases h with rfl | hident
    · rfl
    · have hback := Text.dropBack?_eq_some.mpr (rfl : name ++ "..." = _)
      have hname : name ++ "..." ≠ "$" := by
        intro heq
        rw [heq, show Text.dropBack? "..." "$" = none by decide] at hback
        cases hback
      have hfree : isBraceFree (name ++ "...") = true := by
        have hbraces := isBraceFree_iff.mp (isBraceFree_of_isIdentifier hident)
        rw [isBraceFree_iff]
        simpa using hbraces
      rw [render_catchAll (ne_empty_of_isIdentifier hident), read_braces hfree hname, hback]
      exact if_pos hident

/-- **Reading a token inverts writing a segment.** -/
theorem read_eq_ok_iff {token : String} {segment : Segment} :
    read token = .ok segment ↔ segment.IsWritable ∧ segment.render = token :=
  ⟨writable_of_read, fun h => h.2 ▸ read_render h.1⟩

/-! ## All tokens -/

/-- A segment is in place if it may stand there and does not bind a name again. -/
theorem fault?_eq_none_iff {bound : List String} {isLast : Bool} {segment : Segment} :
    segment.fault? bound isLast = none ↔
      (segment.label.IsFinal → isLast = true) ∧
        ∀ name, segment.name? = some name → name ∉ bound := by
  cases segment with
  | literal text => simp [fault?, label, Label.IsFinal, name?]
  | wildcard name => simp [fault?, label, Label.IsFinal, name?]
  | catchAll name => cases isLast <;> simp [fault?, label, Label.IsFinal, name?]

/-- One step of the reader. -/
theorem readAll_cons_eq_ok {bound : List String} {token : String} {rest : List String}
    {segments : List Segment} :
    readAll bound (token :: rest) = .ok segments ↔
      ∃ segment tail, read token = .ok segment ∧ segment.fault? bound rest.isEmpty = none ∧
        readAll (bound ++ segment.name?.toList) rest = .ok tail ∧ segments = segment :: tail := by
  rw [readAll]
  cases read token with
  | error e => simp [bind, Except.bind]
  | ok segment =>
    cases hfault : segment.fault? bound rest.isEmpty with
    | some fault => simp [bind, Except.bind, hfault]
    | none =>
      cases htail : readAll (bound ++ segment.name?.toList) rest with
      | error e => simp [bind, Except.bind, hfault, htail]
      | ok tail => simp [bind, Except.bind, pure, Except.pure, hfault, htail, eq_comm]

/-- The segments are in their places: what ends an address stands last, and the names are new. -/
structure InPlace (bound : List String) (segments : List Segment) : Prop where
  not_isFinal : ∀ segment ∈ segments.dropLast, ¬segment.label.IsFinal
  nodup_names : (segments.filterMap name?).Nodup
  not_bound : ∀ name ∈ segments.filterMap name?, name ∉ bound

/-- The first segment is in its place, and the others are in theirs with its name bound. -/
theorem inPlace_cons_iff {bound : List String} {segment : Segment} {rest : List Segment} :
    InPlace bound (segment :: rest) ↔
      segment.fault? bound rest.isEmpty = none ∧ InPlace (bound ++ segment.name?.toList) rest := by
  rw [fault?_eq_none_iff]
  have hlast : (∀ other ∈ (segment :: rest).dropLast, ¬other.label.IsFinal) ↔
      (segment.label.IsFinal → rest.isEmpty = true) ∧
        ∀ other ∈ rest.dropLast, ¬other.label.IsFinal := by
    cases rest with
    | nil => simp
    | cons next rest => simp
  have hnames : ((segment :: rest).filterMap name?).Nodup ∧
      (∀ name ∈ (segment :: rest).filterMap name?, name ∉ bound) ↔
        (∀ name, segment.name? = some name → name ∉ bound) ∧
          (rest.filterMap name?).Nodup ∧
            ∀ name ∈ rest.filterMap name?, name ∉ bound ++ segment.name?.toList := by
    cases hname : segment.name? with
    | none => simp [List.filterMap_cons_none hname]
    | some first =>
      rw [List.filterMap_cons_some hname]
      simp only [List.nodup_cons, List.forall_mem_cons, List.mem_append, Option.toList_some,
        List.mem_singleton, not_or, Option.some.injEq, forall_eq']
      constructor
      · rintro ⟨⟨hnew, hnodup⟩, hfirst, hrest⟩
        exact ⟨hfirst, hnodup, fun name hmem => ⟨hrest name hmem, fun heq => hnew (heq ▸ hmem)⟩⟩
      · rintro ⟨hfirst, hnodup, hrest⟩
        exact ⟨⟨fun hmem => (hrest first hmem).2 rfl, hnodup⟩, hfirst,
          fun name hmem => (hrest name hmem).1⟩
  constructor
  · rintro ⟨hfinal, hnodup, hbound⟩
    obtain ⟨hhead, hrest⟩ := hlast.mp hfinal
    obtain ⟨hfirst, hnodup, hbound⟩ := hnames.mp ⟨hnodup, hbound⟩
    exact ⟨⟨hhead, hfirst⟩, hrest, hnodup, hbound⟩
  · rintro ⟨⟨hhead, hfirst⟩, hrest, hnodup, hbound⟩
    obtain ⟨hnodup, hbound⟩ := hnames.mpr ⟨hfirst, hnodup, hbound⟩
    exact ⟨hlast.mpr ⟨hhead, hrest⟩, hnodup, hbound⟩

/-- **Reading all tokens** inverts writing the segments, if they are in their places. -/
theorem readAll_eq_ok_iff {bound tokens : List String} {segments : List Segment} :
    readAll bound tokens = .ok segments ↔
      segments.map render = tokens ∧ (∀ segment ∈ segments, segment.IsWritable) ∧
        InPlace bound segments := by
  induction tokens generalizing bound segments with
  | nil =>
    rw [readAll, List.map_eq_nil_iff]
    constructor
    · intro h
      obtain rfl := Except.ok.inj h
      exact ⟨rfl, nofun, nofun, List.nodup_nil, nofun⟩
    · rintro ⟨rfl, -⟩
      rfl
  | cons token rest ih =>
    rw [readAll_cons_eq_ok]
    constructor
    · rintro ⟨segment, tail, hread, hfault, htail, rfl⟩
      obtain ⟨rfl, hwritable, hplace⟩ := ih.mp htail
      obtain ⟨hfirst, rfl⟩ := read_eq_ok_iff.mp hread
      rw [List.isEmpty_map] at hfault
      exact ⟨rfl, List.forall_mem_cons.mpr ⟨hfirst, hwritable⟩,
        inPlace_cons_iff.mpr ⟨hfault, hplace⟩⟩
    · rintro ⟨hmap, hwritable, hplace⟩
      obtain ⟨segment, tail, rfl, rfl, rfl⟩ := List.map_eq_cons_iff.mp hmap
      obtain ⟨hfirst, hwritable⟩ := List.forall_mem_cons.mp hwritable
      obtain ⟨hfault, hplace⟩ := inPlace_cons_iff.mp hplace
      refine ⟨segment, tail, read_render hfirst, ?_, ih.mpr ⟨rfl, hwritable, hplace⟩, rfl⟩
      rwa [List.isEmpty_map]

end Segment

end HttpRouting
