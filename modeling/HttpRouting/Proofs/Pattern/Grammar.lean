/-
  The grammar of patterns, written without a parser.

      pattern  =  blanks method blank+ host path blanks
      path     =  ( "/" inner )* "/" last
      inner    =  text | "{" name "}"
      last     =  inner | "" | "{$}" | "{" name "...}"

  The grammar says what a text may be and which pattern it then is, one production for each way to
  write a segment.  There is no order of tests in it, and nothing is cut: the text is put together
  from its parts.

  1. **Bytes** - `isTokenByte_iff`: a method is made of token bytes exactly if it is made of token
     characters, for a character beyond ASCII has no token byte.

  2. **Segments** - `writesAll_iff`: the derivations of a path are the lists of segments that can be
     written, of which only the last may end the path.

  3. **Patterns** - `parse_eq_ok_iff_derives`: the parser accepts the texts of the grammar and no
     others, and returns the pattern of the derivation.
-/
import HttpRouting.Proofs.Pattern.WellFormed
import HttpRouting.Text.Utf8

namespace HttpRouting

/-! ## Bytes of a method -/

namespace Pattern

/-- A byte of an HTTP token: a visible ASCII character that is no delimiter. -/
def IsTokenByte (b : UInt8) : Prop :=
  0x21 ≤ b ∧ b ≤ 0x7e ∧ b.toNat ∉ delimiters.map Char.toNat

instance (b : UInt8) : Decidable (IsTokenByte b) := inferInstanceAs (Decidable (_ ∧ _ ∧ _))

/-- A character of ASCII is one byte. -/
theorem utf8EncodeChar_of_lt {c : Char} (h : c.toNat < 128) :
    String.utf8EncodeChar c = [UInt8.ofNat c.toNat] :=
  if_pos (Nat.le_of_lt_succ h)

/-- A character beyond ASCII ends in a byte that no ASCII character has. -/
theorem exists_mem_utf8EncodeChar {c : Char} (h : 128 ≤ c.toNat) :
    ∃ b ∈ String.utf8EncodeChar c, 128 ≤ b.toNat := by
  have hval : c.toNat = c.val.toNat := rfl
  refine ⟨UInt8.ofNat (c.val.toNat % 64 + 128), ?_, ?_⟩
  · simp only [String.utf8EncodeChar]
    rw [if_neg (by omega)]
    split
    · simp
    · split <;> simp
  · rw [UInt8.toNat_ofNat']
    omega

/-- The bytes of a character are token bytes exactly if it is a token character. -/
theorem isTokenByte_iff {c : Char} :
    (∀ b ∈ String.utf8EncodeChar c, IsTokenByte b) ↔ isTokenChar c = true := by
  by_cases hc : c.toNat < 128
  · rw [utf8EncodeChar_of_lt hc, List.forall_mem_singleton]
    exact ascii_forall (P := fun c => IsTokenByte (UInt8.ofNat c.toNat) ↔ isTokenChar c = true)
      (by decide +kernel) hc
  · refine iff_of_false (fun h => ?_) (fun h => ?_)
    · obtain ⟨b, hmem, hb⟩ := exists_mem_utf8EncodeChar (Nat.le_of_not_lt hc)
      have hle := UInt8.le_iff_toNat_le.mp (h b hmem).2.1
      have hmax : (0x7e : UInt8).toNat = 126 := rfl
      omega
    · have hvisible := (isTokenChar_iff.mp h).1.2
      omega

theorem forall_isTokenByte_iff {s : String} :
    (∀ b ∈ Text.utf8 s, IsTokenByte b) ↔ ∀ c ∈ s.toList, isTokenChar c = true := by
  simp only [Text.utf8, List.mem_flatMap, ← isTokenByte_iff]
  exact ⟨fun h c hc b hb => h b ⟨c, hc, hb⟩, fun h b ⟨c, hc, hb⟩ => h c hc b hb⟩

/-- A name: a letter or an underscore, then letters, digits and underscores, all ASCII. -/
def IsName (name : String) : Prop :=
  ∃ first rest, name.toList = first :: rest ∧ (first.isAlpha = true ∨ first = '_') ∧
    ∀ c ∈ rest, c.isAlphanum = true ∨ c = '_'

theorem isName_iff {name : String} : IsName name ↔ isIdentifier name = true := by
  simp only [isIdentifier_iff, IsName, isNameChar, Bool.or_eq_true, beq_iff_eq]

end Pattern

/-! ## Segments -/

namespace Segment

open Pattern

/-- The token writes the segment, and may do so anywhere. -/
inductive WritesInner : String → Segment → Prop
  /-- A text is written as it is. -/
  | literal {text : String} : text ≠ "" → '\x7b' ∉ text.toList → '\x7d' ∉ text.toList →
      WritesInner text (literal text)
  /-- A wildcard is its name in braces. -/
  | wildcard {name : String} : IsName name → WritesInner ("\x7b" ++ name ++ "\x7d") (wildcard name)

/-- The token writes the segment, at the end of a path. -/
inductive WritesLast : String → Segment → Prop
  /-- What may stand anywhere may stand at the end. -/
  | inner {token : String} {segment : Segment} : WritesInner token segment →
      WritesLast token segment
  /-- Nothing after a slash takes all that is left, without a name. -/
  | slash : WritesLast "" (catchAll "")
  /-- The end of the path is the empty text. -/
  | anchor : WritesLast "\x7b$\x7d" (literal "")
  /-- A catch-all is its name and three dots in braces. -/
  | catchAll {name : String} : IsName name →
      WritesLast ("\x7b" ++ name ++ "...\x7d") (catchAll name)

/-- The tokens write the segments, one by one; there is a last one. -/
inductive WritesAll : List String → List Segment → Prop
  | last {token : String} {segment : Segment} : WritesLast token segment →
      WritesAll [token] [segment]
  | cons {token : String} {segment : Segment} {tokens : List String} {segments : List Segment} :
      WritesInner token segment → WritesAll tokens segments →
      WritesAll (token :: tokens) (segment :: segments)

variable {token : String} {segment : Segment}

theorem writesLast_iff :
    WritesLast token segment ↔ segment.IsWritable ∧ segment.render = token := by
  constructor
  · intro h
    cases h with
    | inner hinner =>
      cases hinner with
      | literal hne hopen hclose => exact ⟨isBraceFree_iff.mpr ⟨hopen, hclose⟩, if_neg hne⟩
      | wildcard hname => exact ⟨isName_iff.mp hname, rfl⟩
    | slash => exact ⟨Or.inl rfl, rfl⟩
    | anchor => exact ⟨rfl, rfl⟩
    | catchAll hname =>
      have hident := isName_iff.mp hname
      exact ⟨Or.inr hident, if_neg (ne_empty_of_isIdentifier hident)⟩
  · rintro ⟨hwritable, rfl⟩
    cases segment with
    | literal text =>
      by_cases hempty : text = ""
      · subst hempty
        exact .anchor
      · have hfree := isBraceFree_iff.mp hwritable
        rw [render, if_neg hempty]
        exact .inner (.literal hempty hfree.1 hfree.2)
    | wildcard name => exact .inner (.wildcard (isName_iff.mpr hwritable))
    | catchAll name =>
      rcases hwritable with rfl | hident
      · exact .slash
      · rw [render, if_neg (ne_empty_of_isIdentifier hident)]
        exact .catchAll (isName_iff.mpr hident)

/-- What may stand anywhere is what does not end a path. -/
theorem writesInner_iff :
    WritesInner token segment ↔ WritesLast token segment ∧ ¬segment.label.IsFinal := by
  constructor
  · intro h
    refine ⟨.inner h, ?_⟩
    cases h with
    | literal hne _ _ => exact hne
    | wildcard _ => exact id
  · rintro ⟨h, hfinal⟩
    cases h with
    | inner h => exact h
    | slash => exact absurd trivial hfinal
    | anchor => exact absurd rfl hfinal
    | catchAll _ => exact absurd trivial hfinal

/-- **The derivations of a path.** -/
theorem writesAll_iff {tokens : List String} {segments : List Segment} :
    WritesAll tokens segments ↔ segments ≠ [] ∧ segments.map render = tokens ∧
      (∀ segment ∈ segments, segment.IsWritable) ∧
        ∀ segment ∈ segments.dropLast, ¬segment.label.IsFinal := by
  constructor
  · intro h
    induction h with
    | last hlast =>
      obtain ⟨hwritable, rfl⟩ := writesLast_iff.mp hlast
      exact ⟨List.cons_ne_nil _ _, rfl, List.forall_mem_singleton.mpr hwritable, nofun⟩
    | cons hinner _ ih =>
      obtain ⟨hlast, hfinal⟩ := writesInner_iff.mp hinner
      obtain ⟨hwritable, rfl⟩ := writesLast_iff.mp hlast
      obtain ⟨hne, rfl, hwritables, hfinals⟩ := ih
      rw [List.dropLast_cons_of_ne_nil hne]
      exact ⟨List.cons_ne_nil _ _, rfl, List.forall_mem_cons.mpr ⟨hwritable, hwritables⟩,
        List.forall_mem_cons.mpr ⟨hfinal, hfinals⟩⟩
  · rintro ⟨hne, rfl, hwritable, hfinal⟩
    induction segments with
    | nil => exact absurd rfl hne
    | cons segment rest ih =>
      obtain ⟨hfirst, hwritables⟩ := List.forall_mem_cons.mp hwritable
      have hlast := writesLast_iff.mpr ⟨hfirst, rfl⟩
      cases rest with
      | nil => exact .last hlast
      | cons next rest =>
        obtain ⟨hhead, hfinals⟩ := List.forall_mem_cons.mp hfinal
        exact .cons (writesInner_iff.mpr ⟨hlast, hhead⟩)
          (ih (List.cons_ne_nil next rest) hwritables hfinals)

end Segment

/-! ## Patterns -/

namespace Pattern

/-- A derivation of the text `spec` as the pattern `p`: the blanks around and between its two
    fields, and the tokens of its path. -/
structure Derives (spec : String) (p : Pattern) (front gap back : String) (tokens : List String) :
    Prop where
  /-- The text is the two fields in blanks. -/
  spec_eq : spec = front ++ p.method ++ gap ++ (p.host ++ Path.ofTokens tokens) ++ back
  isBlanks_front : Text.IsBlanks front
  isBlanks_gap : Text.IsBlanks gap
  /-- A blank at least parts the fields. -/
  gap_ne_empty : gap ≠ ""
  isBlanks_back : Text.IsBlanks back
  isField_method : Text.IsField p.method
  isField_target : Text.IsField (p.host ++ Path.ofTokens tokens)
  /-- Every byte of the method is one of an HTTP token. -/
  isTokenByte : ∀ b ∈ Text.utf8 p.method, IsTokenByte b
  /-- The host ends before the first slash, and no wildcard is in it. -/
  host_free : '/' ∉ p.host.toList ∧ '\x7b' ∉ p.host.toList ∧ '\x7d' ∉ p.host.toList
  /-- The tokens are cut at every slash. -/
  slash_not_mem : ∀ token ∈ tokens, '/' ∉ token.toList
  /-- The tokens write the segments. -/
  writesAll : Segment.WritesAll tokens p.segments
  /-- No name occurs twice. -/
  nodup_paramNames : p.paramNames.Nodup

/-- **The parser accepts exactly its grammar.**  A text parses exactly if the grammar derives it,
    and what is returned is the pattern of the derivation. -/
theorem parse_eq_ok_iff_derives (spec : String) (p : Pattern) :
    parse spec = .ok p ↔ ∃ front gap back tokens, Derives spec p front gap back tokens := by
  rw [parse_eq_ok_iff, Text.fields_eq_pair_iff]
  constructor
  · rintro ⟨hwf, front, gap, back, hspec, hfront, hgap, hne, hback, hmethod, htarget⟩
    have hwrites := Segment.writesAll_iff.mpr ⟨hwf.arranged.ne_nil, rfl,
      fun segment hmem => (Segment.isSound_iff.mp (hwf.isSound segment hmem)).1,
      hwf.arranged.not_isFinal⟩
    exact ⟨front, gap, back, p.segments.map Segment.render, hspec, hfront, hgap, hne, hback,
      hmethod, htarget, forall_isTokenByte_iff.mpr hwf.isTokenChar_method,
      ⟨(Path.isToken_iff.mp hwf.isToken_host).2, isBraceFree_iff.mp hwf.isBraceFree_host⟩,
      fun token hmem => (Path.isToken_iff.mp (hwf.isToken_render token hmem)).2, hwrites,
      hwf.arranged.nodup_names⟩
  · rintro ⟨front, gap, back, tokens, h⟩
    obtain ⟨hne, rfl, hwritable, hfinal⟩ := Segment.writesAll_iff.mp h.writesAll
    have hwf := WellFormed.of_isField h.isField_method (forall_isTokenByte_iff.mp h.isTokenByte)
      h.isField_target h.host_free.1 (isBraceFree_iff.mpr h.host_free.2) h.slash_not_mem hwritable
      ⟨hne, hfinal, h.nodup_paramNames⟩
    exact ⟨hwf, front, gap, back, h.spec_eq, h.isBlanks_front, h.isBlanks_gap, h.gap_ne_empty,
      h.isBlanks_back, h.isField_method, h.isField_target⟩

end Pattern

end HttpRouting
