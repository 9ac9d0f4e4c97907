/-
  The patterns that the parser produces, and the texts it produces them from.

  A pattern is well-formed if its parts fit into a text (`Pattern.WellFormed`): the method is a
  token, nothing else holds a blank, a slash or a brace, the names are identifiers, and the segments
  are in order.  What a segment writes then holds no blank and no slash (`isSound_iff`), so that the
  fields of a text, its first slash and the cut at the others are where the writer put them.

  The main statement is `parse_eq_ok_iff`: a text parses as a pattern exactly if the pattern is
  well-formed and the fields of the text are the method and the target of the pattern.  So the
  parser looks at nothing of a text but its fields, and loses nothing of them.
-/
import HttpRouting.Proofs.Pattern.Arranged
import HttpRouting.Proofs.Text.Fields

namespace HttpRouting

/-! ## Tokens of a path within a field -/

namespace Path

/-- A text that can stand between two slashes of a field: without a blank and without a slash. -/
def IsToken (s : String) : Prop := ∀ c ∈ s.toList, Text.isBlank c = false ∧ c ≠ '/'

instance : DecidablePred IsToken := fun s => List.decidableBAll _ s.toList

theorem isToken_append {a b : String} : IsToken (a ++ b) ↔ IsToken a ∧ IsToken b := by
  rw [IsToken, String.toList_append]
  exact List.forall_mem_append

theorem isToken_iff {s : String} : IsToken s ↔ Text.NoneBlank s.toList ∧ '/' ∉ s.toList := by
  constructor
  · exact fun h => ⟨fun c hc => (h c hc).1, fun hmem => (h _ hmem).2 rfl⟩
  · rintro ⟨hblank, hslash⟩ c hc
    exact ⟨hblank c hc, fun heq => hslash (heq ▸ hc)⟩

/-- A path holds no blank exactly if no token of it does. -/
theorem noneBlank_ofTokens {tokens : List String} :
    Text.NoneBlank (ofTokens tokens).toList ↔ ∀ token ∈ tokens, Text.NoneBlank token.toList := by
  induction tokens with
  | nil => exact iff_of_true nofun nofun
  | cons token rest ih =>
    have hslash : Text.NoneBlank "/".toList := by
      intro c hc
      rw [show "/".toList = ['/'] from rfl, List.mem_singleton] at hc
      subst hc
      rfl
    rw [ofTokens, String.toList_append, String.toList_append, Text.NoneBlank,
      List.forall_mem_append, List.forall_mem_append, List.forall_mem_cons]
    exact and_congr (and_iff_right hslash) ih

/-- Behind a host, a path starts with its first slash. -/
theorem append_ofTokens (host : String) {tokens : List String} (hne : tokens ≠ []) :
    host ++ ofTokens tokens =
      host ++ String.singleton '/' ++ (String.singleton '/').intercalate tokens := by
  rw [ofTokens_eq_intercalate hne, String.append_assoc]
  rfl

end Path

/-! ## Segments -/

namespace Segment

open Pattern

/-- A segment that the parser produces: its text holds no blank, no slash and no brace, or its name
    is an identifier, except that the name of a trailing slash is empty. -/
def IsSound : Segment → Prop
  | literal text => Path.IsToken text ∧ isBraceFree text = true
  | wildcard name => isIdentifier name = true
  | catchAll name => name = "" ∨ isIdentifier name = true

instance : DecidablePred IsSound
  | literal text => inferInstanceAs (Decidable (Path.IsToken text ∧ isBraceFree text = true))
  | wildcard name => inferInstanceAs (Decidable (isIdentifier name = true))
  | catchAll name => inferInstanceAs (Decidable (name = "" ∨ isIdentifier name = true))

theorem isToken_of_isIdentifier {name : String} (h : isIdentifier name = true) :
    Path.IsToken name := by
  intro c hc
  have htoken := isTokenChar_of_isNameChar (isNameChar_of_isIdentifier h c hc)
  refine ⟨isBlank_eq_false_of_isTokenChar htoken, ?_⟩
  rintro rfl
  exact not_mem_of_isIdentifier h rfl hc

/-- A segment is sound if it can be written, in a token. -/
theorem isSound_iff {segment : Segment} :
    segment.IsSound ↔ segment.IsWritable ∧ Path.IsToken segment.render := by
  cases segment with
  | literal text =>
    by_cases hempty : text = ""
    · subst hempty
      exact iff_of_true (by decide +kernel : _ ∧ _) ⟨rfl, by decide⟩
    · rw [render, if_neg hempty]
      exact and_comm
  | wildcard name =>
    refine (and_iff_left_of_imp fun hident => ?_).symm
    rw [render, Path.isToken_append, Path.isToken_append]
    exact ⟨⟨by decide, isToken_of_isIdentifier hident⟩, by decide⟩
  | catchAll name =>
    refine (and_iff_left_of_imp fun hname => ?_).symm
    rcases hname with rfl | hident
    · decide
    · rw [render_catchAll (ne_empty_of_isIdentifier hident), Path.isToken_append,
        Path.isToken_append, Path.isToken_append]
      exact ⟨⟨by decide, isToken_of_isIdentifier hident, by decide⟩, by decide⟩

end Segment

/-! ## Patterns -/

namespace Pattern

/-- The second field of a pattern's text: the host and the path. -/
def target (p : Pattern) : String := p.host ++ Path.ofTokens (p.segments.map Segment.render)

theorem render_eq (p : Pattern) : p.render = p.method ++ " " ++ p.target := by
  rw [render, target, String.append_assoc]

/-- A pattern of the form that the parser produces. -/
structure WellFormed (p : Pattern) : Prop where
  /-- There is a method. -/
  method_ne_empty : p.method ≠ ""
  /-- The method is a token. -/
  isTokenChar_method : ∀ c ∈ p.method.toList, isTokenChar c = true
  /-- The host holds no blank and no slash. -/
  isToken_host : Path.IsToken p.host
  /-- The host holds no brace. -/
  isBraceFree_host : isBraceFree p.host = true
  /-- Each segment can stand in a path. -/
  isSound : ∀ segment ∈ p.segments, segment.IsSound
  /-- The segments are in order. -/
  arranged : Segment.Arranged p.segments

instance : DecidablePred WellFormed := fun p =>
  decidable_of_iff
    (p.method ≠ "" ∧ p.method.toList.all isTokenChar = true ∧ Path.IsToken p.host ∧
      isBraceFree p.host = true ∧ (∀ segment ∈ p.segments, segment.IsSound) ∧
      Segment.Arranged p.segments)
    ⟨fun ⟨hne, hmethod, hhost, hbrace, hsound, harranged⟩ =>
      ⟨hne, List.all_eq_true.mp hmethod, hhost, hbrace, hsound, harranged⟩,
    fun h => ⟨h.method_ne_empty, List.all_eq_true.mpr h.isTokenChar_method, h.isToken_host,
      h.isBraceFree_host, h.isSound, h.arranged⟩⟩

/-- The first slash of a target ends its host. -/
theorem target_eq {p : Pattern} (h : p.segments ≠ []) :
    p.target = p.host ++ String.singleton '/' ++
      (String.singleton '/').intercalate (p.segments.map Segment.render) :=
  Path.append_ofTokens p.host (by simpa using h)

/-- A host that can stand before a path of tokens is cut off again, and the tokens decide. -/
theorem ofFields_eq {method host : String} {tokens : List String}
    (hmethod : ∀ c ∈ method.toList, isTokenChar c = true) (hslash : '/' ∉ host.toList)
    (hfree : isBraceFree host = true) (hne : tokens ≠ [])
    (hcut : ∀ token ∈ tokens, '/' ∉ token.toList) :
    ofFields method (host ++ Path.ofTokens tokens) =
      (Segment.readAll [] tokens).map fun segments => ⟨method, host, segments⟩ := by
  obtain ⟨hbefore, hafter⟩ :=
    Text.before_eq_and_after?_eq_iff.mpr ⟨Path.append_ofTokens host hne, hslash⟩
  rw [ofFields, if_neg (not_not_intro (List.all_eq_true.mpr hmethod)), hafter]
  dsimp only
  rw [hbefore, if_neg (not_not_intro hfree), Text.pieces_intercalate hne hcut]
  cases Segment.readAll [] tokens <;> rfl

namespace WellFormed

variable {p : Pattern}

theorem isField_method (h : p.WellFormed) : Text.IsField p.method :=
  ⟨h.method_ne_empty, fun c hc => isBlank_eq_false_of_isTokenChar (h.isTokenChar_method c hc)⟩

theorem isToken_render (h : p.WellFormed) :
    ∀ token ∈ p.segments.map Segment.render, Path.IsToken token := by
  intro token hmem
  obtain ⟨segment, hsegment, rfl⟩ := List.mem_map.mp hmem
  exact (Segment.isSound_iff.mp (h.isSound segment hsegment)).2

theorem isField_target (h : p.WellFormed) : Text.IsField p.target where
  ne_empty := by
    rw [target_eq h.arranged.ne_nil]
    intro hempty
    simpa using congrArg String.toList hempty
  noneBlank := by
    rw [target, String.toList_append]
    have hpath := Path.noneBlank_ofTokens.mpr fun token hmem =>
      (Path.isToken_iff.mp (h.isToken_render token hmem)).1
    exact List.forall_mem_append.mpr ⟨(Path.isToken_iff.mp h.isToken_host).1, hpath⟩

/-- The parts of two fields that can be written make up a well-formed pattern: that they are parts
    of a field keeps the blanks out. -/
theorem of_isField (hmethod : Text.IsField p.method)
    (htoken : ∀ c ∈ p.method.toList, isTokenChar c = true) (htarget : Text.IsField p.target)
    (hslash : '/' ∉ p.host.toList) (hbrace : isBraceFree p.host = true)
    (hcut : ∀ token ∈ p.segments.map Segment.render, '/' ∉ token.toList)
    (hwritable : ∀ segment ∈ p.segments, segment.IsWritable)
    (harranged : Segment.Arranged p.segments) : p.WellFormed := by
  have hblank := htarget.noneBlank
  rw [target, String.toList_append, Text.NoneBlank, List.forall_mem_append] at hblank
  have htokens := Path.noneBlank_ofTokens.mp hblank.2
  refine ⟨hmethod.ne_empty, htoken, Path.isToken_iff.mpr ⟨hblank.1, hslash⟩, hbrace,
    fun segment hmem => ?_, harranged⟩
  have hrender := List.mem_map_of_mem (f := Segment.render) hmem
  exact Segment.isSound_iff.mpr ⟨hwritable segment hmem,
    Path.isToken_iff.mpr ⟨htokens _ hrender, hcut _ hrender⟩⟩

/-- The canonical text has the method and the target for its fields. -/
theorem fields_render (h : p.WellFormed) : Text.fields p.render = [p.method, p.target] := by
  rw [render_eq]
  exact Text.fields_of_isField h.isField_method h.isField_target

/-- A well-formed pattern is read back from its two fields. -/
theorem ofFields_eq_ok (h : p.WellFormed) : ofFields p.method p.target = .ok p := by
  have hread : Segment.readAll [] (p.segments.map Segment.render) = .ok p.segments :=
    Segment.readAll_eq_ok_iff.mpr ⟨rfl,
      fun segment hmem => (Segment.isSound_iff.mp (h.isSound segment hmem)).1,
      h.arranged.not_isFinal, h.arranged.nodup_names, fun _ _ => List.not_mem_nil⟩
  rw [target, ofFields_eq h.isTokenChar_method (Path.isToken_iff.mp h.isToken_host).2
    h.isBraceFree_host (by simpa using h.arranged.ne_nil)
    fun token hmem => (Path.isToken_iff.mp (h.isToken_render token hmem)).2, hread]
  rfl

end WellFormed

/-- **The parser, inverted.**  A text parses as a pattern exactly if the pattern is well-formed and
    the fields of the text are its method and its target. -/
theorem parse_eq_ok_iff {spec : String} {p : Pattern} :
    parse spec = .ok p ↔ p.WellFormed ∧ Text.fields spec = [p.method, p.target] := by
  constructor
  · intro h
    have harranged := arranged_of_parse h
    obtain ⟨method, target, path, hfields, hmethod, hafter, hhost, segments, hread, rfl⟩ :=
      parse_eq_ok h
    obtain ⟨-, -, -, -, -, -, -, -, hfield₁, hfield₂⟩ := Text.fields_eq_pair_iff.mp hfields
    obtain ⟨htarget, hslash⟩ := Text.before_eq_and_after?_eq_iff.mp ⟨rfl, hafter⟩
    obtain ⟨hrender, hwritable, -⟩ := Segment.readAll_eq_ok_iff.mp hread
    -- the segments write the path that was cut into their tokens
    have heq : Pattern.target ⟨method, Text.before '/' target, segments⟩ = target := by
      rw [target_eq harranged.ne_nil, hrender, Text.intercalate_pieces]
      exact htarget.symm
    refine ⟨WellFormed.of_isField hfield₁ (List.all_eq_true.mp hmethod) (heq.symm ▸ hfield₂) hslash
      hhost ?_ hwritable harranged, by rw [hfields, heq]⟩
    rw [hrender]
    exact fun token hmem => Text.not_mem_of_mem_pieces hmem
  · rintro ⟨hwf, hfields⟩
    rw [parse, hfields]
    exact hwf.ofFields_eq_ok

end Pattern

end HttpRouting
