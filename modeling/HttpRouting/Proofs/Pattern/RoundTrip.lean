/-
  Canonical texts: patterns and their texts determine each other.

  The canonical text of a pattern is its method, one space and its target.  A text that parses has
  these two fields, so it differs from the canonical text in blanks only, and both parse as the same
  pattern.  The well-formed patterns are therefore one thing with the canonical texts, and with the
  pairs of fields that parse.

  Everything follows from `parse_eq_ok_iff` and from `WellFormed.fields_render`, that nothing in a
  well-formed pattern is taken for a blank, a slash or a brace.
-/
import HttpRouting.Proofs.Pattern.WellFormed

namespace HttpRouting.Pattern

variable {p p' : Pattern} {spec spec' : String}

/-- The canonical text of a well-formed pattern is read back. -/
theorem WellFormed.parse_render (h : p.WellFormed) : parse p.render = .ok p :=
  parse_eq_ok_iff.mpr ⟨h, h.fields_render⟩

/-- Well-formed patterns with one canonical text are equal. -/
theorem WellFormed.eq_of_render_eq (h : p.WellFormed) (h' : p'.WellFormed)
    (hrender : p.render = p'.render) : p = p' := by
  have hparse := h.parse_render
  rw [hrender, h'.parse_render] at hparse
  exact (Except.ok.inj hparse).symm

/-- The well-formed patterns are those that the parser produces. -/
theorem wellFormed_iff_exists_parse : p.WellFormed ↔ ∃ spec, parse spec = .ok p :=
  ⟨fun h => ⟨p.render, h.parse_render⟩, fun ⟨_, h⟩ => (parse_eq_ok_iff.mp h).1⟩

/-- A text that parses has the fields of the canonical text. -/
theorem fields_eq_of_parse (h : parse spec = .ok p) :
    Text.fields spec = Text.fields p.render := by
  obtain ⟨hwf, hfields⟩ := parse_eq_ok_iff.mp h
  rw [hfields, hwf.fields_render]

/-- Patterns with the same fields are equal, for the parser looks at nothing else. -/
theorem eq_of_fields_eq (h : parse spec = .ok p) (h' : parse spec' = .ok p')
    (hfields : Text.fields spec = Text.fields spec') : p = p' := by
  have hspec := parse_eq_ok_iff.mp h
  rw [hfields] at hspec
  have hsame := parse_eq_ok_iff.mpr hspec
  rw [h'] at hsame
  exact (Except.ok.inj hsame).symm

/-- **Writing and parsing invert each other.**  The canonical text of a parsed pattern is the two
    fields of its text with one space between them, and parses as the pattern again; so patterns are
    equal if their canonical texts are, and these if the fields are.  The patterns that the parser
    produces are the well-formed ones, and each is the parse of its own canonical text. -/
theorem parse_render_inverse :
    (∀ (spec : String) (p : Pattern), parse spec = .ok p →
      (∃ method target, Text.fields spec = [method, target] ∧
        p.render = method ++ " " ++ target) ∧ parse p.render = .ok p) ∧
    (∀ (spec spec' : String) (p p' : Pattern), parse spec = .ok p → parse spec' = .ok p' →
      (p = p' ↔ p.render = p'.render) ∧
        (p.render = p'.render ↔ Text.fields spec = Text.fields spec')) ∧
    ∀ p : Pattern, (p.WellFormed ↔ ∃ spec, parse spec = .ok p) ∧
      (p.WellFormed → parse p.render = .ok p) := by
  refine ⟨fun spec p h => ?_, fun spec spec' p p' h h' => ?_,
    fun p => ⟨wellFormed_iff_exists_parse, WellFormed.parse_render⟩⟩
  · obtain ⟨hwf, hfields⟩ := parse_eq_ok_iff.mp h
    exact ⟨⟨p.method, p.target, hfields, render_eq p⟩, hwf.parse_render⟩
  · -- equal patterns have equal texts, equal texts equal fields, and equal fields one pattern
    have hfields : p.render = p'.render → Text.fields spec = Text.fields spec' := by
      intro hrender
      rw [fields_eq_of_parse h, hrender, fields_eq_of_parse h']
    have hrender : p = p' → p.render = p'.render := congrArg render
    exact ⟨⟨hrender, fun heq => eq_of_fields_eq h h' (hfields heq)⟩,
      hfields, fun heq => hrender (eq_of_fields_eq h h' heq)⟩

/-- Two texts of one pattern that differ in their blanks, with all ways to write a segment with a
    name. -/
theorem parse_render_inverse_of_padded_texts :
    let p : Pattern := ⟨"GET", "h", [.literal "a", .wildcard "x", .catchAll "rest"]⟩
    let spec := "GET h/a/\x7bx\x7d/\x7brest...\x7d"
    let padded := "\u3000GET\t h/a/\x7bx\x7d/\x7brest...\x7d\n"
    parse spec = .ok p ∧ parse padded = .ok p ∧ p.WellFormed ∧ p.render = spec ∧
      parse p.render = .ok p ∧ Text.fields spec = Text.fields padded := by
  intro p spec padded
  have hwf : p.WellFormed := by decide
  have hspec : parse spec = .ok p := (parse_render_inverse.2.2 p).2 hwf
  have hpadded : parse padded = .ok p := parse_eq_ok_iff.mpr ⟨hwf, by decide⟩
  have hfields := (parse_render_inverse.2.1 spec padded p p hspec hpadded).2
  exact ⟨hspec, hpadded, hwf, rfl, (parse_render_inverse.1 padded p hpadded).2, hfields.mp rfl⟩

end HttpRouting.Pattern
