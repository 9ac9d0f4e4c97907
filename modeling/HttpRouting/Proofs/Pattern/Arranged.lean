/-
  What a pattern that was parsed can be relied on for.

  The parser reads the tokens of a path from the left and checks each segment where it stands, with
  the names bound so far in hand.  Three guarantees follow, bundled in `Segment.Arranged`:

  * a path has at least one segment (a cut always leaves a piece);
  * the catch-all and the end of the path stand last, if they occur;
  * no name is bound twice.

  `parse_eq_ok` reads a success of the whole parser as the steps it is made of, and
  `arranged_of_parse` gives the guarantees.
-/
import HttpRouting.Proofs.Pattern.Reading

namespace HttpRouting

/-! ## The guarantees of the parser -/

namespace Segment

/-- The segments of a path are in order. -/
structure Arranged (segments : List Segment) : Prop where
  /-- There is a segment. -/
  ne_nil : segments ≠ []
  /-- The catch-all and the end of the path stand last. -/
  not_isFinal : ∀ segment ∈ segments.dropLast, ¬segment.label.IsFinal
  /-- No name is bound twice. -/
  nodup_names : (segments.filterMap name?).Nodup

instance : DecidablePred Arranged := fun segments =>
  decidable_of_iff
    (segments ≠ [] ∧ (∀ segment ∈ segments.dropLast, ¬segment.label.IsFinal) ∧
      (segments.filterMap name?).Nodup)
    ⟨fun ⟨hne, hfinal, hnodup⟩ => ⟨hne, hfinal, hnodup⟩,
      fun h => ⟨h.ne_nil, h.not_isFinal, h.nodup_names⟩⟩

/-- Among the labels too, what ends a path stands last. -/
theorem Arranged.not_isFinal_label {segments : List Segment} (h : Arranged segments)
    {l : Label} (hmem : l ∈ (segments.map label).dropLast) : ¬l.IsFinal := by
  rw [← List.map_dropLast] at hmem
  obtain ⟨segment, hsegment, rfl⟩ := List.mem_map.mp hmem
  exact h.not_isFinal segment hsegment

end Segment

namespace Pattern

/-- The labels of a pattern: its segments without their names. -/
def labels (p : Pattern) : List Label := p.segments.map Segment.label

/-- The host, the method and the labels of a pattern make up its address. -/
theorem address_eq (p : Pattern) :
    p.address = [.literal p.host, .literal p.method] ++ p.labels := rfl

/-- The ways in which a parse succeeds: two fields, of which the second has a slash. -/
theorem parse_eq_ok {spec : String} {p : Pattern} (h : parse spec = .ok p) :
    ∃ method target path, Text.fields spec = [method, target] ∧
      method.toList.all isTokenChar = true ∧ Text.after? '/' target = some path ∧
      isBraceFree (Text.before '/' target) = true ∧
      ∃ segments, Segment.readAll [] (Text.pieces '/' path) = .ok segments ∧
        p = ⟨method, Text.before '/' target, segments⟩ := by
  unfold parse at h
  split at h
  · cases h
  · cases h
  · rename_i method target hfields
    unfold ofFields at h
    split at h
    · cases h
    · rename_i hmethod
      split at h
      · cases h
      · rename_i path hpath
        dsimp only at h
        split at h
        · cases h
        · rename_i hhost
          cases hread : Segment.readAll [] (Text.pieces '/' path) with
          | error e => rw [hread] at h; cases h
          | ok segments =>
            rw [hread] at h
            obtain rfl := Except.ok.inj h
            exact ⟨method, target, path, hfields, by simpa using hmethod, hpath,
              by simpa using hhost, segments, hread, rfl⟩
  · cases h

/-- **The parser arranges the segments.** -/
theorem arranged_of_parse {spec : String} {p : Pattern} (h : parse spec = .ok p) :
    Segment.Arranged p.segments := by
  obtain ⟨method, target, path, -, -, -, -, segments, hread, rfl⟩ := parse_eq_ok h
  obtain ⟨hrender, -, hplace⟩ := Segment.readAll_eq_ok_iff.mp hread
  refine ⟨?_, hplace.not_isFinal, hplace.nodup_names⟩
  rintro rfl
  exact Text.pieces_ne_nil '/' path hrender.symm

end Pattern

end HttpRouting
