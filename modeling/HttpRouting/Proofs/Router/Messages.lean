/-
  The message of a refusal names it.

  1. **Forms** - a message is an opening of its own and, behind it, what the cause carries, quoted or
     plain, and a closing.  `MessageForm` is one such form with the two facts that it needs, and
     `forms` lists the thirteen there are (`exists_form`).

  2. **Openings** - no opening is the beginning of another one (`pairwise_apart`), so two equal
     messages have one form, and what stands behind the opening gives the carried text back
     (`RouteFault.eq_of_message_eq`).

  3. **Refusals** - the text that was refused is quoted, hence told apart from the message behind it,
     whatever that carries (`RouteError.message_eq_iff`).
-/
import HttpRouting.Proofs.Text.Quoting
import HttpRouting.Router.Error
import Mathlib.Data.List.Pairwise

namespace HttpRouting

/-! ## Forms -/

/-- A form of messages: those of the causes `fault carried`, for any carried text. -/
structure MessageForm where
  /-- The words in front. -/
  opening : String
  /-- What stands behind them, by the text that the cause carries. -/
  behind : String → String
  /-- The cause that carries a text; if it carries none, the text does not matter. -/
  fault : String → RouteFault
  message_fault : ∀ carried, (fault carried).message = opening ++ behind carried
  fault_eq_of_behind_eq : ∀ {s t}, behind s = behind t → fault s = fault t

namespace MessageForm

/-- The form of a cause that carries nothing. -/
def bare (fault : RouteFault) : MessageForm where
  opening := fault.message
  behind _ := ""
  fault _ := fault
  message_fault _ := String.append_empty.symm
  fault_eq_of_behind_eq _ := rfl

/-- The form of a cause that ends with what it carries, quoted. -/
def quoting (opening : String) (fault : String → RouteFault)
    (h : ∀ carried, (fault carried).message = opening ++ Text.quote carried := by intro; rfl) :
    MessageForm where
  opening := opening
  behind := Text.quote
  fault := fault
  message_fault := h
  fault_eq_of_behind_eq heq := congrArg fault (Text.quote_injective heq)

/-- The form of a cause that quotes what it carries, before a closing. -/
def quotingBefore (opening closing : String) (fault : String → RouteFault)
    (h : ∀ carried, (fault carried).message = opening ++ Text.quote carried ++ closing := by
      intro; rfl) : MessageForm where
  opening := opening
  behind carried := Text.quote carried ++ closing
  fault := fault
  message_fault carried := (h carried).trans String.append_assoc
  fault_eq_of_behind_eq heq := congrArg fault (Text.quote_append_inj heq).1

/-- The form of a cause that shows what it carries as it is, before a closing. -/
def plainBefore (opening closing : String) (fault : String → RouteFault)
    (h : ∀ carried, (fault carried).message = opening ++ carried ++ closing := by intro; rfl) :
    MessageForm where
  opening := opening
  behind carried := carried ++ closing
  fault := fault
  message_fault carried := (h carried).trans String.append_assoc
  fault_eq_of_behind_eq heq := congrArg fault ((String.append_left_inj closing).mp heq)

/-- The forms of all messages. -/
def forms : List MessageForm :=
  [bare (.malformed .empty),
   bare (.malformed .missingPath),
   quotingBefore "unexpected field " " after path" (.malformed <| .trailingField ·),
   quoting "invalid method " (.malformed <| .invalidMethod ·),
   quotingBefore "host " " contains a wildcard" (.malformed <| .wildcardInHost ·),
   bare (.malformed .emptySegment),
   quoting "malformed wildcard segment " (.malformed <| .malformedWildcard ·),
   quoting "invalid wildcard name " (.malformed <| .invalidName ·),
   plainBefore "catch-all \x7b" "...\x7d must be the final segment"
    (.malformed <| .catchAllNotLast ·),
   bare (.malformed .anchorNotLast),
   quoting "duplicate wildcard name " (.malformed <| .duplicateName ·),
   bare .missingHandler,
   quoting "conflicts with registered route " .conflict]

theorem exists_form_of_lt (i : Nat) (h : i < forms.length) (carried : String) :
    ∃ form ∈ forms, ∃ s, (forms.get ⟨i, h⟩).fault carried = form.fault s :=
  ⟨_, List.get_mem forms ⟨i, h⟩, carried, rfl⟩

/-- Every cause has its form. -/
theorem exists_form (fault : RouteFault) : ∃ form ∈ forms, ∃ carried, fault = form.fault carried := by
  cases fault with
  | malformed error =>
    cases error with
    | empty => exact exists_form_of_lt 0 (by decide) ""
    | missingPath => exact exists_form_of_lt 1 (by decide) ""
    | trailingField field => exact exists_form_of_lt 2 (by decide) field
    | invalidMethod method => exact exists_form_of_lt 3 (by decide) method
    | wildcardInHost host => exact exists_form_of_lt 4 (by decide) host
    | emptySegment => exact exists_form_of_lt 5 (by decide) ""
    | malformedWildcard token => exact exists_form_of_lt 6 (by decide) token
    | invalidName name => exact exists_form_of_lt 7 (by decide) name
    | catchAllNotLast name => exact exists_form_of_lt 8 (by decide) name
    | anchorNotLast => exact exists_form_of_lt 9 (by decide) ""
    | duplicateName name => exact exists_form_of_lt 10 (by decide) name
  | missingHandler => exact exists_form_of_lt 11 (by decide) ""
  | conflict existing => exact exists_form_of_lt 12 (by decide) existing

/-! ## Openings -/

/-- Neither opening is the beginning of the other one. -/
def Apart (f g : MessageForm) : Prop :=
  ¬f.opening.toList <+: g.opening.toList ∧ ¬g.opening.toList <+: f.opening.toList

instance (f g : MessageForm) : Decidable (Apart f g) := inferInstanceAs (Decidable (_ ∧ _))

theorem Apart.symm {f g : MessageForm} (h : Apart f g) : Apart g f := ⟨h.2, h.1⟩

instance : Std.Symm Apart := ⟨fun _ _ => Apart.symm⟩

theorem pairwise_apart : forms.Pairwise Apart := by decide +kernel

/-- Openings with something behind them tell the forms apart. -/
theorem eq_of_opening_append_eq {f g : MessageForm} (hf : f ∈ forms) (hg : g ∈ forms)
    {s t : String} (h : f.opening ++ s = g.opening ++ t) : f = g := by
  by_contra hne
  obtain ⟨hfg, hgf⟩ := pairwise_apart.forall hf hg hne
  have hlist := congrArg String.toList h
  rw [String.toList_append, String.toList_append] at hlist
  rcases List.prefix_or_prefix_of_prefix ⟨s.toList, hlist⟩ (List.prefix_append _ t.toList) with
    hprefix | hprefix
  · exact hfg hprefix
  · exact hgf hprefix

end MessageForm

/-- The message of a cause names the cause, with what it carries. -/
theorem RouteFault.eq_of_message_eq {a b : RouteFault} (h : a.message = b.message) : a = b := by
  obtain ⟨f, hf, s, rfl⟩ := MessageForm.exists_form a
  obtain ⟨g, hg, t, rfl⟩ := MessageForm.exists_form b
  rw [f.message_fault, g.message_fault] at h
  obtain rfl := MessageForm.eq_of_opening_append_eq hf hg h
  exact f.fault_eq_of_behind_eq ((String.append_right_inj f.opening).mp h)

/-! ## Refusals -/

/-- The message of a refusal, cut behind the quoted text. -/
theorem RouteError.message_eq (e : RouteError) :
    e.message = "invalid route " ++ (Text.quote e.spec ++ (": " ++ e.fault.message)) :=
  calc e.message
    _ = "invalid route " ++ Text.quote e.spec ++ ": " ++ e.fault.message := rfl
    _ = "invalid route " ++ Text.quote e.spec ++ (": " ++ e.fault.message) := String.append_assoc
    _ = "invalid route " ++ (Text.quote e.spec ++ (": " ++ e.fault.message)) := String.append_assoc

/-- **The message of a refusal names the refusal**: two refusals with one message were given the same
    text and have the same cause, and the cause carries the same.  So do two causes with one
    message. -/
theorem RouteError.message_eq_iff :
    (∀ a b : RouteError, a.message = b.message ↔ a.spec = b.spec ∧ a.fault = b.fault) ∧
      ∀ a b : RouteFault, a.message = b.message ↔ a = b := by
  refine ⟨fun a b => ⟨fun h => ?_, ?_⟩, fun a b => ⟨RouteFault.eq_of_message_eq, congrArg _⟩⟩
  · rw [a.message_eq, b.message_eq] at h
    obtain ⟨hspec, hbehind⟩ := Text.quote_append_inj ((String.append_right_inj _).mp h)
    exact ⟨hspec, RouteFault.eq_of_message_eq ((String.append_right_inj _).mp hbehind)⟩
  · rintro ⟨hspec, hfault⟩
    rw [a.message_eq, b.message_eq, hspec, hfault]

end HttpRouting
