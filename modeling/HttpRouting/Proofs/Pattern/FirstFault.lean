/-
  What is reported for a text that is no pattern.

  The parser reports one fault, and a text may have many.  Its tests are interleaved: it cuts the
  text into fields, tests the method, cuts off the host and tests it, and then goes through the
  tokens of the path, each of which it tests by itself and then where it stands, with the names
  bound so far in hand.  Here the report is said without a scan, as a relation of a text and an
  error (`Rejects`).

  1. **One token** - some tokens are at fault wherever they stand (`Segment.Misspelt`), others only
     where they do, behind the tokens in front and at the end of the path or not
     (`Segment.Misplaced`).  `read_eq_error_iff` and `misplaced_iff` find them in the two tests of
     the reader.

  2. **The first faulty token** - `readAll_eq_error_iff`: the reader fails with the fault of the
     leftmost token that has one.  The induction is on the tokens that are left, and it carries that
     the names in hand are those which the tokens in front introduce.

  3. **The text** - `parse_eq_error_iff_rejects`.  What stands behind the faulty token is in no
     rule, but for whether anything does; so it can be changed at will, and the report stays.
-/
import HttpRouting.Proofs.Pattern.Grammar
import HttpRouting.Proofs.Text.Cuts

namespace HttpRouting

namespace Pattern

/-- A text with a brace in it. -/
def HasBrace (s : String) : Prop := '\x7b' ∈ s.toList ∨ '\x7d' ∈ s.toList

theorem not_hasBrace_iff {s : String} : ¬HasBrace s ↔ isBraceFree s = true := by
  rw [HasBrace, not_or, isBraceFree_iff]

theorem hasBrace_iff {s : String} : HasBrace s ↔ ¬isBraceFree s = true := by
  rw [← not_hasBrace_iff, Classical.not_not]

/-- What stands in braces gives a name: all of it, or what is left of it without three dots. -/
inductive Names : String → String → Prop
  /-- Three dots at the end are taken off, once. -/
  | dotted (name : String) : Names (name ++ "...") name
  /-- Where there are none, all of it is the name. -/
  | plain {name : String} : (∀ front, name ≠ front ++ "...") → Names name name

end Pattern

namespace Segment

open Pattern

/-! ## One token -/

/-- The token is a wildcard or a catch-all of this name. -/
def Introduces (token name : String) : Prop :=
  IsName name ∧ (token = "\x7b" ++ name ++ "\x7d" ∨ token = "\x7b" ++ name ++ "...\x7d")

/-- The fault of a token wherever it stands. -/
inductive Misspelt : String → PatternError → Prop
  /-- There are braces in the token, but not one at each end and none between. -/
  | malformedWildcard {token : String} : HasBrace token →
      (∀ inner, token = "\x7b" ++ inner ++ "\x7d" → HasBrace inner) →
      Misspelt token (.malformedWildcard token)
  /-- There is no name between the braces. -/
  | invalidName {inner name : String} : ¬HasBrace inner → inner ≠ "$" → Names inner name →
      ¬IsName name → Misspelt ("\x7b" ++ inner ++ "\x7d") (.invalidName name)

/-- The fault of a token behind the tokens `earlier`, last or not. -/
inductive Misplaced (earlier : List String) : String → Bool → PatternError → Prop
  /-- A path may end in a slash, but two may not stand next to each other. -/
  | emptySegment : Misplaced earlier "" false .emptySegment
  /-- The end of the path stands last. -/
  | anchorNotLast : Misplaced earlier "\x7b$\x7d" false .anchorNotLast
  /-- A catch-all stands last. -/
  | catchAllNotLast {name : String} : IsName name →
      Misplaced earlier ("\x7b" ++ name ++ "...\x7d") false (.catchAllNotLast name)
  /-- A wildcard has a name that is bound before. -/
  | duplicateWildcard {name : String} {isLast : Bool} : IsName name →
      (∃ token ∈ earlier, Introduces token name) →
      Misplaced earlier ("\x7b" ++ name ++ "\x7d") isLast (.duplicateName name)
  /-- A catch-all, at the end, has a name that is bound before. -/
  | duplicateCatchAll {name : String} : IsName name →
      (∃ token ∈ earlier, Introduces token name) →
      Misplaced earlier ("\x7b" ++ name ++ "...\x7d") true (.duplicateName name)

/-- The fault of a token behind the tokens `earlier`, last or not, of either kind. -/
def Faulty (earlier : List String) (token : String) (isLast : Bool) (e : PatternError) : Prop :=
  Misspelt token e ∨ Misplaced earlier token isLast e

variable {earlier bound tokens : List String} {token : String} {isLast : Bool} {segment : Segment}
  {e : PatternError}

theorem read_eq_ok_iff_writesLast : read token = .ok segment ↔ WritesLast token segment :=
  read_eq_ok_iff.trans writesLast_iff.symm

theorem Misspelt.read (h : Misspelt token e) : read token = .error e := by
  cases h with
  | malformedWildcard hbrace hinner =>
    have hempty : token ≠ "" := by
      rintro rfl
      exact hasBrace_iff.mp hbrace rfl
    have hanchor : token ≠ "\x7b$\x7d" := by
      rintro rfl
      exact hasBrace_iff.mp (hinner "$" rfl) rfl
    have hfilter : (inBraces? token).filter isBraceFree = none :=
      Option.filter_eq_none_iff.mpr fun inner hin =>
        hasBrace_iff.mp (hinner inner (inBraces?_eq_some.mp hin))
    rw [Segment.read, if_neg hempty, if_neg hanchor, if_neg (hasBrace_iff.mp hbrace)]
    simp only [hfilter]
  | @invalidName inner name hfree hdollar hnames hname =>
    have hident : ¬isIdentifier name = true := hname ∘ isName_iff.mpr
    rw [read_braces (not_hasBrace_iff.mp hfree) hdollar]
    cases hnames with
    | dotted =>
      rw [Text.dropBack?_eq_some.mpr rfl]
      exact if_neg hident
    | plain hdots =>
      have hback : Text.dropBack? "..." inner = none :=
        Option.eq_none_iff_forall_ne_some.mpr fun front hfront =>
          hdots front (Text.dropBack?_eq_some.mp hfront)
      rw [hback]
      exact if_neg hident

theorem exists_names (inner : String) : ∃ name, Names inner name := by
  by_cases hdots : ∃ front, inner = front ++ "..."
  · obtain ⟨front, rfl⟩ := hdots
    exact ⟨front, .dotted front⟩
  · exact ⟨inner, .plain fun front heq => hdots ⟨front, heq⟩⟩

/-- A token writes a segment, or it is misspelt. -/
theorem writesLast_or_misspelt (token : String) :
    (∃ segment, WritesLast token segment) ∨ ∃ e, Misspelt token e := by
  by_cases hempty : token = ""
  · exact hempty ▸ .inl ⟨_, .slash⟩
  by_cases hbrace : HasBrace token
  case neg =>
    obtain ⟨hopen, hclose⟩ := not_or.mp hbrace
    exact .inl ⟨_, .inner (.literal hempty hopen hclose)⟩
  by_cases hbraces : ∃ inner, token = "\x7b" ++ inner ++ "\x7d" ∧ ¬HasBrace inner
  case neg =>
    refine .inr ⟨_, .malformedWildcard hbrace fun inner htoken => ?_⟩
    exact Classical.byContradiction fun hfree => hbraces ⟨inner, htoken, hfree⟩
  obtain ⟨inner, rfl, hfree⟩ := hbraces
  by_cases hanchor : inner = "$"
  · exact hanchor ▸ .inl ⟨_, .anchor⟩
  obtain ⟨name, hnames⟩ := exists_names inner
  by_cases hname : IsName name
  case neg => exact .inr ⟨_, .invalidName hfree hanchor hnames hname⟩
  cases hnames with
  | dotted =>
    have htoken : "\x7b" ++ (name ++ "...") ++ "\x7d" = "\x7b" ++ name ++ "...\x7d" := by
      rw [String.append_assoc, String.append_assoc, String.append_assoc]
      rfl
    exact htoken ▸ .inl ⟨_, .catchAll hname⟩
  | plain _ => exact .inl ⟨_, .inner (.wildcard hname)⟩

/-- A token that does not read as a segment is misspelt. -/
theorem read_eq_error_iff : read token = .error e ↔ Misspelt token e := by
  refine ⟨fun h => ?_, Misspelt.read⟩
  rcases writesLast_or_misspelt token with ⟨segment, hwrites⟩ | ⟨e', hmisspelt⟩
  · rw [read_eq_ok_iff_writesLast.mpr hwrites] at h
    cases h
  · obtain rfl := Except.error.inj (hmisspelt.read.symm.trans h)
    exact hmisspelt

/-- The names in hand are those that the tokens in front introduce. -/
def Bound (earlier bound : List String) : Prop :=
  ∀ name, name ∈ bound ↔ ∃ token ∈ earlier, Introduces token name

theorem bound_nil : Bound [] [] := fun _ =>
  iff_of_false List.not_mem_nil fun ⟨_, hmem, _⟩ => List.not_mem_nil hmem

/-- No name in hand is that of a trailing slash. -/
theorem Bound.empty_not_mem (h : Bound earlier bound) : "" ∉ bound := by
  intro hmem
  obtain ⟨_, -, hname, -⟩ := (h "").mp hmem
  exact ne_empty_of_isIdentifier (isName_iff.mp hname) rfl

/-- A token that reads as a segment is misplaced if the segment has a fault where it stands. -/
theorem misplaced_iff (h : Bound earlier bound) :
    Misplaced earlier token isLast e ↔
      ∃ segment, WritesLast token segment ∧ segment.fault? bound isLast = some e := by
  constructor
  · intro hplace
    cases hplace with
    | emptySegment => exact ⟨_, .slash, rfl⟩
    | anchorNotLast => exact ⟨_, .anchor, rfl⟩
    | catchAllNotLast hname =>
      have hne := ne_empty_of_isIdentifier (isName_iff.mp hname)
      exact ⟨_, .catchAll hname, by simp [fault?, hne]⟩
    | duplicateWildcard hname hearlier =>
      exact ⟨_, .inner (.wildcard hname), if_pos ((h _).mpr hearlier)⟩
    | duplicateCatchAll hname hearlier =>
      exact ⟨_, .catchAll hname, if_pos ((h _).mpr hearlier)⟩
  · rintro ⟨segment, hwrites, hfault⟩
    cases hwrites with
    | inner hinner =>
      cases hinner with
      | literal hne _ _ => simp [fault?, hne] at hfault
      | @wildcard name hname =>
        by_cases hmem : name ∈ bound
        · rw [fault?, if_pos hmem, Option.some.injEq] at hfault
          exact hfault ▸ .duplicateWildcard hname ((h _).mp hmem)
        · rw [fault?, if_neg hmem] at hfault
          cases hfault
    | slash =>
      cases isLast with
      | false => exact Option.some.inj hfault ▸ .emptySegment
      | true => simp [fault?, h.empty_not_mem] at hfault
    | anchor =>
      cases isLast with
      | false => exact Option.some.inj hfault ▸ .anchorNotLast
      | true => cases hfault
    | @catchAll name hname =>
      have hne := ne_empty_of_isIdentifier (isName_iff.mp hname)
      cases isLast with
      | false =>
        simp only [fault?, hne] at hfault
        exact Option.some.inj hfault ▸ .catchAllNotLast hname
      | true =>
        by_cases hmem : name ∈ bound
        · simp only [fault?, hmem] at hfault
          exact Option.some.inj hfault ▸ .duplicateCatchAll hname ((h _).mp hmem)
        · simp [fault?, hmem] at hfault

/-- The two tests of the reader find the fault of a token. -/
theorem faulty_iff (h : Bound earlier bound) :
    Faulty earlier token isLast e ↔ read token = .error e ∨
      ∃ segment, read token = .ok segment ∧ segment.fault? bound isLast = some e := by
  simp only [Faulty, misplaced_iff h, ← read_eq_error_iff, read_eq_ok_iff_writesLast]

/-- A token without a fault reads as a segment that has none. -/
theorem not_faulty_iff (h : Bound earlier bound) :
    (∀ e, ¬Faulty earlier token isLast e) ↔
      ∃ segment, read token = .ok segment ∧ segment.fault? bound isLast = none := by
  simp only [faulty_iff h]
  cases hread : read token with
  | error e => exact iff_of_false (fun hno => hno e (.inl rfl)) nofun
  | ok segment =>
    constructor
    · intro hno
      refine ⟨segment, rfl, Option.eq_none_iff_forall_ne_some.mpr fun e hfault => ?_⟩
      exact hno e (.inr ⟨segment, rfl, hfault⟩)
    · rintro ⟨_, hsame, hnone⟩ e (herror | ⟨_, hsame', hfault⟩)
      · cases herror
      · cases hsame
        cases hsame'
        rw [hnone] at hfault
        cases hfault

/-- A token writes one segment only. -/
theorem WritesLast.unique {other : Segment} (h : WritesLast token segment)
    (h' : WritesLast token other) : segment = other := by
  rw [← read_eq_ok_iff_writesLast] at h h'
  exact Except.ok.inj (h.symm.trans h')

/-- A token that does not end a path introduces the name of its segment. -/
theorem introduces_iff (h : WritesInner token segment) {name : String} :
    Introduces token name ↔ segment.name? = some name := by
  constructor
  · rintro ⟨hname, rfl | rfl⟩
    · obtain rfl := WritesLast.unique (.inner (.wildcard hname)) (.inner h)
      rfl
    · obtain rfl := WritesLast.unique (.catchAll hname) (.inner h)
      rfl
  · intro hsome
    cases h with
    | literal _ _ _ => cases hsome
    | wildcard hname =>
      obtain rfl := Option.some.inj hsome
      exact ⟨hname, .inl rfl⟩

/-- The name of one more token is taken in hand. -/
theorem Bound.append (hbound : Bound earlier bound) (h : WritesInner token segment) :
    Bound (earlier ++ [token]) (bound ++ segment.name?.toList) := by
  intro name
  simp only [List.mem_append, Option.mem_toList, ← introduces_iff h, hbound name, or_and_right,
    List.mem_singleton, exists_or, exists_eq_left]

/-! ## The first faulty token -/

/-- Of the tokens that follow `earlier`, those of `front` are without a fault, and `token` behind
    them has one.  Whatever follows `token` is left out; only whether something does counts. -/
structure FirstFault (earlier front : List String) (token : String) (isLast : Bool)
    (e : PatternError) : Prop where
  /-- No token in front has a fault. -/
  not_faulty : ∀ before other, before ++ [other] <+: front →
    ∀ e, ¬Faulty (earlier ++ before) other false e
  /-- The token has one. -/
  faulty : Faulty (earlier ++ front) token isLast e

theorem firstFault_nil_iff :
    FirstFault earlier [] token isLast e ↔ Faulty earlier token isLast e := by
  constructor
  · rintro ⟨-, h⟩
    rwa [List.append_nil] at h
  · intro h
    refine ⟨fun before other hprefix => ?_, by rwa [List.append_nil]⟩
    simp at hprefix

/-- The first token has no fault, or it is the first that has one. -/
theorem firstFault_cons_iff {first : String} {front : List String} :
    FirstFault earlier (first :: front) token isLast e ↔
      (∀ e, ¬Faulty earlier first false e) ∧
        FirstFault (earlier ++ [first]) front token isLast e := by
  have happend (more : List String) : earlier ++ [first] ++ more = earlier ++ first :: more := by
    rw [List.append_assoc, List.singleton_append]
  constructor
  · rintro ⟨hnot, hfault⟩
    refine ⟨?_, fun before other hprefix => ?_, by rwa [happend]⟩
    · have hfirst := hnot [] first (by simp)
      rwa [List.append_nil] at hfirst
    · rw [happend]
      exact hnot (first :: before) other (List.cons_prefix_cons.mpr ⟨rfl, hprefix⟩)
  · rintro ⟨hfirst, hnot, hfault⟩
    refine ⟨fun before other hprefix => ?_, by rwa [← happend]⟩
    cases before with
    | nil =>
      obtain ⟨rfl, -⟩ := List.cons_prefix_cons.mp hprefix
      rwa [List.append_nil]
    | cons next before =>
      obtain ⟨rfl, hrest⟩ := List.cons_prefix_cons.mp hprefix
      rw [← happend]
      exact hnot before other hrest

/-- One step of the reader, where it fails. -/
theorem readAll_cons_eq_error {rest : List String} :
    readAll bound (token :: rest) = .error e ↔
      (read token = .error e ∨
        ∃ segment, read token = .ok segment ∧ segment.fault? bound rest.isEmpty = some e) ∨
      ∃ segment, (read token = .ok segment ∧ segment.fault? bound rest.isEmpty = none) ∧
        readAll (bound ++ segment.name?.toList) rest = .error e := by
  rw [readAll]
  cases read token with
  | error e' => simp [bind, Except.bind]
  | ok segment =>
    cases hfault : segment.fault? bound rest.isEmpty with
    | some fault => simp [bind, Except.bind, hfault]
    | none =>
      cases htail : readAll (bound ++ segment.name?.toList) rest with
      | error e' => simp [bind, Except.bind, hfault, htail, and_assoc]
      | ok tail => simp [bind, Except.bind, pure, Except.pure, hfault, htail]

/-- **The reader fails with the fault of the first faulty token.** -/
theorem readAll_eq_error_iff (hbound : Bound earlier bound) :
    readAll bound tokens = .error e ↔ ∃ front token back, tokens = front ++ token :: back ∧
      FirstFault earlier front token back.isEmpty e := by
  induction tokens generalizing earlier bound with
  | nil => exact iff_of_false nofun (by simp)
  | cons token rest ih =>
    rw [readAll_cons_eq_error, ← faulty_iff hbound]
    -- where a token follows, the names that this one introduces are those of its segment
    have hstep (segment : Segment) (next : rest.isEmpty = false)
        (h : read token = .ok segment ∧ segment.fault? bound rest.isEmpty = none) :
        Bound (earlier ++ [token]) (bound ++ segment.name?.toList) := by
      have hwrites := read_eq_ok_iff_writesLast.mp h.1
      have hfinal := (fault?_eq_none_iff.mp h.2).1
      refine hbound.append (writesInner_iff.mpr ⟨hwrites, fun hlast => ?_⟩)
      rw [hfinal hlast] at next
      cases next
    constructor
    · rintro (hfault | ⟨segment, hsound, hrest⟩)
      · exact ⟨[], token, rest, rfl, firstFault_nil_iff.mpr hfault⟩
      · cases rest with
        | nil => cases hrest
        | cons next rest =>
          obtain ⟨front, first, back, heq, hfirst⟩ := (ih (hstep segment rfl hsound)).mp hrest
          refine ⟨token :: front, first, back, congrArg (token :: ·) heq,
            firstFault_cons_iff.mpr ⟨(not_faulty_iff hbound).mpr ⟨segment, hsound⟩, hfirst⟩⟩
    · rintro ⟨front, first, back, heq, hfirst⟩
      cases front with
      | nil =>
        obtain ⟨rfl, rfl⟩ := List.cons.inj heq
        exact .inl (firstFault_nil_iff.mp hfirst)
      | cons other front =>
        obtain ⟨rfl, rfl⟩ := List.cons.inj heq
        have hnext : (front ++ first :: back).isEmpty = false := by simp
        obtain ⟨hnot, hfirst⟩ := firstFault_cons_iff.mp hfirst
        rw [← hnext] at hnot
        obtain ⟨segment, hsound⟩ := (not_faulty_iff hbound).mp hnot
        exact .inr ⟨segment, hsound,
          (ih (hstep segment hnext hsound)).mpr ⟨front, first, back, rfl, hfirst⟩⟩

end Segment

/-! ## The text -/

namespace Pattern

open Segment

/-- The text has two fields: a method, and a host with a path of these tokens behind it. -/
structure Cut (spec method host : String) (tokens : List String) : Prop where
  fields_eq : Text.fields spec = [method, host ++ Path.ofTokens tokens]
  /-- There is a path. -/
  ne_nil : tokens ≠ []
  /-- Every byte of the method is one of an HTTP token. -/
  isTokenByte : ∀ b ∈ Text.utf8 method, IsTokenByte b
  /-- The host ends before the first slash, and there is no brace in it. -/
  host_free : '/' ∉ host.toList ∧ ¬HasBrace host
  /-- The tokens are cut at every slash. -/
  slash_not_mem : ∀ token ∈ tokens, '/' ∉ token.toList

/-- The report for a text, by the first rule that it breaks. -/
inductive Rejects (spec : String) : PatternError → Prop
  /-- There is no field. -/
  | empty : Text.fields spec = [] → Rejects spec .empty
  /-- There is a method only. -/
  | noTarget {method : String} : Text.fields spec = [method] → Rejects spec .missingPath
  /-- There is a third field. -/
  | trailingField {method target extra : String} {others : List String} :
      Text.fields spec = method :: target :: extra :: others → Rejects spec (.trailingField extra)
  /-- There is a byte in the method that no HTTP token has. -/
  | invalidMethod {method target : String} : Text.fields spec = [method, target] →
      ¬(∀ b ∈ Text.utf8 method, IsTokenByte b) → Rejects spec (.invalidMethod method)
  /-- There is no slash behind the method. -/
  | noSlash {method target : String} : Text.fields spec = [method, target] →
      (∀ b ∈ Text.utf8 method, IsTokenByte b) → '/' ∉ target.toList → Rejects spec .missingPath
  /-- There is a brace before the first slash. -/
  | wildcardInHost {method host path : String} :
      Text.fields spec = [method, host ++ "/" ++ path] →
      (∀ b ∈ Text.utf8 method, IsTokenByte b) → '/' ∉ host.toList → HasBrace host →
      Rejects spec (.wildcardInHost host)
  /-- There is a token with a fault, and none in front of it. -/
  | firstFault {method host token : String} {front back : List String} {e : PatternError} :
      Cut spec method host (front ++ token :: back) →
      FirstFault [] front token back.isEmpty e → Rejects spec e

/-- Where a text is cut into its parts, the tokens decide. -/
theorem Cut.parse_eq {spec method host : String} {tokens : List String}
    (h : Cut spec method host tokens) :
    parse spec = (readAll [] tokens).map fun segments => ⟨method, host, segments⟩ := by
  rw [parse, h.fields_eq]
  exact ofFields_eq (forall_isTokenByte_iff.mp h.isTokenByte) h.host_free.1
    (not_hasBrace_iff.mp h.host_free.2) h.ne_nil h.slash_not_mem

theorem Cut.parse_eq_error_iff {spec method host : String} {tokens : List String}
    (h : Cut spec method host tokens) {e : PatternError} :
    parse spec = .error e ↔ ∃ front token back, tokens = front ++ token :: back ∧
      FirstFault [] front token back.isEmpty e := by
  rw [h.parse_eq, ← readAll_eq_error_iff bound_nil]
  cases readAll [] tokens with
  | error e' => rw [Except.map, Except.error.injEq, Except.error.injEq]
  | ok segments => exact iff_of_false nofun nofun

theorem Rejects.parse {spec : String} {e : PatternError} (h : Rejects spec e) :
    parse spec = .error e := by
  cases h with
  | empty hfields => rw [Pattern.parse, hfields]
  | noTarget hfields => rw [Pattern.parse, hfields]
  | trailingField hfields => rw [Pattern.parse, hfields]
  | invalidMethod hfields hmethod =>
    rw [forall_isTokenByte_iff, ← List.all_eq_true] at hmethod
    rw [Pattern.parse, hfields]
    exact if_pos hmethod
  | noSlash hfields hmethod hslash =>
    rw [forall_isTokenByte_iff, ← List.all_eq_true] at hmethod
    rw [Pattern.parse, hfields]
    dsimp only
    rw [ofFields, if_neg (not_not_intro hmethod), Text.after?_eq_none_iff.mpr hslash]
  | @wildcardInHost method host path hfields hmethod hslash hhost =>
    have hbefore : Text.before '/' (host ++ "/" ++ path) = host := Text.before_cut hslash
    have hafter : Text.after? '/' (host ++ "/" ++ path) = some path := Text.after?_cut hslash
    rw [forall_isTokenByte_iff, ← List.all_eq_true] at hmethod
    rw [Pattern.parse, hfields]
    dsimp only
    rw [ofFields, if_neg (not_not_intro hmethod), hafter]
    dsimp only
    rw [hbefore, if_pos (hasBrace_iff.mp hhost)]
  | firstFault hcut hfirst => exact hcut.parse_eq_error_iff.mpr ⟨_, _, _, rfl, hfirst⟩

/-- A text breaks a rule, or it can be cut into its parts. -/
theorem rejects_or_cut (spec : String) :
    (∃ e, Rejects spec e) ∨ ∃ method host tokens, Cut spec method host tokens := by
  match hfields : Text.fields spec with
  | [] => exact .inl ⟨_, .empty hfields⟩
  | [_] => exact .inl ⟨_, .noTarget hfields⟩
  | _ :: _ :: _ :: _ => exact .inl ⟨_, .trailingField hfields⟩
  | [method, target] =>
    by_cases hmethod : ∀ b ∈ Text.utf8 method, IsTokenByte b
    case neg => exact .inl ⟨_, .invalidMethod hfields hmethod⟩
    by_cases hslash : '/' ∈ target.toList
    case neg => exact .inl ⟨_, .noSlash hfields hmethod hslash⟩
    obtain ⟨host, path, rfl, hfirst⟩ := Text.exists_cut_of_mem hslash
    by_cases hbrace : HasBrace host
    · exact .inl ⟨_, .wildcardInHost hfields hmethod hfirst hbrace⟩
    · have hne := Text.pieces_ne_nil '/' path
      refine .inr ⟨method, host, Text.pieces '/' path, ?_, hne, hmethod, ⟨hfirst, hbrace⟩, ?_⟩
      · rw [hfields, Path.append_ofTokens _ hne, Text.intercalate_pieces]
      · exact fun token hmem => Text.not_mem_of_mem_pieces hmem

/-- What is reported is what the rules single out, for they leave out no text that cannot be cut, and
    a text has one report. -/
theorem rejects_of_parse {spec : String} {e : PatternError} (h : parse spec = .error e) :
    Rejects spec e := by
  rcases rejects_or_cut spec with ⟨e', hrejects⟩ | ⟨method, host, tokens, hcut⟩
  · obtain rfl := Except.error.inj (hrejects.parse.symm.trans h)
    exact hrejects
  · obtain ⟨front, token, back, rfl, hfirst⟩ := hcut.parse_eq_error_iff.mp h
    exact .firstFault hcut hfirst

/-- **A text is rejected by the first rule that it breaks.**  The error is the one that the rules
    single out, and there is no other.  If it is that of a token, whatever stands behind this token
    can be changed, added or removed, as long as the token stays the last or stays in front of
    another, and so can the method and the host. -/
theorem parse_eq_error_iff_rejects :
    (∀ spec e, parse spec = .error e ↔ Rejects spec e) ∧
    ∀ spec spec' method method' host host' front token back back' e,
      Cut spec method host (front ++ token :: back) →
      Cut spec' method' host' (front ++ token :: back') → back.isEmpty = back'.isEmpty →
      FirstFault [] front token back.isEmpty e →
      parse spec = .error e ∧ parse spec' = .error e := by
  refine ⟨fun spec e => ⟨rejects_of_parse, Rejects.parse⟩, ?_⟩
  intro spec spec' method method' host host' front token back back' e hcut hcut' hlast hfirst
  exact ⟨(Rejects.firstFault hcut hfirst).parse,
    (Rejects.firstFault hcut' (hlast ▸ hfirst)).parse⟩

/-- The catch-all is at fault for what follows it, a name bound twice and a misspelt token in the
one text and an empty token in the other. -/
theorem rejects_catchAll_before_others :
    let spec := "GET h/\x7ba\x7d/\x7bb...\x7d/\x7ba\x7d/x\x7b"
    let spec' := " POST  /\x7ba\x7d/\x7bb...\x7d// "
    (parse spec = .error (.catchAllNotLast "b") ∧ parse spec' = .error (.catchAllNotLast "b")) ∧
      Rejects spec (.catchAllNotLast "b") := by
  intro spec spec'
  have hname (name : String) (h : isIdentifier name = true) : IsName name := isName_iff.mpr h
  have hsound : ∀ e, ¬Faulty [] "\x7ba\x7d" false e := (not_faulty_iff bound_nil).mpr
    ⟨.wildcard "a", read_eq_ok_iff_writesLast.mpr (.inner (.wildcard (hname "a" rfl))), rfl⟩
  have hfirst : FirstFault [] ["\x7ba\x7d"] "\x7bb...\x7d" false (.catchAllNotLast "b") :=
    firstFault_cons_iff.mpr
      ⟨hsound, firstFault_nil_iff.mpr (.inr (.catchAllNotLast (hname "b" rfl)))⟩
  have hmethod (method : String) (h : method.toList.all isTokenChar = true) :
      ∀ b ∈ Text.utf8 method, IsTokenByte b :=
    forall_isTokenByte_iff.mpr (List.all_eq_true.mp h)
  have hcut : Cut spec "GET" "h" ["\x7ba\x7d", "\x7bb...\x7d", "\x7ba\x7d", "x\x7b"] :=
    ⟨by decide, by decide, hmethod _ (by decide),
      ⟨by decide, not_hasBrace_iff.mpr (by decide)⟩, by decide⟩
  have hcut' : Cut spec' "POST" "" ["\x7ba\x7d", "\x7bb...\x7d", "", ""] :=
    ⟨by decide, by decide, hmethod _ (by decide),
      ⟨by decide, not_hasBrace_iff.mpr (by decide)⟩, by decide⟩
  have hboth := parse_eq_error_iff_rejects.2 spec spec' "GET" "POST" "h" "" ["\x7ba\x7d"]
    "\x7bb...\x7d" ["\x7ba\x7d", "x\x7b"] ["", ""] (.catchAllNotLast "b") hcut hcut' rfl hfirst
  exact ⟨hboth, (parse_eq_error_iff_rejects.1 spec _).mp hboth.1⟩

end Pattern

end HttpRouting
