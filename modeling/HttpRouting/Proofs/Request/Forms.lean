/-
  A request that names its host in the target, and one that names it in a header.

  `scheme://authority/path` as a target and `/path` with the authority in a Host header ask for the
  same thing, but they are read by rules of their own.

  1. **The host** - a target cuts its authority before the first colon, a header before the last
     one, and both cut behind the first closing bracket of a host in brackets (`host_eq_fieldHost`).
     They agree on an authority without user information, which has one colon at most or is in
     brackets.

  2. **The header** - text in visible ASCII is read back from its bytes (`fieldText?_utf8`), so the
     header is accepted.

  3. **The target** - the first colon ends the scheme and the first slash behind it the authority
     (`ofString_absolute`).  What is left is the path, which is not empty since it has a slash.
-/
import HttpRouting.Proofs.Pattern.Grammar
import HttpRouting.Proofs.Text.Cuts
import HttpRouting.Router.Shared

namespace HttpRouting

universe u v

/-! ## The host -/

namespace Authority

/-- A visible ASCII character that neither ends an authority nor stands behind user information. -/
def IsPlainChar (c : Char) : Prop :=
  Pattern.IsVisible c ∧ c ≠ '@' ∧ c ≠ '/' ∧ c ≠ '?' ∧ c ≠ '#'

instance (c : Char) : Decidable (IsPlainChar c) := inferInstanceAs (Decidable (_ ∧ _))

/-- An authority of a host and perhaps a port, without user information, where colons of the host
    itself are in brackets. -/
structure IsPlain (authority : String) : Prop where
  ne_empty : authority ≠ ""
  isPlainChar : ∀ c ∈ authority.toList, IsPlainChar c
  /-- The host is in brackets, or there is at most one colon. -/
  bracketed_or : ((∃ rest, authority = "[" ++ rest) ∧ ']' ∈ authority.toList) ∨
    ((¬∃ rest, authority = "[" ++ rest) ∧ authority.toList.count ':' ≤ 1)

theorem isBracketed_iff {s : String} : isBracketed s = true ↔ ∃ rest, s = "[" ++ rest := by
  rw [isBracketed, Option.isSome_iff_exists]
  exact exists_congr fun _ => Text.dropFront?_eq_some

/-- With one colon at most, the first is the last. -/
theorem before_eq_beforeLast {s : String} (h : s.toList.count ':' ≤ 1) :
    Text.before ':' s = Text.beforeLast ':' s := by
  by_cases hmem : ':' ∈ s.toList
  · obtain ⟨front, rest, rfl, hfront⟩ := Text.exists_cut_of_mem hmem
    have hrest : ':' ∉ rest.toList := by
      simp only [String.toList_append, String.toList_singleton, List.count_append,
        List.count_singleton_self] at h
      exact List.count_eq_zero.mp (by omega)
    rw [Text.before_cut hfront, Text.beforeLast_cut hrest]
  · rw [Text.before_of_not_mem hmem, Text.beforeLast_of_not_mem hmem]

/-- **The host.**  Both rules find the same host in a plain authority. -/
theorem host_eq_fieldHost {authority : String} (h : IsPlain authority) :
    host authority = fieldHost authority := by
  have hplace : Text.afterLast '@' authority = authority :=
    Text.afterLast_of_not_mem fun hmem => (h.isPlainChar _ hmem).2.1 rfl
  rw [host, fieldHost, hplace]
  rcases h.bracketed_or with ⟨hopen, -⟩ | ⟨hopen, hcolons⟩
  · rw [if_pos (isBracketed_iff.mpr hopen), if_pos (isBracketed_iff.mpr hopen)]
  · have hno : ¬isBracketed authority = true := fun hbracket => hopen (isBracketed_iff.mp hbracket)
    rw [if_neg hno, if_neg hno]
    exact before_eq_beforeLast hcolons

end Authority

/-! ## The header -/

namespace Request

/-- A character that the value of a Host header may hold: visible ASCII, a blank or a tab. -/
def IsFieldChar (c : Char) : Prop := (0x20 ≤ c.toNat ∧ c.toNat ≤ 0x7e) ∨ c = '\t'

instance (c : Char) : Decidable (IsFieldChar c) := inferInstanceAs (Decidable (_ ∨ _))

theorem isFieldChar_of_isVisible {c : Char} (h : Pattern.IsVisible c) : IsFieldChar c := by
  have hvisible := h
  unfold Pattern.IsVisible at hvisible
  exact Or.inl ⟨by omega, hvisible.2⟩

/-- A character that a field may hold is one byte, and is read back from it. -/
theorem utf8EncodeChar_of_isFieldChar {c : Char} (h : IsFieldChar c) :
    ∃ b, String.utf8EncodeChar c = [b] ∧ isFieldByte b = true ∧ Char.ofNat b.toNat = c := by
  have hc : c.toNat < 128 := by
    rcases h with hvisible | rfl
    · omega
    · decide
  refine ⟨UInt8.ofNat c.toNat, Pattern.utf8EncodeChar_of_lt hc, ?_⟩
  exact Pattern.ascii_forall (P := fun c => IsFieldChar c →
    isFieldByte (UInt8.ofNat c.toNat) = true ∧ Char.ofNat (UInt8.ofNat c.toNat).toNat = c)
    (by decide +kernel) hc h

/-- A text that a field may hold is read back from its bytes. -/
theorem fieldText?_utf8 {s : String} (h : ∀ c ∈ s.toList, IsFieldChar c) :
    fieldText? (Text.utf8 s) = some s := by
  have hread : ∀ cs : List Char, (∀ c ∈ cs, IsFieldChar c) →
      (cs.flatMap String.utf8EncodeChar).all isFieldByte = true ∧
        (cs.flatMap String.utf8EncodeChar).map (fun b => Char.ofNat b.toNat) = cs := by
    intro cs hcs
    induction cs with
    | nil => exact ⟨rfl, rfl⟩
    | cons c rest ih =>
      obtain ⟨hc, hrest⟩ := List.forall_mem_cons.mp hcs
      obtain ⟨b, hbyte, hfield, hchar⟩ := utf8EncodeChar_of_isFieldChar hc
      obtain ⟨hall, hmap⟩ := ih hrest
      rw [List.flatMap_cons, hbyte, List.singleton_append, List.all_cons, List.map_cons, hfield,
        hall, hchar, hmap]
      exact ⟨rfl, rfl⟩
  obtain ⟨hall, hmap⟩ := hread s.toList h
  rw [fieldText?, Text.utf8, if_pos hall, hmap, String.ofList_toList]

end Request

/-! ## The target -/

namespace Target

variable {scheme authority target rest : String}

theorem ofString_origin (h : target = "/" ++ rest) : ofString target = .originForm target := by
  have hstar : target ≠ "*" := by
    rw [h]
    intro heq
    simpa using congrArg String.toList heq
  have hslash : (Text.dropFront? "/" target).isSome = true :=
    Option.isSome_iff_exists.mpr ⟨rest, Text.dropFront?_eq_some.mpr h⟩
  rw [ofString, if_neg hstar, if_pos hslash]

/-- The first colon ends the scheme, and the first slash behind it the authority. -/
theorem ofString_absolute (hcolon : ':' ∉ scheme.toList) (hslash : '/' ∉ scheme.toList)
    (hauthority : ∀ c ∈ authority.toList, endsAuthority c = false) (h : target = "/" ++ rest) :
    ofString (scheme ++ "://" ++ authority ++ target) = .absoluteForm authority target := by
  have hstar : scheme ++ "://" ++ authority ++ target ≠ "*" := by
    intro heq
    have hmem : '/' ∈ "*".toList := by
      rw [← heq]
      simp
    exact absurd hmem (by decide)
  have horigin : ¬(Text.dropFront? "/" (scheme ++ "://" ++ authority ++ target)).isSome = true := by
    rw [Option.isSome_iff_exists]
    rintro ⟨others, hothers⟩
    have hlist := congrArg String.toList (Text.dropFront?_eq_some.mp hothers)
    -- the text starts with a character of the scheme, or with the colon
    cases hscheme : scheme.toList with
    | nil => simp [hscheme] at hlist
    | cons c cs =>
      simp only [String.toList_append, hscheme] at hlist
      have hc : c = '/' := (List.cons.inj hlist).1
      exact hslash (by rw [hscheme, hc]; exact List.mem_cons_self)
  have hscheme : afterScheme? (scheme ++ "://" ++ authority ++ target) =
      some (authority ++ target) := by
    have hcut : scheme ++ "://" ++ authority ++ target =
        scheme ++ String.singleton ':' ++ ("//" ++ (authority ++ target)) := by
      simp only [← String.toList_inj, String.toList_append]
      simp
    rw [afterScheme?, hcut, Text.after?_cut hcolon, Option.bind_some]
    exact Text.dropFront?_eq_some.mpr rfl
  have hends : ∀ c ∈ target.toList.head?, endsAuthority c = true := by
    rw [h]
    intro c hc
    have hfirst : c = '/' := by simpa using hc.symm
    rw [hfirst]
    rfl
  obtain ⟨hbefore, hfrom⟩ := Text.beforeAny_append hauthority hends
  rw [ofString, if_neg hstar, if_neg horigin, hscheme]
  dsimp only
  rw [hbefore, hfrom]

/-- A path that starts with a slash is not empty without its query. -/
theorem beforeAny_endsPath (h : target = "/" ++ rest) :
    Text.beforeAny endsPath target = "/" ++ Text.beforeAny endsPath rest := by
  rw [h, ← String.toList_inj]
  simp [Text.beforeAny, endsPath]

/-- What stands before the query is the path then, in both forms. -/
theorem leadingPath_eq (h : target = "/" ++ rest) :
    leadingPath target = Text.beforeAny endsPath target := by
  have hne : Text.beforeAny endsPath target ≠ "" := by
    rw [beforeAny_endsPath h]
    intro heq
    simpa using congrArg String.toList heq
  exact if_neg hne

end Target

/-! ## The query -/

namespace Request

variable {scheme authority target : String}

theorem query_eq_ok {request : Request} {host path : String} (hhost : request.host = .ok host)
    (hpath : request.path = .ok path) : request.query = .ok ⟨request.method, host, path⟩ := by
  rw [query, hhost, hpath]
  rfl

/-- The path of a target that starts with a slash is accepted. -/
theorem path_eq_ok {request : Request} {rest : String} (h : request.target.path = "/" ++ rest) :
    request.path = .ok request.target.path := by
  have hslash : (Text.dropFront? "/" request.target.path).isSome = true :=
    Option.isSome_iff_exists.mpr ⟨rest, Text.dropFront?_eq_some.mpr h⟩
  rw [path]
  exact if_pos hslash

/-- Before its query, a target that starts with a slash is a path that is accepted. -/
theorem path_eq_ok_of_leadingPath {request : Request} {rest : String}
    (hpath : request.target.path = Target.leadingPath target) (htarget : target = "/" ++ rest) :
    request.path = .ok (Text.beforeAny Target.endsPath target) := by
  rw [Target.leadingPath_eq htarget] at hpath
  rw [← hpath]
  exact path_eq_ok (hpath.trans (Target.beforeAny_endsPath htarget))

/-- Headers of which none is a Host header have no first one. -/
theorem find?_isHost_eq_none {headers : List Header}
    (h : ∀ header ∈ headers, header.isHost = false) : headers.find? Header.isHost = none :=
  List.find?_eq_none.mpr fun header hmem => by rw [h header hmem]; exact Bool.false_ne_true

/-- The first Host header counts, whatever stands before and behind it. -/
theorem hostField?_eq_some {request : Request} {front back : List Header} {header : Header}
    (hheaders : request.headers = front ++ header :: back)
    (hfirst : ∀ other ∈ front, other.isHost = false) (hname : header.isHost = true) :
    request.hostField? = some header.value := by
  rw [hostField?, hheaders, List.find?_append, find?_isHost_eq_none hfirst, Option.none_or,
    List.find?_cons_of_pos hname]
  rfl

/-- Without a host in the target, a text in the first Host header names the host. -/
theorem host_eq_of_hostField? {request : Request} {text : String}
    (htarget : request.target.host? = none) (hfield : request.hostField? = some (Text.utf8 text))
    (htext : ∀ c ∈ text.toList, IsFieldChar c) :
    request.host = .ok (Authority.fieldHost text) := by
  rw [host, htarget, hfield]
  dsimp only
  rw [fieldText?_utf8 htext]

/-- **The absolute form.**  The target names the host, and no header is looked at. -/
theorem query_absolute (method : String) (headers : List Header) (hcolon : ':' ∉ scheme.toList)
    (hslash : '/' ∉ scheme.toList) (hauthority : Authority.IsPlain authority) {rest : String}
    (htarget : target = "/" ++ rest) :
    query ⟨method, .ofString (scheme ++ "://" ++ authority ++ target), headers⟩ =
      .ok ⟨method, Authority.fieldHost authority, Text.beforeAny Target.endsPath target⟩ := by
  have hends : ∀ c ∈ authority.toList, Target.endsAuthority c = false := by
    intro c hc
    obtain ⟨-, -, hslash, hquestion, hhash⟩ := hauthority.isPlainChar c hc
    simp [Target.endsAuthority, Target.endsPath, hslash, hquestion, hhash]
  rw [Target.ofString_absolute hcolon hslash hends htarget]
  exact query_eq_ok (congrArg Except.ok (Authority.host_eq_fieldHost hauthority))
    (path_eq_ok_of_leadingPath rfl htarget)

/-- **The origin form.**  The first Host header names the host. -/
theorem query_origin (method : String) {front : List Header} (back : List Header) {header : Header}
    (hfirst : ∀ other ∈ front, other.isHost = false) (hname : header.isHost = true)
    (hvalue : header.value = Text.utf8 authority) (htext : ∀ c ∈ authority.toList, IsFieldChar c)
    {rest : String} (htarget : target = "/" ++ rest) :
    query ⟨method, .ofString target, front ++ header :: back⟩ =
      .ok ⟨method, Authority.fieldHost authority, Text.beforeAny Target.endsPath target⟩ := by
  rw [Target.ofString_origin htarget]
  have hfield : hostField? ⟨method, .originForm target, front ++ header :: back⟩ =
      some (Text.utf8 authority) := by
    rw [← hvalue]
    exact hostField?_eq_some rfl hfirst hname
  exact query_eq_ok (host_eq_of_hostField? rfl hfield htext) (path_eq_ok_of_leadingPath rfl htarget)

end Request

/-- A router answers requests that put the same query alike, and reports the same. -/
theorem Router.step_answer_congr {H : Type u} (r : Router H) {first second : Request}
    (h : first.query = second.query) : r.step (.answer first) = r.step (.answer second) := by
  rw [step, step, h]

/-- So does a shared router, through every handle. -/
theorem SharedRouter.step_resolveRequest_congr {H : Type u} {R : Type v} (s : SharedRouter H)
    (via : Nat) {first second : Request} (h : first.query = second.query) :
    s.step via (.resolveRequest first : SharedCall H R) =
      s.step via (.resolveRequest second : SharedCall H R) := by
  have hperform : ∀ lock r, s.perform lock r (.resolveRequest first : SharedCall H R) =
      s.perform lock r (.resolveRequest second) := by
    intro lock r
    rw [perform, perform, Router.resolveRequest, Router.resolveRequest, h]
  have hevents : ∀ r : Router H, events r (.resolveRequest first : SharedCall H R) =
      events r (.resolveRequest second : SharedCall H R) := by
    intro r
    rw [events, events, h]
  rw [step, step]
  simp only [hperform, hevents]

/-- **Absolute form and origin form ask for the same.**  A request for `scheme://authority` and a
    target behind it, whatever its headers, puts the same query as a request for the target alone
    whose first Host header is the authority.  So every router answers both alike, and every shared
    router through every handle. -/
theorem Request.query_absolute_eq_origin {H : Type u} {R : Type v} (method : String)
    {scheme authority target : String} (hcolon : ':' ∉ scheme.toList) (hslash : '/' ∉ scheme.toList)
    (hauthority : Authority.IsPlain authority) (htarget : ∃ rest, target = "/" ++ rest)
    (headers front back : List Header) (hfirst : ∀ other ∈ front, other.isHost = false)
    {name : String} (hname : (Header.ofText name authority).isHost = true) :
    let absolute : Request := ⟨method, .ofString (scheme ++ "://" ++ authority ++ target), headers⟩
    let origin : Request := ⟨method, .ofString target, front ++ .ofText name authority :: back⟩
    absolute.query = origin.query ∧
      absolute.query =
        .ok ⟨method, Authority.fieldHost authority, Text.beforeAny Target.endsPath target⟩ ∧
      (∀ r : Router H, r.answer absolute = r.answer origin ∧
        r.step (.answer absolute) = r.step (.answer origin)) ∧
      ∀ (s : SharedRouter H) (via : Nat),
        s.step via (.resolveRequest absolute : SharedCall H R) =
          s.step via (.resolveRequest origin) := by
  intro absolute origin
  obtain ⟨rest, htarget⟩ := htarget
  have habsolute := query_absolute method headers hcolon hslash hauthority htarget
  have horigin := query_origin method back hfirst hname rfl
    (fun c hc => isFieldChar_of_isVisible (hauthority.isPlainChar c hc).1) htarget
  have hsame : absolute.query = origin.query := habsolute.trans horigin.symm
  refine ⟨hsame, habsolute, fun r => ⟨?_, r.step_answer_congr hsame⟩,
    fun s via => s.step_resolveRequest_congr via hsame⟩
  rw [Router.answer, Router.answer, hsame]

/-- A host in brackets with colons of its own, an empty port and text behind it.  The request in
    absolute form has a Host header that is no text, and the one in origin form has a second one. -/
theorem Request.query_absolute_eq_origin_of_brackets :
    let authority := "[::1]:80x"
    let target := "/a/?b#c"
    let absolute : Request :=
      ⟨"GET", .ofString ("HTTPS" ++ "://" ++ authority ++ target), [⟨"Host", [0xff]⟩]⟩
    let origin : Request := ⟨"GET", .ofString target,
      [.ofText "Accept" "h"] ++ .ofText "hOST" authority :: [.ofText "Host" "h"]⟩
    Authority.IsPlain authority ∧ (∃ rest, target = "/" ++ rest) ∧
      absolute.query = .ok ⟨"GET", "[::1]", "/a/"⟩ ∧ absolute.query = origin.query ∧
      (∀ r : Router Nat, r.answer absolute = r.answer origin) ∧
      ∀ (s : SharedRouter Nat) (via : Nat),
        s.step via (.resolveRequest absolute : SharedCall Nat Nat) =
          s.step via (.resolveRequest origin) := by
  intro authority target absolute origin
  have hplain : authority.toList.all (fun c => decide (Authority.IsPlainChar c)) = true := by decide
  have hauthority : Authority.IsPlain authority :=
    { ne_empty := by decide
      isPlainChar := fun c hc => of_decide_eq_true (List.all_eq_true.mp hplain c hc)
      bracketed_or := Or.inl ⟨⟨"::1]:80x", by decide⟩, by decide⟩ }
  have htarget : ∃ rest, target = "/" ++ rest := ⟨"a/?b#c", by decide⟩
  have hscheme : ':' ∉ "HTTPS".toList ∧ '/' ∉ "HTTPS".toList := by decide
  have hname : (Header.ofText "hOST" authority).isHost = true := by decide
  obtain ⟨hsame, -, hanswers, hshared⟩ := query_absolute_eq_origin (H := Nat) (R := Nat) "GET"
    hscheme.1 hscheme.2 hauthority htarget [⟨"Host", [0xff]⟩] [.ofText "Accept" "h"] [.ofText "Host" "h"]
    (by decide) hname
  exact ⟨hauthority, htarget, by decide +kernel, hsame, fun r => (hanswers r).1, hshared⟩

end HttpRouting
