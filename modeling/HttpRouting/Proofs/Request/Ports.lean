/-
  What a router does not see of a request: the port, and all headers that do not name the host.

  1. **Ports** - the value of a Host header names the same host with a port and without
     (`fieldHost_of_names`), whether the host is in brackets, where its own colons do not count, or
     holds no colon.

  2. **Headers** - the query depends on the headers through the value of the first Host header, and
     on that only if the target names no host (`host_congr`).

  3. **Variants** - `Request.Variant` lists the changes that a router does not see: any other headers
     beside a target that names a host, more headers that do not come to be the first Host header,
     and another port.  Each leaves the query as it is (`Variant.query_eq`), hence any number of them
     does, and in a session one request may stand for the other.
-/
import HttpRouting.Proofs.Request.Forms
import HttpRouting.Proofs.Session.Runs
import Mathlib.Logic.Relation

namespace HttpRouting

universe u

/-! ## Ports -/

namespace Authority

/-- A host without a port: it holds no colon and does not start with a bracket, or it stands in
brackets. -/
def IsHost (host : String) : Prop :=
  (':' ∉ host.toList ∧ ¬∃ rest, host = "[" ++ rest) ∨
    ∃ inner, host = "[" ++ inner ++ "]" ∧ ']' ∉ inner.toList

/-- `value` is `host`, or `host` with a colon and a port behind it. -/
inductive Names (host : String) : String → Prop
  | alone : Names host host
  | ported {port : String} (h : ':' ∉ port.toList) : Names host (host ++ ":" ++ port)

/-- A port does not put a bracket in front. -/
theorem not_bracketed_ported {host port : String} (h : ¬∃ rest, host = "[" ++ rest) :
    ¬∃ rest, host ++ ":" ++ port = "[" ++ rest := by
  rintro ⟨rest, heq⟩
  have hlist := congrArg String.toList heq
  simp only [String.toList_append] at hlist
  cases hhost : host.toList with
  | nil => simp [hhost] at hlist
  | cons c cs =>
    rw [hhost] at hlist
    have hc : c = '[' := (List.cons.inj hlist).1
    refine h ⟨String.ofList cs, ?_⟩
    rw [← String.toList_inj, hhost, hc]
    simp

/-- A host in brackets ends with its bracket, whatever stands behind it. -/
theorem fieldHost_brackets {inner : String} (h : ']' ∉ inner.toList) (rest : String) :
    fieldHost ("[" ++ inner ++ "]" ++ rest) = "[" ++ inner ++ "]" := by
  have hopen : isBracketed ("[" ++ inner ++ "]" ++ rest) = true :=
    isBracketed_iff.mpr ⟨inner ++ "]" ++ rest, by simp only [String.append_assoc]⟩
  have hfree : ']' ∉ ("[" ++ inner).toList := by simpa using h
  rw [fieldHost, if_pos hopen]
  exact Text.through_cut hfree

/-- **Ports.**  A host is read from the value that names it, with a port or without. -/
theorem fieldHost_of_names {host value : String} (hhost : IsHost host) (h : Names host value) :
    fieldHost value = host := by
  rcases hhost with ⟨hcolon, hopen⟩ | ⟨inner, rfl, hinner⟩
  · rw [fieldHost]
    cases h with
    | alone =>
      rw [if_neg (mt isBracketed_iff.mp hopen), Text.beforeLast_of_not_mem hcolon]
    | ported hport =>
      rw [if_neg (mt isBracketed_iff.mp (not_bracketed_ported hopen))]
      exact Text.beforeLast_cut hport
  · cases h with
    | alone =>
      have halone := fieldHost_brackets hinner ""
      rwa [String.append_empty] at halone
    | @ported port hport =>
      rw [String.append_assoc]
      exact fieldHost_brackets hinner (":" ++ port)

end Authority

/-! ## Headers -/

namespace Request

/-- A header that does not come to be the first Host header leaves that as it is. -/
theorem find?_isHost_append {front new back : List Header}
    (h : (∀ header ∈ new, header.isHost = false) ∨ ∃ header ∈ front, header.isHost = true) :
    (front ++ new ++ back).find? Header.isHost = (front ++ back).find? Header.isHost := by
  rw [List.find?_append, List.find?_append, List.find?_append]
  rcases h with hnew | ⟨header, hmem, hhost⟩
  · rw [find?_isHost_eq_none hnew, Option.or_none]
  · obtain ⟨first, hfirst⟩ : ∃ first, front.find? Header.isHost = some first :=
      Option.isSome_iff_exists.mp (List.find?_isSome.mpr ⟨header, hmem, hhost⟩)
    rw [hfirst, Option.some_or, Option.some_or]

/-- The host depends on the target and the value of the first Host header. -/
theorem host_congr {a b : Request} (htarget : a.target = b.target)
    (hfield : a.hostField? = b.hostField?) : a.host = b.host := by
  rw [host, host, htarget, hfield]

theorem query_congr {a b : Request} (hmethod : a.method = b.method) (htarget : a.target = b.target)
    (hhost : a.host = b.host) : a.query = b.query := by
  rw [query, query, path, path, hmethod, htarget, hhost]

/-- The bytes that make the value of a Host header no text. -/
theorem isFieldByte_eq_false_iff {b : UInt8} :
    isFieldByte b = false ↔ (b < 0x20 ∨ 0x7e < b) ∧ b ≠ 0x09 := by
  simp only [isFieldByte, Bool.or_eq_false_iff, Bool.and_eq_false_iff, decide_eq_false_iff_not,
    UInt8.not_le, beq_eq_false_iff_ne]

/-- A Host header with such a byte is refused, and the path is not looked at. -/
theorem query_of_bad_byte {request : Request} {value : List UInt8}
    (htarget : request.target.host? = none) (hfield : request.hostField? = some value)
    (hbad : ∃ b ∈ value, (b < 0x20 ∨ 0x7e < b) ∧ b ≠ 0x09) :
    request.query = .error (.invalidHost (Text.ofUtf8 value)) := by
  obtain ⟨b, hmem, hb⟩ := hbad
  have hnotAll : ¬value.all isFieldByte = true := by
    rw [List.all_eq_true]
    intro hall
    have htrue := hall b hmem
    rw [isFieldByte_eq_false_iff.mpr hb] at htrue
    cases htrue
  have hhost : request.host = .error (.invalidHost (Text.ofUtf8 value)) := by
    rw [host, htarget, hfield]
    simp only [fieldText?, if_neg hnotAll]
  rw [query, hhost]
  rfl

/-- A Host header that names a host gives the query this host; whether there is a query is up to the
path. -/
theorem query_of_names {request : Request} {host value : String}
    (htarget : request.target.host? = none) (hfield : request.hostField? = some (Text.utf8 value))
    (hhost : Authority.IsHost host) (hnames : Authority.Names host value)
    (htext : ∀ c ∈ value.toList, IsFieldChar c) :
    request.query = request.path.map fun path => ⟨request.method, host, path⟩ := by
  have hread := host_eq_of_hostField? htarget hfield htext
  rw [Authority.fieldHost_of_names hhost hnames] at hread
  rw [query, hread]
  cases request.path <;> rfl

/-- A query has the path of its request, which starts with a slash. -/
theorem path_of_query {request : Request} {q : Query} (h : request.query = .ok q) :
    q.path = request.target.path ∧ ∃ rest, q.path = "/" ++ rest := by
  rw [query] at h
  cases hhost : request.host with
  | error e => rw [hhost] at h; cases h
  | ok host =>
    rw [hhost] at h
    cases hslash : Text.dropFront? "/" request.target.path with
    | none =>
      have hpath : request.path = .error (.invalidPath request.target.path) := by
        rw [path, hslash]
        rfl
      rw [hpath] at h
      cases h
    | some rest =>
      have htarget := Text.dropFront?_eq_some.mp hslash
      rw [path_eq_ok htarget] at h
      cases h
      exact ⟨rfl, rest, htarget⟩

/-! ## Variants -/

/-- A change of a request that a router does not see. -/
inductive Variant : Request → Request → Prop
  /-- The target names the host, and the headers are any others. -/
  | headers (method : String) {target : Target} {host : String} (htarget : target.host? = some host)
      (old new : List Header) : Variant ⟨method, target, old⟩ ⟨method, target, new⟩
  /-- There are more headers.  They are no Host headers, or come behind one. -/
  | added (method : String) (target : Target) (front new back : List Header)
      (h : (∀ header ∈ new, header.isHost = false) ∨ ∃ header ∈ front, header.isHost = true) :
      Variant ⟨method, target, front ++ back⟩ ⟨method, target, front ++ new ++ back⟩
  /-- The first Host header names the same host, but the port is another one, or there is none. -/
  | port (method : String) (target : Target) (front back : List Header) (name : String)
      {host old new : String} (hfirst : ∀ header ∈ front, header.isHost = false)
      (hname : (Header.ofText name old).isHost = true) (hhost : Authority.IsHost host)
      (hold : Authority.Names host old) (hnew : Authority.Names host new)
      (holdText : ∀ c ∈ old.toList, IsFieldChar c) (hnewText : ∀ c ∈ new.toList, IsFieldChar c) :
      Variant ⟨method, target, front ++ .ofText name old :: back⟩
        ⟨method, target, front ++ .ofText name new :: back⟩

/-- **One change** leaves the query as it is. -/
theorem Variant.query_eq {a b : Request} (h : Variant a b) : a.query = b.query := by
  cases h with
  | headers method htarget old new =>
    refine query_congr rfl rfl ?_
    simp only [host, htarget]
  | added method target front new back h =>
    refine query_congr rfl rfl (host_congr rfl ?_)
    exact congrArg (Option.map Header.value) (find?_isHost_append h).symm
  | @port method target front back name host old new hfirst hname hhost hold hnew holdText
      hnewText =>
    have hfield : ∀ value, hostField? ⟨method, target, front ++ .ofText name value :: back⟩ =
        some (Text.utf8 value) := by
      intro value
      have hvalue : (Header.ofText name value).isHost = true := hname
      exact hostField?_eq_some rfl hfirst hvalue
    cases htarget : target.host? with
    | some named =>
      refine query_congr rfl rfl ?_
      simp only [Request.host, htarget]
    | none =>
      rw [query_of_names htarget (hfield old) hhost hold holdText,
        query_of_names htarget (hfield new) hhost hnew hnewText]
      rfl

/-- Any number of changes, there and back, leaves the query as it is. -/
theorem query_eq_of_variants {a b : Request} (h : Relation.EqvGen Variant a b) :
    a.query = b.query := by
  induction h with
  | rel a b hchange => exact hchange.query_eq
  | refl a => rfl
  | symm a b _ ih => exact ih.symm
  | trans a b c _ _ hab hbc => exact hab.trans hbc

end Request

/-- In a session, one request may stand for another one that puts the same query. -/
theorem Router.run_answer_congr {H : Type u} (r : Router H) {a b : Request}
    (h : a.query = b.query) (front back : List (Call H)) :
    r.run (front ++ .answer a :: back) = r.run (front ++ .answer b :: back) := by
  rw [run_append, run_append, run_cons, run_cons, step_answer_congr _ h]

/-- **Ports and other headers never change where a request goes.**
    Requests that differ in what `Request.Variant` lists put the same query, and every router answers
    them alike and is left alike, at any point of a session.  Without a host in the target, a first
    Host header with a byte that is neither visible ASCII nor a blank or a tab is refused, whatever
    the path, and one that names a host, with a port or without, puts it into the query as it is.
    And whatever the request, the path of a query starts with a slash. -/
theorem Request.variants_route_alike {H : Type u} :
    (∀ a b : Request, Relation.EqvGen Variant a b → a.query = b.query ∧
      ∀ r : Router H, r.answer a = r.answer b ∧
        ∀ front back, r.run (front ++ .answer a :: back) = r.run (front ++ .answer b :: back)) ∧
    (∀ (request : Request) (value : List UInt8), request.target.host? = none →
      request.hostField? = some value → (∃ b ∈ value, (b < 0x20 ∨ 0x7e < b) ∧ b ≠ 0x09) →
      request.query = .error (.invalidHost (Text.ofUtf8 value))) ∧
    (∀ (request : Request) (host value : String), request.target.host? = none →
      request.hostField? = some (Text.utf8 value) → Authority.IsHost host →
      Authority.Names host value → (∀ c ∈ value.toList, IsFieldChar c) →
      request.query = request.path.map fun path => ⟨request.method, host, path⟩) ∧
    ∀ (request : Request) (q : Query), request.query = .ok q →
      q.path = request.target.path ∧ ∃ rest, q.path = "/" ++ rest := by
  refine ⟨fun a b hvariants => ?_, fun _ _ => query_of_bad_byte, fun _ _ _ => query_of_names,
    fun _ _ => path_of_query⟩
  have hquery := query_eq_of_variants hvariants
  refine ⟨hquery, fun r => ⟨?_, r.run_answer_congr hquery⟩⟩
  rw [Router.answer, Router.answer, hquery]

/-- A host in brackets with colons of its own gets a port, a header in front and a Host header that
    is no text behind it.  The same header is refused where it comes first, although the path is
    none either, and is of no account beside a target that names a host. -/
theorem Request.variants_route_alike_of_brackets :
    let bad : Header := ⟨"HOST", [0x68, 0xff]⟩
    let short : Request := ⟨"GET", .originForm "/a?b", [.ofText "Host" "[::1]"]⟩
    let long : Request :=
      ⟨"GET", .originForm "/a?b", [.ofText "Accept" "h", .ofText "Host" "[::1]:80", bad]⟩
    let star : Request := ⟨"GET", .asteriskForm, [bad]⟩
    let far : Request := ⟨"GET", .absoluteForm "h:80" "/a", [bad]⟩
    short.query = .ok ⟨"GET", "[::1]", "/a"⟩ ∧ (∃ rest, "/a" = "/" ++ rest) ∧
      (∀ r : Router Nat, r.answer short = r.answer long) ∧
      star.query = .error (.invalidHost (Text.ofUtf8 [0x68, 0xff])) ∧
      ∀ r : Router Nat, r.answer far = r.answer { far with headers := [] } := by
  intro bad short long star far
  obtain ⟨halike, hbad, hhost, hpath⟩ := variants_route_alike (H := Nat)
  have hisHost : Authority.IsHost "[::1]" := Or.inr ⟨"::1", by decide, by decide⟩
  have hported : Authority.Names "[::1]" ("[::1]" ++ ":" ++ "80") := .ported (by decide)
  have htext : "[::1]:80".toList.all (fun c => decide (IsFieldChar c)) = true := by decide
  have hlongText : ∀ c ∈ "[::1]:80".toList, IsFieldChar c :=
    fun c hc => of_decide_eq_true (List.all_eq_true.mp htext c hc)
  have hshortText : ∀ c ∈ "[::1]".toList, IsFieldChar c :=
    fun c hc => hlongText c (List.mem_append_left ":80".toList hc)
  -- the port, the header behind and the header in front, one after another
  have hport : Variant short ⟨"GET", .originForm "/a?b", [.ofText "Host" "[::1]:80"]⟩ :=
    .port "GET" _ [] [] "Host" (by simp) (by decide) hisHost .alone hported hshortText hlongText
  have hbehind : Variant ⟨"GET", .originForm "/a?b", [.ofText "Host" "[::1]:80"]⟩
      ⟨"GET", .originForm "/a?b", [.ofText "Host" "[::1]:80", bad]⟩ :=
    .added "GET" _ [.ofText "Host" "[::1]:80"] [bad] [] (Or.inr ⟨_, List.mem_singleton_self _, rfl⟩)
  have hinFront : Variant ⟨"GET", .originForm "/a?b", [.ofText "Host" "[::1]:80", bad]⟩ long :=
    .added "GET" _ [] [.ofText "Accept" "h"] [.ofText "Host" "[::1]:80", bad] (Or.inl (by decide))
  have hchanges : Relation.EqvGen Variant short long :=
    .trans _ _ _ (.rel _ _ hport) (.trans _ _ _ (.rel _ _ hbehind) (.rel _ _ hinFront))
  have hfar : Variant far { far with headers := [] } :=
    .headers "GET" (show far.target.host? = some "h" by decide) _ _
  have hquery : short.query = .ok ⟨"GET", "[::1]", "/a"⟩ :=
    (hhost short "[::1]" "[::1]" rfl (by decide) hisHost .alone hshortText).trans (by decide +kernel)
  exact ⟨hquery, (hpath short _ hquery).2, fun r => ((halike _ _ hchanges).2 r).1,
    hbad star [0x68, 0xff] rfl (by decide) ⟨0xff, by decide, by decide⟩,
    fun r => ((halike _ _ (.rel _ _ hfar)).2 r).1⟩

end HttpRouting
