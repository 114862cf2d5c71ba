import SqlRelay.Http.Service
/-!
# Headers of every response

The version and the configured headers are set on whatever the relay answers.  Where other origins
are let in, that is done inside the part that serves them: it answers requests for options without
the relay, and sets headers of its own behind the configured ones.

Main results:

- Theorem `Headers.value?_setAll`: of several settings of one name the last counts.
- Definition `Configured` is the header that counts among those whose names differ in case only.
- Theorem `Service.routed_carries`: what the relay answers carries the version and every configured
  header.
- Theorem `Service.answer_carries_iff` says which responses do.
-/

namespace SqlRelay

namespace Headers

/-- Sets one header after the other. -/
def setAll (hs more : Headers) : Headers :=
  more.foldl (fun acc h => acc.set h.1 h.2) hs

/-- The last value of a name. -/
def last? (hs : Headers) (name : String) : Option (List UInt8) :=
  value? hs.reverse name

@[simp]
theorem value?_nil (name : String) : value? [] name = none := rfl

@[simp]
theorem last?_nil (name : String) : last? [] name = none := rfl

theorem value?_cons (h : String × List UInt8) (hs : Headers) (name : String) :
    value? (h :: hs) name = if h.1 = name then some h.2 else hs.value? name := by
  by_cases heq : h.1 = name <;> simp [value?, heq]

/-- Headers behind others count only if those have no value. -/
theorem value?_append (hs more : Headers) (name : String) :
    value? (hs ++ more) name = (hs.value? name).or (more.value? name) := by
  simp [value?, List.find?_append, Option.map_or]

/-- Setting a header gives its name the value and leaves other names alone. -/
theorem value?_set (hs : Headers) (name other : String) (value : List UInt8) :
    (hs.set name value).value? other = if name = other then some value else hs.value? other := by
  by_cases h : name = other
  · subst h
    rw [if_pos rfl, value?_set_self]
  · rw [if_neg h, value?_set_of_ne hs value (Ne.symm h)]

theorem last?_cons (h : String × List UInt8) (hs : Headers) (name : String) :
    last? (h :: hs) name = (hs.last? name).or (if h.1 = name then some h.2 else none) := by
  rw [last?, List.reverse_cons, value?_append, value?_cons]
  rfl

/-- The last value of a name is among the headers. -/
theorem mem_of_last? {hs : Headers} {name : String} {value : List UInt8}
    (h : hs.last? name = some value) : (name, value) ∈ hs := by
  unfold last? value? at h
  obtain ⟨found, hfound, hvalue⟩ := Option.map_eq_some_iff.1 h
  have hname : found.1 = name := by simpa using List.find?_some hfound
  have hmem := List.mem_reverse.1 (List.mem_of_find?_eq_some hfound)
  rwa [← hname, ← hvalue]

/-- Taking out a name leaves other names alone. -/
theorem value?_filter_of_ne (hs : Headers) {name other : String} (h : name ≠ other) :
    value? (hs.filter (fun field => field.1 != name)) other = hs.value? other := by
  have hset := value?_set_of_ne hs [] (Ne.symm h)
  rwa [Headers.set, value?_append, value?_cons, if_neg h, value?_nil, Option.or_none] at hset

/-- Setting a header gives its name one value, which is the last too. -/
theorem last?_set (hs : Headers) (name other : String) (value : List UInt8) :
    (hs.set name value).last? other = if name = other then some value else hs.last? other := by
  have hreverse : (hs.set name value).reverse =
      (name, value) :: hs.reverse.filter (fun field => field.1 != name) := by
    simp [Headers.set, List.filter_reverse]
  rw [last?, hreverse, value?_cons]
  by_cases h : name = other
  · rw [if_pos h, if_pos h]
  · rw [if_neg h, if_neg h, value?_filter_of_ne _ h, last?]

/-- Of several settings of one name the last counts. -/
theorem value?_setAll (hs more : Headers) (name : String) :
    (hs.setAll more).value? name = (more.last? name).or (hs.value? name) := by
  induction more generalizing hs with
  | nil => rfl
  | cons h more ih =>
    have hstep : hs.setAll (h :: more) = (hs.set h.1 h.2).setAll more := rfl
    rw [hstep, ih, value?_set, last?_cons]
    cases last? more name with
    | some value => rfl
    | none => by_cases heq : h.1 = name <;> simp [heq]

end Headers

/-! ## Configured headers -/

/-- A configured header whose name and value can be sent. -/
def Sendable (field : String × String) : Prop :=
  Request.isHeader (field.1, Utf8.encode field.2) = true

/-- The configured value that counts for a name: the last one in the order of the configuration
among those that can be sent and whose names are this one but for their case. -/
def Configured (fields : Fields String) (name text : String) : Prop :=
  ∃ before field behind, fields = before ++ field :: behind ∧ Sendable field ∧
    Text.lowered field.1 = name ∧ field.2 = text ∧
    ∀ other ∈ behind, Sendable other → Text.lowered other.1 ≠ name

/-- A response that carries the version and every configured header. -/
structure Carries (web : WebConfig) (response : Response) : Prop where
  version : ∃ value, response.headers.value? Service.versionHeader = some value
  configured : ∀ name text, Configured web.headers name text →
    response.headers.value? name = some (Utf8.encode text)

namespace Service

/-- Takes one configured header into those of every response. -/
def addConfigured (hs : Headers) (field : String × String) : Headers :=
  if Request.isHeader (field.1, Utf8.encode field.2) then
    hs.set (Text.lowered field.1) (Utf8.encode field.2)
  else hs

theorem headersOf_eq (fields : Fields String) :
    headersOf fields = fields.foldl addConfigured [(versionHeader, Utf8.encode version)] := rfl

/-- A configured header leaves other names alone. -/
theorem last?_addConfigured_of_ne {field : String × String} {name : String} (hs : Headers)
    (other : Sendable field → Text.lowered field.1 ≠ name) :
    (addConfigured hs field).last? name = hs.last? name := by
  unfold addConfigured
  split
  · rename_i hsendable
    rw [Headers.last?_set, if_neg (other hsendable)]
  · rfl

/-- What is configured behind it for other names does not change a value. -/
theorem last?_foldl_addConfigured {behind : Fields String} {name : String} (hs : Headers)
    (others : ∀ other ∈ behind, Sendable other → Text.lowered other.1 ≠ name) :
    (behind.foldl addConfigured hs).last? name = hs.last? name := by
  induction behind generalizing hs with
  | nil => rfl
  | cons field behind ih =>
    rw [List.foldl_cons, ih _ (fun other hmem => others other (List.mem_cons_of_mem _ hmem))]
    exact last?_addConfigured_of_ne hs (others field List.mem_cons_self)

/-- The headers of every response hold what is configured. -/
theorem last?_headersOf {fields : Fields String} {name text : String}
    (h : Configured fields name text) :
    (headersOf fields).last? name = some (Utf8.encode text) := by
  obtain ⟨before, field, behind, rfl, hsendable, rfl, rfl, others⟩ := h
  have hsendable' : Request.isHeader (field.1, Utf8.encode field.2) = true := hsendable
  rw [headersOf_eq, List.foldl_append, List.foldl_cons, last?_foldl_addConfigured _ others,
    addConfigured, if_pos hsendable', Headers.last?_set, if_pos rfl]

/-- A header that is there is there after any configured ones. -/
theorem last?_foldl_isSome {name : String} (fields : Fields String) (hs : Headers)
    (h : (hs.last? name).isSome = true) :
    ((fields.foldl addConfigured hs).last? name).isSome = true := by
  induction fields generalizing hs with
  | nil => exact h
  | cons field fields ih =>
    rw [List.foldl_cons]
    apply ih
    unfold addConfigured
    split
    · rw [Headers.last?_set]
      split
      · rfl
      · exact h
    · exact h

/-- The headers of every response hold a version. -/
theorem last?_headersOf_version (fields : Fields String) :
    ∃ value, (headersOf fields).last? versionHeader = some value := by
  have hstart : (Headers.last? [(versionHeader, Utf8.encode version)] versionHeader).isSome =
      true := by
    simp [Headers.last?_cons]
  rw [headersOf_eq]
  exact Option.isSome_iff_exists.1 (last?_foldl_isSome fields _ hstart)

section Answers

variable (gateway : Gateway) (bodyLimit : Nat) (web : WebConfig) (around : Surroundings)
  (r : Request) (state : GatewayState)

/-- What stands on a response behind the version and the configured headers carries all of them. -/
theorem carries_withExtraHeaders (response : Response) :
    Carries web ((ofConfig gateway bodyLimit web).withExtraHeaders response) := by
  have hvalue : ∀ name, ((ofConfig gateway bodyLimit web).withExtraHeaders response).headers.value?
      name = ((headersOf web.headers).last? name).or (response.headers.value? name) :=
    fun name => Headers.value?_setAll response.headers (headersOf web.headers) name
  constructor
  · obtain ⟨value, hversion⟩ := last?_headersOf_version web.headers
    exact ⟨value, by rw [hvalue, hversion, Option.some_or]⟩
  · intro name text configured
    rw [hvalue, last?_headersOf configured, Option.some_or]

/-- What the relay answers carries the version and every configured header, whatever the request
is: for health, for a call, for options, or with an error. -/
theorem routed_carries :
    Carries web ((ofConfig gateway bodyLimit web).routed around r state).1 :=
  carries_withExtraHeaders gateway bodyLimit web _

/-! ## What other origins are answered -/

/-- The headers that are set for other origins on what the relay answers. -/
def sharingHeaders : Headers :=
  ("access-control-allow-credentials", Utf8.encode "true") ::
    mirrored r "access-control-allow-origin" "origin"

/-- The headers of a response to another origin are its own, a varying one, and those that share
it. -/
theorem shared_headers (response : Response) :
    (shared r response).headers = (response.headers.add "vary" varying).setAll (sharingHeaders r) :=
  rfl

/-- No two of these headers have one name. -/
theorem last?_sharingHeaders {h : String × List UInt8} (hmem : h ∈ sharingHeaders r) :
    (sharingHeaders r).last? h.1 = some h.2 := by
  unfold sharingHeaders mirrored at hmem ⊢
  cases horigin : r.headers.value? "origin" with
  | none =>
    obtain rfl : h = ("access-control-allow-credentials", Utf8.encode "true") := by
      simpa [horigin] using hmem
    simp [Headers.last?_cons]
  | some value =>
    have hcases : h = ("access-control-allow-credentials", Utf8.encode "true") ∨
        h = ("access-control-allow-origin", value) := by
      simpa [horigin] using hmem
    rcases hcases with rfl | rfl
    · simp [Headers.last?_cons]
    · simp [Headers.last?_cons]

/-- A name has the value that sharing gives it, or else the one of the response. -/
theorem value?_shared (response : Response) (name : String) :
    (shared r response).headers.value? name =
      ((sharingHeaders r).last? name).or
        ((response.headers.value? name).or (Headers.value? [("vary", varying)] name)) := by
  rw [shared_headers, Headers.value?_setAll, Headers.add, Headers.value?_append]

/-- A response for another origin carries the same headers, unless one that is set for other origins
has another value than is configured. -/
theorem shared_carries_iff {response : Response} (carries : Carries web response) :
    Carries web (shared r response) ↔
      ∀ h ∈ sharingHeaders r, ∀ text, Configured web.headers h.1 text → Utf8.encode text = h.2 := by
  constructor
  · intro kept h hmem text configured
    have hvalue := kept.configured h.1 text configured
    rw [value?_shared, last?_sharingHeaders r hmem, Option.some_or] at hvalue
    exact (Option.some.inj hvalue).symm
  · intro same
    constructor
    · obtain ⟨value, hversion⟩ := carries.version
      rw [value?_shared, hversion]
      cases (sharingHeaders r).last? versionHeader with
      | none => exact ⟨value, rfl⟩
      | some other => exact ⟨other, rfl⟩
    · intro name text configured
      rw [value?_shared, carries.configured name text configured]
      cases hset : (sharingHeaders r).last? name with
      | none => rfl
      | some value =>
        have hsame := same (name, value) (Headers.mem_of_last? hset) text configured
        rw [hsame, Option.some_or]

/-- Mirroring what a request asks for leaves other names alone. -/
theorem value?_mirrored_of_ne {name other asked : String} (h : name ≠ other) :
    (mirrored r name asked).value? other = none := by
  unfold mirrored
  cases r.headers.value? asked with
  | none => rfl
  | some value => simp [Headers.value?, h]

/-- What is answered to a request for options of another origin has no version. -/
theorem preflight_version : (preflight r).headers.value? versionHeader = none := by
  have hallow : Headers.value? (if r.uri.path == healthPath then healthMethods else [])
      versionHeader = none := by
    split <;> decide
  have hopening : Headers.value? [("access-control-allow-credentials", Utf8.encode "true"),
      ("vary", varying)] versionHeader = none := by
    decide
  simp only [preflight, Headers.value?_append, hopening, hallow,
    value?_mirrored_of_ne r (show "access-control-allow-origin" ≠ versionHeader by decide),
    value?_mirrored_of_ne r (show "access-control-allow-methods" ≠ versionHeader by decide),
    value?_mirrored_of_ne r (show "access-control-allow-headers" ≠ versionHeader by decide),
    Option.or_none]

/-- The response to a request carries the version and every configured header exactly if other
origins are not let in, or the request is not for options and no header that is set for other
origins has another value than is configured. -/
theorem answer_carries_iff :
    Carries web ((ofConfig gateway bodyLimit web).answer around r state).1 ↔
      web.cors = false ∨ (r.method ≠ "OPTIONS" ∧
        ∀ h ∈ sharingHeaders r, ∀ text, Configured web.headers h.1 text →
          Utf8.encode text = h.2) := by
  have hcors : (ofConfig gateway bodyLimit web).cors = web.cors := rfl
  have routed := routed_carries gateway bodyLimit web around r state
  unfold answer
  rw [hcors]
  cases web.cors with
  | false => simpa using routed
  | true =>
    by_cases hmethod : r.method = "OPTIONS"
    · have hnone := preflight_version r
      simp only [if_true, hmethod, beq_self_eq_true, Bool.true_eq_false, ne_eq, not_true_eq_false,
        false_and, or_self, iff_false]
      rintro ⟨⟨value, hversion⟩, -⟩
      simp [hnone] at hversion
    · simpa [hmethod] using shared_carries_iff web r routed

end Answers

/-- One SQLite database, and nothing that requests may address. -/
def bareGateway : Gateway where
  databases := [("db", ⟨"db", .sqlite, "sqlite://db"⟩)]
  tables := []
  scripts := []
  tokens := []
  managed := none
  caching := false
  pageSize := 0
  recompile := false

/-- Other origins are let in, and one header is configured. -/
def sharingWeb : WebConfig := ⟨none, true, [("x-a", "b")]⟩

/-- A request for options that names no origin. -/
def optionsRequest : Request := ⟨"OPTIONS", ⟨none, "/db/t", none⟩, [], [], none⟩

/-- Not every response carries the version and the configured headers. -/
theorem options_answer_without_version :
    ¬ ∀ (gateway : Gateway) (bodyLimit : Nat) (web : WebConfig) (around : Surroundings)
      (r : Request) (state : GatewayState),
      Carries web ((ofConfig gateway bodyLimit web).answer around r state).1 := by
  intro h
  obtain ⟨value, hversion⟩ :=
    (h bareGateway 1024 sharingWeb ⟨[], []⟩ optionsRequest .start).version
  have hanswer : ((ofConfig bareGateway 1024 sharingWeb).answer ⟨[], []⟩ optionsRequest
      .start).1 = preflight optionsRequest := rfl
  rw [hanswer, preflight_version] at hversion
  simp at hversion

end Service
end SqlRelay
