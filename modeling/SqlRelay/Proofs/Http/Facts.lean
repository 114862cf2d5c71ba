import Mathlib.Data.List.Induction
import SqlRelay.Http.Service
/-!
# What a script sees of a request

The access decision reads the first header of a name, and has nothing to read if that header is no
text.  A script finds the last header of the name that is a text.  The two agree as long as no name
is repeated, and in general exactly if the last text is also the text of the first header.

Main results:

- Definitions `Headers.FirstSays` and `Headers.LastSays` are the two ways to read headers, with
  `Request.header?_eq_some_iff` and `Request.textHeaders_get?_eq_some_iff` beside them.
- Theorem `Request.metadata_shows_access_iff` says when a script sees what the access decision was
  made on.
- Theorem `Request.metadata_shows_access_of_nodup`: it does if no name is repeated.
-/

namespace SqlRelay

namespace Headers

/-- The first header of a name has a text. -/
def FirstSays (hs : Headers) (name text : String) : Prop :=
  ∃ before value behind, hs = before ++ (name, value) :: behind ∧
    (∀ h ∈ before, h.1 ≠ name) ∧ Request.valueText? value = some text

/-- The last header of a name that is a text has this one. -/
def LastSays (hs : Headers) (name text : String) : Prop :=
  ∃ before value behind, hs = before ++ (name, value) :: behind ∧
    Request.valueText? value = some text ∧
    ∀ h ∈ behind, h.1 = name → Request.valueText? h.2 = none

/-- The last text of a name, if it has one, is the text of its first header. -/
def ReadsAlike (hs : Headers) (name : String) : Prop :=
  ∀ text, hs.LastSays name text → hs.FirstSays name text

variable {hs : Headers} {name text : String}

theorem not_lastSays_nil : ¬ LastSays [] name text := by
  rintro ⟨before, value, behind, hsplit, -⟩
  simp at hsplit

/-- One more header says the last text itself, or leaves it as it was. -/
theorem lastSays_append_singleton (h : String × List UInt8) :
    LastSays (hs ++ [h]) name text ↔
      (h.1 = name ∧ Request.valueText? h.2 = some text) ∨
        ((h.1 = name → Request.valueText? h.2 = none) ∧ LastSays hs name text) := by
  constructor
  · rintro ⟨before, value, behind, hsplit, readable, hbehind⟩
    rcases behind.eq_nil_or_concat with rfl | ⟨between, last, rfl⟩
    · obtain ⟨-, hself⟩ := List.append_inj' hsplit rfl
      obtain rfl := List.singleton_inj.1 hself
      exact .inl ⟨rfl, readable⟩
    · rw [List.concat_eq_append, ← List.cons_append, ← List.append_assoc] at hsplit
      obtain ⟨rfl, hself⟩ := List.append_inj' hsplit rfl
      obtain rfl := List.singleton_inj.1 hself
      refine .inr ⟨hbehind h (by simp), before, value, between, rfl, readable, ?_⟩
      intro other hother
      exact hbehind other (by simp [hother])
  · rintro (⟨rfl, readable⟩ | ⟨silent, before, value, behind, rfl, readable, hbehind⟩)
    · exact ⟨hs, h.2, [], rfl, readable, by simp⟩
    · refine ⟨before, value, behind ++ [h], by simp, readable, ?_⟩
      intro other hother
      rcases List.mem_append.1 hother with hother | hself
      · exact hbehind other hother
      · exact List.mem_singleton.1 hself ▸ silent

/-- A name with some text has a last one. -/
theorem exists_lastSays {value : List UInt8} (hmem : (name, value) ∈ hs)
    (readable : Request.valueText? value = some text) : ∃ last, LastSays hs name last := by
  induction hs using List.reverseRecOn with
  | nil => simp at hmem
  | append_singleton hs h ih =>
    simp only [lastSays_append_singleton]
    by_cases silent : h.1 = name → Request.valueText? h.2 = none
    · have hbefore : (name, value) ∈ hs := by
        rcases List.mem_append.1 hmem with hbefore | hself
        · exact hbefore
        · obtain rfl := List.mem_singleton.1 hself
          simp [readable] at silent
      exact (ih hbefore).imp fun last hlast => .inr ⟨silent, hlast⟩
    · obtain ⟨hname, hvalue⟩ := not_forall.1 silent
      obtain ⟨last, hlast⟩ := Option.ne_none_iff_exists'.1 hvalue
      exact ⟨last, .inl ⟨hname, hlast⟩⟩

/-- A name with a first text has a last one. -/
theorem FirstSays.exists_lastSays (first : FirstSays hs name text) :
    ∃ last, LastSays hs name last := by
  obtain ⟨before, value, behind, rfl, -, readable⟩ := first
  exact Headers.exists_lastSays (by simp) readable

/-- A name that occurs once reads alike. -/
theorem readsAlike_of_nodup (distinct : (hs.map (·.1)).Nodup) (name : String) :
    ReadsAlike hs name := by
  rintro text ⟨before, value, behind, rfl, readable, -⟩
  refine ⟨before, value, behind, rfl, ?_, readable⟩
  intro h hbefore hname
  rw [List.map_append, List.map_cons] at distinct
  have hdisjoint := (List.nodup_append.1 distinct).2.2
  exact hdisjoint h.1 (List.mem_map_of_mem hbefore) name (by simp) hname

end Headers

namespace Request

variable (r : Request) (name text : String)

/-- The text that the access decision reads is that of the first header. -/
theorem header?_eq_some_iff : r.header? name = some text ↔ r.headers.FirstSays name text := by
  unfold header? Headers.value?
  rw [Option.bind_eq_some_iff]
  constructor
  · rintro ⟨value, hvalue, readable⟩
    obtain ⟨h, hfound, rfl⟩ := Option.map_eq_some_iff.1 hvalue
    obtain ⟨hname, before, behind, hsplit, hbefore⟩ := List.find?_eq_some_iff_append.1 hfound
    obtain rfl : h.1 = name := by simpa using hname
    exact ⟨before, h.2, behind, hsplit, by simpa using hbefore, readable⟩
  · rintro ⟨before, value, behind, hsplit, hbefore, readable⟩
    refine ⟨value, Option.map_eq_some_iff.2 ⟨(name, value), ?_, rfl⟩, readable⟩
    exact List.find?_eq_some_iff_append.2
      ⟨by simp, before, behind, hsplit, by simpa using hbefore⟩

/-- One header more sets the text of its name. -/
theorem textHeaders_append_singleton (h : String × List UInt8) (before : Headers) :
    textHeaders { r with headers := before ++ [h] } =
      match valueText? h.2 with
      | some last => (textHeaders { r with headers := before }).put h.1 last
      | none => textHeaders { r with headers := before } := by
  simp only [textHeaders, Fields.ofList, Fields.putAll, List.filterMap_append, List.foldl_append]
  cases hlast : valueText? h.2 <;> simp [hlast]

/-- The text that a script finds is that of the last header that is a text. -/
theorem textHeaders_get?_eq_some_iff :
    r.textHeaders.get? name = some text ↔ r.headers.LastSays name text := by
  rcases r with ⟨method, uri, headers, body, peer⟩
  induction headers using List.reverseRecOn with
  | nil =>
    have hnone : textHeaders ⟨method, uri, [], body, peer⟩ = [] := rfl
    simp [hnone, Headers.not_lastSays_nil]
  | append_singleton before h ih =>
    rw [Headers.lastSays_append_singleton, ← ih]
    have hstep := textHeaders_append_singleton ⟨method, uri, before ++ [h], body, peer⟩ h before
    dsimp only at hstep ⊢
    rw [hstep]
    cases hlast : valueText? h.2 with
    | none => simp
    | some last =>
      by_cases hname : h.1 = name
      · subst hname
        simp
      · simp [hname, Fields.get?_put_of_ne _ _ (Ne.symm hname)]

/-- A script finds what the access decision reads exactly if the name reads alike. -/
theorem textHeaders_get?_eq_header?_iff :
    r.textHeaders.get? name = r.header? name ↔ r.headers.ReadsAlike name := by
  constructor
  · intro same text last
    rw [← r.header?_eq_some_iff, ← same]
    exact (r.textHeaders_get?_eq_some_iff name text).2 last
  · intro alike
    cases hfound : r.textHeaders.get? name with
    | some text =>
      have last := (r.textHeaders_get?_eq_some_iff name text).1 hfound
      exact ((r.header?_eq_some_iff name text).2 (alike text last)).symm
    | none =>
      -- a first text would leave a last one, which the script would have found
      symm
      apply Option.eq_none_iff_forall_ne_some.2
      intro text hfirst
      obtain ⟨last, hlast⟩ := ((r.header?_eq_some_iff name text).1 hfirst).exists_lastSays
      rw [(r.textHeaders_get?_eq_some_iff name last).2 hlast] at hfound
      simp at hfound

/-! ## Scripts and the access decision -/

/-- The names of the headers that the access decision reads. -/
def accessHeaders : List String := ["referer", "origin", "authorization"]

/-- A script sees the headers that the access decision was made on: it finds their texts, and
nothing where the decision had nothing to read. -/
structure ShowsAccess (r : Request) (access : AccessRequest) : Prop where
  referer : r.metadata.lookup "referer" = access.referer
  origin : r.metadata.lookup "origin" = access.origin
  authorization : r.metadata.lookup "authorization" = r.header? "authorization"
  token : access.token = ((r.metadata.lookup "authorization").map bearerToken).getD ""

/-- A script sees the headers that the access decision was made on exactly if the three names read
alike: for each of them, the last header that is a text has the text of the first one. -/
theorem metadata_shows_access_iff (path : ObjectPath) (operation : Operation) :
    r.ShowsAccess (r.access path operation) ↔
      ∀ name ∈ accessHeaders, r.headers.ReadsAlike name := by
  have hreferer : r.metadata.lookup "referer" = r.textHeaders.get? "referer" := rfl
  have horigin : r.metadata.lookup "origin" = r.textHeaders.get? "origin" := rfl
  have hauthorization :
    r.metadata.lookup "authorization" = r.textHeaders.get? "authorization" := rfl
  constructor
  · intro shows name hname
    rw [← textHeaders_get?_eq_header?_iff]
    simp only [accessHeaders, List.mem_cons, List.not_mem_nil, or_false] at hname
    rcases hname with rfl | rfl | rfl
    · exact hreferer.symm.trans shows.referer
    · exact horigin.symm.trans shows.origin
    · exact hauthorization.symm.trans shows.authorization
  · intro alike
    have same : ∀ name ∈ accessHeaders, r.textHeaders.get? name = r.header? name :=
      fun name hname => (r.textHeaders_get?_eq_header?_iff name).2 (alike name hname)
    have authorization := hauthorization.trans (same "authorization" (by simp [accessHeaders]))
    exact {
      referer := hreferer.trans (same "referer" (by simp [accessHeaders]))
      origin := horigin.trans (same "origin" (by simp [accessHeaders]))
      authorization := authorization
      token := by rw [authorization]; rfl }

/-- Where no name is repeated, a script sees the headers that the access decision was made on. -/
theorem metadata_shows_access_of_nodup (distinct : (r.headers.map (·.1)).Nodup)
    (path : ObjectPath) (operation : Operation) : r.ShowsAccess (r.access path operation) :=
  (r.metadata_shows_access_iff path operation).2
    fun name _ => Headers.readsAlike_of_nodup distinct name

/-- A request to execute a script, with a token and two origins. -/
def twoOrigins : Request where
  method := "PATCH"
  uri := ⟨none, "/db/who", none⟩
  headers := [("authorization", Utf8.encode "Bearer k"),
    ("origin", Utf8.encode "https://a.example"), ("origin", Utf8.encode "https://b.example")]
  body := []
  peer := none

/-- The access decision reads the first of two origins, and a script sees the second. -/
theorem metadata_shows_other_origin :
    ¬ ∀ (r : Request) (path : ObjectPath) (operation : Operation),
      r.ShowsAccess (r.access path operation) := by
  intro h
  have horigin := (h twoOrigins (.ofText "/db/who") .exec).origin
  have hscript : twoOrigins.metadata.lookup "origin" = some "https://b.example" := by
    decide +kernel
  have haccess : (twoOrigins.access (.ofText "/db/who") .exec).origin =
      some "https://a.example" := by
    decide +kernel
  rw [hscript, haccess] at horigin
  exact absurd horigin (by decide)

end Request
end SqlRelay
