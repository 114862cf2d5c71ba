import SqlRelay.Proofs.Access.Overlap
/-!
# Cached grants are fresh

A source may be slow, and a token may be cleared while its grants are on their way.  The ticket of
a check is the number of clears when the check entered, so grants are stored only if nothing was
cleared since then.

Main results:

- Definition `Overlap.Sound` is the invariant: what the cache and each check hold, said of the
  history.
- Theorem `Overlap.Step.sound`: every moment keeps the invariant.
- Theorem `Overlap.Run.grants_fresh`: cached grants, and the grants by which a check is decided,
  were looked up after the last clear of the token.
-/

namespace SqlRelay.Overlap

variable {σ : Type} {a : Authorizer σ}

/-- An event stands at a place of a history. -/
def At (h : List AccessEvent) (i : Nat) (e : AccessEvent) : Prop :=
  h[i]? = some e

section Places

variable {h : List AccessEvent} {i : Nat} {e x : AccessEvent}

/-- Places stay where they are when a history goes on. -/
theorem At.snoc (x : AccessEvent) (found : At h i e) : At (h ++ [x]) i e := by
  unfold At at found ⊢
  rw [List.getElem?_append_left (List.getElem?_eq_some_iff.1 found).1]
  exact found

/-- A new event stands behind all others. -/
theorem at_last (h : List AccessEvent) (x : AccessEvent) : At (h ++ [x]) h.length x := by
  simp [At]

/-- A place lies within the history. -/
theorem At.lt (found : At h i e) : i < h.length :=
  (List.getElem?_eq_some_iff.1 found).1

/-- An event of a longer history is an old one or the new one. -/
theorem at_snoc_iff : At (h ++ [x]) i e ↔ At h i e ∨ i = h.length ∧ e = x := by
  constructor
  · intro found
    by_cases hi : i < h.length
    · left
      unfold At at found ⊢
      rwa [List.getElem?_append_left hi] at found
    · right
      have hlast : i = h.length := by
        have := found.lt
        simp at this
        omega
      subst hlast
      have := at_last h x
      unfold At at found this
      rw [found] at this
      exact ⟨rfl, by simpa using this⟩
  · rintro (found | ⟨rfl, rfl⟩)
    · exact found.snoc x
    · exact at_last h _

/-- Of a new event of another kind, only the old places are left. -/
theorem at_snoc_of_ne (hne : e ≠ x) : At (h ++ [x]) i e ↔ At h i e := by
  simp [at_snoc_iff, hne]

end Places

/-- The source was asked about a token at place `i` and gave grants at place `j`. -/
def LookedUp (h : List AccessEvent) (token : String) (grants : List Grant) (i j : Nat) : Prop :=
  ∃ id, i < j ∧ At h i (.ask id token) ∧ At h j (.answer id token (.ok grants))

/-- No clear of a token stands behind place `i`. -/
def UnclearedSince (h : List AccessEvent) (token : String) (i : Nat) : Prop :=
  ∀ c, At h c (.clear token) → c < i

/-- What decides the check of a number after place `c`: it has no token, the source has given
grants on a question asked after `c`, or the check's own question, asked after `c`, has failed. -/
inductive DecidedSince (h : List AccessEvent) (id : Nat) (r : AccessRequest) (c : Nat) :
    Except RelayError Unit → Prop where
  | noToken (none : r.token = "") : DecidedSince h id r c (.error (.refused .noGrant))
  | grants {grants : List Grant} {i j : Nat} (since : c < i)
      (lookup : LookedUp h r.token grants i j) : DecidedSince h id r c (judgeFound grants r)
  | failure {e : RelayError} {i j : Nat} (since : c < i) (order : i < j)
      (asked : At h i (.ask id r.token)) (answered : At h j (.answer id r.token (.error e))) :
      DecidedSince h id r c (.error e)

section Growth

variable {h : List AccessEvent} {token : String} {grants : List Grant} {i j : Nat}

/-- A lookup stays in the history when more happens. -/
theorem LookedUp.snoc (x : AccessEvent) (found : LookedUp h token grants i j) :
    LookedUp (h ++ [x]) token grants i j := by
  obtain ⟨id, hij, hask, hanswer⟩ := found
  exact ⟨id, hij, hask.snoc x, hanswer.snoc x⟩

/-- A token stays uncleared when anything but its clear happens. -/
theorem UnclearedSince.snoc {x : AccessEvent} (since : UnclearedSince h token i)
    (hne : x ≠ .clear token) : UnclearedSince (h ++ [x]) token i := by
  intro c found
  exact since c ((at_snoc_of_ne hne.symm).1 found)

/-- A check stays decided when more happens. -/
theorem DecidedSince.snoc {id c : Nat} {r : AccessRequest} {verdict : Except RelayError Unit}
    (x : AccessEvent) (found : DecidedSince h id r c verdict) :
    DecidedSince (h ++ [x]) id r c verdict := by
  cases found with
  | noToken none => exact .noToken none
  | grants since lookup => exact .grants since (lookup.snoc x)
  | failure since order asked answered =>
    exact .failure since order (asked.snoc x) (answered.snoc x)

end Growth

/-! ## The invariant -/

/-- What a stage of a check says of the history.  The check entered at place `k`, and there were
`clears` clears by now; a good ticket means that nothing was cleared since the source was asked. -/
def StageSound (h : List AccessEvent) (clears id : Nat) (r : AccessRequest) (k : Nat) :
    CheckStage → Prop
  | .missed ticket => ticket ≤ clears
  | .asking ticket =>
    ticket ≤ clears ∧ ∃ i, k < i ∧ At h i (.ask id r.token) ∧
      (ticket = clears → ∀ token, UnclearedSince h token i)
  | .loaded ticket grants =>
    ticket ≤ clears ∧ ∃ i j, k < i ∧ i < j ∧ At h i (.ask id r.token) ∧
      At h j (.answer id r.token (.ok grants)) ∧
      (ticket = clears → ∀ token, UnclearedSince h token i)
  | .decided verdict =>
    ∀ c < k, At h c (.clear r.token) → DecidedSince h id r c verdict

/-- What a number of a check says of the history: the check has not entered, or it entered once
and its stage is sound. -/
def CheckSound (h : List AccessEvent) (clears id : Nat) : Option RunningCheck → Prop
  | none => ∀ k r, ¬ At h k (.enter id r)
  | some check =>
    ∃ k, (∀ k' r', At h k' (.enter id r') ↔ k' = k ∧ r' = check.request) ∧
      StageSound h clears id check.request k check.stage

/-- The invariant of histories: cached grants are fresh, and every check is sound. -/
structure Sound (h : List AccessEvent) (s : Overlap) : Prop where
  entries : ∀ token grants, s.cache.entries.get? token = some grants →
    ∃ i j, LookedUp h token grants i j ∧ UnclearedSince h token i
  checks : ∀ id, CheckSound h s.cache.clears id (s.checks id)

/-- At the start everything is sound. -/
theorem initial_sound : Sound [] initial where
  entries := by simp [initial, GrantCache.empty]
  checks := by simp [initial, CheckSound, At]

/-- The number of clears after one more event. -/
def clearsAfter (clears : Nat) : AccessEvent → Nat
  | .clear _ => clears + 1
  | _ => clears

/-- Storing is no clear. -/
@[simp]
theorem keep_clears (a : Authorizer σ) (ticket : Nat) (token : String) (grants : List Grant)
    (c : GrantCache) : (a.keep ticket token grants c).clears = c.clears := by
  unfold Authorizer.keep GrantCache.store
  split
  · split <;> rfl
  · rfl

/-- A step counts the clears that happen. -/
theorem Step.clears {s t : Overlap} {e : AccessEvent} (now : Step a s e t) :
    t.cache.clears = clearsAfter s.cache.clears e := by
  cases now <;> simp [clearsAfter, GrantCache.clear]

/-- A stage stays sound when something else happens: a clear makes every good ticket stale. -/
theorem StageSound.snoc {h : List AccessEvent} {clears id k : Nat} {r : AccessRequest}
    {stage : CheckStage} (sound : StageSound h clears id r k stage) (hk : k < h.length)
    (x : AccessEvent) : StageSound (h ++ [x]) (clearsAfter clears x) id r k stage := by
  have hle : clears ≤ clearsAfter clears x := by
    cases x <;> simp [clearsAfter]
  have hgood : ∀ {ticket i : Nat}, ticket ≤ clears →
      (ticket = clears → ∀ token, UnclearedSince h token i) →
      ticket = clearsAfter clears x → ∀ token, UnclearedSince (h ++ [x]) token i := by
    intro ticket i hticket since heq token
    have hsame : clearsAfter clears x = clears := by omega
    have hne : x ≠ .clear token := by
      rintro rfl
      simp [clearsAfter] at hsame
    exact (since (by omega) token).snoc hne
  cases stage with
  | missed ticket => exact Nat.le_trans sound hle
  | asking ticket =>
    obtain ⟨hticket, i, hki, hask, since⟩ := sound
    exact ⟨Nat.le_trans hticket hle, i, hki, hask.snoc x, hgood hticket since⟩
  | loaded ticket grants =>
    obtain ⟨hticket, i, j, hki, hij, hask, hanswer, since⟩ := sound
    exact ⟨Nat.le_trans hticket hle, i, j, hki, hij, hask.snoc x, hanswer.snoc x,
      hgood hticket since⟩
  | decided verdict =>
    intro c hc found
    rcases at_snoc_iff.1 found with hold | ⟨rfl, -⟩
    · exact (sound c hc hold).snoc x
    · omega

/-- The events of other checks, and clears, leave a check sound. -/
theorem CheckSound.snoc {h : List AccessEvent} {clears id : Nat} {check : Option RunningCheck}
    (sound : CheckSound h clears id check) {x : AccessEvent} (hx : checkOf x ≠ some id) :
    CheckSound (h ++ [x]) (clearsAfter clears x) id check := by
  have hne : ∀ r, AccessEvent.enter id r ≠ x := by
    rintro r rfl
    exact hx rfl
  cases check with
  | none =>
    intro k r found
    exact sound k r ((at_snoc_of_ne (hne r)).1 found)
  | some check =>
    obtain ⟨k, honce, hstage⟩ := sound
    refine ⟨k, ?_, hstage.snoc ((honce k check.request).2 ⟨rfl, rfl⟩).lt x⟩
    intro k' r'
    rw [at_snoc_of_ne (hne r'), honce]

/-! ## Events of one check -/

section Events

variable {h : List AccessEvent} {s : Overlap} {id ticket : Nat} {r : AccessRequest}

/-- The first section of a check, when there is a source: what it finds in the cache is fresh. -/
theorem Sound.enter (sound : Sound h s) (managed : a.source.isSome = true)
    (free : s.checks id = none) :
    CheckSound (h ++ [.enter id r]) s.cache.clears id (some ⟨r, a.stageOfEntry s.cache r⟩) := by
  have habsent := sound.checks id
  rw [free] at habsent
  refine ⟨h.length, ?_, ?_⟩
  · intro k' r'
    rw [at_snoc_iff]
    have := habsent k' r'
    simp [this]
  · change StageSound _ _ _ _ _ (a.stageOfEntry s.cache r)
    unfold Authorizer.stageOfEntry
    split <;> rename_i hempty
    · intro c _ _
      exact .noToken (by simpa using hempty)
    · cases hfound : s.cache.entries.get? r.token with
      | none => simp [GrantCache.lookup, hfound, StageSound]
      | some grants =>
        simp only [GrantCache.lookup, hfound]
        obtain ⟨i, j, lookup, since⟩ := sound.entries r.token grants hfound
        intro c _ found
        have hold := (at_snoc_of_ne (by simp)).1 found
        exact .grants (since c hold) (lookup.snoc _)

/-- A check asks its source behind all clears so far. -/
theorem Sound.ask (sound : Sound h s) (found : s.checks id = some ⟨r, .missed ticket⟩) :
    CheckSound (h ++ [.ask id r.token]) s.cache.clears id (some ⟨r, .asking ticket⟩) := by
  have hcheck := sound.checks id
  rw [found] at hcheck
  obtain ⟨k, honce, hticket⟩ := hcheck
  have hk := ((honce k r).2 ⟨rfl, rfl⟩).lt
  refine ⟨k, fun k' r' => ?_, hticket, h.length, hk, at_last _ _, fun _ token c hclear => ?_⟩
  · rw [at_snoc_of_ne (by simp), honce]
  · exact ((at_snoc_of_ne (by simp)).1 hclear).lt

/-- The answer of a source: grants wait for the second section, an error decides. -/
theorem Sound.answer (sound : Sound h s) (found : s.checks id = some ⟨r, .asking ticket⟩)
    (outcome : Except RelayError (List Grant)) :
    CheckSound (h ++ [.answer id r.token outcome]) s.cache.clears id
      (some ⟨r, .ofAnswer ticket outcome⟩) := by
  have hcheck := sound.checks id
  rw [found] at hcheck
  obtain ⟨k, honce, hticket, i, hki, hask, since⟩ := hcheck
  refine ⟨k, fun k' r' => by rw [at_snoc_of_ne (by simp), honce], ?_⟩
  cases outcome with
  | error e =>
    intro c hc _
    exact .failure (Nat.lt_trans hc hki) hask.lt (hask.snoc _) (at_last _ _)
  | ok grants =>
    refine ⟨hticket, i, h.length, hki, hask.lt, hask.snoc _, at_last _ _, ?_⟩
    intro hgood token
    exact (since hgood token).snoc (by simp)

/-- The second section of a check decides by the grants of its own lookup. -/
theorem Sound.settle {grants : List Grant} (sound : Sound h s)
    (found : s.checks id = some ⟨r, .loaded ticket grants⟩) :
    CheckSound (h ++ [.settle id r.token]) s.cache.clears id
      (some ⟨r, .decided (judgeFound grants r)⟩) := by
  have hcheck := sound.checks id
  rw [found] at hcheck
  obtain ⟨k, honce, -, i, j, hki, hij, hask, hanswer, -⟩ := hcheck
  refine ⟨k, fun k' r' => by rw [at_snoc_of_ne (by simp), honce], ?_⟩
  intro c hc _
  exact .grants (Nat.lt_trans hc hki) ⟨id, hij, hask.snoc _, hanswer.snoc _⟩

end Events

/-- Storing changes the grants of one token only. -/
theorem keep_get? (a : Authorizer σ) (ticket : Nat) (token : String) (grants : List Grant)
    (c : GrantCache) (other : String) :
    (a.keep ticket token grants c).entries.get? other =
      if a.caching = true ∧ c.clears = ticket ∧ other = token then some grants
      else c.entries.get? other := by
  unfold Authorizer.keep GrantCache.store
  by_cases hcaching : a.caching = true
  · by_cases hticket : c.clears = ticket
    · by_cases hother : other = token
      · simp [hcaching, hticket, hother]
      · simp [hcaching, hticket, hother, Fields.get?_put_of_ne]
    · simp [hcaching, hticket]
  · simp [hcaching]

/-- Clearing removes the grants of one token only. -/
theorem clear_get? (c : GrantCache) (token other : String) :
    (c.clear token).entries.get? other =
      if other = token then none else c.entries.get? other := by
  by_cases h : other = token
  · simp [GrantCache.clear, h]
  · simp [GrantCache.clear, h, Fields.get?_erase_of_ne]

/-- The entry of a token changes only by a clear of the token, and by the second section of a
check to which the source gave these grants. -/
theorem Sound.entry_change {h : List AccessEvent} {s t : Overlap} {e : AccessEvent}
    (sound : Sound h s) (now : Step a s e t) (token : String)
    (change : t.cache.entries.get? token ≠ s.cache.entries.get? token) :
    (e = .clear token ∧ t.cache.entries.get? token = none) ∨
      ∃ id grants i j, e = .settle id token ∧ t.cache.entries.get? token = some grants ∧
        i < j ∧ At h i (.ask id token) ∧ At h j (.answer id token (.ok grants)) ∧
        ∀ other, UnclearedSince h other i := by
  cases now with
  | enter | ask | answer => exact absurd rfl change
  | clear cleared =>
    simp only [withCache_cache, clear_get?] at change ⊢
    by_cases heq : token = cleared
    · subst heq
      exact .inl ⟨rfl, by simp⟩
    · simp [heq] at change
  | @settle id ticket r grants found =>
    simp only [withCache_cache, keep_get?] at change ⊢
    split at change
    · rename_i hgood
      obtain rfl := hgood.2.2
      have hcheck := sound.checks id
      rw [found] at hcheck
      obtain ⟨k, -, -, i, j, -, hij, hask, hanswer, since⟩ := hcheck
      exact .inr ⟨id, grants, i, j, rfl, if_pos hgood, hij, hask, hanswer, since hgood.2.1.symm⟩
    · exact absurd rfl change

/-! ## Runs -/

/-- Every moment keeps the invariant. -/
theorem Step.sound {h : List AccessEvent} {s t : Overlap} {e : AccessEvent}
    (now : Step a s e t) (managed : a.source.isSome = true) (sound : Sound h s) :
    Sound (h ++ [e]) t where
  entries := by
    intro token grants hentry
    by_cases hsame : t.cache.entries.get? token = s.cache.entries.get? token
    · obtain ⟨i, j, lookup, since⟩ := sound.entries token grants (hsame ▸ hentry)
      refine ⟨i, j, lookup.snoc e, since.snoc ?_⟩
      rintro rfl
      cases now
      simp [clear_get?] at hentry
    · rcases sound.entry_change now token hsame with
        ⟨-, hnone⟩ | ⟨id, found, i, j, rfl, hstored, hij, hask, hanswer, since⟩
      · simp [hnone] at hentry
      · obtain rfl : found = grants := by simpa [hstored] using hentry
        exact ⟨i, j, LookedUp.snoc _ ⟨id, hij, hask, hanswer⟩, (since token).snoc (by simp)⟩
  checks := by
    intro id
    rw [now.clears]
    by_cases hown : checkOf e = some id
    · cases now with
      | clear token => simp [checkOf] at hown
      | enter r free =>
        obtain rfl : _ = id := by simpa [checkOf] using hown
        simpa [clearsAfter] using sound.enter managed free
      | ask found =>
        obtain rfl : _ = id := by simpa [checkOf] using hown
        simpa [clearsAfter] using sound.ask found
      | answer outcome found =>
        obtain rfl : _ = id := by simpa [checkOf] using hown
        simpa [clearsAfter] using sound.answer found outcome
      | settle found =>
        obtain rfl : _ = id := by simpa [checkOf] using hown
        simpa [clearsAfter] using sound.settle found
    · rw [now.checks_of_ne hown]
      exact (sound.checks id).snoc hown

/-- Every history keeps the invariant. -/
theorem Run.sound {h : List AccessEvent} {s : Overlap} (run : Run a initial h s)
    (managed : a.source.isSome = true) : Sound h s := by
  induction run with
  | nil => exact initial_sound
  | snoc _ now ih => exact now.sound managed ih

/-- With a source, in every interleaving: the grants cached for a token were looked up after the
last clear of the token; a check that enters after a clear of its token is decided by a lookup
after that clear; a lookup that fails changes no entry, then or later; and the entry of a token
changes only by storing grants that were looked up for it and by clearing it, so that a clear
leaves all other entries as they were. -/
theorem Run.grants_fresh {h : List AccessEvent} {s : Overlap} (run : Run a initial h s)
    (managed : a.source.isSome = true) :
    (∀ token grants, s.cache.entries.get? token = some grants →
      ∃ i j, LookedUp h token grants i j ∧ UnclearedSince h token i) ∧
    (∀ id r verdict k c, At h k (.enter id r) → s.checks id = some ⟨r, .decided verdict⟩ →
      c < k → At h c (.clear r.token) → DecidedSince h id r c verdict) ∧
    (∀ id token e t, Step a s (.answer id token (.error e)) t → t.cache = s.cache ∧
      ∀ h' u, Run a t h' u → ∀ x ∈ h', checkOf x ≠ some id) ∧
    (∀ e t token, Step a s e t →
      t.cache.entries.get? token ≠ s.cache.entries.get? token →
      e = .clear token ∨ ∃ id grants i j, e = .settle id token ∧ i < j ∧
        At h i (.ask id token) ∧ At h j (.answer id token (.ok grants))) ∧
    (∀ token t, Step a s (.clear token) t → t.cache.entries.get? token = none ∧
      ∀ other, other ≠ token → t.cache.entries.get? other = s.cache.entries.get? other) := by
  have sound := run.sound managed
  refine ⟨sound.entries, ?_, ?_, ?_, ?_⟩
  · intro id r verdict k c hentered hdecided hc hclear
    have hcheck := sound.checks id
    rw [hdecided] at hcheck
    obtain ⟨k', honce, hstage⟩ := hcheck
    obtain ⟨rfl, -⟩ := (honce k r).1 hentered
    exact hstage c hc hclear
  · intro id token e t now
    cases now with
    | @answer _ ticket r _ found =>
      have decided := s.advance_checks_self id r (.ofAnswer ticket (.error e))
      exact ⟨rfl, fun h' u later => (later.decided_stays decided).2⟩
  · intro e t token now change
    rcases sound.entry_change now token change with
      ⟨heq, -⟩ | ⟨id, grants, i, j, heq, -, hij, hask, hanswer, -⟩
    · exact .inl heq
    · exact .inr ⟨id, grants, i, j, heq, hij, hask, hanswer⟩
  · intro token t now
    cases now
    refine ⟨by simp [clear_get?], fun other hne => ?_⟩
    simp [clear_get?, hne]

/-- A source that may be slow, in front of a cache. -/
def slowSource : Authorizer Unit := ⟨[], some (fun _ => pure []), true⟩

/-- A token is cleared while it is looked up: its grants are not kept, and the next check asks
again and keeps what it is given. -/
theorem grants_fresh_when_overtaken :
    ∃ h s, Run slowSource initial h s ∧ At h 2 (.clear "t") ∧
      s.cache.entries.get? "t" = some [⟨"*", ["*"], [], true, false, false⟩] ∧
      ∃ i j, 2 < i ∧ LookedUp h "t" [⟨"*", ["*"], [], true, false, false⟩] i j := by
  let r : AccessRequest := ⟨"db", "items", .read, "t", none, none⟩
  let g : Grant := ⟨"*", ["*"], [], true, false, false⟩
  have missed := (@Step.enter _ slowSource initial 0 r rfl).run
  have asked := missed.snoc (@Step.ask _ _ _ 0 0 r rfl)
  have cleared := asked.snoc (.clear "t")
  have answered := cleared.snoc (@Step.answer _ _ _ 0 0 r (.ok []) rfl)
  have settled := answered.snoc (@Step.settle _ _ _ 0 0 r [] rfl)
  have again := settled.snoc (@Step.enter _ _ _ 1 r rfl)
  have asked' := again.snoc (@Step.ask _ _ _ 1 1 r rfl)
  have answered' := asked'.snoc (@Step.answer _ _ _ 1 1 r (.ok [g]) rfl)
  have kept := answered'.snoc (@Step.settle _ _ _ 1 1 r [g] rfl)
  have fresh := (kept.grants_fresh rfl).1 "t" [g] rfl
  obtain ⟨i, j, lookup, since⟩ := fresh
  exact ⟨_, _, kept, rfl, rfl, i, j, since 2 rfl, lookup⟩

end SqlRelay.Overlap
