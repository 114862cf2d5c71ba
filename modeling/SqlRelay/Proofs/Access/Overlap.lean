import Mathlib.Logic.Function.Basic
import SqlRelay.Access.Listed
/-!
# Checks that overlap

Several checks may be under way at once.  A check uses the cache in two sections, each of which
happens at one moment; between them its source is asked, and while the source is asked the cache
is free for other checks and for clears.  A history lists all that happens, in its order.

Main results:

- Definition `Overlap.Step` gives the moments of a check and of a clear one by one, and
  `Overlap.Run` all their interleavings.
- Theorem `Overlap.Run.decided_stays`: a check that is decided takes no further part.
- Theorem `Authorizer.check_is_run`: a check as it is carried out is such a run, whatever happens
  to the cache while its source is asked.
-/

namespace SqlRelay

/-- How far a check has come: the cache had nothing for it, its source is asked, the source has
given grants, or it is decided. -/
inductive CheckStage where
  | missed (ticket : Nat)
  | asking (ticket : Nat)
  | loaded (ticket : Nat) (grants : List Grant)
  | decided (verdict : Except RelayError Unit)

/-- A check under way. -/
structure RunningCheck where
  request : AccessRequest
  stage : CheckStage

/-- What happens at one moment.  A check enters with its first section, its source is asked and
answers, and it settles with its second section; every check has a number of its own. -/
inductive AccessEvent where
  | enter (id : Nat) (request : AccessRequest)
  | ask (id : Nat) (token : String)
  | answer (id : Nat) (token : String) (outcome : Except RelayError (List Grant))
  | settle (id : Nat) (token : String)
  | clear (token : String)

/-- The cache, and the checks by their numbers. -/
structure Overlap where
  cache : GrantCache
  checks : Nat → Option RunningCheck

/-- How far a check is after its first section. -/
def Authorizer.stageOfEntry {σ : Type} (a : Authorizer σ) (c : GrantCache) (r : AccessRequest) :
    CheckStage :=
  if r.token.isEmpty then .decided (.error (.refused .noGrant))
  else
    match c.lookup r.token with
    | .found grants => .decided (judgeFound grants r)
    | .absent ticket =>
      if a.source.isSome then .missed ticket
      else .decided (judgeFound ((a.fixed.get? r.token).getD []) r)

/-- How far a check is after the answer of its source; an error decides it. -/
def CheckStage.ofAnswer (ticket : Nat) : Except RelayError (List Grant) → CheckStage
  | .ok grants => .loaded ticket grants
  | .error e => .decided (.error e)

namespace Overlap

variable {σ : Type} {a : Authorizer σ}

/-- Nothing is cached and no check has entered. -/
def initial : Overlap := ⟨.empty, fun _ => none⟩

/-- Notes how far a check has come. -/
def advance (s : Overlap) (id : Nat) (r : AccessRequest) (stage : CheckStage) : Overlap :=
  { s with checks := Function.update s.checks id (some ⟨r, stage⟩) }

/-- Changes the cache. -/
def withCache (s : Overlap) (c : GrantCache) : Overlap := { s with cache := c }

@[simp]
theorem advance_cache (s : Overlap) (id : Nat) (r : AccessRequest) (stage : CheckStage) :
    (s.advance id r stage).cache = s.cache := rfl

@[simp]
theorem advance_checks_self (s : Overlap) (id : Nat) (r : AccessRequest) (stage : CheckStage) :
    (s.advance id r stage).checks id = some ⟨r, stage⟩ := by
  simp [advance]

/-- Advancing one check leaves the others alone. -/
theorem advance_checks_of_ne (s : Overlap) {id other : Nat} (r : AccessRequest)
    (stage : CheckStage) (h : other ≠ id) :
    (s.advance id r stage).checks other = s.checks other := by
  simp [advance, h]

@[simp]
theorem withCache_cache (s : Overlap) (c : GrantCache) : (s.withCache c).cache = c := rfl

@[simp]
theorem withCache_checks (s : Overlap) (c : GrantCache) : (s.withCache c).checks = s.checks := rfl

/-- One moment.  The two sections of a check and a clear use the cache; asking and answering do
not, so anything may happen between them. -/
inductive Step (a : Authorizer σ) : Overlap → AccessEvent → Overlap → Prop where
  | enter {s : Overlap} {id : Nat} (r : AccessRequest) (free : s.checks id = none) :
      Step a s (.enter id r) (s.advance id r (a.stageOfEntry s.cache r))
  | ask {s : Overlap} {id ticket : Nat} {r : AccessRequest}
      (found : s.checks id = some ⟨r, .missed ticket⟩) :
      Step a s (.ask id r.token) (s.advance id r (.asking ticket))
  | answer {s : Overlap} {id ticket : Nat} {r : AccessRequest}
      (outcome : Except RelayError (List Grant))
      (found : s.checks id = some ⟨r, .asking ticket⟩) :
      Step a s (.answer id r.token outcome) (s.advance id r (.ofAnswer ticket outcome))
  | settle {s : Overlap} {id ticket : Nat} {r : AccessRequest} {grants : List Grant}
      (found : s.checks id = some ⟨r, .loaded ticket grants⟩) :
      Step a s (.settle id r.token)
        ((s.advance id r (.decided (judgeFound grants r))).withCache
          (a.keep ticket r.token grants s.cache))
  | clear {s : Overlap} (token : String) :
      Step a s (.clear token) (s.withCache (s.cache.clear token))

/-- A history that leads from one state to another. -/
inductive Run (a : Authorizer σ) (s : Overlap) : List AccessEvent → Overlap → Prop where
  | nil : Run a s [] s
  | snoc {h : List AccessEvent} {t u : Overlap} {e : AccessEvent}
      (before : Run a s h t) (now : Step a t e u) : Run a s (h ++ [e]) u

/-- Histories follow one another. -/
theorem Run.append {s t u : Overlap} {h h' : List AccessEvent} (first : Run a s h t)
    (second : Run a t h' u) : Run a s (h ++ h') u := by
  induction second with
  | nil => simpa using first
  | snoc _ now ih => simpa [← List.append_assoc] using ih.snoc now

/-- One moment is a history. -/
theorem Step.run {s t : Overlap} {e : AccessEvent} (now : Step a s e t) : Run a s [e] t :=
  Run.nil.snoc now

/-! ## Checks that are decided -/

/-- The number of the check that an event belongs to. -/
def checkOf : AccessEvent → Option Nat
  | .enter id _ | .ask id _ | .answer id _ _ | .settle id _ => some id
  | .clear _ => none

/-- Only its own events move a check. -/
theorem Step.checks_of_ne {s t : Overlap} {e : AccessEvent} (now : Step a s e t) {id : Nat}
    (h : checkOf e ≠ some id) : t.checks id = s.checks id := by
  cases now with
  | clear token => rfl
  | enter | ask | answer | settle =>
    have hne : id ≠ _ := fun heq => h (congrArg some heq.symm)
    simp [advance_checks_of_ne _ _ _ hne]

/-- A check that is decided has no event left. -/
theorem Step.checkOf_ne_of_decided {s t : Overlap} {e : AccessEvent} (now : Step a s e t) {id : Nat}
    {r : AccessRequest} {verdict : Except RelayError Unit}
    (h : s.checks id = some ⟨r, .decided verdict⟩) : checkOf e ≠ some id := by
  intro heq
  cases now with
  | clear token => simp [checkOf] at heq
  | enter _ free =>
    injection heq with heq
    subst heq
    simp [h] at free
  | ask found | answer _ found | settle found =>
    injection heq with heq
    subst heq
    simp [h] at found

/-- A check that is decided takes no further part. -/
theorem Run.decided_stays {s t : Overlap} {h : List AccessEvent} (run : Run a s h t) {id : Nat}
    {r : AccessRequest} {verdict : Except RelayError Unit}
    (decided : s.checks id = some ⟨r, .decided verdict⟩) :
    t.checks id = some ⟨r, .decided verdict⟩ ∧ ∀ e ∈ h, checkOf e ≠ some id := by
  induction run with
  | nil => exact ⟨decided, by simp⟩
  | @snoc h t u e _ now ih =>
    obtain ⟨still, none⟩ := ih
    have hne := now.checkOf_ne_of_decided still
    refine ⟨(now.checks_of_ne hne).trans still, ?_⟩
    intro other hother
    rcases List.mem_append.1 hother with hold | hnew
    · exact none other hold
    · rw [List.mem_singleton.1 hnew]
      exact hne

end Overlap

/-! ## Checks as they are carried out -/

namespace Authorizer

variable {σ : Type} (a : Authorizer σ)

/-- A check that the first section decides. -/
theorem check_of_decided {r : AccessRequest} {s : AccessState σ}
    {verdict : Except RelayError Unit} (h : a.stageOfEntry s.cache r = .decided verdict) :
    a.check r s = (verdict, s) := by
  unfold stageOfEntry at h
  unfold check
  split at h <;> rename_i hempty
  · injection h with h
    simp [hempty, ← h]
  · cases hlook : s.cache.lookup r.token with
    | found grants =>
      simp only [hlook, CheckStage.decided.injEq] at h
      simp [hempty, Action.bind_apply, grantsOf, hlook, h]
    | absent ticket =>
      simp only [hlook] at h
      cases hsource : a.source with
      | none =>
        simp only [hsource, Option.isSome_none, Bool.false_eq_true, if_false,
          CheckStage.decided.injEq] at h
        simp [hempty, Action.bind_apply, grantsOf, hlook, hsource, h]
      | some ask => simp [hsource] at h

/-- A check whose source is asked: an error decides it, and grants are kept in the second
section. -/
theorem check_of_missed {r : AccessRequest} {s : AccessState σ} {ticket : Nat}
    {ask : String → Action RelayError (AccessState σ) (List Grant)} (source : a.source = some ask)
    (h : a.stageOfEntry s.cache r = .missed ticket) :
    a.check r s =
      match ask r.token s with
      | (.ok grants, t) =>
        (judgeFound grants r, { t with cache := a.keep ticket r.token grants t.cache })
      | (.error e, t) => (.error e, t) := by
  unfold stageOfEntry at h
  unfold check
  split at h <;> rename_i hempty
  · simp at h
  · cases hlook : s.cache.lookup r.token with
    | found grants => simp [hlook] at h
    | absent found =>
      simp only [hlook, source, Option.isSome_some, if_true, CheckStage.missed.injEq] at h
      subst h
      simp only [hempty, Bool.false_eq_true, if_false, grantsOf, Action.bind_apply,
        Action.get_apply, hlook, source]
      rcases ask r.token s with ⟨outcome, t⟩
      cases outcome <;> rfl

/-- The first section decides or misses. -/
theorem stageOfEntry_cases (c : GrantCache) (r : AccessRequest) :
    (∃ verdict, a.stageOfEntry c r = .decided verdict) ∨
      a.stageOfEntry c r = .missed c.clears := by
  unfold stageOfEntry GrantCache.lookup
  grind

/-- Without a source the first section decides. -/
theorem stageOfEntry_of_no_source (none : a.source = none) (c : GrantCache) (r : AccessRequest) :
    ∃ verdict, a.stageOfEntry c r = .decided verdict := by
  unfold stageOfEntry
  rw [none]
  split
  · exact ⟨_, rfl⟩
  · split
    · exact ⟨_, rfl⟩
    · exact ⟨_, rfl⟩

/-- A check as it is carried out is a run of its moments.  What happens to the cache while the
source is asked has to be a run as well, which may clear tokens and let other checks enter, ask
and settle. -/
theorem check_is_run {ask : String → Action RelayError (AccessState σ) (List Grant)}
    (source : a.source = some ask) (r : AccessRequest) (s : AccessState σ) (o : Overlap) (id : Nat)
    (same : o.cache = s.cache) (free : o.checks id = none)
    (meanwhile : ∃ h p, Overlap.Run a (o.advance id r (.asking s.cache.clears)) h p ∧
      p.cache = (ask r.token s).2.cache ∧ p.checks id = some ⟨r, .asking s.cache.clears⟩) :
    ∃ h p, Overlap.Run a o h p ∧ p.cache = (a.check r s).2.cache ∧
      p.checks id = some ⟨r, .decided (a.check r s).1⟩ := by
  have entered := (Overlap.Step.enter (a := a) r free).run
  rw [same] at entered
  rcases a.stageOfEntry_cases s.cache r with ⟨verdict, hstage⟩ | hstage
  · rw [hstage] at entered
    rw [a.check_of_decided hstage]
    exact ⟨_, _, entered, same, by simp⟩
  · rw [hstage] at entered
    rw [a.check_of_missed source hstage]
    obtain ⟨h, p, during, hcache, hstays⟩ := meanwhile
    have asked := (Overlap.Step.ask (a := a)
      (o.advance_checks_self id r (.missed s.cache.clears))).run
    have hagain : (o.advance id r (.missed s.cache.clears)).advance id r (.asking s.cache.clears) =
        o.advance id r (.asking s.cache.clears) := by
      simp [Overlap.advance]
    rw [hagain] at asked
    have before := (entered.append asked).append during
    rcases hask : ask r.token s with ⟨outcome, t⟩
    rw [hask] at hcache
    have answered := (Overlap.Step.answer (a := a) outcome hstays).run
    cases outcome with
    | error e => exact ⟨_, _, before.append answered, hcache, by simp [CheckStage.ofAnswer]⟩
    | ok grants =>
      have settled := (Overlap.Step.settle (a := a)
        (p.advance_checks_self id r (.ofAnswer s.cache.clears (.ok grants)))).run
      refine ⟨_, _, (before.append answered).append settled, ?_, by simp⟩
      simp [hcache]

/-- Without a source, a check as it is carried out is one moment. -/
theorem check_is_step (none : a.source = none) (r : AccessRequest) (s : AccessState σ)
    (o : Overlap) (id : Nat) (same : o.cache = s.cache) (free : o.checks id = Option.none) :
    ∃ p, Overlap.Step a o (.enter id r) p ∧ p.cache = (a.check r s).2.cache ∧
      p.checks id = some ⟨r, .decided (a.check r s).1⟩ := by
  obtain ⟨verdict, hstage⟩ := a.stageOfEntry_of_no_source none s.cache r
  rw [a.check_of_decided hstage]
  refine ⟨_, .enter r free, same, ?_⟩
  rw [Overlap.advance_checks_self, same, hstage]

/-- A clear as it is carried out is one moment. -/
theorem clear_is_step (token : String) (s : AccessState σ) (o : Overlap)
    (same : o.cache = s.cache) :
    ∃ p, Overlap.Step a o (.clear token) p ∧ p.cache = (clear token s).2.cache := by
  refine ⟨_, .clear token, ?_⟩
  simp [same, clear, onCache, Action.bind_apply]

end Authorizer

section Sources

variable {a : Authorizer Listed.Progress}

/-- Clears one after the other are a history. -/
theorem run_clears (tokens : List String) (s : Overlap) :
    Overlap.Run a s (tokens.map .clear) (s.withCache (tokens.foldl GrantCache.clear s.cache)) := by
  induction tokens generalizing s with
  | nil => exact .nil
  | cons token rest ih =>
    have first := (Overlap.Step.clear (a := a) (s := s) token).run
    exact first.append (ih (s.withCache (s.cache.clear token)))

/-- While a listed source is asked, its tokens are cleared one after the other. -/
theorem listed_check_is_run {listed : ListedGrants} (source : a.source = some (Listed.ask listed))
    (r : AccessRequest) (s : AccessState Listed.Progress) (o : Overlap) (id : Nat)
    (same : o.cache = s.cache) (free : o.checks id = none) :
    ∃ h p, Overlap.Run a o h p ∧ p.cache = (a.check r s).2.cache ∧
      p.checks id = some ⟨r, .decided (a.check r s).1⟩ := by
  apply a.check_is_run source r s o id same free
  refine ⟨_, _, run_clears s.world.clearing _, ?_, by simp⟩
  have hask : (Listed.ask listed r.token s).2 = Listed.interrupted s := by
    unfold Listed.ask
    simp only [Action.bind_apply, Action.modify_apply]
    rcases listed.get? r.token with _ | (_ | _) <;> rfl
  simp [hask, Listed.interrupted, same]

end Sources
end SqlRelay
