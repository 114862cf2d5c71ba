import Mathlib.Data.List.Induction
import SqlRelay.Proofs.Access.Freshness
import SqlRelay.Proofs.Access.Decision
/-!
# The cache is transparent

A source that always says the same of a token may be asked often or seldom: no check can tell the
difference.  Checks and clears are carried out here one after the other by an authorizer whose
source keeps a record, and tokens may also be cleared while that source is asked.

Main results:

- Definition `Record.ask` is the source, and `takeTurns` a run of checks and clears.
- Theorem `verdict?_eq`: with and without caching, a check is decided by the answer for its token.
- Theorem `takeTurns_askedOnce`: with caching, a source that gives grants for a token is asked about
  it at most once between two clears.
- Theorem `Overlap.Run.entries_eq_nil`: without caching or without a source nothing is ever kept.
- Theorem `cache_is_transparent` puts them together.
-/

namespace SqlRelay

/-- What is written down: the source is asked about a token, or a token is cleared. -/
inductive SourceEvent where
  | asked (token : String)
  | cleared (token : String)
  deriving DecidableEq

/-- The tokens that are to be cleared while the source is asked next, and all that happened. -/
structure Record where
  pending : List String
  events : List SourceEvent

namespace Record

/-- Writes an event down. -/
def note (e : SourceEvent) (s : AccessState Record) : AccessState Record :=
  { s with world := ⟨s.world.pending, s.world.events ++ [e]⟩ }

/-- Sets the tokens that are to be cleared. -/
def expect (tokens : List String) (s : AccessState Record) : AccessState Record :=
  { s with world := ⟨tokens, s.world.events⟩ }

/-- Clears a token, and writes it down. -/
def clear (s : AccessState Record) (token : String) : AccessState Record :=
  note (.cleared token) (Authorizer.clear token s).2

/-- Clears the tokens that are to be cleared, one after the other. -/
def clearPending (s : AccessState Record) : AccessState Record :=
  s.world.pending.foldl clear (expect [] s)

/-- Asks the source.  Its answer depends on the token alone; the tokens that are to be cleared are
cleared while it is asked. -/
def ask (answers : String → Except RelayError (List Grant)) (token : String) :
    Action RelayError (AccessState Record) (List Grant) := do
  Action.modify (note (.asked token))
  Action.modify clearPending
  Action.ofExcept (answers token)

section Laws

variable (s : AccessState Record)

@[simp]
theorem note_cache (e : SourceEvent) : (note e s).cache = s.cache := rfl

@[simp]
theorem note_pending (e : SourceEvent) : (note e s).world.pending = s.world.pending := rfl

@[simp]
theorem expect_cache (tokens : List String) : (expect tokens s).cache = s.cache := rfl

@[simp]
theorem clear_events (token : String) :
    (clear s token).world.events = s.world.events ++ [.cleared token] := rfl

/-- Asking gives the answer and clears what was to be cleared meanwhile. -/
theorem ask_eq (answers : String → Except RelayError (List Grant)) (token : String) :
    ask answers token s = (answers token, clearPending (note (.asked token) s)) := rfl

/-- What every clear keeps is kept by all of them. -/
theorem clearPending_keeps {P : AccessState Record → Prop} (start : P (expect [] s))
    (each : ∀ t token, P t → P (clear t token)) : P (clearPending s) := by
  unfold clearPending
  generalize s.world.pending = tokens
  revert start
  generalize expect [] s = t
  intro start
  induction tokens generalizing t with
  | nil => exact start
  | cons token rest ih => exact ih _ (each t token start)

end Laws

end Record

/-! ## Runs of checks and clears -/

/-- A check, with the tokens that are cleared while its source is asked, or a clear. -/
inductive AccessTurn where
  | check (r : AccessRequest) (meanwhile : List String)
  | clear (token : String)

namespace AccessTurn

variable (a : Authorizer Record) (s : AccessState Record)

/-- What a turn decides; a clear decides nothing. -/
def verdict? : AccessTurn → Option (Except RelayError Unit)
  | .check r meanwhile => some (a.check r (Record.expect meanwhile s)).1
  | .clear _ => none

/-- What a turn leaves.  Where the source of a check is not asked, the tokens that are to be
cleared are cleared behind the check. -/
def after : AccessTurn → AccessState Record
  | .check r meanwhile => Record.clearPending (a.check r (Record.expect meanwhile s)).2
  | .clear token => Record.clear s token

end AccessTurn

/-- Takes one turn after the other; gives the verdicts of the checks, and what is left. -/
def takeTurns (a : Authorizer Record) :
    List AccessTurn → AccessState Record → List (Except RelayError Unit) × AccessState Record
  | [], s => ([], s)
  | turn :: rest, s =>
    let (verdicts, t) := takeTurns a rest (turn.after a s)
    ((turn.verdict? a s).toList ++ verdicts, t)

/-- An authorizer with a source that keeps a record. -/
def Authorizer.recording (answers : String → Except RelayError (List Grant))
    (fixed : Fields (List Grant)) (caching : Bool) : Authorizer Record :=
  ⟨fixed, some (Record.ask answers), caching⟩

/-- Nothing is kept, and nothing has happened. -/
def Record.start : AccessState Record := ⟨.empty, [], []⟩

section Recording

variable {answers : String → Except RelayError (List Grant)} {fixed : Fields (List Grant)}
  {caching : Bool} {s : AccessState Record}

/-- A check that the cache decides leaves everything alone; otherwise the source is asked, tokens
are cleared, and what the source gave may be kept under the ticket of the check. -/
theorem check_recording (answers : String → Except RelayError (List Grant))
    (fixed : Fields (List Grant)) (caching : Bool) (r : AccessRequest) (s : AccessState Record) :
    ((Authorizer.recording answers fixed caching).check r s).2 = s ∨
      s.cache.entries.get? r.token = none ∧
        ((Authorizer.recording answers fixed caching).check r s).2 =
          let t := Record.clearPending (Record.note (.asked r.token) s)
          match answers r.token with
          | .ok grants =>
            let a := Authorizer.recording answers fixed caching
            { t with cache := a.keep s.cache.clears r.token grants t.cache }
          | .error _ => t := by
  rcases (Authorizer.recording answers fixed caching).stageOfEntry_cases s.cache r with
    ⟨verdict, hstage⟩ | hstage
  · rw [Authorizer.check_of_decided _ hstage]
    exact .inl rfl
  · have habsent : s.cache.entries.get? r.token = none := by
      cases hfound : s.cache.entries.get? r.token with
      | none => rfl
      | some grants =>
        simp only [Authorizer.stageOfEntry, GrantCache.lookup, hfound] at hstage
        split at hstage <;> simp at hstage
    rw [Authorizer.check_of_missed _ rfl hstage, Record.ask_eq]
    refine .inr ⟨habsent, ?_⟩
    cases answers r.token <;> rfl

/-- All grants in the cache are those that the source gives. -/
def Remembers (answers : String → Except RelayError (List Grant)) (c : GrantCache) : Prop :=
  ∀ token grants, c.entries.get? token = some grants → answers token = .ok grants

/-- Clearing a token makes no entry wrong. -/
theorem Remembers.clear {c : GrantCache} (h : Remembers answers c) (token : String) :
    Remembers answers (c.clear token) := by
  intro other grants hfound
  rw [Overlap.clear_get?] at hfound
  split at hfound
  · simp at hfound
  · exact h other grants hfound

/-- Keeping what the source answers makes no entry wrong. -/
theorem Remembers.keep {c : GrantCache} (h : Remembers answers c) {σ : Type} (a : Authorizer σ)
    (ticket : Nat) {token : String} {grants : List Grant} (given : answers token = .ok grants) :
    Remembers answers (a.keep ticket token grants c) := by
  intro other found hfound
  rw [Overlap.keep_get?] at hfound
  split at hfound
  · rename_i hgood
    rw [hgood.2.2, given, Option.some.inj hfound]
  · exact h other found hfound

/-- Clears during a lookup make no entry wrong. -/
theorem Remembers.clearPending (h : Remembers answers s.cache) :
    Remembers answers (Record.clearPending s).cache :=
  Record.clearPending_keeps (P := fun t => Remembers answers t.cache) s h
    (fun _ token ht => ht.clear token)

/-- No turn makes an entry wrong. -/
theorem Remembers.after (h : Remembers answers s.cache) (turn : AccessTurn) :
    Remembers answers (turn.after (.recording answers fixed caching) s).cache := by
  cases turn with
  | clear token => exact h.clear token
  | check r meanwhile =>
    apply Remembers.clearPending
    rcases check_recording answers fixed caching r (Record.expect meanwhile s) with
      hsame | ⟨-, hasked⟩
    · rw [hsame]
      exact h
    · rw [hasked]
      have hcleared : Remembers answers (Record.clearPending
          (Record.note (.asked r.token) (Record.expect meanwhile s))).cache :=
        Remembers.clearPending h
      cases hanswer : answers r.token with
      | error e => exact hcleared
      | ok grants => exact hcleared.keep _ _ hanswer

/-! ## Verdicts -/

/-- What a source decides about a request. -/
def verdictBy (answers : String → Except RelayError (List Grant)) (r : AccessRequest) :
    Except RelayError Unit :=
  if r.token = "" then .error (.refused .noGrant)
  else
    match answers r.token with
    | .ok grants => judgeFound grants r
    | .error e => .error e

/-- The checks among the turns are decided by what the source says of their tokens, whether or not
it is asked. -/
theorem verdict?_eq (h : Remembers answers s.cache) (turn : AccessTurn) :
    turn.verdict? (.recording answers fixed caching) s =
      match turn with
      | .check r _ => some (verdictBy answers r)
      | .clear _ => none := by
  cases turn with
  | clear token => rfl
  | check r meanwhile =>
    have hresolution : (Authorizer.recording answers fixed caching).resolution
        (Record.expect meanwhile s) r.token = answers r.token := by
      unfold Authorizer.resolution
      cases hfound : (Record.expect meanwhile s).cache.entries.get? r.token with
      | some grants => exact (h r.token grants hfound).symm
      | none => rfl
    simp only [AccessTurn.verdict?, Authorizer.check_fst, hresolution]
    rfl

/-- Caching changes no verdict of a run. -/
theorem takeTurns_verdicts_eq (turns : List AccessTurn) {t : AccessState Record}
    (hs : Remembers answers s.cache) (ht : Remembers answers t.cache) :
    (takeTurns (.recording answers fixed true) turns s).1 =
      (takeTurns (.recording answers fixed false) turns t).1 := by
  induction turns generalizing s t with
  | nil => rfl
  | cons turn rest ih =>
    simp only [takeTurns]
    rw [verdict?_eq hs, verdict?_eq ht, ih (hs.after turn) (ht.after turn)]

/-! ## How often the source is asked -/

/-- How often a token was asked about since the last clear. -/
def askedSinceClear (token : String) (events : List SourceEvent) : Nat :=
  events.foldl (fun count e =>
    match e with
    | .asked other => if other = token then count + 1 else count
    | .cleared _ => 0) 0

/-- Asking for a token adds one to its count and leaves the others alone. -/
@[simp]
theorem askedSinceClear_asked (token other : String) (events : List SourceEvent) :
    askedSinceClear token (events ++ [.asked other]) =
      if other = token then askedSinceClear token events + 1
      else askedSinceClear token events := by
  simp [askedSinceClear]

/-- After a clear every count begins anew. -/
@[simp]
theorem askedSinceClear_cleared (token other : String) (events : List SourceEvent) :
    askedSinceClear token (events ++ [.cleared other]) = 0 := by
  simp [askedSinceClear]

/-- Where nothing is cleared, all questions count. -/
theorem askedSinceClear_append (token : String) (before between : List SourceEvent)
    (uncleared : ∀ other, .cleared other ∉ between) :
    askedSinceClear token (before ++ between) =
      askedSinceClear token before + between.count (.asked token) := by
  induction between using List.reverseRecOn with
  | nil => simp
  | append_singleton between e ih =>
    have hbefore := ih (fun other hmem => uncleared other (List.mem_append_left _ hmem))
    rw [← List.append_assoc]
    cases e with
    | cleared other => exact absurd (by simp) (uncleared other)
    | asked other =>
      rw [askedSinceClear_asked, hbefore, List.count_append]
      by_cases heq : other = token
      · simp [heq, Nat.add_assoc]
      · simp [heq]

/-- With caching: the cache holds what the source gave since the last clear, and at no time had the
source been asked twice since the last clear about a token for which it gives grants. -/
structure AskedOnce (answers : String → Except RelayError (List Grant))
    (s : AccessState Record) : Prop where
  kept : ∀ token grants, answers token = .ok grants →
    askedSinceClear token s.world.events ≠ 0 → s.cache.entries.get? token = some grants
  atMost : ∀ token grants, answers token = .ok grants →
    ∀ before, before <+: s.world.events → askedSinceClear token before ≤ 1

theorem AskedOnce.start : AskedOnce answers Record.start where
  kept := by simp [Record.start, askedSinceClear]
  atMost := by simp [Record.start, askedSinceClear]

/-- The number since the last clear does not pass one if it does not do so now. -/
theorem AskedOnce.atMost_snoc (h : AskedOnce answers s) {e : SourceEvent} {token : String}
    {grants : List Grant} (given : answers token = .ok grants)
    (now : askedSinceClear token (s.world.events ++ [e]) ≤ 1) (before : List SourceEvent)
    (hbefore : before <+: s.world.events ++ [e]) : askedSinceClear token before ≤ 1 := by
  rcases List.prefix_concat_iff.1 hbefore with rfl | hold
  · exact now
  · exact h.atMost token grants given before hold

/-- So it stays when a token is cleared. -/
theorem AskedOnce.clear (h : AskedOnce answers s) (token : String) :
    AskedOnce answers (Record.clear s token) where
  kept := by simp
  atMost := by
    intro other grants given before hbefore
    exact h.atMost_snoc given (by simp) before hbefore

/-- So it stays when tokens are cleared during a lookup. -/
theorem AskedOnce.clearPending (h : AskedOnce answers s) :
    AskedOnce answers (Record.clearPending s) :=
  Record.clearPending_keeps s ⟨h.kept, h.atMost⟩ (fun _ token ht => ht.clear token)

/-- Clears only make tickets stale. -/
theorem clears_le_clearPending (s : AccessState Record) :
    s.cache.clears ≤ (Record.clearPending s).cache.clears :=
  Record.clearPending_keeps (P := fun t => s.cache.clears ≤ t.cache.clears) s (Nat.le_refl _)
    (fun _ _ ht => Nat.le_succ_of_le ht)

/-- A token is asked about that is not in the cache, so it was not asked about since the last
clear. -/
theorem AskedOnce.atMost_asked (h : AskedOnce answers s) {token : String}
    (absent : s.cache.entries.get? token = none) {other : String} {grants : List Grant}
    (given : answers other = .ok grants) (before : List SourceEvent)
    (hbefore : before <+: s.world.events ++ [.asked token]) :
    askedSinceClear other before ≤ 1 := by
  refine h.atMost_snoc given ?_ before hbefore
  rw [askedSinceClear_asked]
  split <;> rename_i heq
  · subst heq
    have hnone : askedSinceClear token s.world.events = 0 := by
      by_contra hasked
      simp [h.kept token grants given hasked] at absent
    omega
  · exact h.atMost other grants given _ (List.prefix_refl _)

/-- The source is asked and nothing is cleared meanwhile: what it gives is kept. -/
theorem AskedOnce.asked_undisturbed (h : AskedOnce answers s) {token : String}
    (absent : s.cache.entries.get? token = none) {t : AccessState Record}
    (events : t.world.events = s.world.events ++ [.asked token])
    (self : ∀ grants, answers token = .ok grants → t.cache.entries.get? token = some grants)
    (others : ∀ other, other ≠ token →
      t.cache.entries.get? other = s.cache.entries.get? other) : AskedOnce answers t where
  kept := by
    intro other grants given hasked
    by_cases heq : other = token
    · subst heq
      exact self grants given
    · rw [events, askedSinceClear_asked, if_neg (Ne.symm heq)] at hasked
      rw [others other heq]
      exact h.kept other grants given hasked
  atMost := by
    intro other grants given
    rw [events]
    exact h.atMost_asked absent given

/-- The source is asked and a token is cleared meanwhile: nothing need be kept. -/
theorem AskedOnce.asked_overtaken (h : AskedOnce answers s) {token : String}
    (absent : s.cache.entries.get? token = none) (cleared : String) :
    AskedOnce answers (Record.clear (Record.note (.asked token) s) cleared) where
  kept := by
    intro other grants _ hasked
    rw [Record.clear_events, askedSinceClear_cleared] at hasked
    exact absurd rfl hasked
  atMost := by
    intro other grants given before hbefore
    rcases List.prefix_concat_iff.1 hbefore with rfl | hold
    · simp
    · exact h.atMost_asked absent given before hold

/-- A check of an authorizer with caching asks about no token twice between two clears. -/
theorem AskedOnce.check (h : AskedOnce answers s) (r : AccessRequest) :
    AskedOnce answers ((Authorizer.recording answers fixed true).check r s).2 := by
  rcases check_recording answers fixed true r s with hsame | ⟨habsent, hasked⟩
  · rw [hsame]
    exact h
  · rw [hasked]
    rcases hpending : s.world.pending with _ | ⟨first, rest⟩
    · have hquiet : Record.clearPending (Record.note (.asked r.token) s) =
          Record.expect [] (Record.note (.asked r.token) s) := by
        simp [Record.clearPending, hpending]
      rw [hquiet]
      cases hanswer : answers r.token with
      | error e => exact h.asked_undisturbed habsent rfl (by simp [hanswer]) (fun _ _ => rfl)
      | ok grants =>
        refine h.asked_undisturbed habsent rfl ?_ ?_
        · intro found hfound
          obtain rfl : grants = found := by simpa [hanswer] using hfound
          simp [Overlap.keep_get?, Authorizer.recording]
        · intro other hne
          simp [Overlap.keep_get?, hne]
    · -- the first clear makes the ticket of the check stale, so nothing is kept
      obtain ⟨u, hu⟩ : ∃ u, u = Record.expect rest
          (Record.clear (Record.note (.asked r.token) s) first) := ⟨_, rfl⟩
      have hclears : Record.clearPending (Record.note (.asked r.token) s) =
          Record.clearPending u := by
        simp only [Record.clearPending, Record.note_pending, hpending, List.foldl_cons, hu]
        rfl
      have hfirst := h.asked_overtaken habsent first
      have honce : AskedOnce answers u := by
        rw [hu]
        exact ⟨hfirst.kept, hfirst.atMost⟩
      have hstale : (Record.clearPending u).cache.clears ≠ s.cache.clears := by
        have hle := clears_le_clearPending u
        have hsucc : u.cache.clears = s.cache.clears + 1 := by
          rw [hu]
          rfl
        omega
      rw [hclears]
      cases answers r.token with
      | error e => exact honce.clearPending
      | ok grants =>
        have hkeep : (Authorizer.recording answers fixed true).keep s.cache.clears r.token grants
            (Record.clearPending u).cache = (Record.clearPending u).cache :=
          GrantCache.store_of_stale _ r.token grants hstale
        simp only [hkeep]
        exact honce.clearPending

/-- Every turn keeps the number of questions down. -/
theorem AskedOnce.after (h : AskedOnce answers s) (turn : AccessTurn) :
    AskedOnce answers (turn.after (.recording answers fixed true) s) := by
  cases turn with
  | clear token => exact h.clear token
  | check r meanwhile =>
    have hexpect : AskedOnce answers (Record.expect meanwhile s) := ⟨h.kept, h.atMost⟩
    exact (hexpect.check r).clearPending

/-- With caching, a run asks at most once between two clears about a token that has grants. -/
theorem takeTurns_askedOnce (turns : List AccessTurn) (h : AskedOnce answers s) :
    AskedOnce answers (takeTurns (.recording answers fixed true) turns s).2 := by
  induction turns generalizing s with
  | nil => exact h
  | cons turn rest ih => exact ih (h.after turn)

end Recording

namespace Overlap

variable {σ : Type} {a : Authorizer σ}

/-- No check waits for its source. -/
def AllDecided (s : Overlap) : Prop :=
  ∀ id check, s.checks id = some check → ∃ verdict, check.stage = .decided verdict

/-- Without a source, every check is decided after every step. -/
theorem Step.allDecided {s t : Overlap} {e : AccessEvent} (now : Step a s e t)
    (none : a.source = none) (h : AllDecided s) : AllDecided t := by
  intro id check hcheck
  cases now with
  | @enter entered r free =>
    by_cases heq : id = entered
    · subst heq
      rw [advance_checks_self] at hcheck
      obtain rfl := Option.some.inj hcheck
      exact a.stageOfEntry_of_no_source none s.cache r
    · rw [advance_checks_of_ne _ _ _ heq] at hcheck
      exact h id check hcheck
  | ask found | answer _ found | settle found =>
    obtain ⟨verdict, hstage⟩ := h _ _ found
    simp at hstage
  | clear token => exact h id check hcheck

/-- Only the second section of a check fills the cache: it takes a source, and caching. -/
theorem Step.entries_eq_nil {s t : Overlap} {e : AccessEvent} (now : Step a s e t)
    (unkept : AllDecided s ∨ a.caching = false) (empty : s.cache.entries = []) :
    t.cache.entries = [] := by
  cases now with
  | enter | ask | answer => exact empty
  | clear token => simp [GrantCache.clear, Fields.erase, empty]
  | @settle id ticket r grants found =>
    rcases unkept with hdecided | hoff
    · obtain ⟨verdict, hstage⟩ := hdecided _ _ found
      simp at hstage
    · simp [Authorizer.keep, hoff, empty]

/-- Without a source, or without caching, the cache stays empty whatever happens. -/
theorem Run.entries_eq_nil {s : Overlap} {h : List AccessEvent} (run : Run a initial h s)
    (unkept : a.source = none ∨ a.caching = false) : s.cache.entries = [] := by
  have hboth : s.cache.entries = [] ∧ (a.source = none → AllDecided s) := by
    induction run with
    | nil => exact ⟨rfl, fun _ => by simp [AllDecided, initial]⟩
    | snoc _ now ih =>
      obtain ⟨hempty, hdecided⟩ := ih
      exact ⟨now.entries_eq_nil (unkept.imp_left hdecided) hempty,
        fun none => now.allDecided none (hdecided none)⟩
  exact hboth.1

end Overlap

/-! ## Transparency -/

/-- A source answers as a function of the token, with grants or an error.  In every run of checks
and clears, where tokens may also be cleared while the source is asked: the checks are decided with
caching as they are without; and with caching, the source is asked at most once between two clears
about a token for which it gives grants.  The cache of an authorizer without a source or without
caching is empty in every state that checks and clears can lead to, however they overlap. -/
theorem cache_is_transparent (answers : String → Except RelayError (List Grant))
    (fixed : Fields (List Grant)) (turns : List AccessTurn) :
    (takeTurns (.recording answers fixed true) turns Record.start).1 =
      (takeTurns (.recording answers fixed false) turns Record.start).1 ∧
    (∀ token grants before between after, answers token = .ok grants →
      (takeTurns (.recording answers fixed true) turns Record.start).2.world.events =
        before ++ between ++ after →
      (∀ other, .cleared other ∉ between) → between.count (.asked token) ≤ 1) ∧
    (∀ (σ : Type) (a : Authorizer σ), a.source = none ∨ a.caching = false →
      ∀ h s, Overlap.Run a .initial h s → s.cache.entries = []) := by
  have hstart : Remembers answers Record.start.cache := by
    simp [Remembers, Record.start, GrantCache.empty]
  refine ⟨takeTurns_verdicts_eq turns hstart hstart, ?_, ?_⟩
  · intro token grants before between after given hevents uncleared
    have honce : AskedOnce answers
        (takeTurns (.recording answers fixed true) turns Record.start).2 :=
      takeTurns_askedOnce turns .start
    have hprefix := honce.atMost token grants given (before ++ between) ⟨after, hevents.symm⟩
    rw [askedSinceClear_append token before between uncleared] at hprefix
    omega
  · intro σ a unkept h s run
    exact run.entries_eq_nil unkept

/-- A lookup that is overtaken by a clear is not kept, and the next one is. -/
example :
    let r : AccessRequest := ⟨"db", "items", .read, "t", none, none⟩
    (takeTurns (.recording (fun _ => .ok []) [] true)
      [.check r ["u"], .check r [], .check r []] Record.start).2.world.events =
      [.asked "t", .cleared "u", .asked "t"] := by
  decide

end SqlRelay
