import SqlRelay.Gateway
import SqlRelay.Proofs.Access.Overlap
import SqlRelay.Proofs.Database.Visits
/-!
# The access decision

Whether a request is let through is said here without the order in which the gateway asks: which
object the request addresses, who owns it, whether it is public, and which grants the token has.

Main results:

- Definition `Grant.Covers` says when a grant allows a request.
- Definition `Gateway.Addresses` gives the object of a request, and `Gateway.Resolves` the grants
  of its token.
- Theorem `Gateway.authorize_exact`: these decide every request, and name the error of every
  refusal.
-/

namespace SqlRelay

/-- A host matches a pattern: the pattern without blanks and in lower case is the host, or it is a
star before an end of the host. -/
def MatchesHost (pattern host : String) : Prop :=
  Text.lowerAscii (Text.trim pattern.toList) = host.toList ∨
    ∃ suffix, Text.lowerAscii (Text.trim pattern.toList) = '*' :: suffix ∧ suffix <:+ host.toList

/-- The matcher of hosts accepts the hosts that a pattern means. -/
theorem hostMatches_iff (pattern host : String) :
    hostMatches pattern host = true ↔ MatchesHost pattern host := by
  unfold hostMatches MatchesHost endsIn
  split
  · rename_i suffix hpattern
    rw [hpattern, List.isSuffixOf_iff_suffix]
    constructor
    · intro hsuffix
      exact .inr ⟨suffix, rfl, hsuffix⟩
    · rintro (hsame | ⟨other, hother, hsuffix⟩)
      · exact ⟨['*'], by simpa using hsame⟩
      · injection hother with _ hother
        exact hother ▸ hsuffix
  · rename_i exact hpattern
    rw [beq_iff_eq]
    constructor
    · exact .inl
    · rintro (hsame | ⟨suffix, hstar, -⟩)
      · exact hsame
      · exact absurd hstar (hpattern suffix)

/-- The host of the origin or of the referer of a request. -/
def AccessRequest.ComesFrom (r : AccessRequest) (host : String) : Prop :=
  ∃ raw, (r.origin = some raw ∨ r.referer = some raw) ∧ originHost? raw = some host

/-- The hosts of a request are those that its headers say it comes from. -/
theorem AccessRequest.mem_hosts_iff (r : AccessRequest) (host : String) :
    host ∈ r.hosts ↔ r.ComesFrom host := by
  simp only [hosts, ComesFrom, List.mem_filterMap, List.mem_cons, List.not_mem_nil, or_false,
    Option.bind_eq_some_iff]
  constructor
  · rintro ⟨header, hheader, raw, rfl, hhost⟩
    exact ⟨raw, hheader.imp Eq.symm Eq.symm, hhost⟩
  · rintro ⟨raw, hheader, hhost⟩
    exact ⟨some raw, hheader.imp Eq.symm Eq.symm, raw, rfl, hhost⟩

/-- A grant allows a request: it is for the database, for the object, for the operation, and for
some host that the request comes from unless it is for all. -/
structure Grant.Covers (g : Grant) (r : AccessRequest) : Prop where
  database : g.database = r.database ∨ g.database = "*"
  object : r.object ∈ g.objects ∨ "*" ∈ g.objects
  privilege : g.permits r.operation = true
  origin : g.origins = [] ∨
    ∃ host pattern, r.ComesFrom host ∧ pattern ∈ g.origins ∧ MatchesHost pattern host

/-- A granted name stands for itself, and a star stands for all names. -/
theorem standsFor_iff (granted wanted : String) :
    standsFor granted wanted = true ↔ granted = wanted ∨ granted = "*" := by
  simp [standsFor]

/-- A grant without origins allows all hosts, and any other one those that its patterns mean. -/
theorem Grant.allowsOrigin_iff (g : Grant) (r : AccessRequest) :
    g.allowsOrigin r = true ↔ g.origins = [] ∨
      ∃ host pattern, r.ComesFrom host ∧ pattern ∈ g.origins ∧ MatchesHost pattern host := by
  simp only [allowsOrigin, Bool.or_eq_true, List.isEmpty_iff, List.any_eq_true,
    AccessRequest.mem_hosts_iff, hostMatches_iff]
  constructor
  · rintro (hnone | ⟨host, hhost, pattern, hpattern, hmatch⟩)
    · exact .inl hnone
    · exact .inr ⟨host, pattern, hhost, hpattern, hmatch⟩
  · rintro (hnone | ⟨host, pattern, hhost, hpattern, hmatch⟩)
    · exact .inl hnone
    · exact .inr ⟨host, hhost, pattern, hpattern, hmatch⟩

/-- The check of one grant decides whether it covers the request. -/
theorem Grant.covers_iff (g : Grant) (r : AccessRequest) : g.covers r = true ↔ g.Covers r := by
  have hobject : g.objects.any (standsFor · r.object) = true ↔
      r.object ∈ g.objects ∨ "*" ∈ g.objects := by
    simp only [List.any_eq_true, standsFor_iff]
    constructor
    · rintro ⟨object, hmem, rfl | rfl⟩
      · exact .inl hmem
      · exact .inr hmem
    · rintro (hmem | hmem)
      · exact ⟨_, hmem, .inl rfl⟩
      · exact ⟨_, hmem, .inr rfl⟩
  simp only [covers, Bool.and_eq_true, standsFor_iff, hobject, allowsOrigin_iff]
  constructor
  · rintro ⟨⟨⟨hdatabase, hobject⟩, horigin⟩, hprivilege⟩
    exact ⟨hdatabase, hobject, hprivilege, horigin⟩
  · rintro ⟨hdatabase, hobject, hprivilege, horigin⟩
    exact ⟨⟨⟨hdatabase, hobject⟩, horigin⟩, hprivilege⟩

/-- Grants allow a request if one of them covers it, and it is refused otherwise. -/
theorem judgeFound_eq_ok_iff (grants : List Grant) (r : AccessRequest) :
    judgeFound grants r = .ok () ↔ ∃ grant ∈ grants, grant.Covers r := by
  unfold judgeFound judge
  cases grants with
  | nil => simp
  | cons grant rest =>
    simp only [List.isEmpty_cons, Bool.false_eq_true, if_false]
    split <;> rename_i h
    · obtain ⟨found, hmem, hcovers⟩ := List.any_eq_true.1 h
      exact iff_of_true rfl ⟨found, hmem, (found.covers_iff r).1 hcovers⟩
    · refine iff_of_false (by simp) ?_
      rintro ⟨found, hmem, hcovers⟩
      exact h (List.any_eq_true.2 ⟨found, hmem, (found.covers_iff r).2 hcovers⟩)

/-- Judging grants fails by a refusal only. -/
theorem judgeFound_error {grants : List Grant} {r : AccessRequest} {e : RelayError}
    (h : judgeFound grants r = .error e) : ∃ why, e = .refused why := by
  unfold judgeFound judge at h
  split at h
  · exact ⟨_, (Except.error.inj h).symm⟩
  · split at h
    · simp at h
    · exact ⟨_, (Except.error.inj h).symm⟩

/-! ## Grants of a token -/

namespace Authorizer

variable {σ : Type} (a : Authorizer σ)

/-- What is found for a token: what is cached, else what the source says, else the fixed list. -/
def resolution (s : AccessState σ) (token : String) : Except RelayError (List Grant) :=
  match s.cache.entries.get? token with
  | some grants => .ok grants
  | none =>
    match a.source with
    | some ask => (ask token s).1
    | none => .ok ((a.fixed.get? token).getD [])

/-- A check judges by what is found for the token. -/
theorem check_fst (r : AccessRequest) (s : AccessState σ) :
    (a.check r s).1 =
      if r.token = "" then .error (.refused .noGrant)
      else
        match a.resolution s r.token with
        | .ok grants => judgeFound grants r
        | .error e => .error e := by
  by_cases hempty : r.token = ""
  · have hstage : a.stageOfEntry s.cache r = .decided (.error (.refused .noGrant)) := by
      simp [stageOfEntry, hempty]
    rw [a.check_of_decided hstage, if_pos hempty]
  · rw [if_neg hempty]
    unfold resolution
    cases hfound : s.cache.entries.get? r.token with
    | some grants =>
      have hstage : a.stageOfEntry s.cache r = .decided (judgeFound grants r) := by
        simp [stageOfEntry, hempty, GrantCache.lookup, hfound]
      rw [a.check_of_decided hstage]
    | none =>
      cases hsource : a.source with
      | none =>
        have hstage : a.stageOfEntry s.cache r =
            .decided (judgeFound ((a.fixed.get? r.token).getD []) r) := by
          simp [stageOfEntry, hempty, GrantCache.lookup, hfound, hsource]
        rw [a.check_of_decided hstage]
      | some ask =>
        have hstage : a.stageOfEntry s.cache r = .missed s.cache.clears := by
          simp [stageOfEntry, hempty, GrantCache.lookup, hfound, hsource]
        rw [a.check_of_missed hsource hstage]
        rcases hask : ask r.token s with ⟨outcome, t⟩
        cases outcome <;> simp [hask]

/-- A check without a token asks nobody. -/
theorem check_of_noToken {r : AccessRequest} (h : r.token = "") (s : AccessState σ) :
    a.check r s = (.error (.refused .noGrant), s) := by
  simp [check, h]

end Authorizer

/-! ## Objects and their owners -/

namespace Gateway

variable (g : Gateway) (around : Surroundings)

/-- The object of a request with its owner, and whether it is public for the operation: a script is
executed, and a table is read or written. -/
inductive Addresses (r : AccessRequest) : (owner : String) → (isPublic : Bool) → Prop where
  | script {s : Script} (operation : r.operation = .exec)
      (found : g.scripts.get? r.object = some s) : Addresses r s.owner s.publicExec
  | reading {t : Table} (operation : r.operation = .read)
      (found : g.tables.get? r.object = some t) : Addresses r t.owner t.publicRead
  | writing {t : Table} (operation : r.operation = .write)
      (found : g.tables.get? r.object = some t) : Addresses r t.owner t.publicWrite

/-- A request addresses an object that no other database owns. -/
def Reaches (r : AccessRequest) (isPublic : Bool) : Prop :=
  ∃ owner, g.Addresses r owner isPublic ∧ (owner = "" ∨ owner = r.database)

/-- A database can see the scripts of its own and those without an owner. -/
theorem script?_eq_some_iff (database id : String) (s : Script) :
    g.script? database id = some s ↔
      g.scripts.get? id = some s ∧ (s.owner = "" ∨ s.owner = database) := by
  simp [script?, Option.filter_eq_some_iff, Script.visibleIn]

/-- A database can see the tables of its own and those without an owner. -/
theorem table?_eq_some_iff (database id : String) (t : Table) :
    g.table? database id = some t ↔
      g.tables.get? id = some t ∧ (t.owner = "" ∨ t.owner = database) := by
  simp [table?, Option.filter_eq_some_iff, Table.visibleIn]

/-- An object is public or not exactly if the request reaches it so. -/
theorem publicity_eq_ok_iff (r : AccessRequest) (isPublic : Bool) :
    g.publicity r = .ok isPublic ↔ g.Reaches r isPublic := by
  have hscript : ∀ s, g.script? r.database r.object = some s ↔
      g.scripts.get? r.object = some s ∧ (s.owner = "" ∨ s.owner = r.database) :=
    g.script?_eq_some_iff r.database r.object
  have htable : ∀ t, g.table? r.database r.object = some t ↔
      g.tables.get? r.object = some t ∧ (t.owner = "" ∨ t.owner = r.database) :=
    g.table?_eq_some_iff r.database r.object
  constructor
  · intro h
    unfold publicity at h
    split at h
    · rename_i hop
      split at h
      · rename_i s hs
        obtain rfl := Except.ok.inj h
        obtain ⟨hfound, howner⟩ := (hscript s).1 hs
        exact ⟨_, .script hop hfound, howner⟩
      · simp at h
    · rename_i hop
      split at h
      · rename_i t ht
        obtain rfl := Except.ok.inj h
        obtain ⟨hfound, howner⟩ := (htable t).1 ht
        cases hoperation : r.operation with
        | read => exact ⟨_, .reading hoperation hfound, howner⟩
        | write => exact ⟨_, .writing hoperation hfound, howner⟩
        | exec => exact absurd hoperation hop
      · simp at h
  · rintro ⟨owner, addressed, howner⟩
    cases addressed with
    | script hop hfound => simp [publicity, hop, (hscript _).2 ⟨hfound, howner⟩]
    | reading hop hfound => simp [publicity, hop, (htable _).2 ⟨hfound, howner⟩, Table.isPublic]
    | writing hop hfound => simp [publicity, hop, (htable _).2 ⟨hfound, howner⟩, Table.isPublic]

/-- Looking for an object fails by a refusal only. -/
theorem publicity_error {r : AccessRequest} {e : RelayError} (h : g.publicity r = .error e) :
    ∃ why, e = .refused why := by
  unfold publicity at h
  split at h <;> split at h <;> simp at h <;> exact ⟨_, h.symm⟩

/-! ## Decisions -/

/-- The grants of a token: those that are cached, else those of the managed source, else those of
the configuration. -/
inductive Resolves (s : GatewayState) (token : String) : List Grant → Prop where
  | cached {grants : List Grant} (entry : s.access.cache.entries.get? token = some grants) :
      Resolves s token grants
  | managed {source : ManagedGrants} {grants : List Grant}
      (uncached : s.access.cache.entries.get? token = none) (managed : g.managed = some source)
      (answer : (source.grants around token s.session).1 = .ok grants) : Resolves s token grants
  | fixed (uncached : s.access.cache.entries.get? token = none) (unmanaged : g.managed = none) :
      Resolves s token ((g.tokens.get? token).getD [])

/-- A token resolves to the grants that the authorizer finds for it. -/
theorem resolves_iff (s : GatewayState) (token : String) (grants : List Grant) :
    g.Resolves around s token grants ↔
      (g.authorizer around).resolution s.access token = .ok grants := by
  unfold Authorizer.resolution
  constructor
  · rintro (entry | ⟨uncached, managed, answer⟩ | ⟨uncached, unmanaged⟩)
    · rw [entry]
    · simpa [uncached, authorizer, managed, GatewayState.session] using answer
    · simp [uncached, authorizer, unmanaged]
  · intro h
    cases entry : s.access.cache.entries.get? token with
    | some found =>
      simp only [entry, Except.ok.injEq] at h
      exact .cached (h ▸ entry)
    | none =>
      cases managed : g.managed with
      | some source =>
        refine .managed entry managed ?_
        simpa [entry, authorizer, managed, GatewayState.session] using h
      | none =>
        obtain rfl : (g.tokens.get? token).getD [] = grants := by
          simpa [entry, authorizer, managed] using h
        exact .fixed entry managed

/-- A configured database leaves the decision to the object, and then to the token. -/
theorem authorize_of_database {r : AccessRequest} (s : GatewayState) {db : Database}
    (configured : g.databases.get? r.database = some db) :
    g.authorize around r s =
      match g.publicity r with
      | .error e => (.error e, s)
      | .ok true => (.ok (), s)
      | .ok false => onAccess ((g.authorizer around).check r) s := by
  simp only [authorize, database, configured]
  split <;> simp_all

/-- A database that is not configured is missing, and nothing else is looked at. -/
theorem authorize_of_no_database {r : AccessRequest} (s : GatewayState)
    (unconfigured : g.databases.get? r.database = none) :
    g.authorize around r s = (.error (.missing (.database r.database)), s) := by
  simp [authorize, database, unconfigured]

/-- What is found for a token is grants, or a fault of the managed source. -/
theorem resolution_error {s : GatewayState} {token : String} {e : RelayError}
    (h : (g.authorizer around).resolution s.access token = .error e) :
    ∃ source fault, g.managed = some source ∧ e = .database fault ∧
      (source.grants around token s.session).1 = .error e := by
  unfold Authorizer.resolution at h
  split at h
  · simp at h
  · cases managed : g.managed with
    | none => simp [authorizer, managed] at h
    | some source =>
      have hgrants : (source.grants around token s.session).1 = .error e := by
        simpa [authorizer, managed, GatewayState.session] using h
      obtain ⟨fault, rfl⟩ := source.grants_error around token hgrants
      exact ⟨source, fault, rfl, rfl, hgrants⟩

/-- The token decides by the grants that are found for it. -/
theorem check_eq_ok_iff (r : AccessRequest) (s : GatewayState) :
    ((g.authorizer around).check r s.access).1 = .ok () ↔
      r.token ≠ "" ∧ ∃ grants, g.Resolves around s r.token grants ∧
        ∃ grant ∈ grants, grant.Covers r := by
  rw [Authorizer.check_fst]
  split <;> rename_i htoken
  · simp [htoken]
  · split <;> rename_i outcome hresolution
    · rw [judgeFound_eq_ok_iff]
      constructor
      · intro hcovers
        exact ⟨htoken, _, (g.resolves_iff around s _ _).2 hresolution, hcovers⟩
      · rintro ⟨-, grants, resolves, hcovers⟩
        have hsame := (g.resolves_iff around s _ _).1 resolves
        rw [hresolution] at hsame
        exact Except.ok.inj hsame ▸ hcovers
    · refine iff_of_false (by simp) ?_
      rintro ⟨-, grants, resolves, -⟩
      have hsame := (g.resolves_iff around s _ _).1 resolves
      simp [hresolution] at hsame

/-- The token is refused, or the source of grants has failed. -/
theorem check_error {r : AccessRequest} {s : GatewayState} {e : RelayError}
    (h : ((g.authorizer around).check r s.access).1 = .error e) :
    (∃ why, e = .refused why) ∨
      ∃ source fault, g.managed = some source ∧ e = .database fault ∧
        (source.grants around r.token s.session).1 = .error e := by
  rw [Authorizer.check_fst] at h
  split at h
  · exact .inl ⟨_, (Except.error.inj h).symm⟩
  · split at h <;> rename_i outcome hresolution
    · exact .inl (judgeFound_error h)
    · obtain rfl := Except.error.inj h
      exact .inr (g.resolution_error around hresolution)

/-- How authorization ends, by what the request reaches. -/
theorem authorize_cases (r : AccessRequest) (s : GatewayState) :
    (g.databases.get? r.database = none ∧
        g.authorize around r s = (.error (.missing (.database r.database)), s)) ∨
    (∃ db, g.databases.get? r.database = some db) ∧
      ((∃ why, (¬ ∃ isPublic, g.Reaches r isPublic) ∧
          g.authorize around r s = (.error (.refused why), s)) ∨
        (g.Reaches r true ∧ g.authorize around r s = (.ok (), s)) ∨
        (g.Reaches r false ∧
          g.authorize around r s = onAccess ((g.authorizer around).check r) s)) := by
  cases configured : g.databases.get? r.database with
  | none => exact .inl ⟨rfl, g.authorize_of_no_database around s configured⟩
  | some db =>
    refine .inr ⟨⟨db, rfl⟩, ?_⟩
    rw [g.authorize_of_database around s configured]
    cases hpublicity : g.publicity r with
    | error e =>
      obtain ⟨why, rfl⟩ := g.publicity_error hpublicity
      refine .inl ⟨why, ?_, rfl⟩
      rintro ⟨isPublic, reaches⟩
      rw [← publicity_eq_ok_iff, hpublicity] at reaches
      simp at reaches
    | ok isPublic =>
      have reaches := (g.publicity_eq_ok_iff r isPublic).1 hpublicity
      cases isPublic with
      | true => exact .inr (.inl ⟨reaches, rfl⟩)
      | false => exact .inr (.inr ⟨reaches, rfl⟩)

/-- A request reaches one object at most. -/
theorem reaches_unique {r : AccessRequest} {a b : Bool} (first : g.Reaches r a)
    (second : g.Reaches r b) : a = b := by
  rw [← publicity_eq_ok_iff] at first second
  exact Except.ok.inj (first.symm.trans second)

/-- A request is let through exactly if its database is configured, its object is there and
belongs to no other database, and the object is public or some grant of the token covers the
request. -/
theorem authorize_eq_ok_iff (r : AccessRequest) (s : GatewayState) :
    (g.authorize around r s).1 = .ok () ↔
      (∃ db, g.databases.get? r.database = some db) ∧
        ∃ isPublic, g.Reaches r isPublic ∧
          (isPublic = true ∨ r.token ≠ "" ∧
            ∃ grants, g.Resolves around s r.token grants ∧ ∃ grant ∈ grants, grant.Covers r) := by
  rcases g.authorize_cases around r s with
    ⟨unconfigured, h⟩ | ⟨configured, ⟨why, hidden, h⟩ | ⟨reaches, h⟩ | ⟨reaches, h⟩⟩
  · simp [h, unconfigured]
  · refine iff_of_false (by simp [h]) ?_
    rintro ⟨-, isPublic, reaches, -⟩
    exact hidden ⟨isPublic, reaches⟩
  · exact iff_of_true (by simp [h]) ⟨configured, true, reaches, .inl rfl⟩
  · rw [h]
    refine (g.check_eq_ok_iff around r s).trans ?_
    constructor
    · intro granted
      exact ⟨configured, false, reaches, .inr granted⟩
    · rintro ⟨-, isPublic, reaches', hpublic | granted⟩
      · rw [g.reaches_unique reaches' reaches] at hpublic
        simp at hpublic
      · exact granted

/-- Any other refusal than that of a missing database is `refused`, or a fault of the source. -/
theorem authorize_error {r : AccessRequest} {s : GatewayState} {e : RelayError}
    (h : (g.authorize around r s).1 = .error e) :
    (g.databases.get? r.database = none ∧ e = .missing (.database r.database)) ∨
      (∃ db, g.databases.get? r.database = some db) ∧
        ((∃ why, e = .refused why) ∨
          ∃ source fault, g.managed = some source ∧ e = .database fault ∧
            (source.grants around r.token s.session).1 = .error e) := by
  rcases g.authorize_cases around r s with
    ⟨unconfigured, hrun⟩ | ⟨configured, ⟨why, hidden, hrun⟩ | ⟨reaches, hrun⟩ | ⟨reaches, hrun⟩⟩
  all_goals rw [hrun] at h
  · exact .inl ⟨unconfigured, (Except.error.inj h).symm⟩
  · exact .inr ⟨configured, .inl ⟨why, (Except.error.inj h).symm⟩⟩
  · simp at h
  · exact .inr ⟨configured, g.check_error around h⟩

/-- A request that no grant can decide is decided alike by every gateway with the same databases
and objects, whatever its tokens, its source and its state. -/
theorem authorize_of_ungranted {g' : Gateway} {r : AccessRequest}
    (ungranted : g.databases.get? r.database = none ∨ g.Reaches r true ∨
      (¬ ∃ isPublic, g.Reaches r isPublic) ∨ r.token = "")
    (hdatabases : g'.databases = g.databases) (htables : g'.tables = g.tables)
    (hscripts : g'.scripts = g.scripts) (around' : Surroundings) (s s' : GatewayState) :
    g'.authorize around' r s' = ((g.authorize around r s).1, s') := by
  have hdatabase : g'.database r.database = g.database r.database := by
    simp [database, hdatabases]
  have hpublicity : g'.publicity r = g.publicity r := by
    simp [publicity, script?, table?, htables, hscripts]
  unfold authorize
  rw [hdatabase, hpublicity]
  cases hdb : g.database r.database with
  | error e => rfl
  | ok db =>
    have configured : g.databases.get? r.database ≠ none := by
      intro hnone
      simp [database, hnone] at hdb
    cases hobject : g.publicity r with
    | error e => rfl
    | ok isPublic =>
      have reaches := (g.publicity_eq_ok_iff r isPublic).1 hobject
      cases isPublic with
      | true => rfl
      | false =>
        rcases ungranted with unconfigured | hpublic | hidden | noToken
        · exact absurd unconfigured configured
        · have := g.reaches_unique hpublic reaches
          simp at this
        · exact absurd ⟨false, reaches⟩ hidden
        · simp [onAccess, Authorizer.check_of_noToken _ noToken, GatewayState.withAccess]

/-- A request is let through exactly if its database is configured, its object is there and
belongs to no other database, and the object is public or some grant of the token covers the
request.  It is `missing` exactly if the database is not configured, and any other refusal is
`refused` as long as the source of grants answers.  Without a database or an object, for a public
object and without a token the decision does not depend on any grants, and nothing changes. -/
theorem authorize_exact (r : AccessRequest) (s : GatewayState) :
    ((g.authorize around r s).1 = .ok () ↔
      (∃ db, g.databases.get? r.database = some db) ∧
        ∃ isPublic, g.Reaches r isPublic ∧
          (isPublic = true ∨ r.token ≠ "" ∧
            ∃ grants, g.Resolves around s r.token grants ∧ ∃ grant ∈ grants, grant.Covers r)) ∧
    ((∃ what, (g.authorize around r s).1 = .error (.missing what)) ↔
      g.databases.get? r.database = none) ∧
    ((∀ source, g.managed = some source →
        ∃ grants, (source.grants around r.token s.session).1 = .ok grants) →
      ∀ e, (g.authorize around r s).1 = .error e → g.databases.get? r.database ≠ none →
        ∃ why, e = .refused why) ∧
    (g.databases.get? r.database = none ∨ g.Reaches r true ∨ (¬ ∃ isPublic, g.Reaches r isPublic) ∨
        r.token = "" →
      ∀ (g' : Gateway) (around' : Surroundings) (s' : GatewayState), g'.databases = g.databases →
        g'.tables = g.tables → g'.scripts = g.scripts →
        g'.authorize around' r s' = ((g.authorize around r s).1, s')) := by
  refine ⟨g.authorize_eq_ok_iff around r s, ?_, ?_, ?_⟩
  · constructor
    · rintro ⟨what, h⟩
      rcases g.authorize_error around h with ⟨unconfigured, -⟩ | ⟨-, ⟨why, h⟩ | ⟨_, _, _, h, _⟩⟩
      · exact unconfigured
      · simp at h
      · simp at h
    · intro unconfigured
      exact ⟨_, by rw [g.authorize_of_no_database around s unconfigured]⟩
  · intro answers e h configured
    rcases g.authorize_error around h with
      ⟨unconfigured, -⟩ | ⟨-, refused | ⟨source, _, managed, _, failed⟩⟩
    · exact absurd unconfigured configured
    · exact refused
    · obtain ⟨grants, answered⟩ := answers source managed
      simp [failed] at answered
  · intro ungranted g' around' s' hdatabases htables hscripts
    exact g.authorize_of_ungranted around ungranted hdatabases htables hscripts around' s s'

end Gateway
end SqlRelay
