import SqlRelay.Proofs.Gateway.Effects
import SqlRelay.Proofs.Table.Writing
/-!
# Writes that fail

A caller who is told that a write has failed may send it again, so it matters whether the failed
write has written anything.  It has not, with one exception: a row was inserted on SQLite, and the
query for the number of that row failed.

Main results:

- Definition `Gateway.WriteVisits`: the query of a write is the first query that is sent.
- Definition `Gateway.WroteNothing`: the query of the write was not sent, or it failed, or it
  affected no row.
- Definition `Gateway.LosesRow`: a row is inserted and its number cannot be learned.
- Theorem `Gateway.failed_write_wrote_nothing_iff`: a write that fails has written nothing, exactly
  if it loses no row.
-/

namespace SqlRelay
namespace Gateway

variable (g : Gateway) (around : Surroundings)

/-- The query of a write on a table of a gateway. -/
def WriteQuery (database id : String) (action : TableAction) (ps : Parameters) (q : Query) : Prop :=
  ∃ db table, g.databases.get? database = some db ∧ g.table? database id = some table ∧
    (table.shape db.dialect).Built ps action q

/-- What a write leaves at databases: its query comes first of all queries, and behind it there may
be the question for a row. -/
inductive WriteVisits (database id : String) (action : TableAction) (ps : Parameters) :
    List Visit → Prop where
  | unsent {visits : List Visit} (silent : ∀ v ∈ visits, ∀ q : Query, v.event ≠ q.event) :
      WriteVisits database id action ps visits
  | sent {before behind : List Visit} {q : Query} {visited : String}
      (silent : ∀ v ∈ before, ∀ q : Query, v.event ≠ q.event)
      (write : g.WriteQuery database id action ps q)
      (last : behind = [] ∨ behind = [⟨visited, .query lastRowQuery []⟩]) :
      WriteVisits database id action ps (before ++ ⟨visited, q.event⟩ :: behind)

/-- A write has written nothing: its query is not among the new visits, or it failed, or it affected
no row.  The answer to the query is the next one, since no query is sent before it. -/
inductive WroteNothing (database id : String) (action : TableAction) (ps : Parameters)
    (replies : List Reply) (visits : List Visit) : Prop where
  | unsent (silent : ∀ q, g.WriteQuery database id action ps q → ∀ v ∈ visits, v.event ≠ q.event)
  | failed {text : String} (error : (nextReply replies).error = some text)
  | noRow (unaffected : (nextReply replies).affected = 0)

/-- A row is inserted at a database that can be opened and gives a connection, and it is lost. -/
structure LosesRow (database id : String) (action : TableAction) (ps : Parameters) (s : Session) :
    Prop where
  insert : action = .insert
  given : ps.data.names ≠ []
  connected : s.shortage = none
  found : ∃ table, g.table? database id = some table
  opened : ∃ db, g.databases.get? database = some db ∧ (db.ensureOpen around s).1 = .ok () ∧
    RowLost db.dialect s.replies

variable {g} {around} {database id : String} {action : TableAction} {ps : Parameters}

/-- Opening a database sends no query. -/
theorem silent_of_opening {db : Database} {opening : List Event}
    (hopening : db.Opening around opening) :
    ∀ v ∈ opening.map (Visit.mk db.id), ∀ q : Query, v.event ≠ q.event := by
  intro v hv q
  obtain ⟨event, hmem, rfl⟩ := List.mem_map.1 hv
  rcases hopening with rfl | ⟨url, -, rfl⟩
  · simp at hmem
  · rw [List.mem_singleton.1 hmem]
    simp [Query.event]

/-- A write that leaves no query at a database has written nothing. -/
theorem WroteNothing.of_silent {replies : List Reply} {visits : List Visit}
    (silent : ∀ v ∈ visits, ∀ q : Query, v.event ≠ q.event) :
    g.WroteNothing database id action ps replies visits :=
  .unsent fun q _ v hv => silent v hv q

/-! ## Writes at open databases -/

section Open

variable {db : Database} {table : Table} {q : Query}

/-- A query that was sent has written nothing only if its answer says so. -/
theorem wroteNothing_iff_of_mem (sent : g.WriteQuery database id action ps q)
    {replies : List Reply} {visits : List Visit} {visited : String}
    (mem : ⟨visited, q.event⟩ ∈ visits) :
    g.WroteNothing database id action ps replies visits ↔
      (∃ text, (nextReply replies).error = some text) ∨ (nextReply replies).affected = 0 := by
  constructor
  · rintro (silent | error | unaffected)
    · exact absurd rfl (silent q sent _ mem)
    · exact .inl ⟨_, error⟩
    · exact .inr unaffected
  · rintro (⟨text, error⟩ | unaffected)
    · exact .failed error
    · exact .noRow unaffected

/-- With its query built and a connection to its open database, a write loses a row if the query
inserts one that is lost. -/
theorem losesRow_iff_of_built (configured : g.databases.get? database = some db)
    (found : g.table? database id = some table) (write : action.operation = .write)
    (built : (table.shape db.dialect).Built ps action q) {s : Session}
    (opened : (db.ensureOpen around s).1 = .ok ()) (connected : s.shortage = none) :
    g.LosesRow around database id action ps s ↔ Inserts q.sql ∧ RowLost db.dialect s.replies := by
  constructor
  · rintro ⟨rfl, -, -, -, other, hother, -, lost⟩
    obtain rfl := Option.some.inj (configured.symm.trans hother)
    exact ⟨built.opens.inserts, lost⟩
  · rintro ⟨inserts, lost⟩
    obtain rfl := built.opens.eq_insert write inserts
    have hgiven : ps.data.names ≠ [] := by
      cases built with
      | insert columns =>
        intro hnothing
        simp [TableShape.insert, hnothing] at columns
    exact ⟨rfl, hgiven, connected, ⟨table, found⟩, db, configured, opened, lost⟩

/-- A write at an open database leaves its query first of all queries; if it fails it has written
nothing, exactly if it loses no row. -/
theorem wroteNothing_iff_of_written (configured : g.databases.get? database = some db)
    (found : g.table? database id = some table) (write : action.operation = .write) {s : Session}
    (opened : (db.ensureOpen around s).1 = .ok ()) {opening events : List Event}
    (hopening : db.Opening around opening) {result : Except RelayError Json} {left : List Reply}
    (written : table.Written db.dialect ps action s.shortage s.replies events result left) :
    g.WriteVisits database id action ps ((opening ++ events).map (Visit.mk db.id)) ∧
      ((∀ e, result = .error e → g.WroteNothing database id action ps s.replies
        ((opening ++ events).map (Visit.mk db.id))) ↔
          ¬ g.LosesRow around database id action ps s) := by
  have silent := silent_of_opening hopening
  cases written with
  | refused refuses =>
    rw [List.append_nil]
    refine ⟨.unsent silent, iff_of_true (fun _ _ => .of_silent silent) ?_⟩
    rintro ⟨rfl, given, -⟩
    cases refuses with
    | insert nothing => exact given nothing
  | unconnected _ short =>
    rw [List.append_nil]
    refine ⟨.unsent silent, iff_of_true (fun _ _ => .of_silent silent) ?_⟩
    rintro ⟨-, -, connected, -⟩
    exact absurd (short.symm.trans connected) (by simp)
  | @sent q _ _ result _ built connected sent =>
    have hwrite : g.WriteQuery database id action ps q := ⟨db, table, configured, found, built⟩
    obtain ⟨behind, rfl, hbehind⟩ := sent.events_eq
    rw [List.map_append, List.map_cons]
    have hmem : Visit.mk db.id q.event ∈ opening.map (Visit.mk db.id) ++
        Visit.mk db.id q.event :: behind.map (Visit.mk db.id) := by simp
    refine ⟨.sent silent hwrite ?_, ?_⟩
    · rcases hbehind with rfl | rfl
      · exact .inl rfl
      · exact .inr rfl
    · rw [losesRow_iff_of_built configured found write built opened connected,
        ← sent.fails_without_effect_iff, ← wroteNothing_iff_of_mem hwrite hmem]
      cases result <;> simp [Except.map]

end Open

variable (g around database id ps)

/-- A write that fails has written nothing, exactly if it loses no row: whatever is configured,
asked for and answered, with `visits` for all that the write leaves at databases.  Its query comes
first of all queries there, so the next answer is the answer to it. -/
theorem failed_write_wrote_nothing_iff (write : action.operation = .write) (s : GatewayState) :
    ∃ visits, (g.useTable around database id action ps s).2.session.visits =
        s.session.visits ++ visits ∧
      g.WriteVisits database id action ps visits ∧
      ((∀ e, (g.useTable around database id action ps s).1 = .error e →
        g.WroteNothing database id action ps s.session.replies visits) ↔
          ¬ g.LosesRow around database id action ps s.session) := by
  cases configured : g.databases.get? database with
  | none =>
    refine ⟨[], ?_, .unsent (by simp), iff_of_true (fun _ _ => .of_silent (by simp)) ?_⟩
    · simp [useTable, Action.bind_apply, Gateway.database, configured]
    · rintro ⟨-, -, -, -, db, hdb, -⟩
      simp [configured] at hdb
  | some db =>
    cases found : g.table? database id with
    | none =>
      refine ⟨[], ?_, .unsent (by simp), iff_of_true (fun _ _ => .of_silent (by simp)) ?_⟩
      · simp [useTable, Action.bind_apply, Gateway.database, configured, found]
      · rintro ⟨-, -, -, ⟨table, htable⟩, -⟩
        simp [found] at htable
    | some table =>
      rw [useTable_eq around configured found]
      obtain ⟨opening, hopening, turned⟩ := db.ensureOpen_visits around s.session
      rcases hrun : db.ensureOpen around s.session with ⟨result, session⟩
      rw [hrun] at turned
      have hvisits : session.visits = s.session.visits ++ opening.map (⟨db.id, ·⟩) := turned.visits
      simp only [Action.bind_apply, onSession, Action.inside_apply, hrun]
      cases result with
      | error e =>
        have silent := silent_of_opening hopening
        refine ⟨_, hvisits, .unsent silent, iff_of_true (fun _ _ => .of_silent silent) ?_⟩
        rintro ⟨-, -, -, -, other, hother, hopened, -⟩
        obtain rfl := Option.some.inj (configured.symm.trans hother)
        simp [hrun] at hopened
      | ok _ =>
        have hinUse : session.inUse = db.id := turned.inUse
        obtain ⟨events, result, left, hperform, written⟩ :=
          table.perform_is_written db.dialect ps write g.pageSize session
        rw [turned.replies, turned.shortage] at written
        simp only [GatewayState.withSession_session, hperform]
        refine ⟨(opening ++ events).map (Visit.mk db.id), ?_, ?_⟩
        · simp [hvisits, hinUse]
        · exact wroteNothing_iff_of_written configured found write (by rw [hrun]) hopening written

/-! ## A row whose number cannot be learned -/

/-- One table that anyone may write, and one SQLite database. -/
def oneTable : Gateway where
  databases := [("db", ⟨"db", .sqlite, "sqlite://db"⟩)]
  tables := [("t", ⟨"t", "", "t", "id", [], false, true, 0, "", false⟩)]
  scripts := []
  tokens := []
  managed := none
  caching := false
  pageSize := 0
  recompile := false

/-- The parameters of a row to insert. -/
def newRow : Parameters := [("a", .int 1)]

/-- The query that inserts the row. -/
def newRowQuery : Query := ⟨"INSERT INTO t (a) VALUES (?)", [.int 1]⟩

/-- The database is going to report one row, and then to fail. -/
def beforeFailing : GatewayState :=
  GatewayState.start.withSession (Session.start.prepare
    [⟨[], 1, none, none⟩, ⟨[], 0, none, some "disk I/O error"⟩] .nothing)

/-- What inserting the row leaves at the database. -/
theorem newRow_visits :
    (oneTable.useTable ⟨[], []⟩ "db" "t" .insert newRow beforeFailing).2.session.visits =
      [⟨"db", .connect "sqlite://db"⟩, ⟨"db", newRowQuery.event⟩,
        ⟨"db", .query lastRowQuery []⟩] := by
  decide +kernel

/-- The caller is told that inserting the row has failed. -/
theorem newRow_fails :
    (oneTable.useTable ⟨[], []⟩ "db" "t" .insert newRow beforeFailing).1 =
      .error (.database (.reported "disk I/O error")) := rfl

/-- The query is the one of the insertion. -/
theorem newRowQuery_inserts : oneTable.WriteQuery "db" "t" .insert newRow newRowQuery :=
  ⟨_, _, rfl, rfl, .insert rfl⟩

/-- The inserted row is lost. -/
theorem losesRow_newRow :
    oneTable.LosesRow ⟨[], []⟩ "db" "t" .insert newRow beforeFailing.session where
  insert := rfl
  given := by decide
  connected := rfl
  found := ⟨_, rfl⟩
  opened := ⟨_, rfl, rfl, ⟨rfl, rfl, by decide, rfl, _, rfl⟩⟩

/-- The row is lost, so the write has written. -/
theorem newRow_written : TableAction.insert.operation = .write ∧
    ¬ oneTable.WroteNothing "db" "t" .insert newRow beforeFailing.session.replies
      [⟨"db", .connect "sqlite://db"⟩, ⟨"db", newRowQuery.event⟩,
        ⟨"db", .query lastRowQuery []⟩] := by
  have hwrite : TableAction.insert.operation = .write := rfl
  refine ⟨hwrite, ?_⟩
  intro nothing
  obtain ⟨visits, hvisits, -, hiff⟩ :=
    failed_write_wrote_nothing_iff oneTable ⟨[], []⟩ "db" "t" newRow hwrite beforeFailing
  rw [newRow_visits] at hvisits
  obtain rfl : _ = visits := hvisits
  exact hiff.1 (fun _ _ => nothing) losesRow_newRow

/-- Not every write that fails has written nothing. -/
theorem failed_write_leaves_row :
    ¬ ∀ (g : Gateway) (around : Surroundings) (database id : String) (action : TableAction)
      (ps : Parameters) (s : GatewayState) (e : RelayError), action.operation = .write →
      (g.useTable around database id action ps s).1 = .error e →
      ∃ visits, (g.useTable around database id action ps s).2.session.visits =
          s.session.visits ++ visits ∧
        g.WroteNothing database id action ps s.session.replies visits := by
  intro h
  obtain ⟨visits, hvisits, nothing⟩ :=
    h oneTable ⟨[], []⟩ "db" "t" .insert newRow beforeFailing _ rfl newRow_fails
  rw [newRow_visits] at hvisits
  obtain rfl : _ = visits := hvisits
  rcases nothing with silent | error | unaffected
  · exact silent newRowQuery newRowQuery_inserts ⟨"db", newRowQuery.event⟩ (by simp) rfl
  · have hsound : (nextReply beforeFailing.session.replies).error = none := rfl
    exact absurd (error.symm.trans hsound) (by simp)
  · exact absurd unaffected (by decide)

end Gateway
end SqlRelay
