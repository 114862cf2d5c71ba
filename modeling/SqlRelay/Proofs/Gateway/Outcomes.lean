import SqlRelay.Proofs.Gateway.Effects
import SqlRelay.Proofs.Table.Reading
import SqlRelay.Proofs.Table.Writing
/-!
# Outcomes of table requests

What a request on a table comes to can be told from its result.  Bad input is refused before
anything is sent, a row that is not there is missing, and what a database reports is an error of the
database, as is that its pool has no connection for a write.  All else is the row, the rows or the
summary that was asked for.

Main results:

- Definition `Table.ToldApart` says which result belongs to which answers.
- Theorems `Table.Listed.toldApart`, `Table.Got.toldApart` and `Table.Written.toldApart`: so it is
  for every action.
- Theorem `Gateway.outcomes_told_apart`: and for every request on a table of an open database.
-/

namespace SqlRelay

/-- The answer to the query of an index. -/
def replyAt (replies : List Reply) (index : Nat) : Reply :=
  nextReply (replies.drop index)

/-- A result that is an error of a category. -/
def Ends {α : Type} (category : Category) (result : Except RelayError α) : Prop :=
  ∃ e, result = .error e ∧ e.category = category

@[simp]
theorem ends_ok {α : Type} (category : Category) (a : α) :
    ¬ Ends category (.ok a : Except RelayError α) := by
  simp [Ends]

@[simp]
theorem ends_error {α : Type} (category : Category) (e : RelayError) :
    Ends category (.error e : Except RelayError α) ↔ e.category = category := by
  simp [Ends]

/-- Changing what a result gives changes none of its errors. -/
theorem map_eq_error_iff {α β : Type} (f : α → β) (result : Except RelayError α) (e : RelayError) :
    result.map f = .error e ↔ result = .error e := by
  cases result <;> simp [Except.map]

@[simp]
theorem ends_map {α β : Type} (category : Category) (f : α → β) (result : Except RelayError α) :
    Ends category (result.map f) ↔ Ends category result := by
  simp [Ends, map_eq_error_iff]

@[simp]
theorem replyAt_zero (replies : List Reply) : replyAt replies 0 = nextReply replies := rfl

@[simp]
theorem replyAt_one (replies : List Reply) : replyAt replies 1 = nextReply replies.tail := by
  rw [replyAt, List.drop_one]

/-- The error of a result. -/
def errorOf? {ε α : Type} : Except ε α → Option ε
  | .error e => some e
  | .ok _ => none

@[simp]
theorem errorOf?_error {ε α : Type} (e : ε) : errorOf? (.error e : Except ε α) = some e := rfl

@[simp]
theorem errorOf?_ok {ε α : Type} (a : α) : errorOf? (.ok a : Except ε α) = none := rfl

/-- The fault with which the query of an index fails, if this is the answer to it.  Queries that
read fetch rows; of those that write, the first one writes and one behind it asks for an
integer. -/
def TableAction.fault? (action : TableAction) (index : Nat) (reply : Reply) :
    Option DatabaseFault :=
  match action.operation, index with
  | .read, _ => errorOf? reply.decoded
  | _, 0 => errorOf? reply.written
  | _, _ + 1 => errorOf? reply.firstInteger

/-- One of the queries that were sent fails. -/
def TableAction.Fails (action : TableAction) (replies : List Reply) (events : List Event)
    (fault : DatabaseFault) : Prop :=
  ∃ index < events.length, action.fault? index (replyAt replies index) = some fault

section Fails

variable (action : TableAction) (replies : List Reply) (fault : DatabaseFault)

@[simp]
theorem TableAction.fails_nil : ¬ action.Fails replies [] fault := by
  simp [Fails]

@[simp]
theorem TableAction.fails_one (e : Event) :
    action.Fails replies [e] fault ↔ action.fault? 0 (nextReply replies) = some fault := by
  simp [Fails]

/-- Of two queries either may fail, each by its own answer. -/
@[simp]
theorem TableAction.fails_two (e e' : Event) :
    action.Fails replies [e, e'] fault ↔
      action.fault? 0 (nextReply replies) = some fault ∨
        action.fault? 1 (nextReply replies.tail) = some fault := by
  rw [← replyAt_one]
  constructor
  · rintro ⟨index, hindex, hfault⟩
    match index, hindex with
    | 0, _ => exact .inl hfault
    | 1, _ => exact .inr hfault
  · rintro (hfault | hfault)
    · exact ⟨0, by simp, hfault⟩
    · exact ⟨1, by simp, hfault⟩

end Fails

/-- The number of the row of a write is known: it is reported, or on SQLite it was asked for with
the second query and is what that one gives. -/
def RowNumber (d : Dialect) (replies : List Reply) (events : List Event) (id : Int) : Prop :=
  (replyAt replies 0).lastId = some id ∨
    (d = .sqlite ∧ (replyAt replies 0).lastId = none ∧
      events[1]? = some (.query lastRowQuery []) ∧ (replyAt replies 1).firstInteger = .ok id)

/-- A write has a query, and the pool of its open database has no connection for it. -/
def Table.Unconnected (t : Table) (d : Dialect) (ps : Parameters) (action : TableAction)
    (shortage : Option String) (fault : DatabaseFault) : Prop :=
  action.operation = .write ∧ (∃ q, (t.shape d).Built ps action q) ∧
    ∃ text, shortage = some text ∧ fault = .noConnection text

/-- A write sends nothing: it is refused as bad input, or there is no connection for it. -/
def Unsent (shortage : Option String) (events : List Event) (result : Except RelayError Json) :
    Prop :=
  events = [] ∧ (Ends .badRequest result ∨
    ∃ text, shortage = some text ∧ result = .error (.database (.noConnection text)))

/-- Which result of an action belongs to which answers, and to which want of a connection: a read
hands its query to the pool, so there such a want is in the answer, whereas a write asks the pool
for a connection first. -/
structure Table.ToldApart (t : Table) (d : Dialect) (ps : Parameters) (action : TableAction)
    (shortage : Option String) (replies : List Reply) (events : List Event)
    (result : Except RelayError Json) : Prop where
  /-- An error is bad input, a missing row or an error of the database. -/
  kinds : ∀ e, result = .error e →
    e.category = .badRequest ∨ e.category = .notFound ∨ ∃ fault, e = .database fault
  /-- Bad input is refused before anything is sent. -/
  badRequest : Ends .badRequest result → events = []
  /-- An error of the database is that of a query that failed, or that a write has no connection,
  and all of these are such errors. -/
  failed : ∀ fault, result = .error (.database fault) ↔
    action.Fails replies events fault ∨ t.Unconnected d ps action shortage fault
  /-- A row is the first one of its answer, and missing exactly if there is none. -/
  get : ∀ key, action = .get key →
    events = [((t.shape d).get key).event] ∧
    (∀ row rows, (replyAt replies 0).decoded = .ok (row :: rows) → result = .ok (.object row)) ∧
    (Ends .notFound result ↔ (replyAt replies 0).decoded = .ok [])
  /-- An update or a deletion sends nothing, or has a connection and sends one query: a summary if
  rows were affected, and missing exactly if none was. -/
  change : ∀ key, action = .update key ∨ action = .delete key →
    Unsent shortage events result ∨
    shortage = none ∧ ∃ q, (t.shape d).Built ps action q ∧ events = [q.event] ∧
      (∀ w, (replyAt replies 0).written = .ok w → 0 < w.affected → result = .ok w.toJson) ∧
      (Ends .notFound result ↔ ∃ w, (replyAt replies 0).written = .ok w ∧ w.affected = 0)
  /-- An insertion sends nothing, or has a connection and sends its query first: missing exactly if
  it affected no row. -/
  insert : action = .insert →
    Unsent shortage events result ∨
    shortage = none ∧ ∃ q behind, (t.shape d).Built ps action q ∧ events = q.event :: behind ∧
      (behind = [] ∨ behind = [.query lastRowQuery []]) ∧
      (Ends .notFound result ↔ ∃ w, (replyAt replies 0).written = .ok w ∧ w.affected = 0)
  /-- A summary has the affected rows of the write, and the number of its row exactly if that is
  known. -/
  summary : action.operation = .write → ∀ value, result = .ok value →
    ∃ w : WriteSummary, value = w.toJson ∧ w.affected = (replyAt replies 0).affected ∧
      (∀ id, w.lastId = some id ↔ RowNumber d replies events id) ∧
      value.member? "rows_affected" = some (.int w.affected) ∧
      value.member? "last_insert_id" = w.lastId.map .int

/-! ## Reads -/

namespace Table

variable {t : Table} {d : Dialect} {ps : Parameters} {shortage : Option String}
  {replies left : List Reply} {events : List Event} {result : Except RelayError Json}

/-- A read asks the pool for nothing but its answer. -/
theorem not_unconnected_of_read {action : TableAction} (read : action.operation = .read)
    (fault : DatabaseFault) : ¬ t.Unconnected d ps action shortage fault := by
  rintro ⟨write, -⟩
  simp [read] at write

/-- Listing is told apart. -/
theorem Listed.toldApart {relayPageSize : Nat}
    (listed : t.Listed d ps relayPageSize replies events result left) :
    t.ToldApart d ps .list shortage replies events result where
  kinds e he := by
    cases listed with
    | refused undecided =>
      obtain ⟨key, rfl⟩ := Paging.resolve_error undecided
      obtain rfl := Except.error.inj he
      exact .inl rfl
    | failed | uncounted => exact .inr (.inr ⟨_, (Except.error.inj he).symm⟩)
    | listed | counted => exact absurd he (by simp)
  badRequest hbad := by
    cases listed with
    | refused => rfl
    | failed | uncounted => simp [RelayError.category] at hbad
    | listed | counted => simp at hbad
  failed fault := by
    rw [or_iff_left (not_unconnected_of_read rfl fault)]
    cases listed with
    | refused undecided =>
      obtain ⟨key, rfl⟩ := Paging.resolve_error undecided
      simp
    | failed decided failed => simp [TableAction.fault?, TableAction.operation, failed]
    | listed decided decoded => simp [TableAction.fault?, TableAction.operation, decoded]
    | uncounted decided decoded wanted failed =>
      simp [TableAction.fault?, TableAction.operation, decoded, failed]
    | counted decided decoded wanted counted =>
      simp [TableAction.fault?, TableAction.operation, decoded, counted]
  get := by simp
  change := by simp
  insert := by simp
  summary := by simp [TableAction.operation]

/-- Getting a row is told apart. -/
theorem Got.toldApart {key : String} (got : t.Got d key replies events result left) :
    t.ToldApart d ps (.get key) shortage replies events result where
  kinds e he := by
    cases got with
    | failed => exact .inr (.inr ⟨_, (Except.error.inj he).symm⟩)
    | noRow =>
      obtain rfl := Except.error.inj he
      exact .inr (.inl rfl)
    | found => exact absurd he (by simp)
  badRequest hbad := by
    cases got with
    | failed | noRow => simp [RelayError.category] at hbad
    | found => simp at hbad
  failed fault := by
    rw [or_iff_left (not_unconnected_of_read rfl fault)]
    cases got with
    | failed failed => simp [TableAction.fault?, TableAction.operation, failed]
    | noRow decoded => simp [TableAction.fault?, TableAction.operation, decoded]
    | found decoded => simp [TableAction.fault?, TableAction.operation, decoded]
  get := by
    rintro other hsame
    obtain rfl : key = other := by simpa using hsame
    cases got with
    | failed failed => simp [failed, RelayError.category]
    | noRow decoded => simp [decoded, RelayError.category]
    | found decoded => simp [decoded]
  change := by simp
  insert := by simp
  summary := by simp [TableAction.operation]

end Table

/-! ## Writes -/

namespace Query.Write

variable {d : Dialect} {q : Query} {missing : Missing} {replies left : List Reply}
  {events : List Event} {result : Except RelayError WriteSummary}
  (write : q.Write d missing replies events result left)

include write

/-- A write that was sent fails for want of a row or by a fault of the database. -/
theorem kinds {e : RelayError} (he : result = .error e) :
    e.category = .notFound ∨ ∃ fault, e = .database fault := by
  cases write with
  | failed | lost => exact .inr ⟨_, (Except.error.inj he).symm⟩
  | noRow =>
    obtain rfl := Except.error.inj he
    exact .inl rfl
  | wrote | readBack => exact absurd he (by simp)

/-- A write that was sent is no bad input. -/
theorem not_badRequest : ¬ Ends .badRequest result := by
  rintro ⟨e, he, hbad⟩
  obtain hmissing | ⟨fault, rfl⟩ := write.kinds he
  · simp [hmissing] at hbad
  · simp [RelayError.category] at hbad

/-- A row is missing exactly if the write has affected none. -/
theorem notFound_iff :
    Ends .notFound result ↔ ∃ w, (nextReply replies).written = .ok w ∧ w.affected = 0 := by
  cases write with
  | failed failed => simp [failed, RelayError.category]
  | noRow written unaffected => simp [written, unaffected, RelayError.category]
  | wrote written affected => simpa [written] using Nat.ne_of_gt affected
  | readBack written unknown => simpa [written] using Nat.ne_of_gt unknown.affected
  | lost written unknown =>
    simpa [written, RelayError.category] using Nat.ne_of_gt unknown.affected

/-- An error of the database is that of the write or of the question for the row. -/
theorem failed_iff {action : TableAction} (writes : action.operation = .write)
    (fault : DatabaseFault) :
    result = .error (.database fault) ↔ action.Fails replies events fault := by
  cases write with
  | failed failed => simp [TableAction.fault?, writes, failed]
  | noRow written => simp [TableAction.fault?, writes, written]
  | wrote written => simp [TableAction.fault?, writes, written]
  | readBack written unknown found =>
    simp [TableAction.fault?, writes, written, found]
  | lost written unknown lost =>
    simp [TableAction.fault?, writes, written, lost]

/-- A summary has the affected rows of the write, and the number of its row if that is known. -/
theorem summary {w : WriteSummary} (hw : result = .ok w) :
    w.affected = (nextReply replies).affected ∧
      ∀ id, w.lastId = some id ↔ RowNumber d replies events id := by
  cases write with
  | failed | noRow | lost => exact absurd hw (by simp)
  | wrote written affected known =>
    obtain rfl := Except.ok.inj hw
    obtain ⟨-, rfl⟩ := (Reply.written_eq_ok_iff _ _).1 written
    exact ⟨rfl, fun id => by simp [RowNumber]⟩
  | readBack written unknown found =>
    obtain rfl := Except.ok.inj hw
    have hnone := unknown.lastId
    obtain ⟨-, rfl⟩ := (Reply.written_eq_ok_iff _ _).1 written
    refine ⟨rfl, fun id => ?_⟩
    simp only [] at hnone
    simp [RowNumber, hnone, found, unknown.dialect]

/-- What makes no rows sends one query, and gives its summary if rows were affected. -/
theorem single (other : ¬ Inserts q.sql) :
    events = [q.event] ∧
      ∀ w, (nextReply replies).written = .ok w → 0 < w.affected → result = .ok w := by
  cases write with
  | failed failed => simp [failed]
  | noRow written unaffected => simp [written, unaffected]
  | wrote written => simp [written]
  | readBack _ unknown | lost _ unknown => exact absurd unknown.inserts other

end Query.Write

/-- The JSON form of a summary has its count, and its number if there is one. -/
theorem WriteSummary.toJson_members (w : WriteSummary) :
    w.toJson.member? "rows_affected" = some (.int w.affected) ∧
      w.toJson.member? "last_insert_id" = w.lastId.map .int := by
  cases h : w.lastId with
  | none => simp [toJson, Json.ofMembers, Json.member?, Fields.ofList, Fields.get?_putAll, h]
  | some id => simp [toJson, Json.ofMembers, Json.member?, Fields.ofList, Fields.get?_putAll, h]

/-- A refusal is bad input. -/
theorem TableShape.Refuses.badRequest {ps : Parameters} {action : TableAction} {e : RelayError}
    (refuses : Refuses ps action e) : e.category = .badRequest := by
  cases refuses <;> rfl

namespace Table

variable {t : Table} {d : Dialect} {ps : Parameters} {action : TableAction}
  {shortage : Option String} {replies left : List Reply} {events : List Event}

/-- A write that sends nothing is told apart if its only fault is that there is no connection. -/
theorem toldApart_of_unsent {e : RelayError} (writes : action.operation = .write)
    (unsent : Unsent shortage [] (.error e))
    (fault_iff : ∀ fault, e = .database fault ↔ t.Unconnected d ps action shortage fault) :
    t.ToldApart d ps action shortage replies [] (.error e) where
  kinds e' he := by
    obtain rfl := Except.error.inj he
    obtain ⟨-, hbad | ⟨text, -, hresult⟩⟩ := unsent
    · exact .inl ((ends_error _ _).1 hbad)
    · exact .inr (.inr ⟨_, Except.error.inj hresult⟩)
  badRequest _ := rfl
  failed fault := by
    rw [or_iff_right (action.fails_nil replies fault), ← fault_iff, Except.error.injEq]
  get := by
    rintro key rfl
    simp [TableAction.operation] at writes
  change _ _ := .inl unsent
  insert _ := .inl unsent
  summary _ value hvalue := absurd hvalue (by simp)

/-- A write that is sent on a connection is told apart by its query. -/
theorem toldApart_of_sent {q : Query} {missing : Missing}
    {result : Except RelayError WriteSummary} (writes : action.operation = .write)
    (built : (t.shape d).Built ps action q) (connected : shortage = none)
    (write : q.Write d missing replies events result left) :
    t.ToldApart d ps action shortage replies events (result.map WriteSummary.toJson) where
  kinds e he := .inr (write.kinds ((map_eq_error_iff _ _ e).1 he))
  badRequest hbad := absurd ((ends_map _ _ _).1 hbad) write.not_badRequest
  failed fault := by
    have hconnected : ¬ t.Unconnected d ps action shortage fault := by
      rintro ⟨-, -, text, short, -⟩
      exact absurd (short.symm.trans connected) (by simp)
    rw [or_iff_left hconnected, ← write.failed_iff writes, map_eq_error_iff]
  get := by
    rintro key rfl
    simp [TableAction.operation] at writes
  change key haction := by
    have hother : ¬ Inserts q.sql := by
      intro inserts
      have hinsert := built.opens.eq_insert writes inserts
      subst hinsert
      simp at haction
    obtain ⟨hevents, hresult⟩ := write.single hother
    refine .inr ⟨connected, q, built, hevents, ?_, ?_⟩
    · intro w hw affected
      rw [hresult w hw affected]
      rfl
    · rw [ends_map, write.notFound_iff, replyAt_zero]
  insert _ := by
    obtain ⟨behind, hevents, hbehind⟩ := write.events_eq
    refine .inr ⟨connected, q, behind, built, hevents, hbehind, ?_⟩
    rw [ends_map, write.notFound_iff, replyAt_zero]
  summary _ value hvalue := by
    cases result with
    | error e => exact absurd hvalue (by simp [Except.map])
    | ok w =>
      obtain rfl : w.toJson = value := Except.ok.inj hvalue
      obtain ⟨haffected, hnumber⟩ := write.summary rfl
      exact ⟨w, rfl, haffected, hnumber, w.toJson_members⟩

/-- A write is told apart. -/
theorem Written.toldApart {result : Except RelayError Json} (writes : action.operation = .write)
    (written : t.Written d ps action shortage replies events result left) :
    t.ToldApart d ps action shortage replies events result := by
  cases written with
  | refused refuses =>
    refine toldApart_of_unsent writes ⟨rfl, .inl ((ends_error _ _).2 refuses.badRequest)⟩ ?_
    intro fault
    refine iff_of_false ?_ ?_
    · cases refuses <;> simp
    · rintro ⟨-, ⟨q, built⟩, -⟩
      exact refuses.not_built q built
  | @unconnected q text built short =>
    refine toldApart_of_unsent writes ⟨rfl, .inr ⟨text, short, rfl⟩⟩ ?_
    intro fault
    constructor
    · intro he
      obtain rfl : DatabaseFault.noConnection text = fault := by simpa using he
      exact ⟨writes, ⟨q, built⟩, text, short, rfl⟩
    · rintro ⟨-, -, other, hother, rfl⟩
      obtain rfl := Option.some.inj (short.symm.trans hother)
      rfl
  | sent built connected write => exact toldApart_of_sent writes built connected write

end Table

/-! ## Requests -/

/-- Every action on a table is told apart. -/
theorem Table.perform_toldApart (t : Table) (d : Dialect) (ps : Parameters) (action : TableAction)
    (relayPageSize : Nat) (s : Session) :
    ∃ events result left, t.perform d action ps relayPageSize s = (result, s.after events left) ∧
      t.ToldApart d ps action s.shortage s.replies events result := by
  have write : action.operation = .write → ∃ events result left,
      t.perform d action ps relayPageSize s = (result, s.after events left) ∧
        t.ToldApart d ps action s.shortage s.replies events result := by
    intro writes
    obtain ⟨events, result, left, hrun, written⟩ :=
      t.perform_is_written d ps writes relayPageSize s
    exact ⟨events, result, left, hrun, written.toldApart writes⟩
  cases action with
  | list =>
    obtain ⟨events, result, left, hrun, listed⟩ := t.list_is_listed d ps relayPageSize s
    exact ⟨events, result, left, hrun, listed.toldApart⟩
  | get key =>
    obtain ⟨events, result, left, hrun, got⟩ := t.get_is_got d ps relayPageSize key s
    exact ⟨events, result, left, hrun, got.toldApart⟩
  | insert | update | delete => exact write rfl

namespace Gateway

variable (g : Gateway) (around : Surroundings)

/-- A table that anyone may read and write. -/
def goods : Table :=
  ⟨"goods", "", "goods", "id", [], true, true, 0, "", true⟩

/-- A database whose insertions do not report their rows. -/
def goodsDatabase : Database :=
  ⟨"db", .sqlite, "sqlite://db"⟩

/-- The table in the database. -/
def shop : Gateway where
  databases := [("db", goodsDatabase)]
  tables := [("goods", goods)]
  scripts := []
  tokens := []
  managed := none
  caching := false
  pageSize := 0
  recompile := false

/-- The open database is going to report one row, and then to number it. -/
def beforeNumbering : GatewayState :=
  GatewayState.start.withSession { Session.start with
    replies := [⟨[], 1, none, none⟩, ⟨[[("last_insert_rowid()", .bigInt 7)]], 0, none, none⟩]
    opened := ["db"] }

/-- What is inserted, and what is left of it. -/
def goodsNumbered : Except RelayError Json × GatewayState :=
  shop.useTable ⟨[], []⟩ "db" "goods" .insert [("name", .text "tea")] beforeNumbering

end Gateway
end SqlRelay
