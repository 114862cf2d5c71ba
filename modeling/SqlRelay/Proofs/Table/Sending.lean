import SqlRelay.Proofs.Script.Transaction
import SqlRelay.Table.Basic
/-!
# What actions on tables send

An action sends queries that were built for its table, and nothing else.  To read, all of them
select from the table; to write, there is at most one, of the kind that the action names.

Main results:

- Definition `TableShape.Built` lists the queries that are built for an action.
- Theorem `TableShape.Built.opens`: their texts begin with what the action does to the table.
- Definition `TableShape.Sends` says what may be sent, and theorem `Table.perform_sends` that
  nothing else is.
-/

namespace SqlRelay

/-- What a query leaves at a database. -/
def Query.event (q : Query) : Event :=
  .query q.sql q.arguments

/-- The queries that are built for an action from the parameters of a request. -/
inductive TableShape.Built (t : TableShape) (ps : Parameters) : TableAction → Query → Prop where
  | rows (paging : Paging) : Built t ps .list (t.list ps paging).rows
  | total {paging : Paging} {q : Query} (wanted : (t.list ps paging).total = some q) :
      Built t ps .list q
  | row (key : String) : Built t ps (.get key) (t.get key)
  | insert {q : Query} (columns : t.insert ps = .ok q) : Built t ps .insert q
  | update {key : String} {q : Query} (columns : t.update key ps = .ok q) :
      Built t ps (.update key) q
  | delete (key : String) : Built t ps (.delete key) (t.delete key)

/-- How the text of an action begins: with what it does, and to which table. -/
def TableAction.Opens (t : TableShape) (sql : String) : TableAction → Prop
  | .list | .get _ =>
    ∃ columns rest, sql = "SELECT " ++ columns ++ " FROM " ++ t.sqlName ++ " WHERE " ++ rest
  | .insert => ∃ rest, sql = "INSERT INTO " ++ t.sqlName ++ " (" ++ rest
  | .update _ => ∃ rest, sql = "UPDATE " ++ t.sqlName ++ " SET " ++ rest
  | .delete _ => ∃ rest, sql = "DELETE FROM " ++ t.sqlName ++ " WHERE " ++ rest

/-- A query that is built for an action does what the action says to the table of the action. -/
theorem TableShape.Built.opens {t : TableShape} {ps : Parameters} {action : TableAction}
    {q : Query} (built : t.Built ps action q) : action.Opens t q.sql := by
  cases built with
  | rows paging =>
    exact ⟨t.columnList, t.filter ps ++ t.orderClause paging ++ t.pageClause paging,
      by simp [list, String.append_assoc]⟩
  | total wanted =>
    simp only [list, Option.ite_none_right_eq_some, Option.some.injEq] at wanted
    obtain ⟨-, rfl⟩ := wanted
    have hhead : "SELECT COUNT(*) AS total" = "SELECT " ++ "COUNT(*) AS total" := rfl
    exact ⟨"COUNT(*) AS total", t.filter ps, by simp only [hhead, String.append_assoc]⟩
  | row key =>
    have hhead : "SELECT * FROM " = "SELECT " ++ "*" ++ " FROM " := rfl
    refine ⟨"*", t.keyCondition 0, ?_⟩
    rw [← hhead]
    rfl
  | insert columns =>
    unfold TableShape.insert at columns
    dsimp only at columns
    split at columns
    · simp at columns
    · obtain rfl := Except.ok.inj columns
      exact ⟨", ".intercalate (ps.data.names.map escapeSql) ++ ") VALUES (" ++
        ", ".intercalate (placeholders t.dialect ps.data.names.length) ++ ")",
        by simp only [String.append_assoc]⟩
  | update columns =>
    unfold TableShape.update at columns
    dsimp only at columns
    split at columns
    · simp at columns
    · obtain rfl := Except.ok.inj columns
      exact ⟨", ".intercalate (conditions t.dialect 0 ps.data.names) ++ " WHERE " ++
        t.keyCondition ps.data.names.length, by simp only [String.append_assoc]⟩
  | delete key => exact ⟨t.keyCondition 0, rfl⟩

/-! ## Which queries make rows -/

/-- A text whose first word is neither `INSERT` nor `REPLACE` makes no rows. -/
theorem not_inserts {sql : String} (word rest : List Char)
    (text : sql.toList = word ++ ' ' :: rest) (letters : word.all Char.isAlpha = true)
    (other : word ≠ [] ∧ Text.lowerAscii word ≠ ['i', 'n', 's', 'e', 'r', 't'] ∧
      Text.lowerAscii word ≠ ['r', 'e', 'p', 'l', 'a', 'c', 'e']) : ¬ Inserts sql := by
  rintro ⟨found, hfound, hkind⟩
  have hfirst : FirstWord sql.toList word :=
    ⟨[], ' ' :: rest, by simp [Text.AllBlank], by simpa using text, List.all_eq_true.1 letters,
      by simp⟩
  have hne : found ≠ [] := by
    rintro rfl
    simp [Text.lowerAscii] at hkind
  have hsame : found = word := by
    rw [← (firstWord_iff hne).1 hfound, (firstWord_iff other.1).1 hfirst]
  rw [hsame] at hkind
  exact hkind.elim other.2.1 other.2.2

/-- Of all actions only an insertion makes rows. -/
theorem TableAction.Opens.eq_insert {t : TableShape} {sql : String} {action : TableAction}
    (opens : action.Opens t sql) (write : action.operation = .write) (inserts : Inserts sql) :
    action = .insert := by
  cases action with
  | list | get => simp [operation] at write
  | insert => rfl
  | update key =>
    obtain ⟨rest, rfl⟩ := opens
    refine absurd inserts (not_inserts ['U', 'P', 'D', 'A', 'T', 'E']
      (t.sqlName ++ " SET " ++ rest).toList ?_ (by decide) (by decide))
    have hword : "UPDATE ".toList = ['U', 'P', 'D', 'A', 'T', 'E', ' '] := by simp
    rw [String.append_assoc, String.append_assoc, String.toList_append, hword, String.append_assoc]
    rfl
  | delete key =>
    obtain ⟨rest, rfl⟩ := opens
    refine absurd inserts (not_inserts ['D', 'E', 'L', 'E', 'T', 'E']
      ("FROM " ++ t.sqlName ++ " WHERE " ++ rest).toList ?_ (by decide) (by decide))
    have hword : "DELETE FROM ".toList =
        ['D', 'E', 'L', 'E', 'T', 'E', ' '] ++ "FROM ".toList := by simp
    simp only [String.toList_append, hword, List.append_assoc]
    rfl

/-! ## What is sent -/

/-- What an action sends to a table: to read, queries that are built for it; to write, at most one
query that is built for it, and on SQLite one more for the row that was inserted. -/
inductive TableShape.Sends (t : TableShape) (ps : Parameters) (action : TableAction) :
    List Event → Prop where
  | read (queries : List Query) (read : action.operation = .read)
      (built : ∀ q ∈ queries, t.Built ps action q ∧ action.Opens t q.sql) :
      Sends t ps action (queries.map Query.event)
  | nothing (write : action.operation = .write) : Sends t ps action []
  | write {q : Query} (write : action.operation = .write)
      (built : t.Built ps action q ∧ action.Opens t q.sql) : Sends t ps action [q.event]
  | readBack {q : Query} (insert : action = .insert) (dialect : t.dialect = .sqlite)
      (built : t.Built ps action q ∧ action.Opens t q.sql) :
      Sends t ps action [q.event, .query lastRowQuery []]

/-- An action may send nothing at all. -/
theorem TableShape.Sends.nil {t : TableShape} {ps : Parameters} {action : TableAction} :
    t.Sends ps action [] := by
  cases hoperation : action.operation with
  | read => exact .read [] hoperation (by simp)
  | write => exact .nothing hoperation
  | exec => cases action <;> simp [TableAction.operation] at hoperation

/-- A result that is only turned into another one leaves the same session. -/
theorem Session.bind_pure_state {α β : Type} (call : Session.Call α) (f : α → β) (s : Session) :
    ((call >>= fun a => pure (f a)) s).2 = (call s).2 := by
  rw [Action.bind_apply]
  rcases call s with ⟨_ | _, _⟩ <;> rfl

namespace Table

variable (t : Table) (d : Dialect) (ps : Parameters) (s : Session)

/-- Without a connection a write sends nothing. -/
theorem writeOne_of_shortage (q : Query) (missing : Missing) {text : String}
    (short : s.shortage = some text) :
    writeOne d q missing s = (.error (.database (.noConnection text)), s) := by
  simp [writeOne, Action.bind_apply, Session.acquire_eq, short, Session.acquired]

/-- With a connection a write is what is done on the connection. -/
theorem writeOne_of_connected (q : Query) (missing : Missing) (connected : s.shortage = none) :
    writeOne d q missing s = (do
      let summary ← Session.write d q.sql q.arguments
      if summary.affected = 0 then Action.fail (.missing missing) else pure summary :
        Session.Call WriteSummary) s := by
  simp only [writeOne, Action.bind_apply, Session.acquire_eq, connected, Session.acquired]

/-- Writing sends a query if there is a connection, and on SQLite it may ask for the row of an
insertion. -/
theorem writeOne_sends {action : TableAction} {q : Query}
    (built : (t.shape d).Built ps action q) (write : action.operation = .write)
    (missing : Missing) :
    ∃ events left, (writeOne d q missing s).2 = s.after events left ∧
      (t.shape d).Sends ps action events := by
  cases hshortage : s.shortage with
  | some text => exact ⟨[], s.replies, by simp [writeOne_of_shortage d s q missing hshortage], .nil⟩
  | none =>
    have hstate : (writeOne d q missing s).2 = (Session.write d q.sql q.arguments s).2 := by
      rw [writeOne_of_connected d s q missing hshortage, Action.bind_apply]
      rcases Session.write d q.sql q.arguments s with ⟨_ | w, u⟩
      · rfl
      · by_cases hnone : w.affected = 0 <;> simp [hnone]
    have once := TableShape.Sends.write write ⟨built, built.opens⟩
    rw [hstate]
    cases hwritten : (nextReply s.replies).written with
    | error fault =>
      rw [Session.write_of_error hwritten]
      exact ⟨_, _, rfl, once⟩
    | ok w =>
      cases hasks : w.asksForRow d q.sql with
      | false =>
        rw [Session.write_of_reported hwritten hasks]
        exact ⟨_, _, rfl, once⟩
      | true =>
        rw [Session.write_of_asked hwritten hasks]
        have unreported := (w.asksForRow_iff d q.sql).1 hasks
        exact ⟨_, _, rfl, .readBack (built.opens.eq_insert write unreported.inserts)
          unreported.dialect ⟨built, built.opens⟩⟩

/-- Listing sends the query for the rows, and then the one for the total if it is wanted. -/
theorem list_sends (relayPageSize : Nat) :
    ∃ events left, (t.list d ps relayPageSize s).2 = s.after events left ∧
      (t.shape d).Sends ps .list events := by
  unfold list
  cases hpaging : t.paging ps relayPageSize with
  | error e =>
    exact ⟨[], s.replies, by simp [Action.bind_apply], .nil⟩
  | ok paging =>
    have hrows : (t.shape d).Built ps .list ((t.shape d).list ps paging).rows := .rows paging
    have rowsOnly : (t.shape d).Sends ps .list [((t.shape d).list ps paging).rows.event] :=
      .read [_] rfl (by simpa using ⟨hrows, hrows.opens⟩)
    simp only [Action.bind_apply, Action.ofExcept_apply, Session.fetch_eq]
    cases (nextReply s.replies).decoded with
    | error fault => exact ⟨_, _, rfl, rowsOnly⟩
    | ok rows =>
      cases htotal : ((t.shape d).list ps paging).total with
      | none => exact ⟨_, _, rfl, rowsOnly⟩
      | some total =>
        have hbuilt : (t.shape d).Built ps .list total := .total htotal
        refine ⟨_, s.replies.tail.tail, ?_,
          .read [((t.shape d).list ps paging).rows, total] rfl
            (by simpa using ⟨⟨hrows, hrows.opens⟩, hbuilt, hbuilt.opens⟩)⟩
        simp only [acceptedResult_ok, Action.bind_apply, Session.fetch_eq, Session.after_replies,
          Session.after_after]
        cases (nextReply s.replies.tail).decoded <;> rfl

/-- Getting a row sends its query. -/
theorem get_sends (key : String) :
    ∃ events left, (t.get d key s).2 = s.after events left ∧
      (t.shape d).Sends ps (.get key) events := by
  have hbuilt : (t.shape d).Built ps (.get key) ((t.shape d).get key) := .row key
  refine ⟨_, s.replies.tail, ?_, .read [(t.shape d).get key] rfl
    (by simpa using ⟨hbuilt, hbuilt.opens⟩)⟩
  simp only [get, Action.bind_apply, Session.fetch_eq]
  cases (nextReply s.replies).decoded with
  | error fault => rfl
  | ok rows => cases rows <;> rfl

/-- An action whose query cannot be built sends nothing. -/
theorem writeBuilt_sends {action : TableAction} (write : action.operation = .write)
    {made : Except RelayError Query}
    (built : ∀ q, made = .ok q → (t.shape d).Built ps action q) (missing : Missing) :
    ∃ events left,
      ((Action.ofExcept made >>= fun q => writeOne d q missing) s).2 = s.after events left ∧
        (t.shape d).Sends ps action events := by
  cases made with
  | error e => exact ⟨[], s.replies, by simp [Action.bind_apply], .nil⟩
  | ok q => exact t.writeOne_sends d ps s (built q rfl) write missing

/-- An action sends what is built for it and nothing else, and changes nothing else of the session
but the answers to come. -/
theorem perform_sends (action : TableAction) (relayPageSize : Nat) :
    ∃ events left, (t.perform d action ps relayPageSize s).2 = s.after events left ∧
      (t.shape d).Sends ps action events := by
  cases action with
  | list => exact t.list_sends d ps s relayPageSize
  | get key =>
    rw [perform, Session.bind_pure_state]
    exact t.get_sends d ps s key
  | insert =>
    rw [perform, Session.bind_pure_state]
    exact t.writeBuilt_sends d ps s rfl (fun _ h => .insert h) _
  | update key =>
    rw [perform, Session.bind_pure_state]
    exact t.writeBuilt_sends d ps s rfl (fun _ h => .update h) _
  | delete key =>
    rw [perform, Session.bind_pure_state]
    exact t.writeOne_sends d ps s (.delete key) rfl _

end Table
end SqlRelay
