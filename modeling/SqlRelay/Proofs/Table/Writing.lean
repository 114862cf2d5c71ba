import SqlRelay.Proofs.Table.Sending
/-!
# What writes to tables come to

An insertion, an update or a deletion asks for a connection, and if there is one it sends one query.
The next answer is the answer to it: it fails, or it affects some rows or none.  On SQLite the row of an insertion is asked for with one
query more, and that query may fail when the row is there already.

Main results:

- Definition `Query.Write` is what a query that writes sends, gives and leaves of the answers.
- Definition `RowLost`: a row was made, and its number could not be learned.
- Theorem `Query.Write.fails_without_effect_iff`: a query that fails has written nothing, unless a
  row was lost.
- Definition `TableShape.Refuses` says which writes have no query; all others have one.
- Definition `Table.Written` is what a write on a table comes to, and theorem
  `Table.perform_is_written` that it comes to nothing else.
-/

namespace SqlRelay

/-- A write has a summary if its answer has no error. -/
theorem Reply.written_eq_ok_iff (reply : Reply) (w : WriteSummary) :
    reply.written = .ok w ↔ reply.error = none ∧ w = ⟨reply.affected, reply.lastId⟩ := by
  unfold Reply.written
  cases reply.error with
  | some text => simp
  | none => simp [eq_comm]

/-- A write fails by the error of its answer. -/
theorem Reply.written_eq_error_iff (reply : Reply) (fault : DatabaseFault) :
    reply.written = .error fault ↔ ∃ text, reply.error = some text ∧ fault = .reported text := by
  unfold Reply.written
  cases reply.error with
  | some text => simp [eq_comm]
  | none => simp

/-- What a query that writes comes to when `replies` are to come: the events, what it gives, and the
answers that are left.  To affect no row is an error of its own. -/
inductive Query.Write (d : Dialect) (q : Query) (missing : Missing) (replies : List Reply) :
    List Event → Except RelayError WriteSummary → List Reply → Prop where
  | failed {fault : DatabaseFault} (failed : (nextReply replies).written = .error fault) :
      Write d q missing replies [q.event] (.error (.database fault)) replies.tail
  | noRow {w : WriteSummary} (written : (nextReply replies).written = .ok w)
      (unaffected : w.affected = 0) :
      Write d q missing replies [q.event] (.error (.missing missing)) replies.tail
  | wrote {w : WriteSummary} (written : (nextReply replies).written = .ok w)
      (affected : 0 < w.affected) (known : ¬ w.Unreported d q.sql) :
      Write d q missing replies [q.event] (.ok w) replies.tail
  | readBack {w : WriteSummary} {id : Int} (written : (nextReply replies).written = .ok w)
      (unknown : w.Unreported d q.sql) (found : (nextReply replies.tail).firstInteger = .ok id) :
      Write d q missing replies [q.event, .query lastRowQuery []]
        (.ok { w with lastId := some id }) replies.tail.tail
  | lost {w : WriteSummary} {fault : DatabaseFault}
      (written : (nextReply replies).written = .ok w) (unknown : w.Unreported d q.sql)
      (lost : (nextReply replies.tail).firstInteger = .error fault) :
      Write d q missing replies [q.event, .query lastRowQuery []] (.error (.database fault))
        replies.tail.tail

/-- With a connection, every query that writes comes to one of the five. -/
theorem Table.writeOne_is_write (d : Dialect) (q : Query) (missing : Missing) {s : Session}
    (connected : s.shortage = none) :
    ∃ events result left, writeOne d q missing s = (result, s.after events left) ∧
      q.Write d missing s.replies events result left := by
  rw [writeOne_of_connected d s q missing connected, Action.bind_apply]
  cases hwritten : (nextReply s.replies).written with
  | error fault =>
    rw [Session.write_of_error hwritten]
    exact ⟨_, _, _, rfl, .failed hwritten⟩
  | ok w =>
    by_cases unknown : w.Unreported d q.sql
    · rw [Session.write_of_asked hwritten ((w.asksForRow_iff d q.sql).2 unknown)]
      have hsome : w.affected ≠ 0 := Nat.ne_of_gt unknown.affected
      cases hfound : (nextReply s.replies.tail).firstInteger with
      | error fault => exact ⟨_, _, _, rfl, .lost hwritten unknown hfound⟩
      | ok id =>
        refine ⟨_, _, _, ?_, .readBack hwritten unknown hfound⟩
        simp [Except.map, hsome, Query.event]
    · have hknown : w.asksForRow d q.sql = false := by
        rwa [← Bool.not_eq_true, w.asksForRow_iff]
      rw [Session.write_of_reported hwritten hknown]
      by_cases hnone : w.affected = 0
      · refine ⟨_, _, _, ?_, .noRow hwritten hnone⟩
        simp [hnone, Query.event]
      · refine ⟨_, _, _, ?_, .wrote hwritten (Nat.pos_of_ne_zero hnone) unknown⟩
        simp [hnone, Query.event]

/-- On a connection the query is sent in any case, and what may follow is the question for a row. -/
theorem Query.Write.events_eq {d : Dialect} {q : Query} {missing : Missing}
    {replies left : List Reply} {events : List Event} {result : Except RelayError WriteSummary}
    (write : q.Write d missing replies events result left) :
    ∃ behind, events = q.event :: behind ∧ (behind = [] ∨ behind = [.query lastRowQuery []]) := by
  cases write with
  | failed | noRow | wrote => exact ⟨[], rfl, .inl rfl⟩
  | readBack | lost => exact ⟨_, rfl, .inr rfl⟩

/-- A row was made on SQLite, its number was not reported, and the query for it fails. -/
structure RowLost (d : Dialect) (replies : List Reply) : Prop where
  dialect : d = .sqlite
  sound : (nextReply replies).error = none
  affected : 0 < (nextReply replies).affected
  unreported : (nextReply replies).lastId = none
  lost : ∃ fault, (nextReply replies.tail).firstInteger = .error fault

/-- A row is lost if it was made, is unreported, and the question for it fails. -/
theorem rowLost_iff {d : Dialect} {sql : String} {replies : List Reply} (inserts : Inserts sql) :
    RowLost d replies ↔ ∃ w fault, (nextReply replies).written = .ok w ∧ w.Unreported d sql ∧
      (nextReply replies.tail).firstInteger = .error fault := by
  constructor
  · rintro ⟨dialect, sound, affected, unreported, fault, lost⟩
    exact ⟨_, fault, (Reply.written_eq_ok_iff _ _).2 ⟨sound, rfl⟩,
      ⟨dialect, inserts, affected, unreported⟩, lost⟩
  · rintro ⟨w, fault, written, unknown, lost⟩
    obtain ⟨sound, rfl⟩ := (Reply.written_eq_ok_iff _ _).1 written
    exact ⟨unknown.dialect, sound, unknown.affected, unknown.lastId, fault, lost⟩

/-- A query that writes fails without effect, by an error of the database or for want of a row,
exactly if it has not made a row that is then lost. -/
theorem Query.Write.fails_without_effect_iff {d : Dialect} {q : Query} {missing : Missing}
    {replies left : List Reply} {events : List Event} {result : Except RelayError WriteSummary}
    (write : q.Write d missing replies events result left) :
    (∀ e, result = .error e →
      (∃ text, (nextReply replies).error = some text) ∨ (nextReply replies).affected = 0) ↔
        ¬ (Inserts q.sql ∧ RowLost d replies) := by
  cases write with
  | @failed fault failed =>
    obtain ⟨text, herror, -⟩ := (Reply.written_eq_error_iff _ _).1 failed
    refine iff_of_true (fun _ _ => .inl ⟨text, herror⟩) ?_
    rintro ⟨-, lost⟩
    exact absurd (herror.symm.trans lost.sound) (by simp)
  | noRow written unaffected =>
    obtain ⟨-, rfl⟩ := (Reply.written_eq_ok_iff _ _).1 written
    have hnone : (nextReply replies).affected = 0 := unaffected
    refine iff_of_true (fun _ _ => .inr hnone) ?_
    rintro ⟨-, lost⟩
    exact absurd lost.affected (by omega)
  | wrote written affected known =>
    refine iff_of_true (by simp) ?_
    rintro ⟨inserts, lost⟩
    obtain ⟨w, fault, hwritten, unknown, -⟩ := (rowLost_iff inserts).1 lost
    obtain rfl := Except.ok.inj (written.symm.trans hwritten)
    exact known unknown
  | readBack written unknown found =>
    refine iff_of_true (by simp) ?_
    rintro ⟨-, lost⟩
    obtain ⟨fault, hlost⟩ := lost.lost
    simp [found] at hlost
  | @lost w fault written unknown lost =>
    have hlost : RowLost d replies :=
      (rowLost_iff unknown.inserts).2 ⟨w, fault, written, unknown, lost⟩
    refine iff_of_false ?_ (not_not_intro ⟨unknown.inserts, hlost⟩)
    intro silent
    rcases silent _ rfl with ⟨text, herror⟩ | hnone
    · exact absurd (herror.symm.trans hlost.sound) (by simp)
    · exact absurd hlost.affected (by omega)

/-- The query of an insertion makes rows. -/
theorem TableAction.Opens.inserts {t : TableShape} {sql : String}
    (opens : TableAction.Opens t sql .insert) : Inserts sql := by
  obtain ⟨rest, rfl⟩ := opens
  refine ⟨['I', 'N', 'S', 'E', 'R', 'T'], ⟨[], ' ' :: ("INTO " ++ t.sqlName ++ " (" ++ rest).toList,
    by simp [Text.AllBlank], ?_, by simp, by simp⟩, .inl (by decide)⟩
  have hword : "INSERT INTO ".toList =
      ['I', 'N', 'S', 'E', 'R', 'T', ' '] ++ "INTO ".toList := by simp
  simp only [String.toList_append, hword, List.append_assoc]
  rfl

/-- A write that has no query, and why: nothing is given that could be written. -/
inductive TableShape.Refuses (ps : Parameters) : TableAction → RelayError → Prop where
  | insert (nothing : ps.data.names = []) : Refuses ps .insert (.badInput .nothingToInsert)
  | update {key : String} (nothing : ps.data.names = []) :
      Refuses ps (.update key) (.badInput .nothingToUpdate)

namespace TableShape

variable (t : TableShape) (ps : Parameters)

/-- What is refused has no query. -/
theorem Refuses.not_built {t : TableShape} {ps : Parameters} {action : TableAction} {e : RelayError}
    (refuses : Refuses ps action e) (q : Query) : ¬ t.Built ps action q := by
  intro built
  cases refuses with
  | insert nothing =>
    cases built with
    | insert columns => simp [TableShape.insert, nothing] at columns
  | update nothing =>
    cases built with
    | update columns => simp [TableShape.update, nothing] at columns

/-- An insertion has a query, or it is refused. -/
theorem insert_built_or_refused :
    (∃ q, t.insert ps = .ok q ∧ t.Built ps .insert q) ∨
      ∃ e, t.insert ps = .error e ∧ Refuses ps .insert e := by
  by_cases hnothing : ps.data.names = []
  · exact .inr ⟨_, by simp [insert, hnothing], .insert hnothing⟩
  · cases hinsert : t.insert ps with
    | ok q => exact .inl ⟨q, rfl, .insert hinsert⟩
    | error e => simp [insert, hnothing] at hinsert

/-- An update has a query, or it is refused. -/
theorem update_built_or_refused (key : String) :
    (∃ q, t.update key ps = .ok q ∧ t.Built ps (.update key) q) ∨
      ∃ e, t.update key ps = .error e ∧ Refuses ps (.update key) e := by
  by_cases hnothing : ps.data.names = []
  · exact .inr ⟨_, by simp [update, hnothing], .update hnothing⟩
  · cases hupdate : t.update key ps with
    | ok q => exact .inl ⟨q, rfl, .update hupdate⟩
    | error e => simp [update, hnothing] at hupdate

end TableShape

/-! ## Writes on tables -/

namespace Table

variable (t : Table) (d : Dialect) (ps : Parameters)

/-- What a write on a table comes to: it has no query, or there is no connection for its query, or
its query writes. -/
inductive Written (action : TableAction) (shortage : Option String) (replies : List Reply) :
    List Event → Except RelayError Json → List Reply → Prop where
  | refused {e : RelayError} (refuses : TableShape.Refuses ps action e) :
      Written action shortage replies [] (.error e) replies
  | unconnected {q : Query} {text : String} (built : (t.shape d).Built ps action q)
      (short : shortage = some text) :
      Written action shortage replies [] (.error (.database (.noConnection text))) replies
  | sent {q : Query} {missing : Missing} {events : List Event}
      {result : Except RelayError WriteSummary} {left : List Reply}
      (built : (t.shape d).Built ps action q) (connected : shortage = none)
      (write : q.Write d missing replies events result left) :
      Written action shortage replies events (result.map WriteSummary.toJson) left

variable {t d ps}

/-- What is built for a write is sent on a connection, and what is refused is not. -/
theorem written_of_built {action : TableAction} {made : Except RelayError Query}
    (built_or_refused : (∃ q, made = .ok q ∧ (t.shape d).Built ps action q) ∨
      ∃ e, made = .error e ∧ TableShape.Refuses ps action e)
    (missing : Missing) (s : Session) :
    ∃ events result left,
      (do pure (← (do writeOne d (← Action.ofExcept made) missing)).toJson : Session.Call Json) s =
        (result, s.after events left) ∧
          t.Written d ps action s.shortage s.replies events result left := by
  rcases built_or_refused with ⟨q, rfl, built⟩ | ⟨e, rfl, refuses⟩
  · cases hshortage : s.shortage with
    | some text =>
      refine ⟨[], _, s.replies, ?_, .unconnected built rfl⟩
      simp [Action.bind_apply, writeOne_of_shortage d s q missing hshortage]
    | none =>
      obtain ⟨events, result, left, hrun, write⟩ := writeOne_is_write d q missing hshortage
      refine ⟨events, _, left, ?_, .sent built rfl write⟩
      simp only [Action.bind_apply, Action.ofExcept_apply, hrun]
      cases result <;> rfl
  · refine ⟨[], _, s.replies, ?_, .refused refuses⟩
    simp [Action.bind_apply]

variable (t d ps)

/-- Every write on a table comes to one of these. -/
theorem perform_is_written {action : TableAction} (write : action.operation = .write)
    (relayPageSize : Nat) (s : Session) :
    ∃ events result left, t.perform d action ps relayPageSize s = (result, s.after events left) ∧
      t.Written d ps action s.shortage s.replies events result left := by
  cases action with
  | list | get => simp [TableAction.operation] at write
  | insert => exact written_of_built ((t.shape d).insert_built_or_refused ps) _ s
  | update key => exact written_of_built ((t.shape d).update_built_or_refused ps key) _ s
  | delete key => exact written_of_built (.inl ⟨_, rfl, .delete key⟩) _ s

end Table
end SqlRelay
